import BatCave.WorkloadHistory.Operations
import BatCave.Lib.Table
import BatCave.Lib.Result
import Mathlib.Data.List.Dedup

/-! What the archive's operations are made of: rules that carry a property from the
single actions to a pass over the budget and to a whole `observe`, and what no
bookkeeping ever touches. -/
namespace BatCave.WorkloadHistory.WorkloadArchive
open BatCave.Lib.Table BatCave.Lib.Result
variable {ν κ ρ : Type}

section Rules
variable {L : Layout} {h : Heap ν κ} {P : WorkloadArchive ν κ → Prop}

theorem foldl_mem_rule {α : Type} {step : WorkloadArchive ν κ → α → WorkloadArchive ν κ}
    (xs : List α) (hstep : ∀ a, ∀ x∈xs, P a → P (step a x)) {a : WorkloadArchive ν κ} (ha : P a) :
    P (xs.foldl step a) := by
  induction xs generalizing a with
  | nil => exact ha
  | cons x xs ih =>
    exact ih (fun a x hx => hstep a x (List.mem_cons_of_mem _ hx)) (hstep a x List.mem_cons_self ha)

theorem foldl_rule {α : Type} {step : WorkloadArchive ν κ → α → WorkloadArchive ν κ}
    (hstep : ∀ a x, P a → P (step a x)) (xs : List α) {a : WorkloadArchive ν κ} (ha : P a) :
    P (xs.foldl step a) := foldl_mem_rule xs (fun a x _ => hstep a x) ha

/-- A tombstone popped is the oldest; only the tombstones and their bytes change. -/
theorem popEvicted_cases {a a' : WorkloadArchive ν κ} {t : Tombstone}
    (hp : popEvicted a=some (t,a')) : ∃ rest, a.evicted=t::rest ∧
      a'={a with evicted := rest, evictedBytes := a.evictedBytes-t.capacity} := by
  unfold popEvicted at hp
  split at hp
  · cases hp
  · rename_i t' rest hev
    cases hp
    exact ⟨rest,hev,rfl⟩

theorem rememberEvicted_rule (hpop : ∀ a t a', P a → popEvicted a=some (t,a') → P a')
    {a : WorkloadArchive ν κ} {t : Tombstone} (hpush : P (pushTombstone h a t)) :
    P (rememberEvicted h a t) := by
  unfold rememberEvicted
  simp only
  split
  · cases hp : (pushTombstone h a t).popEvicted with
    | none => exact hpush
    | some p => exact hpop _ _ _ hpush hp
  · exact hpush

theorem evictWhile_rule (hevict : ∀ a id, P a → P (evictId L h a id)) (target : Nat)
    (ids : List String) {a : WorkloadArchive ν κ} (ha : P a) :
    P (evictWhile L h target ids a) := by
  induction ids generalizing a with
  | nil => exact ha
  | cons id ids ih =>
    unfold evictWhile
    split
    · exact ha
    · exact ih (hevict a id ha)

/-- The shared cap never falls below its floor. -/
theorem trimWhile_rule
    (htrim : ∀ cap a id, minTrimmedPoints ≤ cap → P a → P (trimOne L h cap a id))
    (target turns cap : Nat) {a : WorkloadArchive ν κ} (ha : P a) :
    P (trimWhile L h target turns cap a) := by
  induction turns generalizing cap a with
  | zero => exact ha
  | succ turns ih =>
    unfold trimWhile
    split
    · have hfloor : minTrimmedPoints ≤ nextCap cap := Nat.le_max_right _ _
      exact ih _ (foldl_rule (fun a id => htrim (nextCap cap) a id hfloor) _ ha)
    · exact ha

theorem popWhile_rule (hpop : ∀ a t a', P a → popEvicted a=some (t,a') → P a')
    (target turns : Nat) {a : WorkloadArchive ν κ} (ha : P a) : P (popWhile L target turns a) := by
  induction turns generalizing a with
  | zero => exact ha
  | succ turns ih =>
    unfold popWhile
    split
    · split
      · exact ha
      · rename_i t a' hp
        exact ih (hpop a t a' ha hp)
    · exact ha

/-- What every action of a pass keeps, the pass keeps. -/
theorem enforceBudget_rule (hevict : ∀ a id, P a → P (evictId L h a id))
    (htrim : ∀ cap a id, minTrimmedPoints ≤ cap → P a → P (trimOne L h cap a id))
    (hpop : ∀ a t a', P a → popEvicted a=some (t,a') → P a')
    (hshrink : ∀ a, P a → P (shrinkContainers h a)) {a : WorkloadArchive ν κ} (ha : P a) :
    P (enforceBudget L h a) := by
  unfold enforceBudget
  simp only
  split
  · exact ha
  · have hstale : P (evictStale L h a.target a) := evictWhile_rule hevict _ _ ha
    have htrimmed : P (trimLong L h a.target (evictStale L h a.target a)) :=
      trimWhile_rule htrim _ _ _ hstale
    exact hshrink _ (popWhile_rule hpop _ _ (evictWhile_rule hevict _ _ htrimmed))

end Rules

section Lookup
variable {L : Layout} {h : Heap ν κ} {a a' : WorkloadArchive ν κ} {id : String} {entry : Entry ν}

@[simp] theorem rememberEvicted_entries (t : Tombstone) :
    (rememberEvicted h a t).entries=a.entries := by
  refine rememberEvicted_rule (P := fun a' => a'.entries=a.entries) ?_ ?_
  · intro a₁ t' a₂ heq hp
    obtain ⟨rest,-,rfl⟩ := popEvicted_cases hp
    exact heq
  · unfold pushTombstone
    split <;> rfl

@[simp] theorem releaseBundle_entries (k : Nat) : (releaseBundle h a k).entries=a.entries := by
  unfold releaseBundle
  split
  · rfl
  · simp only
    split <;> rfl

theorem takeEntry_eq_none : takeEntry L h a id=none ↔ a.entries.lookup id=none := by
  unfold takeEntry
  split <;> simp_all

theorem takeEntry_entries (ht : takeEntry L h a id=some (entry,a')) :
    a.entries.lookup id=some entry ∧ a'.entries=a.entries.erase id := by
  unfold takeEntry at ht
  split at ht
  · cases ht
  · rename_i entry' hentry
    cases ht
    exact ⟨hentry,releaseBundle_entries _⟩

theorem releaseBundle_evicted (k : Nat) : (releaseBundle h a k).evicted=a.evicted ∧
    (releaseBundle h a k).evictedCapacity=a.evictedCapacity := by
  unfold releaseBundle
  split
  · exact ⟨rfl,rfl⟩
  · simp only
    split <;> exact ⟨rfl,rfl⟩

theorem takeEntry_evicted (ht : takeEntry L h a id=some (entry,a')) :
    a'.evicted=a.evicted ∧ a'.evictedCapacity=a.evictedCapacity := by
  unfold takeEntry at ht
  split at ht
  · cases ht
  · cases ht
    exact releaseBundle_evicted _

theorem takeEntry_lookup (ht : takeEntry L h a id=some (entry,a')) :
    a'.entries.lookup id=none := by
  rw [(takeEntry_entries ht).2,AList.lookup_erase]

theorem evictId_entries (id : String) : (evictId L h a id).entries=a.entries.erase id := by
  unfold evictId
  split
  · rename_i ht
    exact (erase_of_lookup_none (takeEntry_eq_none.mp ht)).symm
  · rename_i entry a' ht
    rw [rememberEvicted_entries]
    exact (takeEntry_entries ht).2

end Lookup

/-- What the bookkeeping never touches. -/
structure SameFrame (a a' : WorkloadArchive ν κ) : Prop where
  budget_eq : a'.budget=a.budget
  publicationSeq_eq : a'.publicationSeq=a.publicationSeq
  sampleSeq_eq : a'.sampleSeq=a.sampleSeq
  lastSampledAtMs_eq : a'.lastSampledAtMs=a.lastSampledAtMs
  failedSample_eq : a'.failedSample=a.failedSample
  ingressReserved_eq : a'.ingressReserved=a.ingressReserved
  replies_eq : a'.replies=a.replies

namespace SameFrame
variable {L : Layout} {h : Heap ν κ} {a a₁ a₂ : WorkloadArchive ν κ}

theorem refl : SameFrame a a := ⟨rfl,rfl,rfl,rfl,rfl,rfl,rfl⟩

theorem trans (h₁ : SameFrame a a₁) (h₂ : SameFrame a₁ a₂) : SameFrame a a₂ :=
  ⟨h₂.1.trans h₁.1,h₂.2.trans h₁.2,h₂.3.trans h₁.3,h₂.4.trans h₁.4,h₂.5.trans h₁.5,
    h₂.6.trans h₁.6,h₂.7.trans h₁.7⟩

theorem popEvicted {t : Tombstone} (hp : a.popEvicted=some (t,a₁)) : SameFrame a a₁ := by
  obtain ⟨rest,-,rfl⟩ := popEvicted_cases hp
  exact ⟨rfl,rfl,rfl,rfl,rfl,rfl,rfl⟩

theorem rememberEvicted (a : WorkloadArchive ν κ) (t : Tombstone) :
    SameFrame a (rememberEvicted h a t) := by
  refine rememberEvicted_rule (P := SameFrame a) (fun _ _ _ hf hp => hf.trans (popEvicted hp)) ?_
  unfold pushTombstone
  split <;> exact ⟨rfl,rfl,rfl,rfl,rfl,rfl,rfl⟩

theorem releaseBundle (a : WorkloadArchive ν κ) (k : Nat) : SameFrame a (releaseBundle h a k) := by
  unfold WorkloadArchive.releaseBundle
  split
  · exact refl
  · simp only
    split <;> exact ⟨rfl,rfl,rfl,rfl,rfl,rfl,rfl⟩

theorem takeEntry {id : String} {entry : Entry ν} (ht : takeEntry L h a id=some (entry,a₁)) :
    SameFrame a a₁ := by
  unfold WorkloadArchive.takeEntry at ht
  split at ht
  · cases ht
  · cases ht
    refine trans ?_ (releaseBundle _ _)
    exact ⟨rfl,rfl,rfl,rfl,rfl,rfl,rfl⟩

theorem evictId (a : WorkloadArchive ν κ) (id : String) : SameFrame a (evictId L h a id) := by
  unfold WorkloadArchive.evictId
  split
  · exact refl
  · rename_i entry a' ht
    refine (takeEntry ht).trans (trans ?_ (rememberEvicted _ _))
    exact ⟨rfl,rfl,rfl,rfl,rfl,rfl,rfl⟩

theorem trimOne (cap : Nat) (a : WorkloadArchive ν κ) (id : String) :
    SameFrame a (trimOne L h cap a id) := by
  unfold WorkloadArchive.trimOne
  split
  · exact refl
  · split
    · exact refl
    · exact ⟨rfl,rfl,rfl,rfl,rfl,rfl,rfl⟩

theorem enforceBudget (a : WorkloadArchive ν κ) : SameFrame a (enforceBudget L h a) := by
  refine enforceBudget_rule (fun a' id hf => hf.trans (evictId a' id))
    (fun cap a' id _ hf => hf.trans (trimOne cap a' id))
    (fun a' t a'' hf hp => hf.trans (popEvicted hp))
    (fun a' hf => hf.trans ?_) refl
  exact ⟨rfl,rfl,rfl,rfl,rfl,rfl,rfl⟩

theorem reject (a : WorkloadArchive ν κ) (t : Tombstone) : SameFrame a (reject L h a t) :=
  (evictId a t.id).trans (rememberEvicted _ t)

theorem recordPoint (bundleId : Nat) (a : WorkloadArchive ν κ)
    (p : String × ProcessIdentityStabilityV4 × WorkloadHistoryPoint ν) :
    SameFrame a (recordPoint L h bundleId a p) := by
  have hforget (a : WorkloadArchive ν κ) (id : String) : SameFrame a (forgetTombstone a id) := by
    unfold forgetTombstone
    split
    · exact refl
    · exact ⟨rfl,rfl,rfl,rfl,rfl,rfl,rfl⟩
  have hopen : SameFrame a (openEntry L h bundleId p.1 p.2.1 p.2.2 a).2.2 := by
    unfold openEntry
    split
    · rename_i previous a' ht
      exact takeEntry ht
    · exact refl
  refine hopen.trans (trans ?_ (hforget _ _))
  exact ⟨rfl,rfl,rfl,rfl,rfl,rfl,rfl⟩

end SameFrame

/-- The ids of the family a row opens. -/
def familyIds (snapshot : RuntimeSnapshot) (rows : List (ProcessViewRow ρ))
    (row : ProcessViewRow ρ) : List String := (row.family rows).map (rowId · snapshot.sampleSeq)

theorem familyIds_ne_nil (snapshot : RuntimeSnapshot) (rows : List (ProcessViewRow ρ))
    (row : ProcessViewRow ρ) : familyIds snapshot rows row≠[] := by
  cases row <;> simp [familyIds,ProcessViewRow.family]

theorem rowTombstone_id {h : Heap ν κ} (sampleSeq : Nat) (row : ProcessViewRow ρ) :
    (rowTombstone h sampleSeq row).id=rowId row sampleSeq := by
  cases row <;> rfl

section Observe
variable [Zero ν] [Add ν] {L : Layout} {h : Heap ν κ} {enc : Encoder ν κ ρ}
  {snapshot : RuntimeSnapshot} {sampledAtMs : Nat} {rows : List (ProcessViewRow ρ)}

variable (L enc snapshot sampledAtMs rows) in
/-- A family that neither of the two size checks rejects. -/
def admits (budget : Nat) (row : ProcessViewRow ρ) : Bool :=
  match familySizeBound enc (row.family rows),enc.encodeWorkloads (row.family rows)
      snapshot.sampleSeq sampledAtMs snapshot.platform snapshot.sampleIntervalMs with
  | .ok bytes,.ok (workloads,source) =>
    decide (bytes*4 ≤ budget/8) &&
      match bundleBytes L enc (familyCatalog workloads source snapshot sampledAtMs) with
      | .ok bundle => decide (bundle ≤ budget/8)
      | .error _ => false
  | _,_ => false

variable (L enc snapshot sampledAtMs rows) in
/-- What the bundle of the family that a row opens is accounted with. -/
def rowBundleBytes (row : ProcessViewRow ρ) : Nat :=
  match enc.encodeWorkloads (row.family rows) snapshot.sampleSeq sampledAtMs snapshot.platform
      snapshot.sampleIntervalMs with
  | .ok (workloads,source) =>
    (bundleBytes L enc (familyCatalog workloads source snapshot sampledAtMs)).toOption.getD 0
  | .error _ => 0

/-- The capacity of the id of a workload that is dropped as too large. -/
def DropCapacity (h : Heap ν κ) (t : Tombstone) : Prop :=
  t.capacity=t.id.utf8ByteSize ∨ t.capacity=h.formatCapacity t.id

omit [Zero ν] [Add ν] in
theorem rowTombstone_capacity (sampleSeq : Nat) (row : ProcessViewRow ρ) :
    DropCapacity h (rowTombstone h sampleSeq row) := by
  cases row with
  | group => exact Or.inl rfl
  | process => exact Or.inr rfl

/-- A row's family is dropped as too large, or recorded whole under the ids of its rows. -/
theorem recordRow_cases {row : ProcessViewRow ρ} {a b : WorkloadArchive ν κ}
    (hr : recordRow L h enc snapshot sampledAtMs rows row a=.ok b) :
    (admits L enc snapshot sampledAtMs rows a.budget row=false ∧
      ∃ ts : List Tombstone, (∀ id, id∈ts.map (·.id) ↔ id∈familyIds snapshot rows row) ∧
        (ts.map (·.id)).Subperm (familyIds snapshot rows row) ∧ (∀ t∈ts, DropCapacity h t) ∧
        b=ts.foldl (reject L h) a) ∨
    (admits L enc snapshot sampledAtMs rows a.budget row=true ∧
      ∃ (catalog : InspectionCatalog ν κ) (bytes : Nat),
        catalog.workloads.map stableId=familyIds snapshot rows row ∧
        catalog.sampleSeq=snapshot.sampleSeq ∧ catalog.sampledAtMs=sampledAtMs ∧
        rowBundleBytes L enc snapshot sampledAtMs rows row=bytes ∧
        b=(familyPoints catalog snapshot.sampleIntervalMs).foldl
          (recordPoint L h (a.nextBundle+1)) (openBundle h a catalog bytes)) := by
  unfold recordRow at hr
  simp only [bind_ok] at hr
  obtain ⟨-,-,bytes,hbytes,hr⟩ := hr
  split at hr
  · rename_i hlarge
    have hids : ((row.family rows).map (rowTombstone h snapshot.sampleSeq)).map (·.id)=
        familyIds snapshot rows row := by
      rw [List.map_map,familyIds]
      exact List.map_congr_left (fun row _ => rowTombstone_id _ row)
    refine Or.inl ⟨?_,(row.family rows).map (rowTombstone h snapshot.sampleSeq),?_,?_,?_,
      (pure_ok.mp hr).symm⟩
    · have hsmall : decide (bytes*4 ≤ a.budget/8)=false := decide_eq_false (by omega)
      simp only [admits,hbytes]
      split <;> simp_all
    · exact fun id => iff_of_eq (congrArg (id∈·) hids)
    · exact hids ▸ List.Subperm.refl _
    · intro t ht
      obtain ⟨row,-,rfl⟩ := List.mem_map.mp ht
      exact rowTombstone_capacity snapshot.sampleSeq row
  · rename_i hfits
    have hfits : decide (bytes*4 ≤ a.budget/8)=true := decide_eq_true (by omega)
    obtain ⟨⟨workloads,source⟩,hencode,hr⟩ := bind_ok.mp hr
    have hids := enc.encode_ids hencode
    have hmap : (familyCatalog workloads source snapshot sampledAtMs).workloads.map stableId=
        familyIds snapshot rows row := by
      rw [familyCatalog,List.map_map,familyIds,← hids]
      exact List.map_congr_left (fun row _ => stableId_clearForeignParent _ row)
    simp only [recordFamily] at hr
    split at hr
    · cases hr
    · rename_i bundle hbundle
      split at hr
      · rename_i hlarge
        cases hr
        have hperm := h.idOrder_perm a (workloads.map stableId).dedup
        refine Or.inl ⟨?_,_,?_,?_,?_,rfl⟩
        · have hlarge : decide (bundle ≤ a.budget/8)=false := decide_eq_false (by omega)
          simp only [admits,hbytes,hencode,hbundle,hlarge,Bool.and_false]
        · intro id
          simp only [List.map_map,Function.comp_def,List.map_id_fun',id_eq]
          rw [hperm.mem_iff,List.mem_dedup,familyIds,← hids]
        · simp only [List.map_map,Function.comp_def,List.map_id_fun',id_eq]
          rw [familyIds,← hids]
          exact hperm.subperm.trans (List.dedup_sublist _).subperm
        · intro t ht
          obtain ⟨id,-,rfl⟩ := List.mem_map.mp ht
          exact Or.inl rfl
      · rename_i hsmall
        cases hr
        refine Or.inr ⟨?_,familyCatalog workloads source snapshot sampledAtMs,bundle,hmap,rfl,rfl,
          ?_,rfl⟩
        · have hsmall : decide (bundle ≤ a.budget/8)=true := decide_eq_true (by omega)
          simp only [admits,hbytes,hencode,hbundle,hfits,hsmall,Bool.and_true]
        · simp only [rowBundleBytes,hencode,hbundle]
          rfl

theorem SameFrame.recordRow {row : ProcessViewRow ρ} {a b : WorkloadArchive ν κ}
    (hr : recordRow L h enc snapshot sampledAtMs rows row a=.ok b) : SameFrame a b := by
  obtain ⟨-,ts,-,-,-,rfl⟩ | ⟨-,catalog,bytes,-,-,-,-,rfl⟩ := recordRow_cases hr
  · exact foldl_rule (fun a' t hf => hf.trans (SameFrame.reject a' t)) _ SameFrame.refl
  · refine foldl_rule (fun a' p hf => hf.trans (SameFrame.recordPoint _ a' p)) _ ?_
    exact ⟨rfl,rfl,rfl,rfl,rfl,rfl,rfl⟩

/-- What every row and the last pass keep, the sample keeps. -/
theorem observeRows_rule {P : WorkloadArchive ν κ → Prop}
    (hrow : ∀ row a b, P a → recordRow L h enc snapshot sampledAtMs rows row a=.ok b →
      P (enforceBudget L h b))
    (hlast : ∀ a, P a → P (enforceBudget L h a)) (rest : List (ProcessViewRow ρ))
    {a : WorkloadArchive ν κ} (ha : P a) :
    P (observeRows L h enc snapshot sampledAtMs rows rest a).2 := by
  induction rest generalizing a with
  | nil => exact hlast a ha
  | cons row rest ih =>
    unfold observeRows observeRow
    by_cases hgrouped : row.isGroupedProcess
    · simp only [if_pos hgrouped]
      exact ih ha
    · simp only [if_neg hgrouped]
      cases hr : recordRow L h enc snapshot sampledAtMs rows row a with
      | error e => exact ha
      | ok b => exact ih (hrow row a b ha hr)

variable (snapshot) in
/-- The archive when the rows of a new sample are read. -/
def begun (sampledAtMs : Nat) (a : WorkloadArchive ν κ) : WorkloadArchive ν κ :=
  {a with
    publicationSeq := snapshot.publicationSeq
    sampleSeq := snapshot.sampleSeq
    lastSampledAtMs := some sampledAtMs
    failedSample := true}

variable (L h enc snapshot rows) in
/-- `observe` only labels the archive, or reads the rows of a new sample. -/
theorem observe_cases (live : Bool) (a : WorkloadArchive ν κ) :
    (∃ f, (observe L h enc snapshot rows live a).2=
      {a with publicationSeq := snapshot.publicationSeq, failedSample := f}) ∨
    ∃ sampledAtMs f, a.sampleSeq < snapshot.sampleSeq ∧
      (observe L h enc snapshot rows live a).2=
        {(observeRows L h enc snapshot sampledAtMs rows rows (begun snapshot sampledAtMs a)).2 with
          failedSample := f} := by
  unfold observe
  simp only
  cases hsampled : snapshot.sampledAtMs with
  | none =>
    refine Or.inl ⟨a.failedSample,?_⟩
    simp [observeInner,hsampled]
  | some sampledAtMs =>
    by_cases hnew : live=true ∧ a.sampleSeq < snapshot.sampleSeq
    · obtain ⟨rfl,hseq⟩ := hnew
      have hold : ¬(true=false ∨ snapshot.sampleSeq ≤ a.sampleSeq) := by simp [hseq]
      simp only [Option.isSome_some,Bool.true_and,decide_eq_true hseq,if_true,observeInner,hsampled,
        if_neg hold]
      split
      · split
        · exact Or.inl ⟨false,rfl⟩
        · exact Or.inl ⟨true,rfl⟩
      · refine Or.inr ⟨sampledAtMs,?_⟩
        split
        · exact ⟨false,hseq,rfl⟩
        · exact ⟨_,hseq,rfl⟩
    · have hold : live=false ∨ snapshot.sampleSeq ≤ a.sampleSeq := by
        by_contra hcon
        simp only [not_or,Bool.not_eq_false,Nat.not_le] at hcon
        exact hnew hcon
      have hflag : (live && (some sampledAtMs).isSome &&
          decide (a.sampleSeq < snapshot.sampleSeq))=false := by
        simpa using hnew
      refine Or.inl ⟨a.failedSample,?_⟩
      simp only [gt_iff_lt,hflag,Bool.false_and,observeInner,hsampled]
      simp [hold]

/-- A new sample that is accepted. -/
structure Accepted (L : Layout) (h : Heap ν κ) (enc : Encoder ν κ ρ) (snapshot : RuntimeSnapshot)
    (rows : List (ProcessViewRow ρ)) (sampledAtMs : Nat) (a : WorkloadArchive ν κ) : Prop where
  sampled : snapshot.sampledAtMs=some sampledAtMs
  newer : a.sampleSeq < snapshot.sampleSeq
  ok : (observe L h enc snapshot rows true a).1=.ok ()

theorem Accepted.observe_eq {a : WorkloadArchive ν κ}
    (ha : Accepted L h enc snapshot rows sampledAtMs a) :
    (observe L h enc snapshot rows true a).2=
      {(observeRows L h enc snapshot sampledAtMs rows rows (begun snapshot sampledAtMs a)).2 with
        failedSample := false} := by
  have hok := ha.ok
  have hold : ¬(true=false ∨ snapshot.sampleSeq ≤ a.sampleSeq) := by simp [ha.newer]
  unfold observe at hok ⊢
  simp only [gt_iff_lt,ha.sampled,Option.isSome_some,Bool.true_and,decide_eq_true ha.newer,if_true,
    observeInner,if_neg hold] at hok ⊢
  split at hok
  · rename_i hclock
    split at hok <;> cases hok
  · rename_i hclock
    simp only [if_neg hclock,begun]
    generalize observeRows L h enc snapshot sampledAtMs rows rows _=r at hok ⊢
    obtain ⟨result,b⟩ := r
    cases result with
    | error e => cases hok
    | ok u => rfl

/-- What survives new labels, every row and the passes, survives `observe`. -/
theorem observe_rule {P : WorkloadArchive ν κ → Prop}
    (hlabel : ∀ a p s l f, P a → P {a with
      publicationSeq := p, sampleSeq := s, lastSampledAtMs := l, failedSample := f})
    (hrow : ∀ sampledAtMs row a b, P a →
      recordRow L h enc snapshot sampledAtMs rows row a=.ok b → P (enforceBudget L h b))
    (hlast : ∀ a, P a → P (enforceBudget L h a)) (live : Bool)
    {a : WorkloadArchive ν κ} (ha : P a) : P (observe L h enc snapshot rows live a).2 := by
  obtain ⟨f,heq⟩ | ⟨sampledAtMs,f,-,heq⟩ := observe_cases L h enc snapshot rows live a
  · rw [heq]
    exact hlabel a _ _ _ _ ha
  · rw [heq]
    refine hlabel _ _ _ _ f (observeRows_rule (hrow sampledAtMs) hlast rows ?_)
    exact hlabel a _ _ _ _ ha

/-- The reservations beside what is retained. -/
structure SameReserves (a a' : WorkloadArchive ν κ) : Prop where
  budget_eq : a'.budget=a.budget
  ingressReserved_eq : a'.ingressReserved=a.ingressReserved
  replies_eq : a'.replies=a.replies

omit [Zero ν] [Add ν] in
theorem SameReserves.then {a a₁ a₂ : WorkloadArchive ν κ} (hr : SameReserves a a₁)
    (hf : SameFrame a₁ a₂) : SameReserves a a₂ :=
  ⟨hf.budget_eq.trans hr.budget_eq,hf.ingressReserved_eq.trans hr.ingressReserved_eq,
    hf.replies_eq.trans hr.replies_eq⟩

theorem observe_reserves (live : Bool) (a : WorkloadArchive ν κ) :
    SameReserves a (observe L h enc snapshot rows live a).2 := by
  refine observe_rule (P := SameReserves a) ?_ ?_ ?_ live ⟨rfl,rfl,rfl⟩
  · exact fun a' _ _ _ _ hr => ⟨hr.budget_eq,hr.ingressReserved_eq,hr.replies_eq⟩
  · exact fun _ _ a' b hr hrow => (hr.then (.recordRow hrow)).then (.enforceBudget b)
  · exact fun a' hr => hr.then (.enforceBudget a')

end Observe

end BatCave.WorkloadHistory.WorkloadArchive
