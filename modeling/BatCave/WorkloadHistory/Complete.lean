import BatCave.WorkloadHistory.Histories

/-! A history that is not marked as truncated is whole, as long as no tombstone was thrown away:
where points leave the archive, the mark or a tombstone stays. -/
namespace BatCave.WorkloadHistory.WorkloadArchive
open BatCave.Lib.Result
variable {ν κ ρ : Type}

section Discards
variable (L : Layout) (h : Heap ν κ)

/-- `remember_evicted` throws the oldest tombstone away. -/
def rememberDiscards (a : WorkloadArchive ν κ) (t : Tombstone) : Bool :=
  decide (maxTombstones < (pushTombstone h a t).evicted.length)

def evictDiscards (a : WorkloadArchive ν κ) (id : String) : Bool :=
  match takeEntry L h a id with
  | none => false
  | some (_,a) => rememberDiscards h {a with released := a.released++[id]} ⟨id,id.utf8ByteSize⟩

def evictWhileDiscards (target : Nat) : List String → WorkloadArchive ν κ → Bool
  | [],_ => false
  | id::ids,a =>
    if a.retainedBytes L ≤ target then false
    else evictDiscards L h a id || evictWhileDiscards target ids (evictId L h a id)

/-- The last phase of a pass throws tombstones away for their bytes. -/
def popDiscards (target : Nat) (a : WorkloadArchive ν κ) : Bool :=
  decide (target < a.retainedBytes L) && !a.evicted.isEmpty

def enforceDiscards (a : WorkloadArchive ν κ) : Bool :=
  if a.retainedBytes L ≤ a.target then false
  else
    let stale := evictStale L h a.target a
    let long := trimLong L h a.target stale
    evictWhileDiscards L h a.target (staleIds h a) a ||
      evictWhileDiscards L h a.target (liveIds h long) long ||
      popDiscards L a.target (evictLive L h a.target long)

def rejectDiscards (a : WorkloadArchive ν κ) (t : Tombstone) : Bool :=
  evictDiscards L h a t.id || rememberDiscards h (evictId L h a t.id) t

def rejectsDiscard : List Tombstone → WorkloadArchive ν κ → Bool
  | [],_ => false
  | t::ts,a => rejectDiscards L h a t || rejectsDiscard ts (reject L h a t)

variable [Zero ν] [Add ν] (enc : Encoder ν κ ρ)

/-- The tombstones a row's family gets in place of points. -/
def rejected (snapshot : RuntimeSnapshot) (sampledAtMs : Nat) (rows : List (ProcessViewRow ρ))
    (row : ProcessViewRow ρ) (a : WorkloadArchive ν κ) : List Tombstone :=
  match familySizeBound enc (row.family rows) with
  | .error _ => []
  | .ok bytes =>
    if bytes*4>a.budget/8 then (row.family rows).map (rowTombstone h snapshot.sampleSeq)
    else
      match enc.encodeWorkloads (row.family rows) snapshot.sampleSeq sampledAtMs snapshot.platform
          snapshot.sampleIntervalMs with
      | .error _ => []
      | .ok (workloads,source) =>
        match bundleBytes L enc (familyCatalog workloads source snapshot sampledAtMs) with
        | .error _ => []
        | .ok bytes =>
          if bytes>a.budget/8 then
            (h.idOrder a (workloads.map stableId).dedup).map (fun id => ⟨id,id.utf8ByteSize⟩)
          else []

def observeRowsDiscard (snapshot : RuntimeSnapshot) (sampledAtMs : Nat)
    (rows : List (ProcessViewRow ρ)) : List (ProcessViewRow ρ) → WorkloadArchive ν κ → Bool
  | [],a => enforceDiscards L h a
  | row::rest,a =>
    if row.isGroupedProcess then observeRowsDiscard snapshot sampledAtMs rows rest a
    else
      match recordRow L h enc snapshot sampledAtMs rows row a with
      | .error _ => false
      | .ok b =>
        rejectsDiscard L h (rejected L h enc snapshot sampledAtMs rows row a) a ||
          enforceDiscards L h b ||
          observeRowsDiscard snapshot sampledAtMs rows rest (enforceBudget L h b)

def observeDiscards (snapshot : RuntimeSnapshot) (rows : List (ProcessViewRow ρ)) (live : Bool)
    (a : WorkloadArchive ν κ) : Bool :=
  match snapshot.sampledAtMs with
  | none => false
  | some sampledAtMs =>
    if live=false ∨ snapshot.sampleSeq ≤ a.sampleSeq then false
    else if a.lastSampledAtMs.any (fun last => sampledAtMs < last) then false
    else observeRowsDiscard L h enc snapshot sampledAtMs rows rows (begun snapshot sampledAtMs a)

/-- An operation throws a tombstone away. -/
def discards (a : WorkloadArchive ν κ) (step : Heap ν κ × Operation ρ) : Bool :=
  match step.2 with
  | .beginIngress processes =>
    let (result,b) := a.beginIngress L step.1 processes
    result.toBool && enforceDiscards L step.1 {a with ingressReserved := b.ingressReserved}
  | .observe snapshot rows live => observeDiscards L step.1 enc snapshot rows live a
  | .endIngress | .inspect _ _ | .acknowledge _ => false

def runDiscards : List (Heap ν κ × Operation ρ) → WorkloadArchive ν κ → Bool
  | [],_ => false
  | step::steps,a => discards L enc a step || runDiscards steps (a.apply L enc step)

end Discards

/-- What is left of a workload's point of a sample: the point, a history that is marked, or a
tombstone. -/
def Remembered (seq : Nat) (id : String) (a : WorkloadArchive ν κ) : Prop :=
  match a.entries.lookup id with
  | some entry => entry.truncated=false → seq∈entry.history.map (·.sampleSeq)
  | none => id∈a.evicted.map (·.id)

namespace Remembered
variable {L : Layout} {h : Heap ν κ} {seq : Nat} {id : String} {a b : WorkloadArchive ν κ}

theorem frame (hr : Remembered seq id a) (hentries : b.entries.lookup id=a.entries.lookup id)
    (hevicted : id∈a.evicted.map (·.id) → id∈b.evicted.map (·.id)) : Remembered seq id b := by
  unfold Remembered at hr ⊢
  rw [hentries]
  cases hlookup : a.entries.lookup id with
  | none =>
    rw [hlookup] at hr
    exact hevicted hr
  | some entry =>
    rw [hlookup] at hr
    exact hr

theorem same (hr : Remembered seq id a) (hentries : b.entries=a.entries)
    (hevicted : b.evicted=a.evicted) : Remembered seq id b := by
  unfold Remembered at hr ⊢
  rw [hentries,hevicted]
  exact hr

theorem of_tombstone (hentries : b.entries.lookup id=none) (hevicted : id∈b.evicted.map (·.id)) :
    Remembered seq id b := by
  unfold Remembered
  rw [hentries]
  exact hevicted

theorem of_entry {entry : Entry ν} (hentries : b.entries.lookup id=some entry)
    (hpoint : entry.truncated=false → seq∈entry.history.map (·.sampleSeq)) :
    Remembered seq id b := by
  unfold Remembered
  rw [hentries]
  exact hpoint

end Remembered

section Actions
variable {L : Layout} {h : Heap ν κ} {seq : Nat} {id : String} {a b : WorkloadArchive ν κ}

theorem pushTombstone_ids (t : Tombstone) :
    t.id∈(pushTombstone h a t).evicted.map (·.id) ∧
      ∀ id∈a.evicted.map (·.id), id∈(pushTombstone h a t).evicted.map (·.id) := by
  unfold pushTombstone
  split
  · next hknown =>
    obtain ⟨t',ht',heq⟩ := List.any_eq_true.1 hknown
    exact ⟨List.mem_map.2 ⟨t',ht',of_decide_eq_true heq⟩,fun id hid => hid⟩
  · simp only [List.map_append,List.mem_append]
    exact ⟨.inr (by simp),fun id hid => .inl hid⟩

/-- Where nothing is thrown away, a new tombstone stands beside all older ones. -/
theorem rememberEvicted_ids {t : Tombstone} (hno : rememberDiscards h a t=false) :
    t.id∈(rememberEvicted h a t).evicted.map (·.id) ∧
      ∀ id∈a.evicted.map (·.id), id∈(rememberEvicted h a t).evicted.map (·.id) := by
  have hsame : rememberEvicted h a t=pushTombstone h a t := by
    rw [rememberEvicted,if_neg (of_decide_eq_false hno)]
  rw [hsame]
  exact pushTombstone_ids t

theorem evictId_ids {id : String} (hno : evictDiscards L h a id=false) :
    (id∈a.entries → id∈(evictId L h a id).evicted.map (·.id)) ∧
      ∀ id'∈a.evicted.map (·.id), id'∈(evictId L h a id).evicted.map (·.id) := by
  unfold evictDiscards at hno
  unfold evictId
  cases htake : takeEntry L h a id with
  | none =>
    refine ⟨?_,fun id' hid' => hid'⟩
    intro hmem
    rw [← AList.lookup_isSome,takeEntry_eq_none.1 htake] at hmem
    cases hmem
  | some taken =>
    obtain ⟨entry,b⟩ := taken
    rw [htake] at hno
    obtain ⟨hnew,hold⟩ := rememberEvicted_ids hno
    refine ⟨fun _ => hnew,?_⟩
    intro id' hid'
    refine hold id' ?_
    change id'∈b.evicted.map (·.id)
    rw [(takeEntry_evicted htake).1]
    exact hid'

theorem Remembered.evictId (hr : Remembered seq id a) {id' : String}
    (hno : evictDiscards L h a id'=false) : Remembered seq id (evictId L h a id') := by
  obtain ⟨hnew,hold⟩ := evictId_ids hno
  by_cases hid : id=id'
  · subst hid
    refine .of_tombstone ?_ ?_
    · rw [evictId_entries,AList.lookup_erase]
    · cases hlookup : a.entries.lookup id with
      | none =>
        unfold Remembered at hr
        rw [hlookup] at hr
        exact hold id hr
      | some entry => exact hnew (AList.lookup_isSome.1 (by rw [hlookup]; rfl))
  · refine hr.frame ?_ (hold id)
    rw [evictId_entries,AList.lookup_erase_ne hid]

theorem Remembered.evictWhile (hr : Remembered seq id a) {target : Nat} {ids : List String}
    (hno : evictWhileDiscards L h target ids a=false) :
    Remembered seq id (evictWhile L h target ids a) := by
  induction ids generalizing a with
  | nil => exact hr
  | cons id' ids ih =>
    unfold evictWhileDiscards at hno
    unfold WorkloadArchive.evictWhile
    split at hno
    · next hfits =>
      rw [if_pos hfits]
      exact hr
    · next hover =>
      rw [if_neg hover]
      rw [Bool.or_eq_false_iff] at hno
      exact ih (hr.evictId hno.1) hno.2

theorem Remembered.trimOne (hr : Remembered seq id a) (cap : Nat) (id' : String) :
    Remembered seq id (trimOne L h cap a id') := by
  have hevicted := trimOne_evicted (L := L) (h := h) (a := a) cap id'
  cases hlookup : (WorkloadArchive.trimOne L h cap a id').entries.lookup id with
  | none =>
    refine .of_tombstone hlookup ?_
    have hgone : a.entries.lookup id=none := by
      rw [AList.lookup_eq_none] at hlookup ⊢
      exact fun hmem => hlookup ((trimOne_mem cap id' id).2 hmem)
    unfold Remembered at hr
    rw [hgone] at hr
    rw [hevicted]
    exact hr
  | some entry =>
    refine .of_entry hlookup ?_
    cases trimOne_lookup cap id' id hlookup with
    | inl hsame =>
      unfold Remembered at hr
      rw [hsame] at hr
      exact hr
    | inr htrimmed =>
      -- a trimmed history is marked
      obtain ⟨old,_,_,rfl⟩ := htrimmed
      exact nofun

theorem Remembered.popTombstones (hr : Remembered seq id a) {target : Nat}
    (hno : popDiscards L target a=false) : Remembered seq id (popTombstones L target a) := by
  have hsame : WorkloadArchive.popTombstones L target a=a := by
    unfold WorkloadArchive.popTombstones
    cases hevicted : a.evicted with
    | nil => rfl
    | cons t ts =>
      have hfits : ¬a.retainedBytes L>target := by
        simpa [popDiscards,hevicted] using hno
      rw [List.length_cons,popWhile,if_neg hfits]
  rw [hsame]
  exact hr

theorem Remembered.enforceBudget (hr : Remembered seq id a) (hno : enforceDiscards L h a=false) :
    Remembered seq id (enforceBudget L h a) := by
  unfold enforceDiscards at hno
  unfold WorkloadArchive.enforceBudget
  simp only
  split at hno
  · next hfits =>
    rw [if_pos hfits]
    exact hr
  · next hover =>
    rw [if_neg hover]
    simp only [Bool.or_eq_false_iff] at hno
    obtain ⟨⟨hstale,hlive⟩,hpop⟩ := hno
    have hr₁ : Remembered seq id (evictStale L h a.target a) := hr.evictWhile hstale
    have hr₂ : Remembered seq id (trimLong L h a.target (evictStale L h a.target a)) :=
      trimWhile_rule (fun cap _ id' _ hr => hr.trimOne cap id') _ _ _ hr₁
    have hr₃ := (Remembered.evictWhile hr₂ hlive).popTombstones hpop
    exact hr₃.frame rfl (fun hid => hid)

theorem Remembered.reject (hr : Remembered seq id a) {t : Tombstone}
    (hno : rejectDiscards L h a t=false) : Remembered seq id (reject L h a t) := by
  unfold rejectDiscards at hno
  rw [Bool.or_eq_false_iff] at hno
  refine (hr.evictId hno.1).frame ?_ ((rememberEvicted_ids hno.2).2 id)
  rw [WorkloadArchive.reject,rememberEvicted_entries]

/-- A workload that is turned away has a tombstone for every sample. -/
theorem remembered_reject {t : Tombstone} (hno : rejectDiscards L h a t=false) :
    Remembered seq t.id (reject L h a t) := by
  unfold rejectDiscards at hno
  rw [Bool.or_eq_false_iff] at hno
  refine .of_tombstone ?_ (rememberEvicted_ids hno.2).1
  rw [reject,rememberEvicted_entries,evictId_entries,AList.lookup_erase]

theorem Remembered.rejects (hr : Remembered seq id a) {ts : List Tombstone}
    (hno : rejectsDiscard L h ts a=false) :
    Remembered seq id (ts.foldl (WorkloadArchive.reject L h) a) := by
  induction ts generalizing a with
  | nil => exact hr
  | cons t ts ih =>
    rw [rejectsDiscard,Bool.or_eq_false_iff] at hno
    exact ih (hr.reject hno.1) hno.2

theorem remembered_rejects {ts : List Tombstone} (hno : rejectsDiscard L h ts a=false)
    (hid : id∈ts.map (·.id)) : Remembered seq id (ts.foldl (reject L h) a) := by
  induction ts generalizing a with
  | nil => cases hid
  | cons t ts ih =>
    rw [rejectsDiscard,Bool.or_eq_false_iff] at hno
    rw [List.map_cons,List.mem_cons] at hid
    cases hid with
    | inl heq =>
      rw [heq]
      exact (remembered_reject hno.1).rejects hno.2
    | inr hrest => exact ih hno.2 hrest

/-- A point keeps what is left of all others: its own history is cut under a mark, and a
tombstone that goes leaves one. -/
theorem Remembered.recordPoint (hr : Remembered seq id a) (bundleId : Nat)
    (p : String × ProcessIdentityStabilityV4 × WorkloadHistoryPoint ν) :
    Remembered seq id (recordPoint L h bundleId a p) := by
  obtain ⟨id',stability,point⟩ := p
  by_cases hid : id=id'
  · subst hid
    obtain ⟨entry,kept,gap,hentry,_,hhistory,hnew,hold⟩ :=
      recordPoint_entry L h a bundleId id stability point
    refine .of_entry hentry ?_
    intro hwhole
    rw [hhistory,List.map_append,List.mem_append]
    unfold Remembered at hr
    cases hlookup : a.entries.lookup id with
    | none =>
      rw [hlookup] at hr
      obtain ⟨t,ht,heq⟩ := List.mem_map.1 hr
      have hmarked : a.evicted.any (·.id=id)=true := List.any_eq_true.2 ⟨t,ht,decide_eq_true heq⟩
      rw [(hnew hlookup).2,hmarked] at hwhole
      cases hwhole
    | some old =>
      rw [hlookup] at hr
      cases hold old hlookup with
      | inl hroom =>
        rw [hroom.2.2] at hwhole
        rw [hroom.2.1]
        exact .inl (hr hwhole)
      | inr hfull =>
        rw [hfull.2.2] at hwhole
        cases hwhole
  · refine hr.frame (recordPoint_other L h a bundleId (id',stability,point) hid) ?_
    intro hmem
    obtain ⟨t,ht,heq⟩ := List.mem_map.1 hmem
    rw [recordPoint_evicted]
    refine List.mem_map.2 ⟨t,(List.mem_eraseP_of_neg ?_).2 ht,heq⟩
    rw [heq]
    simpa using hid

theorem remembered_recordPoint (bundleId : Nat)
    (p : String × ProcessIdentityStabilityV4 × WorkloadHistoryPoint ν) :
    Remembered p.2.2.sampleSeq p.1 (recordPoint L h bundleId a p) := by
  obtain ⟨id,stability,point⟩ := p
  obtain ⟨entry,kept,gap,hentry,_,hhistory,_,_⟩ :=
    recordPoint_entry L h a bundleId id stability point
  refine .of_entry hentry ?_
  intro _
  rw [hhistory]
  simp

theorem remembered_recordPoints (bundleId : Nat)
    {ps : List (String × ProcessIdentityStabilityV4 × WorkloadHistoryPoint ν)}
    (hseq : ∀ p∈ps, p.2.2.sampleSeq=seq) (hid : id∈ps.map (·.1)) :
    Remembered seq id (ps.foldl (recordPoint L h bundleId) a) := by
  induction ps generalizing a with
  | nil => cases hid
  | cons p ps ih =>
    have hrest := fun p' hp' => hseq p' (List.mem_cons_of_mem p hp')
    rw [List.map_cons,List.mem_cons] at hid
    cases hid with
    | inl heq =>
      have hhere := remembered_recordPoint (L := L) (h := h) (a := a) bundleId p
      rw [hseq p List.mem_cons_self,← heq] at hhere
      exact foldl_rule (fun _ p' hr => hr.recordPoint bundleId p') ps hhere
    | inr hlater => exact ih hrest hlater

end Actions

/-- Every point is of a sample in which the workload occurred. -/
def Sourced (O : Nat → String → Prop) (a : WorkloadArchive ν κ) : Prop :=
  ∀ id entry, a.entries.lookup id=some entry → ∀ point∈entry.history, O point.sampleSeq id

namespace Sourced
variable {L : Layout} {h : Heap ν κ} {O : Nat → String → Prop} {a : WorkloadArchive ν κ}

theorem evictId (hs : Sourced O a) (id : String) : Sourced O (evictId L h a id) := by
  intro id' entry hentry
  rw [evictId_entries] at hentry
  by_cases hid : id'=id
  · rw [hid,AList.lookup_erase] at hentry
    cases hentry
  · rw [AList.lookup_erase_ne hid] at hentry
    exact hs id' entry hentry

theorem trimOne (hs : Sourced O a) (cap : Nat) (id : String) :
    Sourced O (trimOne L h cap a id) := by
  intro id' entry hentry
  cases trimOne_lookup cap id id' hentry with
  | inl hsame => exact hs id' entry hsame
  | inr htrimmed =>
    obtain ⟨old,hold,_,rfl⟩ := htrimmed
    intro point hpoint
    exact hs id' old hold point (List.mem_of_mem_drop hpoint)

theorem enforceBudget (hs : Sourced O a) : Sourced O (enforceBudget L h a) := by
  refine enforceBudget_rule (P := Sourced O) (fun _ id hs => hs.evictId id)
    (fun cap _ id _ hs => hs.trimOne cap id) ?_ (fun _ hs => hs) hs
  intro b t b' hb hp
  obtain ⟨rest,_,rfl⟩ := popEvicted_cases hp
  exact hb

theorem reject (hs : Sourced O a) (t : Tombstone) : Sourced O (reject L h a t) := by
  intro id entry hentry
  rw [WorkloadArchive.reject,rememberEvicted_entries] at hentry
  exact hs.evictId t.id id entry hentry

theorem recordPoint (hs : Sourced O a) (bundleId : Nat)
    {p : String × ProcessIdentityStabilityV4 × WorkloadHistoryPoint ν}
    (hpoint : O p.2.2.sampleSeq p.1) : Sourced O (recordPoint L h bundleId a p) := by
  obtain ⟨id,stability,point⟩ := p
  obtain ⟨entry,kept,gap,hentry,_,hhistory,hnew,hold⟩ :=
    recordPoint_entry L h a bundleId id stability point
  intro id' entry' hentry' point' hmem
  by_cases hid : id'=id
  · subst hid
    rw [hentry,Option.some.injEq] at hentry'
    rw [← hentry',hhistory,List.mem_append,List.mem_singleton] at hmem
    cases hmem with
    | inr hlast =>
      rw [hlast]
      exact hpoint
    | inl hkept =>
      cases hlookup : a.entries.lookup id' with
      | none =>
        rw [(hnew hlookup).1] at hkept
        cases hkept
      | some old =>
        refine hs id' old hlookup point' ?_
        cases hold old hlookup with
        | inl hroom =>
          rw [hroom.2.1] at hkept
          exact hkept
        | inr hfull =>
          rw [hfull.2.1] at hkept
          exact List.mem_of_mem_drop hkept
  · rw [recordPoint_other L h a bundleId (id,stability,point) hid] at hentry'
    exact hs id' entry' hentry' point' hmem

end Sourced

section Samples
variable [Zero ν] [Add ν] {L : Layout} {h : Heap ν κ} {enc : Encoder ν κ ρ}
  {snapshot : RuntimeSnapshot} {sampledAtMs : Nat} {rows : List (ProcessViewRow ρ)}
  {a b : WorkloadArchive ν κ} {seq : Nat} {id : String}

/-- A row's family is turned away or recorded, in either case under the ids of its rows. -/
theorem recordRow_rejected {row : ProcessViewRow ρ}
    (hr : recordRow L h enc snapshot sampledAtMs rows row a=.ok b) :
    (b=(rejected L h enc snapshot sampledAtMs rows row a).foldl (reject L h) a ∧
      ∀ id, id∈(rejected L h enc snapshot sampledAtMs rows row a).map (·.id) ↔
        id∈familyIds snapshot rows row) ∨
    ∃ (catalog : InspectionCatalog ν κ) (bytes : Nat),
      catalog.workloads.map stableId=familyIds snapshot rows row ∧
      catalog.sampleSeq=snapshot.sampleSeq ∧
      b=(familyPoints catalog snapshot.sampleIntervalMs).foldl
        (recordPoint L h (a.nextBundle+1)) (openBundle h a catalog bytes) := by
  unfold recordRow at hr
  simp only [bind_ok] at hr
  obtain ⟨_,_,bytes,hbytes,hr⟩ := hr
  simp only [rejected,hbytes]
  split at hr
  · next hlarge =>
    rw [if_pos hlarge]
    refine .inl ⟨(pure_ok.1 hr).symm,?_⟩
    intro id
    rw [List.map_map,familyIds]
    exact iff_of_eq (congrArg (id∈·) (List.map_congr_left (fun row _ => rowTombstone_id _ row)))
  · next hfits =>
    rw [if_neg hfits]
    obtain ⟨⟨workloads,source⟩,hencode,hr⟩ := bind_ok.1 hr
    have hids := enc.encode_ids hencode
    simp only [hencode]
    simp only [recordFamily] at hr
    cases hbundle : bundleBytes L enc (familyCatalog workloads source snapshot sampledAtMs) with
    | error e =>
      simp only [hbundle] at hr
      cases hr
    | ok bundle =>
      simp only [hbundle] at hr ⊢
      split at hr
      · next hlarge =>
        cases hr
        rw [if_pos hlarge]
        refine .inl ⟨rfl,?_⟩
        intro id
        simp only [List.map_map,Function.comp_def,List.map_id_fun',id_eq]
        rw [(h.idOrder_perm a _).mem_iff,List.mem_dedup,familyIds,← hids]
      · cases hr
        refine .inr ⟨familyCatalog workloads source snapshot sampledAtMs,bundle,?_,rfl,rfl⟩
        rw [familyCatalog,List.map_map,familyIds,← hids]
        exact List.map_congr_left (fun row _ => stableId_clearForeignParent _ row)

theorem Remembered.recordRow {row : ProcessViewRow ρ} (hr : Remembered seq id a)
    (hrow : recordRow L h enc snapshot sampledAtMs rows row a=.ok b)
    (hno : rejectsDiscard L h (rejected L h enc snapshot sampledAtMs rows row a) a=false) :
    Remembered seq id b := by
  cases recordRow_rejected hrow with
  | inl hrejected =>
    rw [hrejected.1]
    exact hr.rejects hno
  | inr hpoints =>
    obtain ⟨catalog,bytes,_,_,rfl⟩ := hpoints
    have hopen : Remembered seq id (openBundle h a catalog bytes) := hr.frame rfl (fun hid => hid)
    exact foldl_rule (fun _ p hr => hr.recordPoint _ p) _ hopen

/-- The sample's own workloads are remembered as soon as their family is through. -/
theorem remembered_recordRow {row : ProcessViewRow ρ}
    (hrow : recordRow L h enc snapshot sampledAtMs rows row a=.ok b)
    (hno : rejectsDiscard L h (rejected L h enc snapshot sampledAtMs rows row a) a=false)
    (hid : id∈familyIds snapshot rows row) : Remembered snapshot.sampleSeq id b := by
  cases recordRow_rejected hrow with
  | inl hrejected =>
    rw [hrejected.1]
    exact remembered_rejects hno ((hrejected.2 id).2 hid)
  | inr hpoints =>
    obtain ⟨catalog,bytes,hids,hseq,rfl⟩ := hpoints
    refine remembered_recordPoints _ ?_ ?_
    · intro p hp
      exact (mem_familyPoints hp).1.trans hseq
    · rw [familyPoints_ids,hids]
      exact hid

theorem Sourced.recordRow {O : Nat → String → Prop} {row : ProcessViewRow ρ} (hs : Sourced O a)
    (hO : ∀ id∈familyIds snapshot rows row, O snapshot.sampleSeq id)
    (hrow : recordRow L h enc snapshot sampledAtMs rows row a=.ok b) : Sourced O b := by
  cases recordRow_rejected hrow with
  | inl hrejected =>
    rw [hrejected.1]
    exact foldl_rule (fun _ t hs => hs.reject t) _ hs
  | inr hpoints =>
    obtain ⟨catalog,bytes,hids,hseq,rfl⟩ := hpoints
    have hopen : Sourced O (openBundle h a catalog bytes) := hs
    refine foldl_mem_rule _ (fun a' p hp hs => hs.recordPoint _ ?_) hopen
    rw [(mem_familyPoints hp).1,hseq]
    refine hO p.1 ?_
    rw [← hids,← familyPoints_ids catalog snapshot.sampleIntervalMs]
    exact List.mem_map_of_mem hp

theorem Remembered.observeRows (rest : List (ProcessViewRow ρ)) (hr : Remembered seq id a)
    (hno : observeRowsDiscard L h enc snapshot sampledAtMs rows rest a=false) :
    Remembered seq id (observeRows L h enc snapshot sampledAtMs rows rest a).2 := by
  induction rest generalizing a with
  | nil => exact hr.enforceBudget hno
  | cons row rest ih =>
    unfold observeRowsDiscard at hno
    by_cases hgrouped : row.isGroupedProcess
    · rw [if_pos hgrouped] at hno
      simp only [WorkloadArchive.observeRows,observeRow,if_pos hgrouped]
      exact ih hr hno
    · rw [if_neg hgrouped] at hno
      simp only [WorkloadArchive.observeRows,observeRow,if_neg hgrouped]
      cases hrow : WorkloadArchive.recordRow L h enc snapshot sampledAtMs rows row a with
      | error e => exact hr
      | ok b =>
        rw [hrow] at hno
        simp only [Bool.or_eq_false_iff] at hno
        exact ih ((hr.recordRow hrow hno.1.1).enforceBudget hno.1.2) hno.2

theorem remembered_observeRows (rest : List (ProcessViewRow ρ))
    (hok : (observeRows L h enc snapshot sampledAtMs rows rest a).1=.ok ())
    (hno : observeRowsDiscard L h enc snapshot sampledAtMs rows rest a=false)
    (hid : id∈openedIds snapshot rows rest) : Remembered snapshot.sampleSeq id
      (observeRows L h enc snapshot sampledAtMs rows rest a).2 := by
  induction rest generalizing a with
  | nil => cases hid
  | cons row rest ih =>
    unfold observeRowsDiscard at hno
    by_cases hgrouped : row.isGroupedProcess
    · rw [if_pos hgrouped] at hno
      rw [openedIds_grouped hgrouped] at hid
      simp only [observeRows,observeRow,if_pos hgrouped] at hok ⊢
      exact ih hok hno hid
    · rw [if_neg hgrouped] at hno
      rw [openedIds_cons hgrouped,List.mem_append] at hid
      simp only [observeRows,observeRow,if_neg hgrouped] at hok ⊢
      cases hrow : recordRow L h enc snapshot sampledAtMs rows row a with
      | error e =>
        rw [hrow] at hok
        cases hok
      | ok b =>
        rw [hrow] at hno hok
        simp only [Bool.or_eq_false_iff] at hno
        cases hid with
        | inl hhere =>
          have hb := remembered_recordRow hrow hno.1.1 hhere
          exact (hb.enforceBudget hno.1.2).observeRows rest hno.2
        | inr hlater => exact ih hok hno.2 hlater

theorem Sourced.observeRows {O : Nat → String → Prop} (rest : List (ProcessViewRow ρ))
    (hs : Sourced O a) (hO : ∀ id∈openedIds snapshot rows rest, O snapshot.sampleSeq id) :
    Sourced O (observeRows L h enc snapshot sampledAtMs rows rest a).2 := by
  induction rest generalizing a with
  | nil => exact hs.enforceBudget
  | cons row rest ih =>
    by_cases hgrouped : row.isGroupedProcess
    · rw [openedIds_grouped hgrouped] at hO
      simp only [WorkloadArchive.observeRows,observeRow,if_pos hgrouped]
      exact ih hs hO
    · rw [openedIds_cons hgrouped] at hO
      simp only [WorkloadArchive.observeRows,observeRow,if_neg hgrouped]
      cases hrow : WorkloadArchive.recordRow L h enc snapshot sampledAtMs rows row a with
      | error e => exact hs
      | ok b =>
        have hb := hs.recordRow (fun id hid => hO id (List.mem_append_left _ hid)) hrow
        exact ih hb.enforceBudget (fun id hid => hO id (List.mem_append_right _ hid))

/-- What a new sample in order throws away. -/
theorem observeDiscards_read {live : Bool} (hnew : NewSample snapshot live a)
    (hclock : ¬ClockRegressed snapshot a) (hsampled : snapshot.sampledAtMs=some sampledAtMs) :
    observeDiscards L h enc snapshot rows live a=
      observeRowsDiscard L h enc snapshot sampledAtMs rows rows (begun snapshot sampledAtMs a) := by
  obtain ⟨rfl,_,hnewer⟩ := hnew
  have hold : ¬(true=false ∨ snapshot.sampleSeq ≤ a.sampleSeq) := by simp [hnewer]
  have hback : ¬a.lastSampledAtMs.any (fun last => sampledAtMs < last)=true := by
    cases hlast : a.lastSampledAtMs with
    | none => simp
    | some last =>
      rw [Option.any_some,decide_eq_true_iff]
      exact fun hlt => hclock ⟨sampledAtMs,last,hsampled,hlast,hlt⟩
  simp only [observeDiscards,hsampled,if_neg hold,if_neg hback]

theorem Remembered.observe {live : Bool} (hr : Remembered seq id a)
    (hno : observeDiscards L h enc snapshot rows live a=false) :
    Remembered seq id (observe L h enc snapshot rows live a).2 := by
  cases observe_leaves L h enc snapshot rows live a with
  | inl hlabel =>
    obtain ⟨f,heq⟩ := hlabel
    rw [heq]
    exact hr
  | inr hread =>
    obtain ⟨sampledAtMs,f,hnew,hclock,hsampled,heq⟩ := hread
    rw [observeDiscards_read hnew hclock hsampled] at hno
    have hbegun : Remembered seq id (begun snapshot sampledAtMs a) := hr
    rw [heq]
    exact hbegun.observeRows rows hno

theorem remembered_observe {live : Bool} (hnew : NewSample snapshot live a)
    (hok : (observe L h enc snapshot rows live a).1=.ok ())
    (hno : observeDiscards L h enc snapshot rows live a=false)
    (hid : id∈openedIds snapshot rows rows) :
    Remembered snapshot.sampleSeq id (observe L h enc snapshot rows live a).2 := by
  by_cases hclock : ClockRegressed snapshot a
  · rw [observe_regressed L h enc snapshot rows hnew hclock] at hok
    cases hok
  · obtain ⟨sampledAtMs,hsampled,hread⟩ := observe_read L h enc snapshot rows hnew hclock
    rw [observeDiscards_read hnew hclock hsampled] at hno
    cases hread with
    | inl hread =>
      rw [hread.2]
      exact remembered_observeRows rows hread.1 hno hid
    | inr herr =>
      obtain ⟨e,_,herr⟩ := herr
      rw [herr] at hok
      cases hok

theorem Sourced.observe {O : Nat → String → Prop} {live : Bool} (hs : Sourced O a)
    (hO : NewSample snapshot live a → ∀ id∈openedIds snapshot rows rows, O snapshot.sampleSeq id) :
    Sourced O (observe L h enc snapshot rows live a).2 := by
  cases observe_leaves L h enc snapshot rows live a with
  | inl hlabel =>
    obtain ⟨f,heq⟩ := hlabel
    rw [heq]
    exact hs
  | inr hread =>
    obtain ⟨sampledAtMs,f,hnew,_,_,heq⟩ := hread
    have hbegun : Sourced O (begun snapshot sampledAtMs a) := hs
    rw [heq]
    exact Sourced.observeRows rows hbegun (hO hnew)

end Samples

section Runs
variable [Zero ν] [Add ν] (L : Layout) (enc : Encoder ν κ ρ)

omit [Zero ν] [Add ν] in
theorem inspect_keeps (id : String) (pointLimit : Nat) (a : WorkloadArchive ν κ) :
    (a.inspect id pointLimit).2.entries=a.entries ∧
      (a.inspect id pointLimit).2.evicted=a.evicted := by
  unfold inspect
  split
  · exact ⟨rfl,rfl⟩
  · split
    · exact ⟨rfl,rfl⟩
    · split
      · exact ⟨rfl,rfl⟩
      · exact ⟨rfl,rfl⟩

omit [Zero ν] [Add ν] in
theorem acknowledge_keeps (token : String) (a : WorkloadArchive ν κ) :
    (a.acknowledge token).2.entries=a.entries ∧ (a.acknowledge token).2.evicted=a.evicted := by
  unfold acknowledge
  split
  · exact ⟨rfl,rfl⟩
  · split
    · exact ⟨rfl,rfl⟩
    · exact ⟨rfl,rfl⟩

omit [Zero ν] [Add ν] in
/-- An ingress is refused, or makes room under its reservation. -/
theorem beginIngress_cases (h : Heap ν κ) (processes : List ProcessSample)
    (a : WorkloadArchive ν κ) :
    (∃ e, a.beginIngress L h processes=(.error e,{a with failedSample := true})) ∨
    ∃ required, a.beginIngress L h processes=
      (.ok (),enforceBudget L h {a with ingressReserved := required}) := by
  unfold beginIngress
  simp only
  split
  · exact .inl ⟨_,rfl⟩
  · exact .inr ⟨_,rfl⟩

theorem Remembered.apply {seq : Nat} {id : String} {a : WorkloadArchive ν κ}
    {step : Heap ν κ × Operation ρ} (hr : Remembered seq id a)
    (hno : discards L enc a step=false) : Remembered seq id (a.apply L enc step) := by
  obtain ⟨h,op⟩ := step
  cases op with
  | beginIngress processes =>
    simp only [WorkloadArchive.apply]
    simp only [discards] at hno
    cases beginIngress_cases L h processes a with
    | inl hrefused =>
      obtain ⟨e,heq⟩ := hrefused
      rw [heq]
      exact hr
    | inr hopened =>
      obtain ⟨required,heq⟩ := hopened
      rw [heq] at hno ⊢
      simp only [Except.toBool,Bool.true_and,(SameFrame.enforceBudget _).ingressReserved_eq] at hno
      have hreserved : Remembered seq id {a with ingressReserved := required} := hr
      exact hreserved.enforceBudget hno
  | endIngress => exact hr
  | observe snapshot rows live => exact hr.observe hno
  | inspect id' pointLimit =>
    obtain ⟨hentries,hevicted⟩ := inspect_keeps id' pointLimit a
    exact hr.same hentries hevicted
  | acknowledge token =>
    obtain ⟨hentries,hevicted⟩ := acknowledge_keeps token a
    exact hr.same hentries hevicted

theorem Remembered.run {seq : Nat} {id : String} {a : WorkloadArchive ν κ}
    (steps : List (Heap ν κ × Operation ρ)) (hr : Remembered seq id a)
    (hno : runDiscards L enc steps a=false) : Remembered seq id (run L enc steps a) := by
  induction steps generalizing a with
  | nil => exact hr
  | cons step steps ih =>
    rw [runDiscards,Bool.or_eq_false_iff] at hno
    exact ih (hr.apply L enc hno.1) hno.2

theorem runDiscards_append (before after : List (Heap ν κ × Operation ρ))
    (a : WorkloadArchive ν κ) : runDiscards L enc (before++after) a=
      (runDiscards L enc before a || runDiscards L enc after (run L enc before a)) := by
  induction before generalizing a with
  | nil => rfl
  | cons step before ih =>
    rw [List.cons_append,runDiscards,ih,runDiscards,Bool.or_assoc]
    rfl

/-- The workload occurs in a sample that the run accepts. -/
def AcceptedIn (budget : Nat) (steps : List (Heap ν κ × Operation ρ)) (seq : Nat) (id : String) :
    Prop :=
  ∃ before h snapshot rows live after, steps=before++(h,.observe snapshot rows live)::after ∧
    TakesSample L enc (run L enc before (withBudget budget)) (h,.observe snapshot rows live) ∧
    snapshot.sampleSeq=seq ∧ id∈openedIds snapshot rows rows

/-- The workload occurs in a sample that the run is shown. -/
def ShownIn (steps : List (Heap ν κ × Operation ρ)) (seq : Nat) (id : String) : Prop :=
  ∃ h snapshot rows live, (h,Operation.observe snapshot rows live)∈steps ∧
    snapshot.sampleSeq=seq ∧ id∈openedIds snapshot rows rows

/-- No sample of the run brings an id twice. -/
def UniqueIds (steps : List (Heap ν κ × Operation ρ)) : Prop :=
  ∀ step∈steps, ∀ snapshot rows live, step.2=.observe snapshot rows live →
    (openedIds snapshot rows rows).Nodup

theorem remembered_run {budget : Nat} {steps : List (Heap ν κ × Operation ρ)} {seq : Nat}
    {id : String} (hno : runDiscards L enc steps (withBudget budget)=false)
    (haccepted : AcceptedIn L enc budget steps seq id) :
    Remembered seq id (run L enc steps (withBudget budget)) := by
  obtain ⟨before,h,snapshot,rows,live,after,rfl,htakes,rfl,hid⟩ := haccepted
  rw [runDiscards_append,Bool.or_eq_false_iff,runDiscards,Bool.or_eq_false_iff] at hno
  rw [run,List.foldl_append]
  exact Remembered.run L enc after (remembered_observe htakes.1 htakes.2 hno.2.1 hid) hno.2.2

theorem Sourced.apply {O : Nat → String → Prop} {a : WorkloadArchive ν κ}
    {step : Heap ν κ × Operation ρ} (hs : Sourced O a)
    (hO : ∀ snapshot rows live, step.2=.observe snapshot rows live →
      ∀ id∈openedIds snapshot rows rows, O snapshot.sampleSeq id) :
    Sourced O (a.apply L enc step) := by
  obtain ⟨h,op⟩ := step
  cases op with
  | beginIngress processes =>
    simp only [WorkloadArchive.apply]
    cases beginIngress_cases L h processes a with
    | inl hrefused =>
      obtain ⟨e,heq⟩ := hrefused
      rw [heq]
      exact hs
    | inr hopened =>
      obtain ⟨required,heq⟩ := hopened
      rw [heq]
      have hreserved : Sourced O {a with ingressReserved := required} := hs
      exact hreserved.enforceBudget
  | endIngress => exact hs
  | observe snapshot rows live => exact hs.observe (fun _ => hO snapshot rows live rfl)
  | inspect id pointLimit =>
    intro id' entry hentry
    simp only [WorkloadArchive.apply,(inspect_keeps id pointLimit a).1] at hentry
    exact hs id' entry hentry
  | acknowledge token =>
    intro id' entry hentry
    simp only [WorkloadArchive.apply,(acknowledge_keeps token a).1] at hentry
    exact hs id' entry hentry

theorem Sourced.run (budget : Nat) (steps : List (Heap ν κ × Operation ρ)) :
    Sourced (ShownIn steps) (run L enc steps (withBudget budget)) := by
  have hstart : Sourced (ShownIn steps) (withBudget budget : WorkloadArchive ν κ) := by
    intro id entry hentry
    simp [withBudget] at hentry
  refine foldl_mem_rule steps ?_ hstart
  intro a step hstep hs
  refine hs.apply L enc ?_
  intro snapshot rows live hop id hid
  obtain ⟨h,op⟩ := step
  exact ⟨h,snapshot,rows,live,by rw [← hop]; exact hstep,rfl,hid⟩

omit [Zero ν] [Add ν] in
/-- A reply that is not marked carries the whole history of an entry. -/
theorem inspect_whole {a : WorkloadArchive ν κ} {id : String} {pointLimit : Nat}
    {reply : WorkloadInspection ν κ} (hreply : (a.inspect id pointLimit).1=.ok reply)
    (hwhole : reply.historyTruncated=false) :
    reply.status=a.inspectionStatus id ∧
      reply.history=(a.entries.lookup id).elim [] (·.history) ∧
      (a.entries.lookup id).elim false (·.truncated)=false := by
  unfold inspect at hreply
  split at hreply
  · cases hreply
  · split at hreply
    · cases hreply
    · split at hreply
      · cases hreply
      · cases hreply
        simp only [Bool.or_eq_false_iff,decide_eq_false_iff_not,gt_iff_lt,Nat.not_lt] at hwhole
        refine ⟨rfl,?_,hwhole.1⟩
        simp only
        rw [Nat.sub_eq_zero_of_le hwhole.2,List.drop_zero]

/-- Histories and tombstones in every state of the archive. A reply that is not marked as
truncated is whole for a workload that was not evicted, as long as no tombstone was thrown
away. -/
theorem inspection_history_integrity (budget : Nat) (steps : List (Heap ν κ × Operation ρ)) :
    let a := run L enc steps (withBudget budget)
    (∀ id entry, a.entries.lookup id=some entry →
      entry.history≠[] ∧ entry.history.length ≤ 360 ∧
      (entry.history.map (·.sampleSeq)).Pairwise (· ≤ ·) ∧
      (UniqueIds steps → (entry.history.map (·.sampleSeq)).Pairwise (· < ·)) ∧
      (entry.history.map (·.sampledAtMs)).Pairwise (· ≤ ·) ∧
      (entry.history.map (·.sampleSeq)).getLast? =some entry.lastSampleSeq ∧
      entry.lastSampleSeq ≤ a.sampleSeq) ∧
    (∀ t∈a.evicted, t.id∉a.entries) ∧ (a.evicted.map (·.id)).Nodup ∧ a.evicted.length ≤ 1024 ∧
    (runDiscards L enc steps (withBudget budget)=false → ∀ id pointLimit reply,
      (a.inspect id pointLimit).1=.ok reply → reply.historyTruncated=false →
      reply.status≠.evicted →
      (∀ seq, AcceptedIn L enc budget steps seq id →
        seq∈reply.history.map (·.sampleSeq) ∧
        (UniqueIds steps → (reply.history.map (·.sampleSeq)).count seq=1)) ∧
      (∀ point∈reply.history, ShownIn steps point.sampleSeq id) ∧
      (reply.history.map (·.sampleSeq)).Pairwise (· ≤ ·)) := by
  intro a
  have hshaped : Shaped (· ≤ ·) a :=
    Shaped.run L enc budget steps (fun _ _ _ _ _ _ => .inl (fun _ _ hle => hle))
  have hstrict (hunique : UniqueIds steps) : Shaped (· < ·) a :=
    Shaped.run L enc budget steps (fun step hstep snapshot rows live hop =>
      .inr ⟨fun _ _ hlt => hlt,hunique step hstep snapshot rows live hop⟩)
  have hsourced : Sourced (ShownIn steps) a := Sourced.run L enc budget steps
  refine ⟨?_,hshaped.tombstones.apart,hshaped.tombstones.distinct,hshaped.tombstones.bounded,?_⟩
  · intro id entry hentry
    have hok := hshaped.histories id entry hentry
    exact ⟨hok.nonempty,hok.short,hok.seqs,
      fun hunique => ((hstrict hunique).histories id entry hentry).seqs,hok.times,hok.last,
      hok.dated⟩
  · intro hno id pointLimit reply hreply hwhole hstatus
    obtain ⟨hstatus',hhistory,hflag⟩ := inspect_whole hreply hwhole
    rw [hstatus',inspectionStatus] at hstatus
    cases hentry : a.entries.lookup id with
    | none =>
      rw [hentry] at hhistory hstatus
      rw [hhistory]
      refine ⟨?_,by simp,by simp⟩
      intro seq haccepted
      -- without an entry the workload would have a tombstone
      have hr := remembered_run L enc hno haccepted
      unfold Remembered at hr
      change match a.entries.lookup id with
        | some entry => _
        | none => id∈a.evicted.map (·.id) at hr
      rw [hentry] at hr
      obtain ⟨t,ht,heq⟩ := List.mem_map.1 hr
      have hknown : a.evicted.any (·.id=id)=true := List.any_eq_true.2 ⟨t,ht,decide_eq_true heq⟩
      simp only [hknown,if_true,ne_eq,not_true] at hstatus
    | some entry =>
      rw [hentry] at hhistory hflag
      have hhistory : reply.history=entry.history := hhistory
      rw [hhistory]
      refine ⟨?_,hsourced id entry hentry,(hshaped.histories id entry hentry).seqs⟩
      intro seq haccepted
      have hr := remembered_run L enc hno haccepted
      unfold Remembered at hr
      change match a.entries.lookup id with
        | some entry => entry.truncated=false → seq∈entry.history.map (·.sampleSeq)
        | none => _ at hr
      rw [hentry] at hr
      have hmem := hr hflag
      refine ⟨hmem,?_⟩
      intro hunique
      have hpairwise := ((hstrict hunique).histories id entry hentry).seqs
      exact List.count_eq_one_of_mem (hpairwise.imp Nat.ne_of_lt) hmem

end Runs

namespace Incomplete
open Plain

/-- One sample of a process that an archive of 32 KiB has no room for. -/
abbrev oversized : List (Heap Nat Unit × Operation Unit) :=
  [(.plain _ _,.observe (snapshot 1) [row "1"] true)]

/-- One sample that brings a process twice. -/
abbrev repeated : List (Heap Nat Unit × Operation Unit) :=
  [(.plain _ _,.observe (snapshot 1) [row "1",row "1"] true)]

end Incomplete

open Plain Incomplete in
/-- A workload whose family is too large is evicted at once; its reply is empty and says so in
its status, not in the mark. A process that comes twice in a sample has two points of it. -/
theorem unmarked_replies_not_whole :
    (runDiscards .x64 .plain oversized (withBudget 32768)=false ∧ UniqueIds oversized ∧
      AcceptedIn .x64 .plain 32768 oversized 1 "process:1:1000" ∧
      ∃ reply, ((run .x64 .plain oversized (withBudget 32768)).inspect "process:1:1000" 30).1=
          .ok reply ∧
        reply.historyTruncated=false ∧ reply.status=.evicted ∧ reply.history=[]) ∧
    runDiscards .x64 .plain repeated (withBudget 262144)=false ∧
    AcceptedIn .x64 .plain 262144 repeated 1 "process:1:1000" ∧
    ∃ reply, ((run .x64 .plain repeated (withBudget 262144)).inspect "process:1:1000" 30).1=
        .ok reply ∧
      reply.historyTruncated=false ∧ reply.history.map (·.sampleSeq)=[1,1] := by
  refine ⟨⟨by decide,?_,?_,_,rfl,by decide,by decide,rfl⟩,by decide,
    ?_,_,rfl,by decide,by decide⟩
  · intro step hstep snapshot rows live hop
    rw [List.mem_singleton] at hstep
    subst hstep
    cases hop
    decide
  · exact ⟨[],.plain _ _,snapshot 1,[row "1"],true,[],rfl,⟨⟨rfl,rfl,by decide⟩,rfl⟩,rfl,
      by decide⟩
  · exact ⟨[],.plain _ _,snapshot 1,[row "1",row "1"],true,[],rfl,⟨⟨rfl,rfl,by decide⟩,rfl⟩,rfl,
      by decide⟩

end BatCave.WorkloadHistory.WorkloadArchive
