import BatCave.WorkloadHistory.Retention

/-! How much room a sample needs for its workloads that are still to come. It is counted
from the archive before the sample and from the rows: what may be retained after a row,
once everything is gone that sorts before the workloads to come. -/
namespace BatCave.WorkloadHistory.WorkloadArchive
open BatCave.Lib.Table
variable {ν κ ρ : Type}

/-- Capacities of the three containers. -/
structure Containers where
  entries : Nat
  bundles : Nat
  evicted : Nat

/-- Containers within `c` stay within it as long as they hold no more than so many. -/
structure Holds (h : Heap ν κ) (c : Containers) (entries bundles tombstones : Nat) : Prop where
  entries_le : ∀ a capacity len, capacity ≤ c.entries → len ≤ entries →
    h.mapCapacity a capacity len ≤ c.entries
  bundles_le : ∀ a capacity len, capacity ≤ c.bundles → len ≤ bundles →
    h.mapCapacity a capacity len ≤ c.bundles
  evicted_le : ∀ len capacity, len ≤ tombstones → capacity ≤ c.evicted →
    h.pushCapacity len capacity ≤ c.evicted

/-- The maps hold only what is listed, and stay within their capacities. -/
structure Stock (c : Containers) (ids : List String) (bundles : List (Nat × Nat)) (next : Nat)
    (b : WorkloadArchive ν κ) : Prop where
  id_mem : ∀ id∈b.entries, id∈ids
  bundle_mem : ∀ k bundle, b.bundles.lookup k=some bundle → (k,bundle.bytes)∈bundles
  entriesCapacity_le : b.entriesCapacity ≤ c.entries
  bundlesCapacity_le : b.bundlesCapacity ≤ c.bundles
  next_le : next ≤ b.nextBundle

theorem bundles_length_le {t : AList (fun _ : Nat => Bundle ν κ)} {bundles : List (Nat × Nat)}
    (h : ∀ k bundle, t.lookup k=some bundle → (k,bundle.bytes)∈bundles) :
    t.keys.length ≤ bundles.length := by
  rw [← List.length_map Prod.fst]
  refine keys_length_le (fun k hk => ?_)
  obtain ⟨bundle,hbundle⟩ := Option.isSome_iff_exists.mp (AList.lookup_isSome.mpr hk)
  exact List.mem_map.mpr ⟨_,h k bundle hbundle,rfl⟩

section Lists
variable {α : Type}

theorem sum_le_of_sublist {l l' : List Nat} (h : l.Sublist l') : l.sum ≤ l'.sum :=
  h.sum_le_sum (fun _ _ => Nat.zero_le _)

theorem sum_le_of_subperm {l l' : List α} (h : l.Subperm l') (f : α → Nat) :
    (l.map f).sum ≤ (l'.map f).sum := by
  obtain ⟨m,hperm,hsub⟩ := h
  rw [← (hperm.map f).sum_eq]
  exact sum_le_of_sublist (hsub.map f)

theorem filter_sublist_filter {p q : α → Bool} {l : List α} (h : ∀ x∈l, p x=true → q x=true) :
    (l.filter p).Sublist (l.filter q) := by
  have heq : l.filter p=(l.filter q).filter p := by
    rw [List.filter_filter]
    refine List.filter_congr (fun x hx => ?_)
    cases hp : p x with
    | false => rfl
    | true => rw [h x hx hp]; rfl
  rw [heq]
  exact List.filter_sublist

/-- An element that passes only the weaker test adds its weight. -/
theorem sum_filter_gain (f : α → Nat) {p q : α → Bool} {l : List α} {x : α} (hx : x∈l)
    (hp : p x=false) (hq : q x=true) (h : ∀ y, p y=true → q y=true) :
    ((l.filter p).map f).sum+f x ≤ ((l.filter q).map f).sum := by
  obtain ⟨before,after,rfl⟩ := List.append_of_mem hx
  have hbefore := sum_le_of_sublist ((filter_sublist_filter (l := before) (fun y _ => h y)).map f)
  have hafter := sum_le_of_sublist ((filter_sublist_filter (l := after) (fun y _ => h y)).map f)
  simp only [List.filter_append,List.filter_cons,hp,hq,if_true,Bool.false_eq_true,if_false,
    List.map_append,List.map_cons,List.sum_append,List.sum_cons]
  omega

end Lists

namespace Stock
variable {L : Layout} {h : Heap ν κ} {c : Containers} {E B T next : Nat} {ids : List String}
  {bundles : List (Nat × Nat)} {b b' : WorkloadArchive ν κ}

theorem frame (hs : Stock c ids bundles next b) (he : b'.entries=b.entries)
    (hb : b'.bundles=b.bundles) (hec : b'.entriesCapacity=b.entriesCapacity)
    (hbc : b'.bundlesCapacity=b.bundlesCapacity) (hn : b'.nextBundle=b.nextBundle) :
    Stock c ids bundles next b' := by
  obtain ⟨h₁,h₂,h₃,h₄,h₅⟩ := hs
  constructor
  · rwa [he]
  · rwa [hb]
  · rwa [hec]
  · rwa [hbc]
  · rwa [hn]

theorem rememberEvicted (hs : Stock c ids bundles next b) (t : Tombstone) :
    Stock c ids bundles next (rememberEvicted h b t) := by
  refine rememberEvicted_rule ?_ ?_
  · intro a₁ t' a₂ hs₁ hp
    obtain ⟨rest,-,rfl⟩ := popEvicted_cases hp
    exact hs₁.frame rfl rfl rfl rfl rfl
  · unfold pushTombstone
    split
    · exact hs
    · exact hs.frame rfl rfl rfl rfl rfl

theorem forgetTombstone (hs : Stock c ids bundles next b) (id : String) :
    Stock c ids bundles next (forgetTombstone b id) := by
  unfold WorkloadArchive.forgetTombstone
  split
  · exact hs
  · exact hs.frame rfl rfl rfl rfl rfl

variable (hh : Holds h c E B T) (hE : ids.length ≤ E) (hB : bundles.length ≤ B)
include hh

theorem releaseBundle (hB : bundles.length ≤ B) (hs : Stock c ids bundles next b) (k : Nat) :
    Stock c ids bundles next (releaseBundle h b k) := by
  unfold WorkloadArchive.releaseBundle
  split
  · exact hs
  · rename_i bundle hbundle
    simp only
    split
    · have hmem : ∀ j bundle', (b.bundles.erase k).lookup j=some bundle' →
          (j,bundle'.bytes)∈bundles :=
        fun j bundle' hj => hs.bundle_mem j bundle' (lookup_of_erase hj)
      exact ⟨hs.id_mem,hmem,hs.entriesCapacity_le,hh.bundles_le _ _ _ hs.bundlesCapacity_le
        ((bundles_length_le hmem).trans hB),hs.next_le⟩
    · refine ⟨hs.id_mem,?_,hs.entriesCapacity_le,hs.bundlesCapacity_le,hs.next_le⟩
      intro j bundle' hj
      by_cases hjk : j=k
      · subst hjk
        rw [AList.lookup_insert,Option.some.injEq] at hj
        exact hj ▸ hs.bundle_mem j bundle hbundle
      · exact hs.bundle_mem j bundle' (by rwa [AList.lookup_insert_ne hjk] at hj)

include hE hB

theorem takeEntry (hs : Stock c ids bundles next b) {id : String} {entry : Entry ν}
    (ht : takeEntry L h b id=some (entry,b')) : Stock c ids bundles next b' := by
  unfold WorkloadArchive.takeEntry at ht
  split at ht
  · cases ht
  · cases ht
    have hmem : ∀ id'∈b.entries.erase id, id'∈ids :=
      fun id' hid' => hs.id_mem id' (AList.mem_erase.mp hid').2
    refine releaseBundle hh hB ?_ _
    exact ⟨hmem,hs.bundle_mem,hh.entries_le _ _ _ hs.entriesCapacity_le
      ((keys_length_le hmem).trans hE),hs.bundlesCapacity_le,hs.next_le⟩

theorem evictId (hs : Stock c ids bundles next b) (id : String) :
    Stock c ids bundles next (evictId L h b id) := by
  unfold WorkloadArchive.evictId
  split
  · exact hs
  · rename_i entry b₁ ht
    refine rememberEvicted ?_ _
    exact (hs.takeEntry hh hE hB ht).frame rfl rfl rfl rfl rfl

theorem reject (hs : Stock c ids bundles next b) (t : Tombstone) :
    Stock c ids bundles next (reject L h b t) := (hs.evictId hh hE hB t.id).rememberEvicted t

theorem recordPoint (hs : Stock c ids bundles next b) (bundleId : Nat)
    (p : String × ProcessIdentityStabilityV4 × WorkloadHistoryPoint ν) (hid : p.1∈ids) :
    Stock c ids bundles next (recordPoint L h bundleId b p) := by
  obtain ⟨id,stability,point⟩ := p
  have hopen : Stock c ids bundles next (openEntry L h bundleId id stability point b).2.2 := by
    unfold openEntry
    split
    · rename_i previous b₁ ht
      exact hs.takeEntry hh hE hB ht
    · exact hs
  refine forgetTombstone ?_ id
  have hmem (entry : Entry ν) :
      ∀ id'∈(openEntry L h bundleId id stability point b).2.2.entries.insert id entry, id'∈ids := by
    intro id' hid'
    obtain rfl | hid' := (AList.mem_insert _).mp hid'
    · exact hid
    · exact hopen.id_mem id' hid'
  exact ⟨hmem _,hopen.bundle_mem,hh.entries_le _ _ _ hopen.entriesCapacity_le
    ((keys_length_le (hmem _)).trans hE),hopen.bundlesCapacity_le,hopen.next_le⟩

end Stock

theorem Stock.openBundle {h : Heap ν κ} {c : Containers} {E B T next : Nat} {ids : List String}
    {bundles : List (Nat × Nat)} {b : WorkloadArchive ν κ} (hh : Holds h c E B T)
    (hs : Stock c ids bundles next b) (catalog : InspectionCatalog ν κ) (bytes : Nat)
    (hB : bundles.length+1 ≤ B) :
    Stock c ids (bundles++[(b.nextBundle+1,bytes)]) next (openBundle h b catalog bytes) := by
  have hmem : ∀ k bundle, (WorkloadArchive.openBundle h b catalog bytes).bundles.lookup k=
      some bundle → (k,bundle.bytes)∈bundles++[(b.nextBundle+1,bytes)] := by
    intro k bundle hk
    simp only [WorkloadArchive.openBundle] at hk
    by_cases hnew : k=b.nextBundle+1
    · subst hnew
      rw [AList.lookup_insert,Option.some.injEq] at hk
      exact hk ▸ List.mem_append_right _ List.mem_cons_self
    · rw [AList.lookup_insert_ne hnew] at hk
      exact List.mem_append_left _ (hs.bundle_mem k bundle hk)
  have hlen := bundles_length_le hmem
  rw [List.length_append] at hlen
  exact ⟨hs.id_mem,hmem,hs.entriesCapacity_le,
    hh.bundles_le _ _ _ hs.bundlesCapacity_le (hlen.trans hB),Nat.le_succ_of_le hs.next_le⟩

theorem Stock.shrinkContainers {h : Heap ν κ} {c : Containers} {next : Nat} {ids : List String}
    {bundles : List (Nat × Nat)} {b : WorkloadArchive ν κ} (hs : Stock c ids bundles next b) :
    Stock c ids bundles next (shrinkContainers h b) :=
  ⟨hs.id_mem,hs.bundle_mem,(shrunk_le _ _).trans hs.entriesCapacity_le,
    (shrunk_le _ _).trans hs.bundlesCapacity_le,hs.next_le⟩

section Tombstones
variable {L : Layout} {h : Heap ν κ} {b b' : WorkloadArchive ν κ}

theorem rememberEvicted_sum (w : Tombstone → Nat) (t : Tombstone) :
    ((rememberEvicted h b t).evicted.map w).sum ≤ (b.evicted.map w).sum+w t := by
  refine rememberEvicted_rule
    (P := fun b' => (b'.evicted.map w).sum ≤ (b.evicted.map w).sum+w t) ?_ ?_
  · intro a₁ t' a₂ hle hp
    obtain ⟨rest,hev,rfl⟩ := popEvicted_cases hp
    rw [hev,List.map_cons,List.sum_cons] at hle
    exact (Nat.le_add_left _ _).trans hle
  · unfold pushTombstone
    split
    · exact Nat.le_add_right _ _
    · simp

theorem rememberEvicted_capacity {c : Containers} {E B T : Nat} (hh : Holds h c E B T)
    (hlen : b.evicted.length ≤ T) (hcap : b.evictedCapacity ≤ c.evicted) (t : Tombstone) :
    (rememberEvicted h b t).evictedCapacity ≤ c.evicted := by
  refine rememberEvicted_rule (P := fun b' => b'.evictedCapacity ≤ c.evicted) ?_ ?_
  · intro a₁ t' a₂ hle hp
    obtain ⟨rest,-,rfl⟩ := popEvicted_cases hp
    exact hle
  · unfold pushTombstone
    split
    · exact hcap
    · exact hh.evicted_le _ _ hlen hcap

theorem rejects_lookup (ts : List Tombstone) (b : WorkloadArchive ν κ) (id : String) :
    (ts.foldl (reject L h) b).entries.lookup id=
      if id∈ts.map (·.id) then none else b.entries.lookup id := by
  induction ts generalizing b with
  | nil => rfl
  | cons t ts ih =>
    rw [List.foldl_cons,ih,reject,rememberEvicted_entries,evictId_entries]
    by_cases hid : id=t.id
    · subst hid
      simp
    · simp [hid]

theorem popTombstones_of_le {target : Nat} (hfits : b.retainedBytes L ≤ target) :
    popTombstones L target b=b := by
  unfold popTombstones
  cases b.evicted.length with
  | zero => rfl
  | succ n => exact if_neg (Nat.not_lt_of_le hfits)

/-- Of the ids known before, those that have no entry any more. -/
def fallen (known : List String) (b : WorkloadArchive ν κ) : List String :=
  known.filter (fun id => decide (id∉b.entries))

/-- Every tombstone is counted in `n` or is that of an id that lost its entry. -/
structure Mourned (c : Containers) (known : List String) (n : (Tombstone → Nat) → Nat)
    (b : WorkloadArchive ν κ) : Prop where
  evictedCapacity_le : b.evictedCapacity ≤ c.evicted
  evicted_le : ∀ w : Tombstone → Nat, (b.evicted.map w).sum ≤
    n w+((fallen known b).map (fun id => w ⟨id,id.utf8ByteSize⟩)).sum

namespace Mourned
variable {c : Containers} {E B T : Nat} {known : List String} {n : (Tombstone → Nat) → Nat}

theorem length_le (hm : Mourned c known n b) :
    b.evicted.length ≤ n (fun _ => 1)+known.length := by
  have hle := hm.evicted_le (fun _ => 1)
  have hfallen : (fallen known b).length ≤ known.length := List.length_filter_le _ _
  simp only [List.map_const',List.sum_replicate_nat,Nat.mul_one] at hle
  omega

theorem quiet (hm : Mourned c known n b) (hcap : b'.evictedCapacity ≤ c.evicted)
    (hev : b'.evicted.Sublist b.evicted) (hent : ∀ id∈known, id∈b'.entries → id∈b.entries) :
    Mourned c known n b' := by
  refine ⟨hcap,fun w => ?_⟩
  have hfallen : (fallen known b).Sublist (fallen known b') := by
    refine filter_sublist_filter (fun id hid hgone => ?_)
    simp only [decide_eq_true_eq] at hgone ⊢
    exact fun hmem => hgone (hent id hid hmem)
  have hle := hm.evicted_le w
  have hgraves := sum_le_of_sublist (hev.map w)
  have hgone := sum_le_of_sublist (hfallen.map (fun id => w ⟨id,id.utf8ByteSize⟩))
  omega

theorem mono {n' : (Tombstone → Nat) → Nat} (hm : Mourned c known n b) (hn : ∀ w, n w ≤ n' w) :
    Mourned c known n' b :=
  ⟨hm.evictedCapacity_le,fun w => (hm.evicted_le w).trans (Nat.add_le_add_right (hn w) _)⟩

theorem rememberEvicted (hh : Holds h c E B T) (hT : n (fun _ => 1)+known.length ≤ T)
    (hm : Mourned c known n b) (t : Tombstone) :
    Mourned c known (fun w => n w+w t) (rememberEvicted h b t) := by
  refine ⟨rememberEvicted_capacity hh (hm.length_le.trans hT) hm.evictedCapacity_le t,?_⟩
  intro w
  have hle := hm.evicted_le w
  have hpush := rememberEvicted_sum (h := h) (b := b) w t
  simp only [fallen,rememberEvicted_entries] at hle ⊢
  omega

theorem evictId (hh : Holds h c E B T) (hT : n (fun _ => 1)+known.length ≤ T)
    (hm : Mourned c known n b) {id : String} (hid : id∈b.entries → id∈known) :
    Mourned c known n (evictId L h b id) := by
  have hentries := evictId_entries (L := L) (h := h) (a := b) id
  unfold WorkloadArchive.evictId at hentries ⊢
  split
  · exact hm
  · rename_i entry b₁ ht
    simp only [ht] at hentries ⊢
    obtain ⟨hev,hcap⟩ := takeEntry_evicted ht
    have hmem : id∈b.entries := AList.lookup_isSome.mp (by rw [(takeEntry_entries ht).1]; rfl)
    generalize hb₂ : ({b₁ with released := b₁.released++[id]} : WorkloadArchive ν κ)=b₂
      at hentries ⊢
    have hev₂ : b₂.evicted=b.evicted := hb₂ ▸ hev
    have hcap₂ : b₂.evictedCapacity=b.evictedCapacity := hb₂ ▸ hcap
    refine ⟨rememberEvicted_capacity hh (hev₂ ▸ hm.length_le.trans hT)
      (hcap₂ ▸ hm.evictedCapacity_le) _,?_⟩
    intro w
    have hle := hm.evicted_le w
    have hpush := rememberEvicted_sum (h := h) (b := b₂) w ⟨id,id.utf8ByteSize⟩
    have hgone := sum_filter_gain (fun id => w ⟨id,id.utf8ByteSize⟩) (hid hmem)
      (p := fun id => decide (id∉b.entries)) (q := fun id' => decide (id'∉b.entries.erase id))
      (by simpa using hmem) (by simp) (by simp +contextual)
    rw [hev₂] at hpush
    rw [fallen,hentries]
    unfold fallen at hle
    omega

theorem reject (hh : Holds h c E B T) (hT : n (fun _ => 1)+known.length ≤ T)
    (hm : Mourned c known n b) {t : Tombstone} (hid : t.id∈b.entries → t.id∈known) :
    Mourned c known (fun w => n w+w t) (reject L h b t) :=
  (hm.evictId hh hT hid).rememberEvicted hh hT t

theorem rejects (hh : Holds h c E B T) (ts : List Tombstone)
    (hT : n (fun _ => 1)+ts.length+known.length ≤ T) (hm : Mourned c known n b)
    (hid : ∀ t∈ts, t.id∈b.entries → t.id∈known) :
    Mourned c known (fun w => n w+(ts.map w).sum) (ts.foldl (WorkloadArchive.reject L h) b) := by
  induction ts generalizing b n with
  | nil => exact hm
  | cons t ts ih =>
    rw [List.length_cons] at hT
    have hstep := hm.reject (L := L) hh (by omega) (hid t List.mem_cons_self)
    have hlater : ∀ t'∈ts, t'.id∈(WorkloadArchive.reject L h b t).entries → t'.id∈known := by
      intro t' ht' hmem
      rw [WorkloadArchive.reject,rememberEvicted_entries,evictId_entries,AList.mem_erase] at hmem
      exact hid t' (List.mem_cons_of_mem _ ht') hmem.2
    have hT' : (fun w => n w+w t) (fun _ => 1)+ts.length+known.length ≤ T := by
      simp only
      omega
    have hrest := ih hT' hstep hlater
    simpa only [List.foldl_cons,List.map_cons,List.sum_cons,Nat.add_assoc] using hrest

end Mourned

end Tombstones

/-- Capacity of a history after one more point. -/
def pushedCapacity (h : Heap ν κ) (previous : Option (Entry ν)) : Nat :=
  let len := previous.elim 0 (·.history.length)
  let capacity := previous.elim 0 (·.historyCapacity)
  let len := if len=maxPoints then len-1 else len
  h.pushCapacity len
    (if len=capacity ∧ capacity*2>maxPoints then h.reserveCapacity len capacity (maxPoints-len)
    else capacity)

/-- Points of some ids, each after the point its entry had, under one bundle. -/
structure Recorded (h : Heap ν κ) (bundleId seq : Nat) (ids : List String)
    (b b' : WorkloadArchive ν κ) : Prop where
  other : ∀ id∉ids, b'.entries.lookup id=b.entries.lookup id
  own : ∀ id∈ids, ∃ entry, b'.entries.lookup id=some entry ∧ entry.bundleId=bundleId ∧
    entry.lastSampleSeq=seq ∧ entry.historyCapacity=pushedCapacity h (b.entries.lookup id)
  evicted : b'.evicted.Sublist b.evicted
  evictedCapacity : b'.evictedCapacity=b.evictedCapacity

section Recorded
variable {L : Layout} {h : Heap ν κ} {bundleId seq : Nat} {b b' : WorkloadArchive ν κ}

theorem pushPoint_historyCapacity (entry : Entry ν) (point : WorkloadHistoryPoint ν) :
    (pushPoint h entry point).historyCapacity=pushedCapacity h (some entry) := by
  by_cases hfull : entry.history.length=maxPoints <;> simp [pushPoint,pushedCapacity,hfull]

theorem forgetTombstone_sublist (id : String) :
    (forgetTombstone b id).evicted.Sublist b.evicted ∧
      (forgetTombstone b id).evictedCapacity=b.evictedCapacity := by
  unfold forgetTombstone
  split
  · exact ⟨.refl _,rfl⟩
  · exact ⟨List.eraseP_sublist,rfl⟩

theorem Recorded.point (b : WorkloadArchive ν κ) (id : String)
    (stability : ProcessIdentityStabilityV4) {point : WorkloadHistoryPoint ν}
    (hseq : point.sampleSeq=seq) :
    Recorded h bundleId seq [id] b (recordPoint L h bundleId b (id,stability,point)) := by
  have hopen : (openEntry L h bundleId id stability point b).1.bundleId=bundleId ∧
      (openEntry L h bundleId id stability point b).1.lastSampleSeq=point.sampleSeq ∧
      pushedCapacity h (some (openEntry L h bundleId id stability point b).1)=
        pushedCapacity h (b.entries.lookup id) ∧
      (openEntry L h bundleId id stability point b).2.2.evicted=b.evicted ∧
      (openEntry L h bundleId id stability point b).2.2.evictedCapacity=b.evictedCapacity := by
    unfold openEntry
    split
    · rename_i previous b₁ ht
      rw [(takeEntry_entries ht).1]
      exact ⟨rfl,rfl,rfl,takeEntry_evicted ht⟩
    · rename_i ht
      rw [takeEntry_eq_none.mp ht]
      exact ⟨rfl,rfl,rfl,rfl,rfl⟩
  obtain ⟨hbundle,hlast,hcap,hev,hevcap⟩ := hopen
  have hforget := forgetTombstone_sublist (b := putEntry L h
    (openEntry L h bundleId id stability point b).2.2 id
    (pushPoint h (openEntry L h bundleId id stability point b).1
      (openEntry L h bundleId id stability point b).2.1)) id
  refine ⟨?_,?_,hev ▸ hforget.1,hforget.2.trans hevcap⟩
  · intro id' hid'
    exact (recordPoint_spec L h bundleId b id stability point).1 id'
      (fun heq => hid' (List.mem_singleton.mpr heq))
  · intro id' hid'
    obtain rfl := List.mem_singleton.mp hid'
    unfold recordPoint
    simp only [forgetTombstone_entries,putEntry]
    refine ⟨_,AList.lookup_insert _,hbundle,hlast.trans hseq,?_⟩
    rw [pushPoint_historyCapacity,hcap]

theorem Recorded.refl (b : WorkloadArchive ν κ) : Recorded h bundleId seq [] b b :=
  ⟨fun _ _ => rfl,fun _ hid => absurd hid List.not_mem_nil,.refl _,rfl⟩

theorem Recorded.then {b₁ b₂ : WorkloadArchive ν κ} {id : String} {ids : List String}
    (hid : id∉ids) (h₁ : Recorded h bundleId seq [id] b b₁)
    (h₂ : Recorded h bundleId seq ids b₁ b₂) : Recorded h bundleId seq (id::ids) b b₂ := by
  refine ⟨?_,?_,h₂.evicted.trans h₁.evicted,h₂.evictedCapacity.trans h₁.evictedCapacity⟩
  · intro id' hid'
    rw [List.mem_cons,not_or] at hid'
    rw [h₂.other id' hid'.2,h₁.other id' (by simpa using hid'.1)]
  · intro id' hid'
    obtain rfl | hid' := List.mem_cons.mp hid'
    · obtain ⟨entry,hentry,hrest⟩ := h₁.own id' List.mem_cons_self
      exact ⟨entry,(h₂.other id' hid).trans hentry,hrest⟩
    · have hne : id'∉[id] := by
        rintro hmem
        exact hid (List.mem_singleton.mp hmem ▸ hid')
      rw [← h₁.other id' hne]
      exact h₂.own id' hid'

variable (L h bundleId) in
/-- The points of a family. -/
theorem Recorded.points
    (ps : List (String × ProcessIdentityStabilityV4 × WorkloadHistoryPoint ν))
    (hnodup : (ps.map (·.1)).Nodup) (hseq : ∀ p∈ps, p.2.2.sampleSeq=seq)
    (b : WorkloadArchive ν κ) :
    Recorded h bundleId seq (ps.map (·.1)) b (ps.foldl (recordPoint L h bundleId) b) := by
  induction ps generalizing b with
  | nil => exact .refl b
  | cons p ps ih =>
    obtain ⟨id,stability,point⟩ := p
    obtain ⟨hfresh,hnodup⟩ := List.nodup_cons.mp hnodup
    have hpoint : Recorded h bundleId seq [id] b
        (recordPoint L h bundleId b (id,stability,point)) :=
      .point b id stability (hseq _ List.mem_cons_self)
    exact hpoint.then hfresh (ih hnodup (fun p hp => hseq p (List.mem_cons_of_mem _ hp)) _)

end Recorded

section Room
variable (L : Layout) (h : Heap ν κ) (enc : Encoder ν κ ρ) (snapshot : RuntimeSnapshot)
  (sampledAtMs : Nat) (rows : List (ProcessViewRow ρ)) (a : WorkloadArchive ν κ) (c : Containers)

/-- The ids of the families that some rows open and that are dropped as too large. -/
def rejectedIds (rest : List (ProcessViewRow ρ)) : List String :=
  (rest.filter (fun row => !row.isGroupedProcess &&
    !admits L enc snapshot sampledAtMs rows a.budget row)).flatMap (familyIds snapshot rows)

/-- The bytes of the bundles of those that are not dropped. -/
def newBundles (rest : List (ProcessViewRow ρ)) : List Nat :=
  (rest.filter (fun row => !row.isGroupedProcess &&
    admits L enc snapshot sampledAtMs rows a.budget row)).map
      (rowBundleBytes L enc snapshot sampledAtMs rows)

/-- The workloads with an entry that the rows still to come carry. -/
def laterIds (rest : List (ProcessViewRow ρ)) : List String :=
  (admittedIds L enc snapshot sampledAtMs rows a.budget rest).filter
    (fun id => decide (id∈a.entries))

/-- Among stale entries it sorts before every workload still to come. -/
def GoesFirst (rest : List (ProcessViewRow ρ)) (id : String) : Prop :=
  ∀ later∈laterIds L enc snapshot sampledAtMs rows a rest,
    ∀ entry'∈a.entries.lookup later, ∀ entry∈a.entries.lookup id,
      ¬staleBefore (staleKey entry',later) (staleKey entry,id)

instance (rest : List (ProcessViewRow ρ)) (id : String) :
    Decidable (GoesFirst L enc snapshot sampledAtMs rows a rest id) :=
  inferInstanceAs (Decidable (∀ later∈laterIds L enc snapshot sampledAtMs rows a rest,
    ∀ entry'∈a.entries.lookup later, ∀ entry∈a.entries.lookup id,
      ¬staleBefore (staleKey entry',later) (staleKey entry,id)))

/-- The entries that no row has opened yet and that need not go. -/
def keptIds (done rest : List (ProcessViewRow ρ)) : List String :=
  a.entries.keys.filter (fun id => decide (id∉openedIds snapshot rows done ∧
    ¬GoesFirst L enc snapshot sampledAtMs rows a rest id))

/-- The entries that were dropped as too large, or had to go. -/
def buriedIds (done rest : List (ProcessViewRow ρ)) : List String :=
  a.entries.keys.filter (fun id =>
    decide (id∉admittedIds L enc snapshot sampledAtMs rows a.budget done ∧
      id∉keptIds L enc snapshot sampledAtMs rows a done rest))

/-- What a recorded entry is accounted with. -/
def grownHeap (id : String) : Nat :=
  id.utf8ByteSize+pushedCapacity h (a.entries.lookup id)*L.point

/-- Some of the ids have their catalog in a bundle. -/
def names (ids : List String) (k : Nat) : Bool :=
  ids.any (fun id => (a.entries.lookup id).any (fun entry => entry.bundleId=k))

/-- What may be retained after the rows done, once the entries that go first are gone: the
entries that are left and those recorded, their bundles, the tombstones and the containers. -/
def retainable (done rest : List (ProcessViewRow ρ)) : Nat :=
  let kept := keptIds L enc snapshot sampledAtMs rows a done rest
  (kept.map (fun id => (a.entries.lookup id).elim 0 (entryHeap L id))).sum+
    ((admittedIds L enc snapshot sampledAtMs rows a.budget done).map (grownHeap L h a)).sum+
    ((a.bundles.entries.filter (fun e => names a kept e.1)).map (fun e => e.2.bytes)).sum+
    (newBundles L enc snapshot sampledAtMs rows a done).sum+
    (a.evictedBytes+
      ((buriedIds L enc snapshot sampledAtMs rows a done rest).map (·.utf8ByteSize)).sum+
      ((rejectedIds L enc snapshot sampledAtMs rows a done).map
        (fun id => max id.utf8ByteSize (h.formatCapacity id))).sum)+
    (c.entries*(L.entrySlot+32)+c.bundles*(L.bundleSlot+32)+c.evicted*L.string)

/-- After every row that a workload with an entry still follows, it all fits. -/
def Room : (done rest : List (ProcessViewRow ρ)) → Prop
  | _,[] => True
  | done,row::rest =>
    (row.isGroupedProcess=true ∨ laterIds L enc snapshot sampledAtMs rows a rest=[] ∨
      retainable L h enc snapshot sampledAtMs rows a c (done++[row]) rest ≤ a.target) ∧
    Room (done++[row]) rest

instance decidableRoom : ∀ done rest : List (ProcessViewRow ρ),
    Decidable (Room L h enc snapshot sampledAtMs rows a c done rest)
  | _,[] => inferInstanceAs (Decidable True)
  | done,row::rest =>
    have := decidableRoom (done++[row]) rest
    inferInstanceAs (Decidable ((row.isGroupedProcess=true ∨
      laterIds L enc snapshot sampledAtMs rows a rest=[] ∨
      retainable L h enc snapshot sampledAtMs rows a c (done++[row]) rest ≤ a.target) ∧
      Room L h enc snapshot sampledAtMs rows a c (done++[row]) rest))

/-- The sample has room for its workloads: with containers that suffice for it, what may be
retained in its middle fits beside the reservations. -/
structure HasRoom : Prop where
  entriesCapacity_le : a.entriesCapacity ≤ c.entries
  bundlesCapacity_le : a.bundlesCapacity ≤ c.bundles
  evictedCapacity_le : a.evictedCapacity ≤ c.evicted
  holds : Holds h c (a.entries.keys.length+(openedIds snapshot rows rows).length)
    (a.bundles.keys.length+(newBundles L enc snapshot sampledAtMs rows a rows).length)
    (a.evicted.length+a.entries.keys.length+
      (rejectedIds L enc snapshot sampledAtMs rows a rows).length)
  room : Room L h enc snapshot sampledAtMs rows a c [] rows

end Room

section Rows
variable {L : Layout} {h : Heap ν κ} {enc : Encoder ν κ ρ} {snapshot : RuntimeSnapshot}
  {sampledAtMs : Nat} {rows : List (ProcessViewRow ρ)} {a : WorkloadArchive ν κ}
  {done rest : List (ProcessViewRow ρ)} {row : ProcessViewRow ρ}

theorem openedIds_append : openedIds snapshot rows (done++rest)=
    openedIds snapshot rows done++openedIds snapshot rows rest := by
  simp [openedIds]

theorem admittedIds_append {budget : Nat} :
    admittedIds L enc snapshot sampledAtMs rows budget (done++rest)=
      admittedIds L enc snapshot sampledAtMs rows budget done++
        admittedIds L enc snapshot sampledAtMs rows budget rest := by
  simp [admittedIds]

theorem rejectedIds_append : rejectedIds L enc snapshot sampledAtMs rows a (done++rest)=
    rejectedIds L enc snapshot sampledAtMs rows a done++
      rejectedIds L enc snapshot sampledAtMs rows a rest := by
  simp [rejectedIds]

theorem newBundles_append : newBundles L enc snapshot sampledAtMs rows a (done++rest)=
    newBundles L enc snapshot sampledAtMs rows a done++
      newBundles L enc snapshot sampledAtMs rows a rest := by
  simp [newBundles]

/-- What a row adds to the four lists. -/
structure Opens (L : Layout) (enc : Encoder ν κ ρ) (snapshot : RuntimeSnapshot) (sampledAtMs : Nat)
    (rows : List (ProcessViewRow ρ)) (a : WorkloadArchive ν κ) (done : List (ProcessViewRow ρ))
    (row : ProcessViewRow ρ) (opened admitted rejected : List String) (bundles : List Nat) :
    Prop where
  opened_eq : openedIds snapshot rows (done++[row])=openedIds snapshot rows done++opened
  admitted_eq : admittedIds L enc snapshot sampledAtMs rows a.budget (done++[row])=
    admittedIds L enc snapshot sampledAtMs rows a.budget done++admitted
  rejected_eq : rejectedIds L enc snapshot sampledAtMs rows a (done++[row])=
    rejectedIds L enc snapshot sampledAtMs rows a done++rejected
  bundles_eq : newBundles L enc snapshot sampledAtMs rows a (done++[row])=
    newBundles L enc snapshot sampledAtMs rows a done++bundles

variable (L enc snapshot sampledAtMs rows a) in
theorem Opens.grouped (done : List (ProcessViewRow ρ)) (hrow : row.isGroupedProcess=true) :
    Opens L enc snapshot sampledAtMs rows a done row [] [] [] [] := by
  constructor <;> simp [openedIds,admittedIds,rejectedIds,newBundles,hrow]

variable (L enc snapshot sampledAtMs rows a) in
theorem Opens.admitted (done : List (ProcessViewRow ρ)) (hrow : ¬row.isGroupedProcess)
    (hfits : admits L enc snapshot sampledAtMs rows a.budget row=true) :
    Opens L enc snapshot sampledAtMs rows a done row (familyIds snapshot rows row)
      (familyIds snapshot rows row) [] [rowBundleBytes L enc snapshot sampledAtMs rows row] := by
  constructor <;> simp [openedIds,admittedIds,rejectedIds,newBundles,hrow,hfits]

variable (L enc snapshot sampledAtMs rows a) in
theorem Opens.rejected (done : List (ProcessViewRow ρ)) (hrow : ¬row.isGroupedProcess)
    (hfits : admits L enc snapshot sampledAtMs rows a.budget row=false) :
    Opens L enc snapshot sampledAtMs rows a done row (familyIds snapshot rows row) []
      (familyIds snapshot rows row) [] := by
  constructor <;> simp [openedIds,admittedIds,rejectedIds,newBundles,hrow,hfits]

theorem laterIds_sub {id : String} (hid : id∈laterIds L enc snapshot sampledAtMs rows a rest) :
    id∈laterIds L enc snapshot sampledAtMs rows a (row::rest) := by
  unfold laterIds at *
  rw [← List.singleton_append,admittedIds_append,List.filter_append]
  exact List.mem_append_right _ hid

/-- Who goes before more workloads goes before fewer. -/
theorem GoesFirst.fewer {id : String}
    (hid : GoesFirst L enc snapshot sampledAtMs rows a (row::rest) id) :
    GoesFirst L enc snapshot sampledAtMs rows a rest id :=
  fun later hlater => hid later (laterIds_sub hlater)

theorem staleBefore_refl (x : (Bool × Nat) × String) : staleBefore x x :=
  Or.inr ⟨rfl,Nat.le_refl _⟩

theorem staleBefore_trans {x y z : (Bool × Nat) × String} (hxy : staleBefore x y)
    (hyz : staleBefore y z) : staleBefore x z := by
  obtain ⟨hx,hy⟩ | ⟨heq,hle⟩ := hxy <;> obtain ⟨hy',hz⟩ | ⟨heq',hle'⟩ := hyz
  · rw [hy] at hy'
    cases hy'
  · exact Or.inl ⟨hx,heq' ▸ hy⟩
  · exact Or.inl ⟨heq.trans hy',hz⟩
  · exact Or.inr ⟨heq.trans heq',hle.trans hle'⟩

theorem staleBefore_total (x y : (Bool × Nat) × String) : staleBefore x y ∨ staleBefore y x := by
  obtain ⟨⟨kx,nx⟩,x⟩ := x
  obtain ⟨⟨ky,ny⟩,y⟩ := y
  cases kx <;> cases ky <;> simp [staleBefore,Nat.le_total]

instance : IsTrans ((Bool × Nat) × String) staleBefore := ⟨fun _ _ _ => staleBefore_trans⟩

instance : Std.Total (α := (Bool × Nat) × String) staleBefore := ⟨staleBefore_total⟩

theorem not_goesFirst {id : String} (hid : id∈laterIds L enc snapshot sampledAtMs rows a rest) :
    ¬GoesFirst L enc snapshot sampledAtMs rows a rest id := by
  intro hfirst
  have hmem : id∈a.entries := by simpa using (List.mem_filter.mp hid).2
  obtain ⟨entry,hentry⟩ := Option.isSome_iff_exists.mp (AList.lookup_isSome.mpr hmem)
  exact hfirst id hid entry hentry entry hentry (staleBefore_refl _)

end Rows

section Midway
variable (L : Layout) (h : Heap ν κ) (enc : Encoder ν κ ρ) (snapshot : RuntimeSnapshot)
  (sampledAtMs : Nat) (rows : List (ProcessViewRow ρ)) (a : WorkloadArchive ν κ) (c : Containers)

/-- The most that the tombstones from before and those of dropped families weigh. -/
def graves (done : List (ProcessViewRow ρ)) (w : Tombstone → Nat) : Nat :=
  (a.evicted.map w).sum+((rejectedIds L enc snapshot sampledAtMs rows a done).map
    (fun id => max (w ⟨id,id.utf8ByteSize⟩) (w ⟨id,h.formatCapacity id⟩))).sum

/-- The middle of a sample: only entries that go before all workloads to come are missing. -/
structure Midway (done rest : List (ProcessViewRow ρ)) (b : WorkloadArchive ν κ) : Prop where
  old : ∀ id entry, b.entries.lookup id=some entry → id∉openedIds snapshot rows done →
    a.entries.lookup id=some entry
  recorded : ∀ id entry, b.entries.lookup id=some entry → id∈openedIds snapshot rows done →
    id∈admittedIds L enc snapshot sampledAtMs rows a.budget done ∧
    entry.lastSampleSeq=snapshot.sampleSeq ∧ a.nextBundle < entry.bundleId ∧
    entryHeap L id entry=grownHeap L h a id
  present : ∀ id∈a.entries, id∈admittedIds L enc snapshot sampledAtMs rows a.budget done ∨
    (id∉openedIds snapshot rows done ∧ ¬GoesFirst L enc snapshot sampledAtMs rows a rest id) →
      id∈b.entries
  stock : ∃ bundles : List (Nat × Nat),
    bundles.map Prod.snd=newBundles L enc snapshot sampledAtMs rows a done ∧
    (∀ p∈bundles, a.nextBundle < p.1) ∧
    Stock c (a.entries.keys++openedIds snapshot rows rows)
      (a.bundles.entries.map (fun e => (e.1,e.2.bytes))++bundles) a.nextBundle b
  mourned : Mourned c a.entries.keys (graves L h enc snapshot sampledAtMs rows a done) b
  accounts : Accounts L (fun _ => 0) b
  frame : SameReserves a b
  sampleSeq_eq : b.sampleSeq=snapshot.sampleSeq

end Midway

namespace Midway
variable {L : Layout} {h : Heap ν κ} {enc : Encoder ν κ ρ} {snapshot : RuntimeSnapshot}
  {sampledAtMs : Nat} {rows : List (ProcessViewRow ρ)} {a b b' : WorkloadArchive ν κ}
  {c : Containers} {done rest : List (ProcessViewRow ρ)} {row : ProcessViewRow ρ}

theorem start (hroom : HasRoom L h enc snapshot sampledAtMs rows a c)
    (ha : Accounts L (fun _ => 0) a) :
    Midway L h enc snapshot sampledAtMs rows a c [] rows (begun snapshot sampledAtMs a) := by
  refine ⟨fun _ _ hentry _ => hentry,fun _ _ _ hid => absurd hid List.not_mem_nil,
    fun id hid _ => hid,⟨[],rfl,fun _ hp => absurd hp List.not_mem_nil,?_⟩,?_,
    ha.frame rfl rfl rfl rfl rfl rfl rfl,⟨rfl,rfl,rfl⟩,rfl⟩
  · refine ⟨fun id hid => List.mem_append_left _ (AList.mem_keys.mp hid),?_,
      hroom.entriesCapacity_le,hroom.bundlesCapacity_le,Nat.le_refl _⟩
    intro k bundle hk
    rw [List.append_nil]
    exact List.mem_map.mpr ⟨⟨k,bundle⟩,AList.mem_lookup_iff.mp hk,rfl⟩
  · exact ⟨hroom.evictedCapacity_le,fun w => Nat.le_add_right _ _⟩

theorem grouped (hrow : row.isGroupedProcess=true)
    (hm : Midway L h enc snapshot sampledAtMs rows a c done (row::rest) b) :
    Midway L h enc snapshot sampledAtMs rows a c (done++[row]) rest b := by
  obtain ⟨hopened,hadmitted,hrejected,hbundles⟩ := Opens.grouped L enc snapshot sampledAtMs
    rows a done hrow
  rw [List.append_nil] at hopened hadmitted hrejected hbundles
  refine ⟨?_,?_,?_,?_,?_,hm.accounts,hm.frame,hm.sampleSeq_eq⟩
  · rw [hopened]
    exact hm.old
  · rw [hopened,hadmitted]
    exact hm.recorded
  · rw [hopened,hadmitted]
    exact fun id hid hleft => hm.present id hid
      (hleft.imp_right (fun hkept => ⟨hkept.1,fun hfirst => hkept.2 hfirst.fewer⟩))
  · rw [hbundles]
    exact hm.stock
  · unfold graves
    rw [hrejected]
    exact hm.mourned

/-- A row that opens a family opens ids that no row before it opened. -/
theorem opened_fresh (hrows : rows=done++row::rest) (hunique : (openedIds snapshot rows rows).Nodup)
    (hrow : ¬row.isGroupedProcess) : (familyIds snapshot rows row).Nodup ∧
      ∀ id∈openedIds snapshot rows done, id∉familyIds snapshot rows row := by
  have hall : openedIds snapshot rows rows=openedIds snapshot rows done++
      (familyIds snapshot rows row++openedIds snapshot rows rest) := by
    rw [← openedIds_cons hrow,← openedIds_append,← hrows]
  rw [hall] at hunique
  obtain ⟨-,hlater,hdisjoint⟩ := List.nodup_append.mp hunique
  exact ⟨(List.nodup_append.mp hlater).1,fun id hid hfam =>
    hdisjoint id hid id (List.mem_append_left _ hfam) rfl⟩

theorem bundles_length {bundles : List (Nat × Nat)} (hrows : rows=done++rest)
    (hbytes : bundles.map Prod.snd=newBundles L enc snapshot sampledAtMs rows a done) :
    (a.bundles.entries.map (fun e => (e.1,e.2.bytes))++bundles).length+
        (newBundles L enc snapshot sampledAtMs rows a rest).length=
      a.bundles.keys.length+(newBundles L enc snapshot sampledAtMs rows a rows).length := by
  have hall := congrArg (fun l => (newBundles L enc snapshot sampledAtMs rows a l).length) hrows
  have hlen := congrArg List.length hbytes
  simp only [newBundles_append,List.length_append,List.length_map] at hall hlen
  simp only [List.length_append,List.length_map,AList.keys,List.keys]
  omega

theorem graves_count (done : List (ProcessViewRow ρ)) :
    graves L h enc snapshot sampledAtMs rows a done (fun _ => 1)=
      a.evicted.length+(rejectedIds L enc snapshot sampledAtMs rows a done).length := by
  simp only [graves,List.map_const',List.sum_replicate_nat,Nat.mul_one,Nat.max_self]

theorem old_known (hm : Midway L h enc snapshot sampledAtMs rows a c done rest b) {id : String}
    (hid : id∈b.entries) (hnew : id∉openedIds snapshot rows done) : id∈a.entries := by
  obtain ⟨entry,hentry⟩ := Option.isSome_iff_exists.mp (AList.lookup_isSome.mpr hid)
  exact AList.lookup_isSome.mp (by rw [hm.old id entry hentry hnew]; rfl)

theorem mem_iff_of_lookup {id : String} (heq : b'.entries.lookup id=b.entries.lookup id) :
    id∈b'.entries ↔ id∈b.entries := by
  rw [← AList.lookup_isSome,heq,AList.lookup_isSome]

/-- A dropped family weighs no more than its ids, each with one capacity or the other. -/
theorem drops_sum_le {ts : List Tombstone} {ids : List String}
    (hsub : (ts.map (·.id)).Subperm ids) (hcap : ∀ t∈ts, DropCapacity h t) (w : Tombstone → Nat) :
    (ts.map w).sum ≤
      (ids.map (fun id => max (w ⟨id,id.utf8ByteSize⟩) (w ⟨id,h.formatCapacity id⟩))).sum := by
  refine Nat.le_trans ?_ (sum_le_of_subperm hsub _)
  rw [List.map_map]
  refine List.sum_le_sum (fun t ht => ?_)
  obtain hcap | hcap := hcap t ht
  · exact (Nat.le_max_left _ _).trans' (hcap ▸ Nat.le_refl _)
  · exact (Nat.le_max_right _ _).trans' (hcap ▸ Nat.le_refl _)

/-- The graves of a dropped family. -/
theorem reject_mourned (hroom : HasRoom L h enc snapshot sampledAtMs rows a c)
    (hrows : rows=done++row::rest)
    (hm : Midway L h enc snapshot sampledAtMs rows a c done (row::rest) b)
    (hrejected : rejectedIds L enc snapshot sampledAtMs rows a (done++[row])=
      rejectedIds L enc snapshot sampledAtMs rows a done++familyIds snapshot rows row)
    (hfresh : ∀ id∈openedIds snapshot rows done, id∉familyIds snapshot rows row)
    {ts : List Tombstone} (hids : ∀ t∈ts, t.id∈familyIds snapshot rows row)
    (hsub : (ts.map (·.id)).Subperm (familyIds snapshot rows row))
    (hcap : ∀ t∈ts, DropCapacity h t) :
    Mourned c a.entries.keys (graves L h enc snapshot sampledAtMs rows a (done++[row]))
      (ts.foldl (WorkloadArchive.reject L h) b) := by
  have hlen : ts.length ≤ (familyIds snapshot rows row).length := by
    rw [← List.length_map (·.id)]
    exact hsub.length_le
  have hall : (rejectedIds L enc snapshot sampledAtMs rows a rows).length=
      (rejectedIds L enc snapshot sampledAtMs rows a done).length+
        (familyIds snapshot rows row).length+
        (rejectedIds L enc snapshot sampledAtMs rows a rest).length := by
    rw [← List.length_append,← hrejected,← List.length_append,← rejectedIds_append,
      List.append_assoc,List.singleton_append,← hrows]
  have hcount : graves L h enc snapshot sampledAtMs rows a done (fun _ => 1)+ts.length+
      a.entries.keys.length ≤ a.evicted.length+a.entries.keys.length+
        (rejectedIds L enc snapshot sampledAtMs rows a rows).length := by
    rw [graves_count]
    omega
  have hmourned := hm.mourned.rejects (L := L) hroom.holds ts hcount
    (fun t ht hmem => hm.old_known hmem (fun hdone => hfresh t.id hdone (hids t ht)))
  refine hmourned.mono (fun w => ?_)
  have hfamily := drops_sum_le hsub hcap w
  unfold graves
  rw [hrejected,List.map_append,List.sum_append]
  omega

/-- A row with a dropped family. -/
theorem reject (hroom : HasRoom L h enc snapshot sampledAtMs rows a c)
    (hrows : rows=done++row::rest) (hunique : (openedIds snapshot rows rows).Nodup)
    (hrow : ¬row.isGroupedProcess)
    (hm : Midway L h enc snapshot sampledAtMs rows a c done (row::rest) b)
    (hfits : admits L enc snapshot sampledAtMs rows a.budget row=false) {ts : List Tombstone}
    (hids : ∀ id, id∈ts.map (·.id) ↔ id∈familyIds snapshot rows row)
    (hsub : (ts.map (·.id)).Subperm (familyIds snapshot rows row))
    (hcap : ∀ t∈ts, DropCapacity h t) :
    Midway L h enc snapshot sampledAtMs rows a c (done++[row]) rest
      (ts.foldl (WorkloadArchive.reject L h) b) := by
  obtain ⟨hopened,hadmitted,hrejected,hbundles⟩ := Opens.rejected L enc snapshot sampledAtMs
    rows a done hrow hfits
  rw [List.append_nil] at hadmitted hbundles
  obtain ⟨-,hfresh⟩ := opened_fresh hrows hunique hrow
  have hlookup := rejects_lookup (L := L) (h := h) ts b
  have hother {id : String} (hid : id∉familyIds snapshot rows row) :
      (ts.foldl (WorkloadArchive.reject L h) b).entries.lookup id=b.entries.lookup id := by
    rw [hlookup id,if_neg (fun hmem => hid ((hids id).mp hmem))]
  have hsome {id : String} {entry : Entry ν}
      (hentry : (ts.foldl (WorkloadArchive.reject L h) b).entries.lookup id=some entry) :
      id∉familyIds snapshot rows row ∧ b.entries.lookup id=some entry := by
    rw [hlookup id] at hentry
    split at hentry
    · cases hentry
    · rename_i hid
      exact ⟨fun hfam => hid ((hids id).mpr hfam),hentry⟩
  refine ⟨?_,?_,?_,?_,?_,?_,?_,?_⟩
  · intro id entry hentry hid
    rw [hopened,List.mem_append,not_or] at hid
    exact hm.old id entry (hsome hentry).2 hid.1
  · intro id entry hentry hid
    obtain ⟨hnot,hentry⟩ := hsome hentry
    rw [hopened,List.mem_append] at hid
    rw [hadmitted]
    exact hm.recorded id entry hentry (hid.resolve_right hnot)
  · intro id hid hleft
    rw [hopened,hadmitted,List.mem_append,not_or] at hleft
    have hnot : id∉familyIds snapshot rows row := by
      obtain hdone | hkept := hleft
      · exact hfresh id (admittedIds_sub hdone)
      · exact hkept.1.2
    refine (mem_iff_of_lookup (hother hnot)).mpr (hm.present id hid (hleft.imp_right ?_))
    exact fun hkept => ⟨hkept.1.1,fun hfirst => hkept.2 hfirst.fewer⟩
  · obtain ⟨bundles,hbytes,hnext,hstock⟩ := hm.stock
    refine ⟨bundles,hbundles ▸ hbytes,hnext,?_⟩
    refine foldl_rule (fun b' t hs => hs.reject hroom.holds ?_ ?_ t) ts hstock
    · rw [List.length_append]
    · have hlen := bundles_length hrows hbytes
      omega
  · exact hm.reject_mourned hroom hrows hrejected hfresh
      (fun t ht => (hids t.id).mp (List.mem_map_of_mem ht)) hsub hcap
  · exact foldl_rule (fun _ t ha => ha.reject t) ts hm.accounts
  · exact hm.frame.then (foldl_rule (fun a' t hf => hf.trans (SameFrame.reject a' t)) ts .refl)
  · refine (SameFrame.sampleSeq_eq ?_).trans hm.sampleSeq_eq
    exact foldl_rule (fun a' t hf => hf.trans (SameFrame.reject a' t)) ts .refl

/-- A workload to come has the entry that it had before the sample. -/
theorem later_lookup (hm : Midway L h enc snapshot sampledAtMs rows a c done (row::rest) b)
    {id : String} (hid : id∈admittedIds L enc snapshot sampledAtMs rows a.budget (row::rest))
    (hnew : id∉openedIds snapshot rows done) : b.entries.lookup id=a.entries.lookup id := by
  cases hentry : b.entries.lookup id with
  | some entry => exact (hm.old id entry hentry hnew).symm
  | none =>
    symm
    rw [AList.lookup_eq_none]
    intro hknown
    have hlater : id∈laterIds L enc snapshot sampledAtMs rows a (row::rest) :=
      List.mem_filter.mpr ⟨hid,decide_eq_true hknown⟩
    exact absurd (hm.present id hknown (Or.inr ⟨hnew,not_goesFirst hlater⟩))
      (AList.lookup_eq_none.mp hentry)

/-- The bundles with that of a family, and the entries with its points. -/
theorem stock_recorded (hroom : HasRoom L h enc snapshot sampledAtMs rows a c)
    (hrows : rows=done++row::rest) (hrow : ¬row.isGroupedProcess)
    (hm : Midway L h enc snapshot sampledAtMs rows a c done (row::rest) b)
    (hfits : admits L enc snapshot sampledAtMs rows a.budget row=true)
    (catalog : InspectionCatalog ν κ) {bytes : Nat}
    (hbytes : rowBundleBytes L enc snapshot sampledAtMs rows row=bytes)
    {ps : List (String × ProcessIdentityStabilityV4 × WorkloadHistoryPoint ν)}
    (hids : ps.map (·.1)=familyIds snapshot rows row) :
    ∃ bundles : List (Nat × Nat),
      bundles.map Prod.snd=newBundles L enc snapshot sampledAtMs rows a (done++[row]) ∧
      (∀ p∈bundles, a.nextBundle < p.1) ∧
      Stock c (a.entries.keys++openedIds snapshot rows rows)
        (a.bundles.entries.map (fun e => (e.1,e.2.bytes))++bundles) a.nextBundle
        (ps.foldl (recordPoint L h (b.nextBundle+1)) (openBundle h b catalog bytes)) := by
  obtain ⟨bundles,hold,hnext,hstock⟩ := hm.stock
  have hlen := bundles_length hrows hold
  have hone : 1 ≤ (newBundles L enc snapshot sampledAtMs rows a (row::rest)).length := by
    simp [newBundles,hrow,hfits]
  refine ⟨bundles++[(b.nextBundle+1,bytes)],?_,?_,?_⟩
  · rw [(Opens.admitted L enc snapshot sampledAtMs rows a done hrow hfits).bundles_eq,
      List.map_append,hold,hbytes]
    rfl
  · intro p hp
    obtain hp | hp := List.mem_append.mp hp
    · exact hnext p hp
    · rw [List.mem_singleton.mp hp]
      exact Nat.lt_succ_of_le hstock.next_le
  · rw [← List.append_assoc]
    have hopen := hstock.openBundle hroom.holds catalog bytes (by omega)
    refine foldl_mem_rule _ ?_ hopen
    intro b₁ p hp hs
    refine hs.recordPoint hroom.holds ?_ ?_ _ p ?_
    · rw [List.length_append]
    · rw [List.length_append]
      simp only [List.length_cons,List.length_nil]
      omega
    · refine List.mem_append_right _ ?_
      have hfam : p.1∈familyIds snapshot rows row := hids ▸ List.mem_map_of_mem hp
      rw [congrArg (openedIds snapshot rows) hrows,openedIds_append,openedIds_cons hrow]
      exact List.mem_append_right _ (List.mem_append_left _ hfam)

variable [Zero ν] [Add ν]

/-- A row with a family that is recorded. -/
theorem recordFamily (hroom : HasRoom L h enc snapshot sampledAtMs rows a c)
    (hrows : rows=done++row::rest) (hunique : (openedIds snapshot rows rows).Nodup)
    (hrow : ¬row.isGroupedProcess)
    (hm : Midway L h enc snapshot sampledAtMs rows a c done (row::rest) b)
    (hfits : admits L enc snapshot sampledAtMs rows a.budget row=true)
    {catalog : InspectionCatalog ν κ}
    (hids : catalog.workloads.map stableId=familyIds snapshot rows row)
    (hseq : catalog.sampleSeq=snapshot.sampleSeq) {bytes : Nat}
    (hbytes : rowBundleBytes L enc snapshot sampledAtMs rows row=bytes)
    (hb' : b'=(familyPoints catalog snapshot.sampleIntervalMs).foldl
      (recordPoint L h (b.nextBundle+1)) (openBundle h b catalog bytes))
    (haccounts : Accounts L (fun _ => 0) b') (hframe : SameFrame b b') :
    Midway L h enc snapshot sampledAtMs rows a c (done++[row]) rest b' := by
  obtain ⟨hopened,hadmitted,hrejected,-⟩ := Opens.admitted L enc snapshot sampledAtMs
    rows a done hrow hfits
  rw [List.append_nil] at hrejected
  obtain ⟨hnodup,hfresh⟩ := opened_fresh hrows hunique hrow
  obtain ⟨_,-,-,hstock⟩ := hm.stock
  have hnames : (familyPoints catalog snapshot.sampleIntervalMs).map (·.1)=
      familyIds snapshot rows row := by
    rw [← hids,familyPoints,List.map_map]
    rfl
  have hpoints : ∀ p∈familyPoints catalog snapshot.sampleIntervalMs,
      p.2.2.sampleSeq=snapshot.sampleSeq := by
    intro p hp
    obtain ⟨w,-,rfl⟩ := List.mem_map.mp hp
    exact hseq
  have hrecorded := Recorded.points L h (b.nextBundle+1) _ (hnames ▸ hnodup) hpoints
    (openBundle h b catalog bytes)
  rw [hnames,← hb'] at hrecorded
  have hcarried {id : String} (hid : id∈familyIds snapshot rows row) :
      id∈admittedIds L enc snapshot sampledAtMs rows a.budget (row::rest) := by
    rw [admittedIds_cons hrow,if_pos hfits]
    exact List.mem_append_left _ hid
  have hother {id : String} (hid : id∉familyIds snapshot rows row) :
      b'.entries.lookup id=b.entries.lookup id := hrecorded.other id hid
  refine ⟨?_,?_,?_,?_,?_,haccounts,hm.frame.then hframe,hframe.sampleSeq_eq.trans hm.sampleSeq_eq⟩
  · intro id entry hentry hid
    rw [hopened,List.mem_append,not_or] at hid
    exact hm.old id entry (hother hid.2 ▸ hentry) hid.1
  · intro id entry hentry hid
    rw [hopened,List.mem_append] at hid
    rw [hadmitted,List.mem_append]
    by_cases hfam : id∈familyIds snapshot rows row
    · obtain ⟨entry',hentry',hbundle,hlast,hcap⟩ := hrecorded.own id hfam
      obtain rfl := Option.some.inj (hentry'.symm.trans hentry)
      refine ⟨Or.inr hfam,hlast,?_,?_⟩
      · rw [hbundle]
        exact Nat.lt_succ_of_le hstock.next_le
      · have hnew : id∉openedIds snapshot rows done := fun hdone => hfresh id hdone hfam
        rw [entryHeap,hcap,grownHeap,← hm.later_lookup (hcarried hfam) hnew]
        rfl
    · obtain ⟨hmem,hrest⟩ := hm.recorded id entry (hother hfam ▸ hentry) (hid.resolve_right hfam)
      exact ⟨Or.inl hmem,hrest⟩
  · intro id hid hleft
    rw [hopened,hadmitted,List.mem_append,List.mem_append,not_or] at hleft
    by_cases hfam : id∈familyIds snapshot rows row
    · obtain ⟨entry,hentry,-⟩ := hrecorded.own id hfam
      exact AList.lookup_isSome.mp (by rw [hentry]; rfl)
    · refine (mem_iff_of_lookup (hother hfam)).mpr (hm.present id hid ?_)
      obtain hdone | hkept := hleft
      · exact Or.inl (hdone.resolve_right hfam)
      · exact Or.inr ⟨hkept.1.1,fun hfirst => hkept.2 hfirst.fewer⟩
  · rw [hb']
    exact hm.stock_recorded hroom hrows hrow hfits catalog hbytes hnames
  · unfold graves
    rw [hrejected]
    refine hm.mourned.quiet ?_ hrecorded.evicted ?_
    · rw [hrecorded.evictedCapacity]
      exact hm.mourned.evictedCapacity_le
    · intro id hknown hid
      by_cases hfam : id∈familyIds snapshot rows row
      · have hnew : id∉openedIds snapshot rows done := fun hdone => hfresh id hdone hfam
        have hlookup := hm.later_lookup (hcarried hfam) hnew
        rw [← AList.lookup_isSome,hlookup,AList.lookup_isSome]
        exact AList.mem_keys.mpr hknown
      · exact (mem_iff_of_lookup (hother hfam)).mp hid

theorem recordRow (hroom : HasRoom L h enc snapshot sampledAtMs rows a c)
    (hrows : rows=done++row::rest) (hunique : (openedIds snapshot rows rows).Nodup)
    (hrow : ¬row.isGroupedProcess)
    (hm : Midway L h enc snapshot sampledAtMs rows a c done (row::rest) b)
    (hr : recordRow L h enc snapshot sampledAtMs rows row b=.ok b') :
    Midway L h enc snapshot sampledAtMs rows a c (done++[row]) rest b' := by
  have hbudget := hm.frame.budget_eq
  obtain ⟨hfits,ts,hids,hsub,hcap,rfl⟩ | ⟨hfits,catalog,bytes,hids,hseq,-,hbytes,hb'⟩ :=
    recordRow_cases hr
  · exact hm.reject hroom hrows hunique hrow (hbudget ▸ hfits) hids hsub hcap
  · exact hm.recordFamily hroom hrows hunique hrow (hbudget ▸ hfits) hids hseq hbytes hb'
      (hm.accounts.recordRow hr) (.recordRow hr)

omit [Zero ν] [Add ν]

/-- An entry that goes before the workloads to come may go. -/
theorem evictId (hroom : HasRoom L h enc snapshot sampledAtMs rows a c) (hrows : rows=done++rest)
    (hm : Midway L h enc snapshot sampledAtMs rows a c done rest b) {id : String}
    (hnew : id∉openedIds snapshot rows done)
    (hfirst : GoesFirst L enc snapshot sampledAtMs rows a rest id) :
    Midway L h enc snapshot sampledAtMs rows a c done rest (evictId L h b id) := by
  have hbelow {id' : String} {entry : Entry ν}
      (hentry : (WorkloadArchive.evictId L h b id).entries.lookup id'=some entry) :
      b.entries.lookup id'=some entry := lookup_of_erase (evictId_entries (a := b) id ▸ hentry)
  refine ⟨fun id' entry hentry => hm.old id' entry (hbelow hentry),
    fun id' entry hentry => hm.recorded id' entry (hbelow hentry),?_,?_,?_,hm.accounts.evictId id,
    hm.frame.then (.evictId b id),(SameFrame.evictId b id).sampleSeq_eq.trans hm.sampleSeq_eq⟩
  · intro id' hid' hleft
    rw [evictId_entries,AList.mem_erase]
    refine ⟨?_,hm.present id' hid' hleft⟩
    rintro rfl
    obtain hdone | hkept := hleft
    · exact hnew (admittedIds_sub hdone)
    · exact hkept.2 hfirst
  · obtain ⟨bundles,hbytes,hnext,hstock⟩ := hm.stock
    have hlen := bundles_length hrows hbytes
    exact ⟨bundles,hbytes,hnext,hstock.evictId hroom.holds (by rw [List.length_append])
      (by omega) id⟩
  · have hall : (rejectedIds L enc snapshot sampledAtMs rows a done).length ≤
        (rejectedIds L enc snapshot sampledAtMs rows a rows).length := by
      rw [congrArg (rejectedIds L enc snapshot sampledAtMs rows a) hrows,rejectedIds_append,
        List.length_append]
      exact Nat.le_add_right _ _
    refine hm.mourned.evictId hroom.holds ?_ (fun hid => AList.mem_keys.mp (hm.old_known hid hnew))
    rw [graves_count]
    omega

theorem shrinkContainers (hm : Midway L h enc snapshot sampledAtMs rows a c done rest b) :
    Midway L h enc snapshot sampledAtMs rows a c done rest (shrinkContainers h b) := by
  obtain ⟨bundles,hbytes,hnext,hstock⟩ := hm.stock
  exact ⟨hm.old,hm.recorded,hm.present,⟨bundles,hbytes,hnext,hstock.shrinkContainers⟩,
    ⟨(shrunk_le _ _).trans hm.mourned.evictedCapacity_le,hm.mourned.evicted_le⟩,
    hm.accounts.frame rfl rfl rfl rfl rfl rfl rfl,hm.frame.then ⟨rfl,rfl,rfl,rfl,rfl,rfl,rfl⟩,
    hm.sampleSeq_eq⟩

section Counted
variable (hm : Midway L h enc snapshot sampledAtMs rows a c done rest b)
  (hgone : ∀ id∈b.entries, id∉openedIds snapshot rows done →
    ¬GoesFirst L enc snapshot sampledAtMs rows a rest id)
include hm

theorem tombstones_le (ha : Accounts L (fun _ => 0) a) : b.evictedBytes ≤ a.evictedBytes+
    ((buriedIds L enc snapshot sampledAtMs rows a done rest).map (·.utf8ByteSize)).sum+
    ((rejectedIds L enc snapshot sampledAtMs rows a done).map
      (fun id => max id.utf8ByteSize (h.formatCapacity id))).sum := by
  have hle := hm.mourned.evicted_le (·.capacity)
  rw [← hm.accounts.tombstones_eq,graves,← ha.tombstones_eq] at hle
  simp only at hle
  have hburied : (fallen a.entries.keys b).Sublist
      (buriedIds L enc snapshot sampledAtMs rows a done rest) := by
    refine filter_sublist_filter (fun id hid hfallen => ?_)
    have hnot : id∉b.entries := of_decide_eq_true hfallen
    have hknown : id∈a.entries := AList.mem_keys.mpr hid
    refine decide_eq_true ⟨fun hdone => hnot (hm.present id hknown (Or.inl hdone)),?_⟩
    intro hkept
    exact hnot (hm.present id hknown (Or.inr (of_decide_eq_true (List.mem_filter.mp hkept).2)))
  have hsum := sum_le_of_sublist (hburied.map (·.utf8ByteSize))
  omega

include hgone

theorem kept_of_left {id : String} (hid : id∈b.entries) (hnew : id∉openedIds snapshot rows done) :
    id∈keptIds L enc snapshot sampledAtMs rows a done rest :=
  List.mem_filter.mpr ⟨AList.mem_keys.mp (hm.old_known hid hnew),
    decide_eq_true ⟨hnew,hgone id hid hnew⟩⟩

theorem entries_le : total (entryHeap L) b.entries ≤
    ((keptIds L enc snapshot sampledAtMs rows a done rest).map
      (fun id => (a.entries.lookup id).elim 0 (entryHeap L id))).sum+
    ((admittedIds L enc snapshot sampledAtMs rows a.budget done).map (grownHeap L h a)).sum := by
  have hle := total_le (entryHeap L) (t := b.entries)
    ((keptIds L enc snapshot sampledAtMs rows a done rest).map
        (fun id => (id,(a.entries.lookup id).elim 0 (entryHeap L id)))++
      (admittedIds L enc snapshot sampledAtMs rows a.budget done).map
        (fun id => (id,grownHeap L h a id))) (fun id entry hentry => ?_)
  · simpa only [List.map_append,List.map_map,List.sum_append,Function.comp_def] using hle
  · have hid : id∈b.entries := AList.lookup_isSome.mp (by rw [hentry]; rfl)
    by_cases hdone : id∈openedIds snapshot rows done
    · obtain ⟨hadmitted,-,-,heap⟩ := hm.recorded id entry hentry hdone
      exact ⟨_,List.mem_append_right _ (List.mem_map_of_mem hadmitted),heap.le⟩
    · refine ⟨_,List.mem_append_left _ (List.mem_map_of_mem (hm.kept_of_left hgone hid hdone)),?_⟩
      rw [hm.old id entry hentry hdone]
      exact Nat.le_refl _

theorem bundles_le (ha : Accounts L (fun _ => 0) a) :
    total (fun _ bundle => bundle.bytes) b.bundles ≤
    ((a.bundles.entries.filter (fun e => names a
      (keptIds L enc snapshot sampledAtMs rows a done rest) e.1)).map (fun e => e.2.bytes)).sum+
    (newBundles L enc snapshot sampledAtMs rows a done).sum := by
  obtain ⟨bundles,hbytes,hnext,hstock⟩ := hm.stock
  have hle := total_le (fun _ bundle => bundle.bytes) (t := b.bundles)
    ((a.bundles.entries.filter (fun e => names a
        (keptIds L enc snapshot sampledAtMs rows a done rest) e.1)).map
          (fun e => (e.1,e.2.bytes))++bundles) (fun k bundle hk => ?_)
  · rw [← hbytes]
    simpa only [List.map_append,List.map_map,List.sum_append,Function.comp_def] using hle
  · refine ⟨bundle.bytes,?_,Nat.le_refl _⟩
    obtain hold | hnew := List.mem_append.mp (hstock.bundle_mem k bundle hk)
    · refine List.mem_append_left _ ?_
      obtain ⟨e,he,heq⟩ := List.mem_map.mp hold
      obtain ⟨rfl,hsize⟩ := Prod.mk.inj heq
      -- a bundle has a name, and not by a row of this sample
      obtain ⟨id,entry,hentry,hname⟩ : ∃ id entry, b.entries.lookup id=some entry ∧
          entry.bundleId=e.1 := by
        by_contra hnone
        have hzero : naming b.entries e.1=0 := total_eq_zero _
          (fun id entry hentry => if_neg (fun hname => hnone ⟨id,entry,hentry,hname⟩))
        have hpos := hm.accounts.references_pos e.1 bundle hk
        rw [hm.accounts.references_eq e.1 bundle hk,hzero] at hpos
        exact Nat.lt_irrefl 0 hpos
      have hid : id∈b.entries := AList.lookup_isSome.mp (by rw [hentry]; rfl)
      have hle := ha.bundle_le e.1 (AList.mem_keys.mpr (List.mem_map_of_mem he))
      have hnew : id∉openedIds snapshot rows done := by
        intro hdone
        obtain ⟨-,-,hlater,-⟩ := hm.recorded id entry hentry hdone
        omega
      refine List.mem_map.mpr ⟨e,List.mem_filter.mpr ⟨he,?_⟩,heq⟩
      refine List.any_eq_true.mpr ⟨id,hm.kept_of_left hgone hid hnew,?_⟩
      rw [hm.old id entry hentry hnew]
      exact decide_eq_true hname
    · exact List.mem_append_right _ hnew

/-- With those gone that go first, it is all counted. -/
theorem retained_le (ha : Accounts L (fun _ => 0) a) :
    b.retainedBytes L ≤ retainable L h enc snapshot sampledAtMs rows a c done rest := by
  obtain ⟨_,-,-,hstock⟩ := hm.stock
  have hcontainers : b.entriesCapacity*(L.entrySlot+32)+b.bundlesCapacity*(L.bundleSlot+32)+
      b.evictedCapacity*L.string ≤
      c.entries*(L.entrySlot+32)+c.bundles*(L.bundleSlot+32)+c.evicted*L.string := by
    have h₁ := hstock.entriesCapacity_le
    have h₂ := hstock.bundlesCapacity_le
    have h₃ := hm.mourned.evictedCapacity_le
    gcongr
  have hentries := hm.entries_le hgone
  have hbundles := hm.bundles_le hgone ha
  have htombstones := hm.tombstones_le ha
  have hallocated := hm.accounts.allocated_eq
  unfold retainedBytes retainable
  simp only
  omega

end Counted

theorem staleIds_sorted (b : WorkloadArchive ν κ) :
    (staleIds h b).Pairwise (fun x y => ∀ entry∈b.entries.lookup x,
      ∀ entry'∈b.entries.lookup y, staleBefore (staleKey entry,x) (staleKey entry',y)) := by
  unfold staleIds
  refine List.pairwise_map.mpr ((List.pairwise_insertionSort staleBefore _).imp_of_mem ?_)
  have hkey {p : (Bool × Nat) × String} {entry : Entry ν}
      (hp : p∈((h.entryOrder b).filterMap (fun id => (b.entries.lookup id).bind (fun entry =>
          if entry.lastSampleSeq < b.sampleSeq then some (staleKey entry,id)
          else none))).insertionSort staleBefore)
      (hentry : b.entries.lookup p.2=some entry) : p=(staleKey entry,p.2) := by
    obtain ⟨id,-,hid⟩ := List.mem_filterMap.mp ((List.mem_insertionSort _).mp hp)
    obtain ⟨entry',hentry',hif⟩ := Option.bind_eq_some_iff.mp hid
    obtain ⟨-,hp⟩ := Option.ite_none_right_eq_some.mp hif
    obtain rfl := Option.some.inj hp
    rw [Option.some.inj (hentry'.symm.trans hentry)]
  intro p q hp hq hbefore entry hentry entry' hentry'
  rw [← hkey hp hentry,← hkey hq hentry']
  exact hbefore

/-- Who sorts before one that goes first goes first as well. -/
theorem goesFirst_of_before {x y : String} {entry entry' : Entry ν}
    (hx : a.entries.lookup x=some entry) (hy : a.entries.lookup y=some entry')
    (hbefore : staleBefore (staleKey entry,x) (staleKey entry',y))
    (hfirst : GoesFirst L enc snapshot sampledAtMs rows a rest y) :
    GoesFirst L enc snapshot sampledAtMs rows a rest x := by
  intro later hlater entry₂ hentry₂ entry₁ hentry₁ hle
  obtain rfl := Option.some.inj (hx.symm.trans hentry₁)
  exact hfirst later hlater entry₂ hentry₂ entry' hy (staleBefore_trans hle hbefore)

/-- The loop evicts only those that go first, and then it fits. -/
theorem evictWhile (hroom : HasRoom L h enc snapshot sampledAtMs rows a c)
    (hrows : rows=done++rest) (ha : Accounts L (fun _ => 0) a) {target : Nat}
    (hfits : retainable L h enc snapshot sampledAtMs rows a c done rest ≤ target)
    (ids : List String) (hids : ∀ id∈ids, id∈a.entries ∧ id∉openedIds snapshot rows done)
    (hsorted : ids.Pairwise (fun x y => GoesFirst L enc snapshot sampledAtMs rows a rest y →
      GoesFirst L enc snapshot sampledAtMs rows a rest x))
    (hm : Midway L h enc snapshot sampledAtMs rows a c done rest b)
    (hall : ∀ id∈b.entries, id∉openedIds snapshot rows done →
      GoesFirst L enc snapshot sampledAtMs rows a rest id → id∈ids) :
    Spares L h target (admittedIds L enc snapshot sampledAtMs rows a.budget rest) ids b ∧
    Midway L h enc snapshot sampledAtMs rows a c done rest (evictWhile L h target ids b) ∧
    (WorkloadArchive.evictWhile L h target ids b).retainedBytes L ≤ target := by
  induction ids generalizing b with
  | nil =>
    have hgone : ∀ id∈b.entries, id∉openedIds snapshot rows done →
        ¬GoesFirst L enc snapshot sampledAtMs rows a rest id :=
      fun id hid hnew hfirst => absurd (hall id hid hnew hfirst) List.not_mem_nil
    exact ⟨trivial,hm,(hm.retained_le hgone ha).trans hfits⟩
  | cons id ids ih =>
    obtain ⟨hbefore,hsorted⟩ := List.pairwise_cons.mp hsorted
    obtain ⟨hknown,hnew⟩ := hids id List.mem_cons_self
    unfold WorkloadArchive.evictWhile Spares
    by_cases hover : b.retainedBytes L ≤ target
    · rw [if_pos hover]
      exact ⟨Or.inl hover,hm,hover⟩
    · rw [if_neg hover]
      have hfirst : GoesFirst L enc snapshot sampledAtMs rows a rest id := by
        by_contra hnot
        refine hover ((hm.retained_le (fun id' hid' hnew' hfirst => ?_) ha).trans hfits)
        obtain rfl | hmem := List.mem_cons.mp (hall id' hid' hnew' hfirst)
        · exact hnot hfirst
        · exact hnot (hbefore id' hmem hfirst)
      have hlater : id∉admittedIds L enc snapshot sampledAtMs rows a.budget rest :=
        fun hmem => not_goesFirst (List.mem_filter.mpr ⟨hmem,decide_eq_true hknown⟩) hfirst
      obtain ⟨hspares,hrest⟩ := ih (fun id' hid' => hids id' (List.mem_cons_of_mem _ hid')) hsorted
        (hm.evictId hroom hrows hnew hfirst) (fun id' hid' hnew' hfirst' => by
          rw [evictId_entries,AList.mem_erase] at hid'
          exact (List.mem_cons.mp (hall id' hid'.2 hnew' hfirst')).resolve_left hid'.1)
      exact ⟨Or.inr ⟨hlater,hspares⟩,hrest⟩

/-- A pass in the middle of a sample that has room spares the workloads to come. -/
theorem pass (hroom : HasRoom L h enc snapshot sampledAtMs rows a c)
    (hrows : rows=done++rest) (ha : Accounts L (fun _ => 0) a)
    (hdated : ∀ id entry, a.entries.lookup id=some entry →
      entry.lastSampleSeq < snapshot.sampleSeq)
    (hfits : retainable L h enc snapshot sampledAtMs rows a c done rest ≤ a.target)
    (hm : Midway L h enc snapshot sampledAtMs rows a c done rest b) :
    Spares L h b.target (admittedIds L enc snapshot sampledAtMs rows a.budget rest)
      (staleIds h b) b ∧
    Midway L h enc snapshot sampledAtMs rows a c done rest (enforceBudget L h b) := by
  have htarget : b.target=a.target := by
    simp only [target,replyReserve,hm.frame.budget_eq,hm.frame.ingressReserved_eq]
  have hstale {id : String} (hid : id∈staleIds h b) : id∉openedIds snapshot rows done ∧
      ∃ entry, b.entries.lookup id=some entry ∧ a.entries.lookup id=some entry := by
    obtain ⟨entry,hentry,hlt⟩ := mem_staleIds.mp hid
    have hnew : id∉openedIds snapshot rows done := by
      intro hdone
      obtain ⟨-,hcurrent,-⟩ := hm.recorded id entry hentry hdone
      rw [hcurrent,hm.sampleSeq_eq] at hlt
      exact Nat.lt_irrefl _ hlt
    exact ⟨hnew,entry,hentry,hm.old id entry hentry hnew⟩
  have hloop := hm.evictWhile hroom hrows ha (htarget.symm ▸ hfits : _ ≤ b.target) (staleIds h b)
    (fun id hid => by
      obtain ⟨hnew,entry,-,hentry⟩ := hstale hid
      exact ⟨AList.lookup_isSome.mp (by rw [hentry]; rfl),hnew⟩)
    ((staleIds_sorted b).imp_of_mem (fun {x y} hx hy hbefore hfirst => by
      obtain ⟨-,entry,hentry,hold⟩ := hstale hx
      obtain ⟨-,entry',hentry',hold'⟩ := hstale hy
      exact goesFirst_of_before hold hold' (hbefore entry hentry entry' hentry') hfirst))
    (fun id hid hnew _ => by
      obtain ⟨entry,hentry⟩ := Option.isSome_iff_exists.mp (AList.lookup_isSome.mpr hid)
      refine mem_staleIds.mpr ⟨entry,hentry,?_⟩
      rw [hm.sampleSeq_eq]
      exact hdated id entry (hm.old id entry hentry hnew))
  obtain ⟨hspares,hkept,hdone⟩ := hloop
  refine ⟨hspares,?_⟩
  unfold enforceBudget
  simp only
  split
  · exact hm
  · rw [evictStale,trimLong_of_le hdone,evictLive,evictWhile_of_le hdone,
      popTombstones_of_le hdone]
    exact hkept.shrinkContainers

end Midway

section Retention
variable [Zero ν] [Add ν] {L : Layout} {h : Heap ν κ} {enc : Encoder ν κ ρ}
  {snapshot : RuntimeSnapshot} {sampledAtMs : Nat} {rows : List (ProcessViewRow ρ)}
  {a b : WorkloadArchive ν κ} {c : Containers}

end Retention

theorem Holds.plain {c : Containers} {E B T : Nat} (hE : ∀ len ≤ E, hashCapacity len ≤ c.entries)
    (hB : ∀ len ≤ B, hashCapacity len ≤ c.bundles) (hT : max 4 (T*2) ≤ c.evicted) :
    Holds (.plain ν κ) c E B T := by
  refine ⟨fun _ _ len hcap hlen => max_le hcap (hE len hlen),
    fun _ _ len hcap hlen => max_le hcap (hB len hlen),?_⟩
  intro len capacity hlen hcap
  simp only [Heap.plain]
  split <;> omega

namespace Leaver
open Plain

/-- Five workers, of which the first leaves after one sample, then the ingress of a sample
with a sixth. Irreducible, so that only the kernel runs it. -/
@[irreducible] def steps : List (Heap Nat Unit × Operation Unit) :=
  sample 1 ["0","1","2","3","4"]++
    (List.range 32).flatMap (fun k => sample (k+2) ["1","2","3","4"])++
    [(.plain _ _,.beginIngress (["1","2","3","4","5"].map process))]

abbrev before : WorkloadArchive Nat Unit := run .x64 .plain steps (withBudget (230*1024))

/-- The sixth worker listed before the last of those that stay. -/
def rows : List (ProcessViewRow Unit) := ["1","2","3","5","4"].map row

end Leaver

end BatCave.WorkloadHistory.WorkloadArchive
