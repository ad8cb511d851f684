import BatCave.WorkloadHistory.Budget

/-! Which workloads of a sample survive its own pressure. Every family of a sample is
followed by a pass over the budget, and such a pass takes the families still to come
for missing ones. Live histories are safe exactly as long as no pass has to. -/
namespace BatCave.WorkloadHistory.WorkloadArchive
open BatCave.Lib.Table
variable {ν κ ρ : Type}

/-- Entries only went, or were cut at the front. -/
def Below (a a' : WorkloadArchive ν κ) : Prop :=
  ∀ id entry', a'.entries.lookup id=some entry' → ∃ entry, a.entries.lookup id=some entry ∧
    entry'.lastSampleSeq=entry.lastSampleSeq ∧ entry'.history.length ≤ entry.history.length

namespace Below
variable {L : Layout} {h : Heap ν κ} {a a₁ a₂ : WorkloadArchive ν κ}

theorem of_entries (heq : a₁.entries=a.entries) : Below a a₁ := by
  intro id entry hentry
  exact ⟨entry,heq ▸ hentry,rfl,Nat.le_refl _⟩

theorem trans (h₁ : Below a a₁) (h₂ : Below a₁ a₂) : Below a a₂ := by
  intro id entry₂ hentry₂
  obtain ⟨entry₁,hentry₁,hseq,hlen⟩ := h₂ id entry₂ hentry₂
  obtain ⟨entry,hentry,hseq',hlen'⟩ := h₁ id entry₁ hentry₁
  exact ⟨entry,hentry,hseq.trans hseq',hlen.trans hlen'⟩

theorem evictId (a : WorkloadArchive ν κ) (id : String) : Below a (evictId L h a id) := by
  intro id' entry hentry
  rw [evictId_entries] at hentry
  by_cases hid : id'=id
  · subst hid
    simp at hentry
  · rw [AList.lookup_erase_ne hid] at hentry
    exact ⟨entry,hentry,rfl,Nat.le_refl _⟩

theorem trimOne (cap : Nat) (a : WorkloadArchive ν κ) (id : String) :
    Below a (trimOne L h cap a id) := by
  unfold WorkloadArchive.trimOne
  split
  · exact of_entries rfl
  · rename_i entry hentry
    split
    · exact of_entries rfl
    · intro id' entry' hentry'
      by_cases hid : id'=id
      · subst hid
        simp only [AList.lookup_insert,Option.some.injEq] at hentry'
        subst hentry'
        refine ⟨entry,hentry,rfl,?_⟩
        simp only [trimEntry,List.length_drop]
        omega
      · simp only [AList.lookup_insert_ne hid] at hentry'
        exact ⟨entry',hentry',rfl,Nat.le_refl _⟩

theorem popEvicted {t : Tombstone} (hp : a.popEvicted=some (t,a₁)) : Below a a₁ := by
  obtain ⟨rest,-,rfl⟩ := popEvicted_cases hp
  exact of_entries rfl

theorem evictWhile (target : Nat) (ids : List String) (a : WorkloadArchive ν κ) :
    Below a (evictWhile L h target ids a) :=
  evictWhile_rule (P := Below a) (fun a' id hb => hb.trans (evictId a' id)) target ids
    (of_entries rfl)

theorem enforceBudget (a : WorkloadArchive ν κ) : Below a (enforceBudget L h a) :=
  enforceBudget_rule (fun a' id hb => hb.trans (evictId a' id))
    (fun cap a' id _ hb => hb.trans (trimOne cap a' id))
    (fun _ _ _ hb hp => hb.trans (popEvicted hp))
    (fun _ hb => hb.trans (of_entries rfl)) (of_entries rfl)

end Below

section Released
variable {L : Layout} {h : Heap ν κ} {a a' : WorkloadArchive ν κ}

theorem popEvicted_released {t : Tombstone} (hp : a.popEvicted=some (t,a')) :
    a'.released=a.released := by
  obtain ⟨rest,-,rfl⟩ := popEvicted_cases hp
  rfl

theorem rememberEvicted_released (t : Tombstone) :
    (rememberEvicted h a t).released=a.released := by
  refine rememberEvicted_rule (P := fun a' => a'.released=a.released) ?_ ?_
  · intro a₁ t' a₂ heq hp
    exact (popEvicted_released hp).trans heq
  · unfold pushTombstone
    split <;> rfl

theorem releaseBundle_released (k : Nat) : (releaseBundle h a k).released=a.released := by
  unfold releaseBundle
  split
  · rfl
  · simp only
    split <;> rfl

theorem takeEntry_released {id : String} {entry : Entry ν}
    (ht : takeEntry L h a id=some (entry,a')) : a'.released=a.released := by
  unfold takeEntry at ht
  split at ht
  · cases ht
  · cases ht
    exact releaseBundle_released _

/-- The log grows by an id exactly when it had an entry. -/
theorem evictId_released (id : String) :
    (evictId L h a id).released=if id∈a.entries then a.released++[id] else a.released := by
  unfold evictId
  split
  · rename_i ht
    rw [if_neg (AList.lookup_eq_none.mp (takeEntry_eq_none.mp ht))]
  · rename_i entry a' ht
    have hid : id∈a.entries := AList.lookup_isSome.mp (by rw [(takeEntry_entries ht).1]; rfl)
    rw [if_pos hid,rememberEvicted_released]
    exact congrArg (·++[id]) (takeEntry_released ht)

theorem evictId_count_ne {id id' : String} (hne : id'≠id) :
    (evictId L h a id).released.count id'=a.released.count id' := by
  rw [evictId_released]
  split
  · simp [List.count_append,Ne.symm hne]
  · rfl

theorem trimOne_released (cap : Nat) (id : String) :
    (trimOne L h cap a id).released=a.released := by
  unfold trimOne
  split
  · rfl
  · split <;> rfl

end Released

/-- Below, with nobody released. -/
structure Quiet (a a' : WorkloadArchive ν κ) : Prop where
  below : Below a a'
  released_eq : a'.released=a.released

namespace Quiet
variable {L : Layout} {h : Heap ν κ} {a a₁ a₂ : WorkloadArchive ν κ}

theorem refl : Quiet a a := ⟨.of_entries rfl,rfl⟩

theorem trans (h₁ : Quiet a a₁) (h₂ : Quiet a₁ a₂) : Quiet a a₂ :=
  ⟨h₁.below.trans h₂.below,h₂.released_eq.trans h₁.released_eq⟩

theorem trimOne (cap : Nat) (a : WorkloadArchive ν κ) (id : String) :
    Quiet a (trimOne L h cap a id) := ⟨.trimOne cap a id,trimOne_released cap id⟩

theorem trimLong (target : Nat) (a : WorkloadArchive ν κ) : Quiet a (trimLong L h target a) :=
  trimWhile_rule (P := Quiet a) (fun cap a' id _ hq => hq.trans (trimOne cap a' id)) _ _ _ refl

theorem popTombstones (target : Nat) (a : WorkloadArchive ν κ) :
    Quiet a (popTombstones L target a) :=
  popWhile_rule (P := Quiet a)
    (fun _ _ _ hq hp => hq.trans ⟨.popEvicted hp,popEvicted_released hp⟩) _ _ refl

theorem shrinkContainers (a : WorkloadArchive ν κ) : Quiet a (shrinkContainers h a) :=
  ⟨.of_entries rfl,rfl⟩

end Quiet

section Trim
variable {L : Layout} {h : Heap ν κ}

/-- Every history is at most so long. -/
def Capped (cap : Nat) (a : WorkloadArchive ν κ) : Prop :=
  ∀ id entry, a.entries.lookup id=some entry → entry.history.length ≤ cap

theorem Capped.below {cap : Nat} {a a' : WorkloadArchive ν κ} (hc : Capped cap a)
    (hb : Below a a') : Capped cap a' := by
  intro id entry' hentry'
  obtain ⟨entry,hentry,-,hlen⟩ := hb id entry' hentry'
  exact hlen.trans (hc id entry hentry)

theorem trimOne_caps (cap : Nat) (a : WorkloadArchive ν κ) (id : String) (entry : Entry ν)
    (hentry : (trimOne L h cap a id).entries.lookup id=some entry) :
    entry.history.length ≤ cap := by
  unfold trimOne at hentry
  split at hentry
  · rename_i hnone
    rw [hnone] at hentry
    cases hentry
  · rename_i entry' hentry'
    split at hentry
    · rename_i hle
      rw [hentry'] at hentry
      cases hentry
      exact hle
    · simp only [AList.lookup_insert,Option.some.injEq] at hentry
      subst hentry
      simp only [trimEntry,List.length_drop]
      omega

/-- A loop of trims caps every history it visits. -/
theorem foldl_trimOne_caps (cap : Nat) (ids : List String) (a : WorkloadArchive ν κ) :
    ∀ id entry, (ids.foldl (trimOne L h cap) a).entries.lookup id=some entry → id∈ids →
      entry.history.length ≤ cap := by
  induction ids generalizing a with
  | nil => exact fun _ _ _ hid => absurd hid List.not_mem_nil
  | cons id' ids ih =>
    intro id entry hentry hid
    rw [List.foldl_cons] at hentry
    by_cases hlater : id∈ids
    · exact ih _ id entry hentry hlater
    · obtain rfl : id=id' := (List.mem_cons.mp hid).resolve_right hlater
      have hbelow :
          Below (trimOne L h cap a id) (ids.foldl (trimOne L h cap) (trimOne L h cap a id)) :=
        foldl_rule (P := Below (trimOne L h cap a id))
          (fun a' x hb => hb.trans (.trimOne cap a' x)) ids (.of_entries rfl)
      obtain ⟨entry',hentry',-,hlen⟩ := hbelow id entry hentry
      exact hlen.trans (trimOne_caps cap a id entry' hentry')

theorem trimHistories_capped (cap : Nat) (a : WorkloadArchive ν κ) :
    Capped cap (trimHistories L h cap a) := by
  intro id entry hentry
  refine foldl_trimOne_caps cap _ a id entry hentry ?_
  have hbelow : Below a (trimHistories L h cap a) :=
    foldl_rule (P := Below a) (fun a' x hb => hb.trans (.trimOne cap a' x)) _ (.of_entries rfl)
  obtain ⟨entry',hentry',-⟩ := hbelow id entry hentry
  exact (h.entryOrder_perm a).mem_iff.mpr (AList.lookup_isSome.mp (by rw [hentry']; rfl))

/-- Enough turns bring the cap to the floor, unless the target is reached before. -/
theorem trimWhile_floor (target turns cap : Nat) (a : WorkloadArchive ν κ) (hcap : Capped cap a)
    (hturns : cap ≤ turns) : (trimWhile L h target turns cap a).retainedBytes L ≤ target ∨
      Capped minTrimmedPoints (trimWhile L h target turns cap a) := by
  induction turns generalizing cap a with
  | zero =>
    refine Or.inr (fun id entry hentry => (hcap id entry hentry).trans ?_)
    exact hturns.trans (Nat.zero_le _)
  | succ turns ih =>
    unfold trimWhile
    split
    · rename_i hmore
      refine ih (nextCap cap) _ (trimHistories_capped _ a) ?_
      have hlt : nextCap cap < cap := by
        have := hmore.2
        unfold nextCap minTrimmedPoints at *
        omega
      omega
    · rename_i hstop
      by_cases hfits : a.retainedBytes L ≤ target
      · exact Or.inl hfits
      · refine Or.inr (fun id entry hentry => (hcap id entry hentry).trans ?_)
        by_contra hlong
        exact hstop ⟨Nat.lt_of_not_le hfits,Nat.lt_of_not_le hlong⟩

theorem capped_longestHistory (a : WorkloadArchive ν κ) : Capped a.longestHistory a := by
  intro id entry hentry
  have hmem : (⟨id,entry⟩ : Sigma (fun _ : String => Entry ν))∈a.entries.entries :=
    AList.mem_lookup_iff.mp hentry
  have hle (l : List Nat) (n : Nat) (hn : n∈l) : n ≤ l.foldr max 0 := by
    induction l with
    | nil => exact absurd hn List.not_mem_nil
    | cons m l ih =>
      obtain rfl | hn := List.mem_cons.mp hn
      · exact Nat.le_max_left _ _
      · exact (ih hn).trans (Nat.le_max_right _ _)
  exact hle _ _ (List.mem_map_of_mem hmem)

theorem trimLong_floor (target : Nat) (a : WorkloadArchive ν κ) :
    (trimLong L h target a).retainedBytes L ≤ target ∨
      Capped minTrimmedPoints (trimLong L h target a) :=
  trimWhile_floor target _ _ a (capped_longestHistory a) (Nat.le_refl _)

theorem trimLong_of_le {target : Nat} {a : WorkloadArchive ν κ}
    (hfits : a.retainedBytes L ≤ target) :
    trimLong L h target a=a := by
  unfold trimLong
  cases a.longestHistory with
  | zero => rfl
  | succ n => exact if_neg (fun hmore => absurd hmore.1 (Nat.not_lt_of_le hfits))

theorem evictWhile_of_le {target : Nat} {ids : List String} {a : WorkloadArchive ν κ}
    (hfits : a.retainedBytes L ≤ target) : evictWhile L h target ids a=a := by
  cases ids with
  | nil => rfl
  | cons id ids => exact if_pos hfits

end Trim

/-- The log of releases never loses an id. -/
def Grows (a a' : WorkloadArchive ν κ) : Prop := ∀ id, a.released.count id ≤ a'.released.count id

namespace Grows
variable {L : Layout} {h : Heap ν κ} {a a₁ a₂ : WorkloadArchive ν κ}

theorem refl : Grows a a := fun _ => Nat.le_refl _

theorem trans (h₁ : Grows a a₁) (h₂ : Grows a₁ a₂) : Grows a a₂ :=
  fun id => (h₁ id).trans (h₂ id)

theorem of_eq (heq : a₁.released=a.released) : Grows a a₁ := fun id => by rw [heq]

theorem evictId (a : WorkloadArchive ν κ) (id : String) : Grows a (evictId L h a id) := by
  intro id'
  rw [evictId_released]
  split
  · exact (List.sublist_append_left _ _).count_le _
  · exact Nat.le_refl _

theorem evictWhile (target : Nat) (ids : List String) (a : WorkloadArchive ν κ) :
    Grows a (evictWhile L h target ids a) :=
  evictWhile_rule (P := Grows a) (fun a' id hg => hg.trans (evictId a' id)) target ids refl

theorem reject (a : WorkloadArchive ν κ) (t : Tombstone) : Grows a (reject L h a t) :=
  (evictId a t.id).trans (of_eq (rememberEvicted_released t))

theorem enforceBudget (a : WorkloadArchive ν κ) : Grows a (enforceBudget L h a) :=
  enforceBudget_rule (P := Grows a) (fun a' id hg => hg.trans (evictId a' id))
    (fun cap _ id _ hg => hg.trans (of_eq (trimOne_released cap id)))
    (fun _ _ _ hg hp => hg.trans (of_eq (popEvicted_released hp)))
    (fun _ hg => hg.trans (of_eq rfl)) refl

/-- A pass keeps what its first phase released. -/
theorem evictStale (hover : ¬a.retainedBytes L ≤ a.target) :
    Grows (evictStale L h a.target a) (WorkloadArchive.enforceBudget L h a) := by
  unfold WorkloadArchive.enforceBudget
  simp only [if_neg hover]
  generalize WorkloadArchive.evictStale L h a.target a=b
  have htrim : Grows b (trimLong L h a.target b) := of_eq (Quiet.trimLong a.target b).released_eq
  have hlive : Grows (trimLong L h a.target b) (evictLive L h a.target (trimLong L h a.target b)) :=
    evictWhile _ _ _
  exact (htrim.trans hlive).trans
    (of_eq ((Quiet.popTombstones a.target _).trans (Quiet.shrinkContainers _)).released_eq)

end Grows

section Stale
variable {L : Layout} {h : Heap ν κ}

theorem mem_staleIds {a : WorkloadArchive ν κ} {id : String} : id∈staleIds h a ↔
    ∃ entry, a.entries.lookup id=some entry ∧ entry.lastSampleSeq < a.sampleSeq := by
  unfold staleIds
  simp only [List.mem_map,(List.perm_insertionSort staleBefore _).mem_iff,List.mem_filterMap,
    Option.bind_eq_some_iff,Option.ite_none_right_eq_some,Option.some.injEq]
  constructor
  · rintro ⟨⟨key,id'⟩,⟨id'',-,entry,hentry,hstale,heq⟩,rfl⟩
    obtain ⟨rfl,rfl⟩ := Prod.mk.inj heq
    exact ⟨entry,hentry,hstale⟩
  · rintro ⟨entry,hentry,hstale⟩
    have hid : id∈a.entries := AList.lookup_isSome.mp (by rw [hentry]; rfl)
    exact ⟨(staleKey entry,id),
      ⟨id,(h.entryOrder_perm a).mem_iff.mpr hid,entry,hentry,hstale,rfl⟩,rfl⟩

theorem staleIds_nodup (a : WorkloadArchive ν κ) : (staleIds h a).Nodup := by
  unfold staleIds
  have hperm := List.perm_insertionSort staleBefore ((h.entryOrder a).filterMap (fun id =>
    (a.entries.lookup id).bind (fun entry =>
      if entry.lastSampleSeq < a.sampleSeq then some (staleKey entry,id) else none)))
  refine (hperm.map (·.2)).nodup_iff.mpr ?_
  have hkeys : (h.entryOrder a).Nodup := (h.entryOrder_perm a).nodup_iff.mpr a.entries.keys_nodup
  have hown {id id' : String}
      (hid : id'∈((a.entries.lookup id).bind (fun entry =>
        if entry.lastSampleSeq < a.sampleSeq then some (staleKey entry,id) else none)).map (·.2)) :
      id=id' := by
    simp only [Option.mem_def,Option.map_eq_some_iff,Option.bind_eq_some_iff,
      Option.ite_none_right_eq_some,Option.some.injEq] at hid
    obtain ⟨p,⟨-,-,-,rfl⟩,rfl⟩ := hid
    rfl
  rw [List.map_filterMap]
  exact hkeys.filterMap (fun id id' b hb hb' => (hown hb).trans (hown hb').symm)

variable (L h) in
/-- A loop of evictions that reaches its target before the first id to spare. -/
def Spares (target : Nat) (later : List String) : List String → WorkloadArchive ν κ → Prop
  | [],_ => True
  | id::ids,a =>
    a.retainedBytes L ≤ target ∨ (id∉later ∧ Spares target later ids (evictId L h a id))

theorem Spares.count_eq {target : Nat} {later ids : List String} {a : WorkloadArchive ν κ}
    (hs : Spares L h target later ids a) {id : String} (hid : id∈ids → id∈later) :
    (evictWhile L h target ids a).released.count id=a.released.count id := by
  induction ids generalizing a with
  | nil => rfl
  | cons id' ids ih =>
    unfold evictWhile
    split
    · rfl
    · rename_i hover
      obtain ⟨hnot,hs⟩ := hs.resolve_left hover
      have hne : id≠id' := by
        rintro rfl
        exact hnot (hid List.mem_cons_self)
      rw [ih hs (fun hmem => hid (List.mem_cons_of_mem _ hmem)),evictId_count_ne hne]

/-- A loop that does not spare them releases one of the ids. -/
theorem released_of_not_spares {target : Nat} {later ids : List String} {a : WorkloadArchive ν κ}
    (hs : ¬Spares L h target later ids a) (hnodup : ids.Nodup) (hall : ∀ id∈ids, id∈a.entries) :
    ∃ id∈later, id∈ids ∧
      a.released.count id < (evictWhile L h target ids a).released.count id := by
  induction ids generalizing a with
  | nil => exact absurd trivial hs
  | cons id ids ih =>
    obtain ⟨hid,hnodup⟩ := List.nodup_cons.mp hnodup
    unfold Spares at hs
    obtain ⟨hover,hs⟩ := not_or.mp hs
    unfold evictWhile
    rw [if_neg hover]
    by_cases hlater : id∈later
    · refine ⟨id,hlater,List.mem_cons_self,?_⟩
      refine Nat.lt_of_lt_of_le ?_ (Grows.evictWhile target ids _ id)
      rw [evictId_released,if_pos (hall id List.mem_cons_self)]
      simp
    · have hs' : ¬Spares L h target later ids (evictId L h a id) := fun hs' => hs ⟨hlater,hs'⟩
      have hall' : ∀ id'∈ids, id'∈(evictId L h a id).entries := by
        intro id' hid'
        rw [evictId_entries,AList.mem_erase]
        exact ⟨fun heq => hid (heq ▸ hid'),hall id' (List.mem_cons_of_mem _ hid')⟩
      obtain ⟨id',hmem,hids,hlt⟩ := ih hs' hnodup hall'
      have hne : id'≠id := fun heq => hid (heq ▸ hids)
      rw [evictId_count_ne hne] at hlt
      exact ⟨id',hmem,List.mem_cons_of_mem _ hids,hlt⟩

end Stale

/-- In the middle of a sample: the ids done so far have entries of this sample, all
others older ones that were there before it. -/
structure MidSample (seq : Nat) (known : String → Prop) (done : Set String)
    (a : WorkloadArchive ν κ) : Prop where
  seq_eq : a.sampleSeq=seq
  done_current : ∀ id entry, a.entries.lookup id=some entry → id∈done → entry.lastSampleSeq=seq
  other_stale : ∀ id entry, a.entries.lookup id=some entry → id∉done →
    entry.lastSampleSeq < seq ∧ known id

/-- Every entry is of this sample and no longer than the floor. -/
def Floor (seq : Nat) (a : WorkloadArchive ν κ) : Prop :=
  ∀ id entry, a.entries.lookup id=some entry →
    entry.lastSampleSeq=seq ∧ entry.history.length ≤ minTrimmedPoints

/-- None of the ids was released since the log was read, or the floor is reached. -/
def Held (seq : Nat) (ids log : List String) (a : WorkloadArchive ν κ) : Prop :=
  (∀ id∈ids, a.released.count id=log.count id) ∨ Floor seq a

section Pass
variable {L : Layout} {h : Heap ν κ} {seq : Nat} {known : String → Prop} {done : Set String}
  {ids log later : List String} {a a' : WorkloadArchive ν κ}

theorem MidSample.below (hm : MidSample seq known done a) (hb : Below a a')
    (hseq : a'.sampleSeq=a.sampleSeq) : MidSample seq known done a' := by
  refine ⟨hseq.trans hm.seq_eq,?_,?_⟩
  · intro id entry' hentry' hid
    obtain ⟨entry,hentry,heq,-⟩ := hb id entry' hentry'
    exact heq.trans (hm.done_current id entry hentry hid)
  · intro id entry' hentry' hid
    obtain ⟨entry,hentry,heq,-⟩ := hb id entry' hentry'
    exact heq ▸ hm.other_stale id entry hentry hid

theorem Floor.below (hf : Floor seq a) (hb : Below a a') : Floor seq a' := by
  intro id entry' hentry'
  obtain ⟨entry,hentry,heq,hlen⟩ := hb id entry' hentry'
  exact ⟨heq.trans (hf id entry hentry).1,hlen.trans (hf id entry hentry).2⟩

theorem Held.quiet (hh : Held seq ids log a) (hq : Quiet a a') : Held seq ids log a' := by
  obtain hkept | hfloor := hh
  · exact Or.inl (fun id hid => by rw [hq.released_eq,hkept id hid])
  · exact Or.inr (hfloor.below hq.below)

/-- Phase 1 spares what it is told to. -/
theorem Held.evictStale {target : Nat} (hm : MidSample seq known done a)
    (hh : Held seq ids log a) (hids : ∀ id∈ids, id∈done ∨ id∈later)
    (hs : Spares L h target later (staleIds h a) a) :
    Held seq ids log (evictStale L h target a) := by
  obtain hkept | hfloor := hh
  · refine Or.inl (fun id hid => ?_)
    have hlater : id∈staleIds h a → id∈later := by
      intro hstale
      obtain ⟨entry,hentry,hlt⟩ := mem_staleIds.mp hstale
      refine (hids id hid).resolve_left (fun hdone => ?_)
      have hcur := hm.done_current id entry hentry hdone
      rw [hm.seq_eq] at hlt
      omega
    rw [← hkept id hid]
    exact hs.count_eq hlater
  · exact Or.inr (hfloor.below (.evictWhile target _ a))

/-- Phase 1 that misses its target leaves only entries of this sample. -/
theorem evictStale_current (target : Nat) (hm : MidSample seq known done a)
    (hover : ¬(evictStale L h target a).retainedBytes L ≤ target) :
    ∀ id entry, (evictStale L h target a).entries.lookup id=some entry →
      entry.lastSampleSeq=seq := by
  have hbelow : Below a (evictStale L h target a) := .evictWhile target _ a
  have hgone := (evictWhile_drains target (staleIds h a) a).resolve_left hover
  intro id entry hentry
  have hid : id∈(evictStale L h target a).entries :=
    AList.lookup_isSome.mp (by rw [hentry]; rfl)
  obtain ⟨entry',hentry',heq,-⟩ := hbelow id entry hentry
  by_cases hdone : id∈done
  · exact heq.trans (hm.done_current id entry' hentry' hdone)
  · obtain ⟨hlt,-⟩ := hm.other_stale id entry' hentry' hdone
    exact absurd (mem_staleIds.mpr ⟨entry',hentry',hm.seq_eq.symm ▸ hlt⟩) (hgone id hid).2

/-- A pass that spares the families to come holds the ids, or ends at the floor. -/
theorem Held.enforceBudget (hm : MidSample seq known done a) (hh : Held seq ids log a)
    (hids : ∀ id∈ids, id∈done ∨ id∈later)
    (hs : Spares L h a.target later (staleIds h a) a) :
    Held seq ids log (enforceBudget L h a) := by
  unfold WorkloadArchive.enforceBudget
  simp only
  split
  · exact hh
  · have hstale := Held.evictStale hm hh hids hs
    have hcurrent := evictStale_current (L := L) (h := h) a.target hm
    generalize WorkloadArchive.evictStale L h a.target a=b at hstale hcurrent ⊢
    have hend (c : WorkloadArchive ν κ) (hc : Held seq ids log c) :
        Held seq ids log (shrinkContainers h (popTombstones L a.target c)) :=
      hc.quiet ((Quiet.popTombstones a.target c).trans (Quiet.shrinkContainers _))
    have hquiet := Quiet.trimLong (L := L) (h := h) a.target b
    by_cases hfits : (trimLong L h a.target b).retainedBytes L ≤ a.target
    · unfold evictLive
      rw [evictWhile_of_le hfits]
      exact hend _ (hstale.quiet hquiet)
    · -- the trims did not reach the target, so they went to the floor over live entries only
      have hcap := (trimLong_floor (L := L) (h := h) a.target b).resolve_left hfits
      have hover : ¬b.retainedBytes L ≤ a.target := by
        intro hb
        rw [trimLong_of_le hb] at hfits
        exact hfits hb
      have hfloor : Floor seq (trimLong L h a.target b) := by
        intro id entry hentry
        obtain ⟨entry',hentry',heq,-⟩ := hquiet.below id entry hentry
        exact ⟨heq.trans (hcurrent hover id entry' hentry'),hcap id entry hentry⟩
      exact hend _ (Or.inr (hfloor.below (.evictWhile a.target _ _)))

end Pass

section Record
variable {L : Layout} {h : Heap ν κ} {seq bundleId : Nat} {known : String → Prop}
  {done : Set String} {ids log : List String} {a : WorkloadArchive ν κ}

theorem forgetTombstone_entries (id : String) : (forgetTombstone a id).entries=a.entries := by
  unfold forgetTombstone
  split <;> rfl

theorem forgetTombstone_released (id : String) :
    (forgetTombstone a id).released=a.released := by
  unfold forgetTombstone
  split <;> rfl

variable (L h bundleId a) in
/-- A point touches one entry: it is of the point's sample, and its first if it is new. -/
theorem recordPoint_spec (id : String) (stability : ProcessIdentityStabilityV4)
    (point : WorkloadHistoryPoint ν) :
    (∀ id', id'≠id → (recordPoint L h bundleId a (id,stability,point)).entries.lookup id'=
      a.entries.lookup id') ∧
    (∃ entry, (recordPoint L h bundleId a (id,stability,point)).entries.lookup id=some entry ∧
      entry.lastSampleSeq=point.sampleSeq ∧
      (a.entries.lookup id=none → entry.history.length=1)) ∧
    (recordPoint L h bundleId a (id,stability,point)).released=a.released := by
  have hopen : (∀ id', id'≠id →
        (openEntry L h bundleId id stability point a).2.2.entries.lookup id'=
          a.entries.lookup id') ∧
      (openEntry L h bundleId id stability point a).1.lastSampleSeq=point.sampleSeq ∧
      (a.entries.lookup id=none → (openEntry L h bundleId id stability point a).1.history=[]) ∧
      (openEntry L h bundleId id stability point a).2.2.released=a.released := by
    unfold openEntry
    split
    · rename_i previous a' ht
      obtain ⟨hprev,hentries⟩ := takeEntry_entries ht
      refine ⟨?_,rfl,?_,takeEntry_released ht⟩
      · intro id' hne
        rw [hentries,AList.lookup_erase_ne hne]
      · intro hnone
        rw [hprev] at hnone
        cases hnone
    · exact ⟨fun _ _ => rfl,rfl,fun _ => rfl,rfl⟩
  obtain ⟨hother,hseq,hnew,hlog⟩ := hopen
  unfold recordPoint
  simp only [forgetTombstone_entries,forgetTombstone_released,putEntry]
  refine ⟨?_,⟨_,AList.lookup_insert _,hseq,?_⟩,hlog⟩
  · intro id' hne
    rw [AList.lookup_insert_ne hne,hother id' hne]
  · intro hnone
    simp [pushPoint,hnew hnone,maxPoints]

theorem MidSample.recordPoint (hm : MidSample seq known done a) (id : String)
    (stability : ProcessIdentityStabilityV4) {point : WorkloadHistoryPoint ν}
    (hpoint : point.sampleSeq=seq) :
    MidSample seq known (insert id done) (recordPoint L h bundleId a (id,stability,point)) := by
  obtain ⟨hother,⟨entry,hentry,hlast,-⟩,-⟩ :=
    recordPoint_spec L h bundleId a id stability point
  refine ⟨((SameFrame.recordPoint bundleId a _).sampleSeq_eq).trans hm.seq_eq,?_,?_⟩
  · intro id' entry' hentry' hdone
    by_cases hid : id'=id
    · subst hid
      obtain rfl := Option.some.inj (hentry.symm.trans hentry')
      exact hlast.trans hpoint
    · rw [hother id' hid] at hentry'
      exact hm.done_current id' entry' hentry' (hdone.resolve_left hid)
  · intro id' entry' hentry' hdone
    have hid : id'≠id := fun heq => hdone (Or.inl heq)
    rw [hother id' hid] at hentry'
    exact hm.other_stale id' entry' hentry' (fun hmem => hdone (Or.inr hmem))

theorem Held.recordPoint (hm : MidSample seq known done a) (hh : Held seq ids log a)
    {id : String} (hid : id∉done) (stability : ProcessIdentityStabilityV4)
    {point : WorkloadHistoryPoint ν} (hpoint : point.sampleSeq=seq) :
    Held seq ids log (recordPoint L h bundleId a (id,stability,point)) := by
  obtain ⟨hother,⟨entry,hentry,hlast,hone⟩,hlog⟩ :=
    recordPoint_spec L h bundleId a id stability point
  obtain hkept | hfloor := hh
  · exact Or.inl (fun id' hid' => by rw [hlog,hkept id' hid'])
  · refine Or.inr ?_
    -- at the floor all entries are of this sample, so a new id has none
    have hnone : a.entries.lookup id=none := by
      cases hold : a.entries.lookup id with
      | none => rfl
      | some old =>
        have hcur := (hfloor id old hold).1
        have hstale := (hm.other_stale id old hold hid).1
        omega
    intro id' entry' hentry'
    by_cases heq : id'=id
    · subst heq
      obtain rfl := Option.some.inj (hentry.symm.trans hentry')
      refine ⟨hlast.trans hpoint,?_⟩
      rw [hone hnone]
      decide
    · rw [hother id' heq] at hentry'
      exact hfloor id' entry' hentry'

variable (L h bundleId) in
/-- The points of a family: its ids are done and still held. -/
theorem recordPoints_held
    (ps : List (String × ProcessIdentityStabilityV4 × WorkloadHistoryPoint ν))
    (hm : MidSample seq known done a) (hh : Held seq ids log a)
    (hpoints : ∀ p∈ps, p.2.2.sampleSeq=seq) (hnodup : (ps.map (·.1)).Nodup)
    (hfresh : ∀ p∈ps, p.1∉done) :
    MidSample seq known (done∪{id | id∈ps.map (·.1)}) (ps.foldl (recordPoint L h bundleId) a) ∧
      Held seq ids log (ps.foldl (recordPoint L h bundleId) a) := by
  induction ps generalizing a done with
  | nil => simpa using ⟨hm,hh⟩
  | cons p ps ih =>
    obtain ⟨id,stability,point⟩ := p
    obtain ⟨hnew,hnodup⟩ := List.nodup_cons.mp hnodup
    have hpoint := hpoints (id,stability,point) List.mem_cons_self
    have hid := hfresh (id,stability,point) List.mem_cons_self
    have hm' : MidSample seq known (insert id done)
        (recordPoint L h bundleId a (id,stability,point)) := hm.recordPoint id stability hpoint
    have hh' : Held seq ids log (recordPoint L h bundleId a (id,stability,point)) :=
      hh.recordPoint hm hid stability hpoint
    have hstep := ih hm' hh' (fun p hp => hpoints p (List.mem_cons_of_mem _ hp)) hnodup
    have hset : insert id done∪{id' | id'∈ps.map (·.1)}=
        done∪{id' | id'∈((id,stability,point)::ps).map (·.1)} := by
      ext id'
      simp only [Set.mem_union,Set.mem_insert_iff,Set.mem_ofPred_eq,List.map_cons,List.mem_cons]
      tauto
    rw [← hset]
    refine hstep ?_
    intro p hp hdone
    obtain heq | hdone := hdone
    · exact hnew (List.mem_map.mpr ⟨p,hp,heq⟩)
    · exact hfresh p (List.mem_cons_of_mem _ hp) hdone

/-- Dropped families release none but their own ids. -/
theorem rejects_held (ts : List Tombstone) (hm : MidSample seq known done a)
    (hh : Held seq ids log a) (hids : ∀ t∈ts, t.id∉ids) :
    MidSample seq known done (ts.foldl (reject L h) a) ∧
      Held seq ids log (ts.foldl (reject L h) a) := by
  induction ts generalizing a with
  | nil => exact ⟨hm,hh⟩
  | cons t ts ih =>
    have hbelow : Below a (reject L h a t) :=
      (Below.evictId a t.id).trans (.of_entries (rememberEvicted_entries t))
    refine ih (hm.below hbelow (SameFrame.reject a t).sampleSeq_eq) ?_
      (fun t' ht' => hids t' (List.mem_cons_of_mem _ ht'))
    obtain hkept | hfloor := hh
    · refine Or.inl (fun id hid => ?_)
      have hne : id≠t.id := fun heq => hids t List.mem_cons_self (heq ▸ hid)
      rw [reject,rememberEvicted_released,evictId_count_ne hne,hkept id hid]
    · exact Or.inr (hfloor.below hbelow)

end Record

section Sample
variable [Zero ν] [Add ν] (L : Layout) (h : Heap ν κ) (enc : Encoder ν κ ρ)
  (snapshot : RuntimeSnapshot) (sampledAtMs : Nat) (rows : List (ProcessViewRow ρ))

/-- The ids of the families that some rows open. -/
def openedIds (rest : List (ProcessViewRow ρ)) : List String :=
  (rest.filter (fun row => !row.isGroupedProcess)).flatMap (familyIds snapshot rows)

/-- The ids of those of them that are not dropped as too large. -/
def admittedIds (budget : Nat) (rest : List (ProcessViewRow ρ)) : List String :=
  (rest.filter (fun row => !row.isGroupedProcess &&
    admits L enc snapshot sampledAtMs rows budget row)).flatMap (familyIds snapshot rows)

/-- No pass of the sample has to release, as stale, a workload that a later family of
the same sample carries: the stale entries ahead of it are enough for the target. -/
def SparesLater : List (ProcessViewRow ρ) → WorkloadArchive ν κ → Prop
  | [],_ => True
  | row::rest,a =>
    if row.isGroupedProcess then SparesLater rest a
    else
      match recordRow L h enc snapshot sampledAtMs rows row a with
      | .error _ => True
      | .ok b =>
        Spares L h b.target (admittedIds L enc snapshot sampledAtMs rows b.budget rest)
            (staleIds h b) b ∧ SparesLater rest (enforceBudget L h b)

end Sample

section Observe
variable [Zero ν] [Add ν] {L : Layout} {h : Heap ν κ} {enc : Encoder ν κ ρ}
  {snapshot : RuntimeSnapshot} {sampledAtMs : Nat} {rows : List (ProcessViewRow ρ)}
  {known : String → Prop} {done : Set String} {ids log : List String} {a b : WorkloadArchive ν κ}

theorem openedIds_grouped {row : ProcessViewRow ρ} {rest : List (ProcessViewRow ρ)}
    (hrow : row.isGroupedProcess) :
    openedIds snapshot rows (row::rest)=openedIds snapshot rows rest := by
  simp [openedIds,hrow]

omit [Zero ν] [Add ν] in
theorem admittedIds_grouped {budget : Nat} {row : ProcessViewRow ρ}
    {rest : List (ProcessViewRow ρ)} (hrow : row.isGroupedProcess) :
    admittedIds L enc snapshot sampledAtMs rows budget (row::rest)=
      admittedIds L enc snapshot sampledAtMs rows budget rest := by
  simp [admittedIds,hrow]

theorem openedIds_cons {row : ProcessViewRow ρ} {rest : List (ProcessViewRow ρ)}
    (hrow : ¬row.isGroupedProcess) : openedIds snapshot rows (row::rest)=
      familyIds snapshot rows row++openedIds snapshot rows rest := by
  simp [openedIds,hrow]

omit [Zero ν] [Add ν] in
theorem admittedIds_cons {budget : Nat} {row : ProcessViewRow ρ} {rest : List (ProcessViewRow ρ)}
    (hrow : ¬row.isGroupedProcess) : admittedIds L enc snapshot sampledAtMs rows budget (row::rest)=
      (if admits L enc snapshot sampledAtMs rows budget row then familyIds snapshot rows row
        else [])++admittedIds L enc snapshot sampledAtMs rows budget rest := by
  unfold admittedIds
  by_cases hfits : admits L enc snapshot sampledAtMs rows budget row <;> simp [hrow,hfits]

omit [Zero ν] [Add ν] in
theorem admittedIds_sub {budget : Nat} {rest : List (ProcessViewRow ρ)} {id : String}
    (hid : id∈admittedIds L enc snapshot sampledAtMs rows budget rest) :
    id∈openedIds snapshot rows rest := by
  unfold admittedIds openedIds at *
  obtain ⟨row,hrow,hid⟩ := List.mem_flatMap.mp hid
  simp only [List.mem_filter,Bool.and_eq_true] at hrow
  exact List.mem_flatMap.mpr ⟨row,List.mem_filter.mpr ⟨hrow.1,hrow.2.1⟩,hid⟩

/-- A row's family is done and held; a dropped one touches only its own ids. -/
theorem recordRow_held {row : ProcessViewRow ρ} {rest : List (ProcessViewRow ρ)}
    (hrow : ¬row.isGroupedProcess)
    (hm : MidSample snapshot.sampleSeq known done a) (hh : Held snapshot.sampleSeq ids log a)
    (hr : recordRow L h enc snapshot sampledAtMs rows row a=.ok b)
    (hids : ∀ id∈ids, id∈done ∨
      id∈admittedIds L enc snapshot sampledAtMs rows a.budget (row::rest))
    (hunique : (openedIds snapshot rows (row::rest)).Nodup)
    (hfresh : ∀ id∈openedIds snapshot rows (row::rest), id∉done) :
    ∃ done', MidSample snapshot.sampleSeq known done' b ∧ Held snapshot.sampleSeq ids log b ∧
      (∀ id∈ids, id∈done' ∨ id∈admittedIds L enc snapshot sampledAtMs rows a.budget rest) ∧
      ∀ id∈openedIds snapshot rows rest, id∉done' := by
  rw [openedIds_cons hrow] at hunique hfresh
  rw [admittedIds_cons hrow] at hids
  obtain ⟨hnodup,hrest,hdisjoint⟩ := List.nodup_append.mp hunique
  have hold : ∀ id∈openedIds snapshot rows rest, id∉done :=
    fun id hid => hfresh id (List.mem_append_right _ hid)
  obtain ⟨hfits,ts,hts,-,-,rfl⟩ | ⟨hfits,catalog,bytes,hcatalog,hseq,-,-,rfl⟩ := recordRow_cases hr
  · simp only [hfits,Bool.false_eq_true,if_false,List.nil_append] at hids
    have hother : ∀ t∈ts, t.id∉ids := by
      intro t ht hid
      have hfam : t.id∈familyIds snapshot rows row := (hts t.id).mp (List.mem_map_of_mem ht)
      obtain hdone | hlater := hids t.id hid
      · exact hfresh t.id (List.mem_append_left _ hfam) hdone
      · exact hdisjoint t.id hfam t.id (admittedIds_sub hlater) rfl
    obtain ⟨hm',hh'⟩ := rejects_held ts hm hh hother
    exact ⟨done,hm',hh',hids,hold⟩
  · simp only [hfits,if_true] at hids
    have hopen : Below a (openBundle h a catalog bytes) := .of_entries rfl
    have hnames : (familyPoints catalog snapshot.sampleIntervalMs).map (·.1)=
        familyIds snapshot rows row := by
      rw [← hcatalog,familyPoints,List.map_map]
      rfl
    have hpoints : ∀ p∈familyPoints catalog snapshot.sampleIntervalMs,
        p.2.2.sampleSeq=snapshot.sampleSeq := by
      intro p hp
      obtain ⟨w,-,rfl⟩ := List.mem_map.mp hp
      exact hseq
    have hnew : ∀ p∈familyPoints catalog snapshot.sampleIntervalMs, p.1∉done := by
      intro p hp
      refine hfresh p.1 (List.mem_append_left _ ?_)
      rw [← hnames]
      exact List.mem_map_of_mem hp
    obtain ⟨hm',hh'⟩ := recordPoints_held L h (a.nextBundle+1)
      (familyPoints catalog snapshot.sampleIntervalMs) (hm.below hopen rfl)
      (hh.quiet ⟨hopen,rfl⟩) hpoints (hnames ▸ hnodup) hnew
    refine ⟨_,hm',hh',?_,?_⟩
    · intro id hid
      obtain hdone | hlater := hids id hid
      · exact Or.inl (Or.inl hdone)
      · obtain hfam | hlater := List.mem_append.mp hlater
        · refine Or.inl (Or.inr ?_)
          rw [hnames]
          exact hfam
        · exact Or.inr hlater
    · rintro id hid (hdone | hfam)
      · exact hold id hid hdone
      · rw [hnames] at hfam
        exact hdisjoint id hfam id hid rfl

theorem Grows.recordRow {row : ProcessViewRow ρ}
    (hr : recordRow L h enc snapshot sampledAtMs rows row a=.ok b) : Grows a b := by
  obtain ⟨-,ts,-,-,-,rfl⟩ | ⟨-,catalog,bytes,-,-,-,-,rfl⟩ := recordRow_cases hr
  · exact foldl_rule (P := Grows a) (fun a' t hg => hg.trans (Grows.reject a' t)) ts Grows.refl
  · refine foldl_rule (P := Grows a) ?_ _ (Grows.of_eq rfl)
    rintro a' ⟨id,stability,point⟩ hg
    exact hg.trans (Grows.of_eq (recordPoint_spec L h _ a' id stability point).2.2)

theorem Grows.observeRows (rest : List (ProcessViewRow ρ)) (a : WorkloadArchive ν κ) :
    Grows a (observeRows L h enc snapshot sampledAtMs rows rest a).2 :=
  observeRows_rule (P := Grows a)
    (fun _ _ b hg hr => (hg.trans (.recordRow hr)).trans (.enforceBudget b))
    (fun a' hg => hg.trans (.enforceBudget a')) rest Grows.refl

/-- Rows with a pass that does not spare them release a workload of a family to come. -/
theorem observeRows_releases (rest : List (ProcessViewRow ρ))
    (hm : MidSample snapshot.sampleSeq known done a)
    (hunique : (openedIds snapshot rows rest).Nodup)
    (hfresh : ∀ id∈openedIds snapshot rows rest, id∉done)
    (hs : ¬SparesLater L h enc snapshot sampledAtMs rows rest a) :
    ∃ id∈admittedIds L enc snapshot sampledAtMs rows a.budget rest, known id ∧
      a.released.count id <
        (observeRows L h enc snapshot sampledAtMs rows rest a).2.released.count id := by
  induction rest generalizing a done with
  | nil => exact absurd trivial hs
  | cons row rest ih =>
    by_cases hrow : row.isGroupedProcess
    · rw [openedIds_grouped hrow] at hunique hfresh
      rw [admittedIds_grouped hrow]
      simp only [SparesLater,if_pos hrow] at hs
      simp only [observeRows,observeRow,if_pos hrow]
      exact ih hm hunique hfresh hs
    · simp only [SparesLater,if_neg hrow] at hs
      simp only [observeRows,observeRow,if_neg hrow]
      cases hr : recordRow L h enc snapshot sampledAtMs rows row a with
      | error e => simp only [hr,not_true_eq_false] at hs
      | ok b =>
        simp only [hr,not_and_or] at hs
        -- only the bookkeeping of the sample is needed here: no id has to be held
        have hheld : Held snapshot.sampleSeq [] [] a :=
          Or.inl (fun _ hid => absurd hid List.not_mem_nil)
        have hnone : ∀ id∈([] : List String), id∈done ∨
            id∈admittedIds L enc snapshot sampledAtMs rows a.budget (row::rest) :=
          fun _ hid => absurd hid List.not_mem_nil
        obtain ⟨done',hm',-,-,hfresh'⟩ := recordRow_held hrow hm hheld hr hnone hunique hfresh
        have hframe := SameFrame.enforceBudget (L := L) (h := h) b
        have hbudget : b.budget=a.budget := (SameFrame.recordRow hr).budget_eq
        have hgrows := Grows.recordRow hr
        have hmem {id : String}
            (hid : id∈admittedIds L enc snapshot sampledAtMs rows b.budget rest) :
            id∈admittedIds L enc snapshot sampledAtMs rows a.budget (row::rest) := by
          rw [admittedIds_cons hrow,← hbudget]
          exact List.mem_append_right _ hid
        obtain hpass | hs := hs
        · have hover : ¬b.retainedBytes L ≤ b.target := by
            intro hfits
            refine hpass ?_
            cases staleIds h b with
            | nil => trivial
            | cons id ids => exact Or.inl hfits
          obtain ⟨id,hlater,hstale,hlt⟩ := released_of_not_spares hpass (staleIds_nodup b)
            (fun id hid => by
              obtain ⟨entry,hentry,-⟩ := mem_staleIds.mp hid
              exact AList.lookup_isSome.mp (by rw [hentry]; rfl))
          obtain ⟨entry,hentry,hold⟩ := mem_staleIds.mp hstale
          have hnew : id∉done' := hfresh' id (admittedIds_sub hlater)
          refine ⟨id,hmem hlater,(hm'.other_stale id entry hentry hnew).2,?_⟩
          have hafter : Grows (evictStale L h b.target b)
              (observeRows L h enc snapshot sampledAtMs rows rest (enforceBudget L h b)).2 :=
            (Grows.evictStale hover).trans (Grows.observeRows rest _)
          exact Nat.lt_of_le_of_lt (hgrows id) (Nat.lt_of_lt_of_le hlt (hafter id))
        · rw [openedIds_cons hrow] at hunique
          obtain ⟨id,hid,hknown,hlt⟩ := ih
            (hm'.below (.enforceBudget b) hframe.sampleSeq_eq)
            (List.nodup_append.mp hunique).2.1 hfresh' hs
          rw [hframe.budget_eq] at hid
          refine ⟨id,hmem hid,hknown,Nat.lt_of_le_of_lt ?_ hlt⟩
          exact (hgrows.trans (.enforceBudget b)) id

end Observe

/-- No entry is of a later sample than the archive. -/
def Dated (a : WorkloadArchive ν κ) : Prop :=
  ∀ id entry, a.entries.lookup id=some entry → entry.lastSampleSeq ≤ a.sampleSeq

namespace Dated
variable {L : Layout} {h : Heap ν κ} {a a' : WorkloadArchive ν κ}

theorem below (hd : Dated a) (hb : Below a a') (hseq : a'.sampleSeq=a.sampleSeq) : Dated a' := by
  intro id entry' hentry'
  obtain ⟨entry,hentry,heq,-⟩ := hb id entry' hentry'
  rw [heq,hseq]
  exact hd id entry hentry

theorem enforceBudget (hd : Dated a) : Dated (enforceBudget L h a) :=
  hd.below (.enforceBudget a) (SameFrame.enforceBudget a).sampleSeq_eq

variable [Zero ν] [Add ν] {enc : Encoder ν κ ρ} {snapshot : RuntimeSnapshot} {sampledAtMs : Nat}
  {rows : List (ProcessViewRow ρ)}

theorem recordRow {row : ProcessViewRow ρ} {b : WorkloadArchive ν κ} (hd : Dated a)
    (hseq : a.sampleSeq=snapshot.sampleSeq)
    (hr : recordRow L h enc snapshot sampledAtMs rows row a=.ok b) : Dated b := by
  obtain ⟨-,ts,-,-,-,rfl⟩ | ⟨-,catalog,bytes,-,hcatalog,-,-,rfl⟩ := recordRow_cases hr
  · refine foldl_rule (P := Dated) ?_ ts hd
    intro a' t hd'
    exact hd'.below ((Below.evictId a' t.id).trans (.of_entries (rememberEvicted_entries t)))
      (SameFrame.reject a' t).sampleSeq_eq
  · have hboth : Dated ((familyPoints catalog snapshot.sampleIntervalMs).foldl
          (recordPoint L h (a.nextBundle+1)) (openBundle h a catalog bytes)) ∧
        ((familyPoints catalog snapshot.sampleIntervalMs).foldl
          (recordPoint L h (a.nextBundle+1)) (openBundle h a catalog bytes)).sampleSeq=
            snapshot.sampleSeq := by
      refine foldl_mem_rule (P := fun a' => Dated a' ∧ a'.sampleSeq=snapshot.sampleSeq) _ ?_
        ⟨hd,hseq⟩
      rintro a' ⟨id,stability,point⟩ hp ⟨hd',hseq'⟩
      have hframe :=
        SameFrame.recordPoint (L := L) (h := h) (a.nextBundle+1) a' (id,stability,point)
      have hpoint : point.sampleSeq=snapshot.sampleSeq := by
        obtain ⟨w,-,heq⟩ := List.mem_map.mp hp
        obtain ⟨-,heq⟩ := Prod.mk.inj heq
        obtain ⟨-,rfl⟩ := Prod.mk.inj heq
        exact hcatalog
      obtain ⟨hother,⟨entry,hentry,hlast,-⟩,-⟩ :=
        recordPoint_spec L h (a.nextBundle+1) a' id stability point
      refine ⟨?_,hframe.sampleSeq_eq.trans hseq'⟩
      intro id' entry' hentry'
      rw [hframe.sampleSeq_eq]
      by_cases hid : id'=id
      · subst hid
        obtain rfl := Option.some.inj (hentry.symm.trans hentry')
        rw [hlast,hpoint,hseq']
      · rw [hother id' hid] at hentry'
        exact hd' id' entry' hentry'
    exact hboth.1

theorem observe (hd : Dated a) (live : Bool) : Dated (observe L h enc snapshot rows live a).2 := by
  obtain ⟨f,heq⟩ | ⟨sampledAtMs,f,hnew,heq⟩ := observe_cases L h enc snapshot rows live a
  · rw [heq]
    exact hd
  · have hbegun : Dated (begun snapshot sampledAtMs a) :=
      fun id entry hentry => (hd id entry hentry).trans hnew.le
    have hboth : Dated (observeRows L h enc snapshot sampledAtMs rows rows
          (begun snapshot sampledAtMs a)).2 ∧
        (observeRows L h enc snapshot sampledAtMs rows rows
          (begun snapshot sampledAtMs a)).2.sampleSeq=snapshot.sampleSeq := by
      refine observeRows_rule (P := fun a' => Dated a' ∧ a'.sampleSeq=snapshot.sampleSeq) ?_ ?_
        rows ⟨hbegun,rfl⟩
      · rintro row a' b ⟨hd',hseq'⟩ hr
        exact ⟨(hd'.recordRow hseq' hr).enforceBudget,
          (SameFrame.enforceBudget b).sampleSeq_eq.trans
            ((SameFrame.recordRow hr).sampleSeq_eq.trans hseq')⟩
      · rintro a' ⟨hd',hseq'⟩
        exact ⟨hd'.enforceBudget,(SameFrame.enforceBudget a').sampleSeq_eq.trans hseq'⟩
    rw [heq]
    exact hboth.1

theorem apply (hd : Dated a) (step : Heap ν κ × Operation ρ) : Dated (a.apply L enc step) := by
  obtain ⟨h,op⟩ := step
  cases op with
  | beginIngress processes =>
    simp only [WorkloadArchive.apply,beginIngress]
    split
    · exact hd
    · exact Dated.enforceBudget hd
  | endIngress => exact hd
  | observe snapshot rows live => exact hd.observe live
  | inspect id pointLimit =>
    simp only [WorkloadArchive.apply,inspect]
    split
    · exact hd
    · split
      · exact hd
      · split <;> exact hd
  | acknowledge token =>
    simp only [WorkloadArchive.apply,acknowledge]
    split
    · exact hd
    · split <;> exact hd

theorem run (budget : Nat) (steps : List (Heap ν κ × Operation ρ)) :
    Dated (WorkloadArchive.run L enc steps (withBudget budget)) := by
  refine foldl_rule (P := Dated) (fun _ step hd => hd.apply step) steps ?_
  intro id entry hentry
  simp [withBudget] at hentry

end Dated

section Retention
variable [Zero ν] [Add ν] {L : Layout} {h : Heap ν κ} {enc : Encoder ν κ ρ}
  {snapshot : RuntimeSnapshot} {sampledAtMs : Nat} {rows : List (ProcessViewRow ρ)}
  {a : WorkloadArchive ν κ}

/-- When its rows are read all entries are older than the sample. -/
theorem Accepted.midSample (haccepted : Accepted L h enc snapshot rows sampledAtMs a)
    (hdated : Dated a) :
    MidSample snapshot.sampleSeq (·∈a.entries) ∅ (begun snapshot sampledAtMs a) := by
  refine ⟨rfl,fun _ _ _ hid => absurd hid (Set.notMem_empty _),?_⟩
  intro id entry hentry _
  exact ⟨Nat.lt_of_le_of_lt (hdated id entry hentry) haccepted.newer,
    AList.lookup_isSome.mp (by rw [show a.entries.lookup id=some entry from hentry]; rfl)⟩

/-- If one of them does, a live workload is released as missing. -/
theorem releases_of_not_sparesLater (haccepted : Accepted L h enc snapshot rows sampledAtMs a)
    (hdated : Dated a) (hunique : (openedIds snapshot rows rows).Nodup)
    (hs : ¬SparesLater L h enc snapshot sampledAtMs rows rows (begun snapshot sampledAtMs a)) :
    ∃ id∈a.entries, id∈admittedIds L enc snapshot sampledAtMs rows a.budget rows ∧
      a.released.count id < (observe L h enc snapshot rows true a).2.released.count id := by
  obtain ⟨id,hid,hknown,hlt⟩ := observeRows_releases rows (haccepted.midSample hdated) hunique
    (fun id _ => Set.notMem_empty id) hs
  refine ⟨id,hknown,hid,?_⟩
  rw [haccepted.observe_eq]
  exact hlt

end Retention

namespace Burst
open Plain

/-- Four workers for 33 samples, then the ingress of a sample with a fifth. Irreducible,
so that only the kernel runs it. -/
@[irreducible] def steps : List (Heap Nat Unit × Operation Unit) :=
  (List.range 33).flatMap (fun k => sample (k+1) ["1","2","3","4"])++
    [(.plain _ _,.beginIngress (["1","2","3","4","5"].map process))]

abbrev before : WorkloadArchive Nat Unit := run .x64 .plain steps (withBudget (216*1024))

/-- The fifth worker listed before the fourth. -/
def rows : List (ProcessViewRow Unit) := ["1","2","3","5","4"].map row

theorem accepted {a : WorkloadArchive Nat Unit} {rows : List (ProcessViewRow Unit)}
    (hok : (observe .x64 (.plain _ _) .plain (snapshot 34) rows true a).1.toBool=true)
    (hseq : a.sampleSeq < 34) :
    Accepted .x64 (.plain _ _) .plain (snapshot 34) rows 34000 a := by
  refine ⟨rfl,hseq,?_⟩
  cases hresult : (observe .x64 (.plain _ _) .plain (snapshot 34) rows true a).1 with
  | error e =>
    rw [hresult] at hok
    cases hok
  | ok u => rfl

end Burst

end BatCave.WorkloadHistory.WorkloadArchive
