import BatCave.WorkloadHistory.Accounting

/-! A pass over the budget always reaches its target: either a loop stops because
little enough is retained, or nothing is left to count. With the reservations of the
ingress and of the replies the archive stays within its budget. -/
namespace BatCave.WorkloadHistory.WorkloadArchive
open BatCave.Lib.Table
variable {ν κ ρ : Type}

section Pass
variable {L : Layout} {h : Heap ν κ}

theorem mem_liveIds {a : WorkloadArchive ν κ} {id : String} (hid : id∈a.entries) :
    id∈liveIds h a := by
  obtain ⟨entry,hentry⟩ := Option.isSome_iff_exists.mp (AList.lookup_isSome.mpr hid)
  refine List.mem_map.mpr ⟨(Lib.Word.u64Max-entry.history.length,id),?_,rfl⟩
  rw [(List.perm_insertionSort liveBefore _).mem_iff]
  refine List.mem_filterMap.mpr ⟨id,(h.entryOrder_perm a).mem_iff.mpr hid,?_⟩
  rw [hentry]
  rfl

/-- A loop of evictions reaches the target or leaves none of its ids. -/
theorem evictWhile_drains (target : Nat) (ids : List String) (a : WorkloadArchive ν κ) :
    (evictWhile L h target ids a).retainedBytes L ≤ target ∨
      ∀ id∈(evictWhile L h target ids a).entries, id∈a.entries ∧ id∉ids := by
  induction ids generalizing a with
  | nil => exact Or.inr (fun id hid => ⟨hid,List.not_mem_nil⟩)
  | cons id ids ih =>
    unfold evictWhile
    split
    · rename_i hfits
      exact Or.inl hfits
    · obtain hfits | hgone := ih (evictId L h a id)
      · exact Or.inl hfits
      · refine Or.inr ?_
        intro id' hid'
        obtain ⟨hmem,hnot⟩ := hgone id' hid'
        rw [evictId_entries,AList.mem_erase] at hmem
        refine ⟨hmem.2,?_⟩
        rw [List.mem_cons,not_or]
        exact ⟨hmem.1,hnot⟩

theorem evictLive_drains (target : Nat) (a : WorkloadArchive ν κ) :
    (evictLive L h target a).retainedBytes L ≤ target ∨ (evictLive L h target a).entries=∅ := by
  obtain hfits | hgone := evictWhile_drains (L := L) (h := h) target (liveIds h a) a
  · exact Or.inl hfits
  · refine Or.inr (eq_empty_of_keys ?_)
    intro id
    rw [AList.lookup_eq_none]
    intro hid
    obtain ⟨hmem,hnot⟩ := hgone id hid
    exact hnot (mem_liveIds hmem)

/-- The last loop reaches the target or leaves no tombstone; it touches no entry. -/
theorem popWhile_drains (target turns : Nat) (a : WorkloadArchive ν κ)
    (hturns : a.evicted.length ≤ turns) :
    (popWhile L target turns a).entries=a.entries ∧
      ((popWhile L target turns a).retainedBytes L ≤ target ∨
        (popWhile L target turns a).evicted=[] ∧ target < a.retainedBytes L) := by
  induction turns generalizing a with
  | zero =>
    have hnil : a.evicted=[] := List.length_eq_zero_iff.mp (Nat.le_zero.mp hturns)
    refine ⟨rfl,?_⟩
    by_cases hfits : a.retainedBytes L ≤ target
    · exact Or.inl hfits
    · exact Or.inr ⟨hnil,Nat.lt_of_not_le hfits⟩
  | succ turns ih =>
    unfold popWhile
    split
    · rename_i hover
      split
      · rename_i hpop
        refine ⟨rfl,Or.inr ⟨?_,hover⟩⟩
        unfold popEvicted at hpop
        split at hpop
        · assumption
        · cases hpop
      · rename_i t a' hpop
        obtain ⟨rest,hev,rfl⟩ := popEvicted_cases hpop
        have hlen : rest.length ≤ turns := by
          rw [hev,List.length_cons] at hturns
          omega
        obtain ⟨hentries,hends⟩ :=
          ih {a with evicted := rest, evictedBytes := a.evictedBytes-t.capacity} hlen
        refine ⟨hentries,?_⟩
        obtain hfits | hnil := hends
        · exact Or.inl hfits
        · exact Or.inr ⟨hnil.1,hover⟩
    · rename_i hfits
      exact ⟨rfl,Or.inl (Nat.le_of_not_lt hfits)⟩

theorem shrunk_le (len capacity : Nat) : shrunk h len capacity ≤ capacity := by
  unfold shrunk
  split
  · exact h.shrinkCapacity_le len capacity
  · exact Nat.le_refl capacity

theorem shrunk_empty (capacity : Nat) : shrunk h 0 capacity=0 := by
  unfold shrunk
  split
  · exact h.shrinkCapacity_empty capacity
  · omega

theorem shrinkContainers_retained (a : WorkloadArchive ν κ) :
    (shrinkContainers h a).retainedBytes L ≤ a.retainedBytes L := by
  have hentries := shrunk_le (h := h) a.entries.keys.length a.entriesCapacity
  have hbundles := shrunk_le (h := h) a.bundles.keys.length a.bundlesCapacity
  have hevicted := shrunk_le (h := h) a.evicted.length a.evictedCapacity
  unfold retainedBytes shrinkContainers
  simp only
  gcongr

/-- Without entries nobody names a bundle, so there is none. -/
theorem Accounts.bundles_empty {a : WorkloadArchive ν κ} (ha : Accounts L (fun _ => 0) a)
    (hentries : a.entries=∅) : a.bundles=∅ := by
  refine eq_empty_of_keys ?_
  intro k
  cases hb : a.bundles.lookup k with
  | none => rfl
  | some b =>
    have hrefs := ha.references_eq k b hb
    have hpos := ha.references_pos k b hb
    rw [hentries] at hrefs
    simp only [naming,total_empty] at hrefs
    omega

theorem Accounts.drained {a : WorkloadArchive ν κ} (ha : Accounts L (fun _ => 0) a)
    (hentries : a.entries=∅) (hevicted : a.evicted=[]) :
    (shrinkContainers h a).retainedBytes L=0 := by
  have hbundles := ha.bundles_empty hentries
  have hallocated : a.allocated=0 := by
    rw [ha.allocated_eq,hentries,hbundles]
    rfl
  have hbytes : a.evictedBytes=0 := by
    rw [ha.tombstones_eq,hevicted]
    rfl
  have hkeys : (∅ : AList (fun _ : String => Entry ν)).keys.length=0 := rfl
  have hkeys' : (∅ : AList (fun _ : Nat => Bundle ν κ)).keys.length=0 := rfl
  simp only [retainedBytes,shrinkContainers,hentries,hbundles,hevicted,hallocated,hbytes,hkeys,
    hkeys',List.length_nil,shrunk_empty,Nat.zero_mul,Nat.add_zero]

/-- A pass ends within its target, if need be with nothing retained. -/
theorem Accounts.enforceBudget_retained {a : WorkloadArchive ν κ}
    (ha : Accounts L (fun _ => 0) a) :
    (WorkloadArchive.enforceBudget L h a).retainedBytes L ≤ a.target := by
  unfold WorkloadArchive.enforceBudget
  simp only
  split
  · assumption
  · have hstale : Accounts L (fun _ => 0) (evictStale L h a.target a) :=
      evictWhile_rule (fun _ id ha => ha.evictId id) _ _ ha
    have htrim : Accounts L (fun _ => 0) (trimLong L h a.target (evictStale L h a.target a)) :=
      trimWhile_rule (fun cap _ id _ ha => ha.trimOne cap id) _ _ _ hstale
    generalize trimLong L h a.target (evictStale L h a.target a)=b at htrim ⊢
    have hlive : Accounts L (fun _ => 0) (evictLive L h a.target b) :=
      evictWhile_rule (fun _ id ha => ha.evictId id) _ _ htrim
    have hdrains := evictLive_drains (L := L) (h := h) a.target b
    generalize evictLive L h a.target b=c at hlive hdrains ⊢
    have hpop : Accounts L (fun _ => 0) (popTombstones L a.target c) :=
      popWhile_rule (fun _ _ _ ha hp => ha.popEvicted hp) _ _ hlive
    obtain ⟨hentries,hends⟩ := popWhile_drains (L := L) a.target c.evicted.length c (Nat.le_refl _)
    obtain hfits | ⟨hnil,hover⟩ := hends
    · exact (shrinkContainers_retained _).trans hfits
    · have hempty : c.entries=∅ := hdrains.resolve_left (Nat.not_le_of_lt hover)
      rw [Accounts.drained hpop (hentries.trans hempty) hnil]
      exact Nat.zero_le _

end Pass

/-- The three reservations together. -/
structure Within (L : Layout) (a : WorkloadArchive ν κ) : Prop where
  retained : a.retainedBytes L+a.ingressReserved ≤ a.budget-a.replyReserve
  replies : a.replies.used ≤ a.replyReserve

namespace Within
variable {L : Layout} {h : Heap ν κ} {a b : WorkloadArchive ν κ}

/-- A pass over accounts that are exact, under a reservation that fits. -/
theorem enforceBudget (ha : Accounts L (fun _ => 0) b)
    (hingress : b.ingressReserved ≤ b.budget-b.replyReserve)
    (hreplies : b.replies.used ≤ b.replyReserve) : Within L (enforceBudget L h b) := by
  have hframe := SameFrame.enforceBudget (L := L) (h := h) b
  have hretained := ha.enforceBudget_retained (h := h)
  have hreserve : (WorkloadArchive.enforceBudget L h b).replyReserve=b.replyReserve := by
    rw [replyReserve,hframe.budget_eq,replyReserve]
  unfold target at hretained
  refine ⟨?_,?_⟩
  · rw [hframe.budget_eq,hframe.ingressReserved_eq,hreserve]
    omega
  · rw [hframe.replies_eq,hreserve]
    exact hreplies

theorem after (hw : Within L a) (ha : Accounts L (fun _ => 0) b) (hframe : SameFrame a b) :
    Within L (WorkloadArchive.enforceBudget L h b) := by
  have hreserve : b.replyReserve=a.replyReserve := by
    rw [replyReserve,hframe.budget_eq,replyReserve]
  refine enforceBudget ha ?_ ?_
  · rw [hframe.ingressReserved_eq,hframe.budget_eq,hreserve]
    exact (Nat.le_add_left _ _).trans hw.retained
  · rw [hframe.replies_eq,hreserve]
    exact hw.replies

theorem withBudget (budget : Nat) : Within L (withBudget budget : WorkloadArchive ν κ) := by
  refine ⟨?_,Nat.zero_le _⟩
  simp [WorkloadArchive.withBudget,retainedBytes]

theorem beginIngress (hw : Within L a) (ha : Accounts L (fun _ => 0) a)
    (processes : List ProcessSample) : Within L (a.beginIngress L h processes).2 := by
  unfold WorkloadArchive.beginIngress
  simp only
  split
  · exact ⟨hw.retained,hw.replies⟩
  · rename_i hfits
    refine enforceBudget ?_ (Nat.le_of_not_lt hfits) hw.replies
    exact ha.frame rfl rfl rfl rfl rfl rfl rfl

theorem inspect (hw : Within L a) (id : String) (pointLimit : Nat) :
    Within L (a.inspect id pointLimit).2 := by
  unfold WorkloadArchive.inspect
  split
  · exact hw
  · split
    · exact hw
    · split
      · exact hw
      · rename_i token replies hreserve
        refine ⟨hw.retained,?_⟩
        unfold ResponseCredits.reserve at hreserve
        split at hreserve
        · cases hreserve
        · rename_i hfits
          split at hreserve
          · cases hreserve
          · cases hreserve
            exact Nat.le_of_not_lt hfits

theorem acknowledge (hw : Within L a) (token : String) : Within L (a.acknowledge token).2 := by
  unfold WorkloadArchive.acknowledge
  split
  · exact hw
  · split
    · exact hw
    · exact ⟨hw.retained,(Nat.sub_le _ _).trans hw.replies⟩

variable [Zero ν] [Add ν] {enc : Encoder ν κ ρ} {snapshot : RuntimeSnapshot}
  {rows : List (ProcessViewRow ρ)}

theorem observe (hw : Within L a) (ha : Accounts L (fun _ => 0) a) (live : Bool) :
    Within L (observe L h enc snapshot rows live a).2 := by
  have hboth : Within L (WorkloadArchive.observe L h enc snapshot rows live a).2 ∧
      Accounts L (fun _ => 0) (WorkloadArchive.observe L h enc snapshot rows live a).2 := by
    refine observe_rule (P := fun a => Within L a ∧ Accounts L (fun _ => 0) a) ?_ ?_ ?_ live
      ⟨hw,ha⟩
    · rintro a - - - - ⟨hw,ha⟩
      exact ⟨⟨hw.retained,hw.replies⟩,ha.frame rfl rfl rfl rfl rfl rfl rfl⟩
    · rintro sampledAtMs row a b ⟨hw,ha⟩ hr
      have hb := ha.recordRow hr
      exact ⟨hw.after hb (.recordRow hr),hb.enforceBudget⟩
    · rintro a ⟨hw,ha⟩
      exact ⟨hw.after ha .refl,ha.enforceBudget⟩
  exact hboth.1

theorem apply (hw : Within L a) (hb : Books L a) (step : Heap ν κ × Operation ρ) :
    Within L (a.apply L enc step) := by
  obtain ⟨h,op⟩ := step
  cases op with
  | beginIngress processes => exact hw.beginIngress hb.accounts processes
  | endIngress => exact ⟨(Nat.add_le_add_left (Nat.zero_le _) _).trans hw.retained,hw.replies⟩
  | observe snapshot rows live => exact hw.observe hb.accounts live
  | inspect id pointLimit => exact hw.inspect id pointLimit
  | acknowledge token => exact hw.acknowledge token

theorem run (budget : Nat) (steps : List (Heap ν κ × Operation ρ)) :
    Within L (WorkloadArchive.run L enc steps (WorkloadArchive.withBudget budget)) := by
  have hboth : Within L (WorkloadArchive.run L enc steps (WorkloadArchive.withBudget budget)) ∧
      Books L (WorkloadArchive.run L enc steps (WorkloadArchive.withBudget budget)) :=
    foldl_rule (P := fun a => Within L a ∧ Books L a)
      (fun _ step hb => ⟨hb.1.apply hb.2 step,hb.2.apply step⟩) steps
      ⟨withBudget budget,Books.withBudget budget⟩
  exact hboth.1

end Within

section Bound
variable [Zero ν] [Add ν] (L : Layout) (enc : Encoder ν κ ρ)

theorem apply_budget (a : WorkloadArchive ν κ) (step : Heap ν κ × Operation ρ) :
    (a.apply L enc step).budget=a.budget := by
  obtain ⟨h,op⟩ := step
  cases op with
  | beginIngress processes =>
    simp only [apply,beginIngress]
    split
    · rfl
    · rw [(SameFrame.enforceBudget _).budget_eq]
  | endIngress => rfl
  | observe snapshot rows live => exact (observe_reserves live a).budget_eq
  | inspect id pointLimit =>
    simp only [apply,inspect]
    split
    · rfl
    · split
      · rfl
      · split <;> rfl
  | acknowledge token =>
    simp only [apply,acknowledge]
    split
    · rfl
    · split <;> rfl

theorem run_budget (budget : Nat) (steps : List (Heap ν κ × Operation ρ)) :
    (run L enc steps (withBudget budget : WorkloadArchive ν κ)).budget=budget :=
  foldl_rule (P := fun a => a.budget=budget)
    (fun a step ha => (apply_budget L enc a step).trans ha) steps rfl

/-- On return of every operation of every run the three reservations add up to no more
than the budget, and a pass over exact accounts ends within its target. -/
theorem memory_bound (budget : Nat) (steps : List (Heap ν κ × Operation ρ)) :
    let a := run L enc steps (withBudget budget)
    a.retainedBytes L+a.ingressReserved+a.replies.used ≤ budget ∧
    a.replies.used ≤ min replyBudgetBytes (budget/8) ∧
    ∀ (h : Heap ν κ) (b : WorkloadArchive ν κ), Accounts L (fun _ => 0) b →
      (enforceBudget L h b).retainedBytes L ≤
        b.budget-min replyBudgetBytes (b.budget/8)-b.ingressReserved := by
  intro a
  have hw : Within L a := Within.run budget steps
  have hbudget : a.budget=budget := run_budget L enc budget steps
  have hreserve : a.replyReserve=min replyBudgetBytes (budget/8) := by rw [replyReserve,hbudget]
  have hle : a.replyReserve ≤ budget := by
    rw [hreserve]
    exact (Nat.min_le_right _ _).trans (Nat.div_le_self _ _)
  obtain ⟨hretained,hreplies⟩ := hw
  refine ⟨?_,hreserve ▸ hreplies,fun h b hb => hb.enforceBudget_retained⟩
  rw [hbudget] at hretained
  omega

end Bound

/-- Two workers in an archive that may retain nothing. -/
def overdrawn : WorkloadArchive Nat Unit :=
  {run .x64 .plain (Plain.sample 1 ["1","2"]) (withBudget (216*1024)) with budget := 0}

theorem memory_bound_overdrawn :
    0 < overdrawn.retainedBytes .x64 ∧
    (enforceBudget .x64 (.plain _ _) overdrawn).retainedBytes .x64 ≤
      overdrawn.budget-min replyBudgetBytes (overdrawn.budget/8)-overdrawn.ingressReserved := by
  refine ⟨by decide,?_⟩
  have hbooks : Books .x64 (run .x64 .plain (Plain.sample 1 ["1","2"]) (withBudget (216*1024))) :=
    Books.run _ _
  exact (memory_bound .x64 .plain (216*1024) []).2.2 (.plain _ _) overdrawn
    (hbooks.accounts.frame rfl rfl rfl rfl rfl rfl rfl)

end BatCave.WorkloadHistory.WorkloadArchive
