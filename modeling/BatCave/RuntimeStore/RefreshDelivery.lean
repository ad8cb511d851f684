import BatCave.RuntimeStore.RefreshWakeups

/-! What a caller of `refresh_now` gets: a measurement or an error of a generation later
than its request, and somebody at work on that generation until then. -/
namespace BatCave.RuntimeStore.Refresh
open BatCave.Lib.Word

variable {M : Type*}

/-- The error of an outcome that is neither terminal nor a timeout. -/
def Outcome.refreshError : Outcome M → Option String
  | .unavailable => some "runtime_refresh_result_unavailable"
  | .failed error => some error
  | _ => none

/-- The generation was asked for, and the history has no end of it. -/
def Pending (s : State M) (target : Nat) : Prop :=
  (∃ c, .registered c target∈s.history) ∧ (∀ measurement, .completed target measurement∉s.history) ∧
    (∀ error, .failed target error∉s.history) ∧ s.gate.terminalError=none

/-- A generation at or past the target began and has no end yet. -/
def Underway (s : State M) (target : Nat) : Prop :=
  ∃ g, target ≤ g ∧ .begun g∈s.history ∧ (∀ measurement, .completed g measurement∉s.history) ∧
    ∀ error, .failed g error∉s.history

/-- A control is queued or about to be sent, or the generation is underway. -/
def Scheduled (s : State M) (target : Nat) : Prop :=
  0 < s.queued ∨ (∃ c, s.calls c=.scheduling target) ∨ Underway s target

/-- A control taken from the queue is about to begin, or a failed send about to be recorded. -/
def HandedOver (s : State M) (target : Nat) : Prop :=
  s.worker=.received ∨ ∃ c error, s.calls c=.sendFailed target error

theorem Inv.scheduled {s : State M} (h : Inv s) {target : Nat} (hp : Pending s target) :
    Scheduled s target ∨ HandedOver s target := by
  obtain ⟨⟨c,hc⟩,hcomp,hfail,hterm⟩ := hp
  obtain ⟨hpos,hle⟩ := h.registered_le c target hc
  have hr := h.requested_le
  by_cases hstarted : target ≤ s.gate.startedGeneration
  · cases h.settled hterm target hpos hstarted with
    | inl hd => exact absurd hd.choose_spec (hcomp _)
    | inr hrest =>
      cases hrest with
      | inl hf => exact absurd hf.choose_spec (hfail _)
      | inr hw => exact .inl (.inr (.inr ⟨target,Nat.le_refl _,hw.2,hcomp,hfail⟩))
  · have hsame : s.gate.requestedGeneration=target := by omega
    cases h.carried (by omega) hterm with
    | inl hq => exact .inl (.inl hq)
    | inr hrest =>
      cases hrest with
      | inl hw => exact .inr (.inl hw)
      | inr hs =>
        obtain ⟨c',hc'⟩ := hs
        rw [hsame] at hc'
        cases hc' with
        | inl hsched => exact .inl (.inr (.inl ⟨c',hsched⟩))
        | inr hsent => exact .inr (.inr ⟨c',hsent⟩)

section Runs

/-- The gate after `n` refreshes that all succeeded, each for a caller of its own. -/
structure Rounds (s : State Nat) (n : Nat) : Prop where
  reachable : Reachable s
  gate : s.gate.requestedGeneration=n ∧ s.gate.startedGeneration=n ∧ s.gate.completedGeneration=n
  quiet : s.gate.wakeQueued=false ∧ s.gate.terminalError=none ∧ s.worker=.idle ∧ s.queued=0
  measured : 0 < n → s.gate.completedMeasurement=some (n,n)
  unused : ∀ c, n ≤ c → s.calls c=.idle ∧ ∀ target, .registered c target∉s.history

/-- The state in which a new caller has asked and sent its wake-up. -/
def afterAsk (s : State Nat) (c target : Nat) : State Nat :=
  { s with
    gate := { s.gate with
      requestedGeneration := target
      wakeQueued := true
      failedGeneration := none
      waitingCallers := satAdd s.gate.waitingCallers 1 }
    queued := s.queued+1
    calls := fun c' => if c'=c then .waiting target else s.calls c'
    history := s.history++[.registered c target] }

theorem Rounds.asked {s : State Nat} {n : Nat} (h : Rounds s n) :
    Reachable (afterAsk s n (satAdd n 1)) := by
  have hreg : s.gate.register=(satAdd n 1,true,{ s.gate with
      requestedGeneration := satAdd n 1, wakeQueued := true, failedGeneration := none,
      waitingCallers := satAdd s.gate.waitingCallers 1 }) := by
    simp [RefreshGateState.register,h.gate,h.quiet]
  have hasked :=
    h.reachable.step (.register s n _ _ _ (h.unused n (Nat.le_refl n)).1 h.quiet.2.1 hreg)
  have hsent := hasked.step (.sendOk _ n (satAdd n 1) (by simp [State.note,State.setCall])
    (by simp [State.note,State.setCall,h.quiet,controlQueueCapacity]))
  convert hsent using 1
  simp only [afterAsk,State.note,State.setCall,State.mk.injEq,true_and,and_true]
  funext c
  split <;> rfl

theorem Rounds.next {s : State Nat} {n : Nat} (h : Rounds s n) (hn : n < u64Max) :
    ∃ s', Rounds s' (n+1) := by
  have hsat : satAdd n 1=n+1 := by
    simp only [satAdd]
    omega
  have hasked := h.asked
  rw [hsat] at hasked
  have hreceived := hasked.step (.receive _ h.quiet.2.2.1 (Nat.succ_pos _))
  have hgate : (afterAsk s n (n+1)).gate.beginGeneration=(some (n+1),
      { (afterAsk s n (n+1)).gate with wakeQueued := false, startedGeneration := n+1 }) := by
    simp [afterAsk,RefreshGateState.beginGeneration,h.gate]
  have hbegun := hreceived.step (.begin _ (n+1) _ rfl hgate)
  refine ⟨_,hbegun.step (.complete _ (n+1) (n+1) rfl),?_,?_,?_,?_⟩
  · simp [State.note,afterAsk,RefreshGateState.complete,h.gate]
  · simp [State.note,afterAsk,RefreshGateState.complete,h.quiet]
  · intro _
    rfl
  · intro c hc
    obtain ⟨hidle,hnone⟩ := h.unused c (by omega)
    have hne : c≠n := by omega
    simp [State.note,afterAsk,hne,hidle,hnone]

theorem rounds_zero : Rounds {} 0 := ⟨.init,by simp,by simp,by simp,by simp⟩

theorem exists_rounds (n : Nat) (hn : n ≤ u64Max) : ∃ s, Rounds s n := by
  induction n with
  | zero => exact ⟨{},rounds_zero⟩
  | succ n ih =>
    obtain ⟨s,hs⟩ := ih (by omega)
    exact hs.next (by omega)

/-- A call that registers after the last generation is answered with an old one. -/
theorem Rounds.stale {s : State Nat} (h : Rounds s u64Max) :
    ∃ s', Reachable s' ∧ (s'.calls u64Max).outcome=some (.ok u64Max) ∧
      ¬ FreshMeasurement s'.history u64Max u64Max := by
  have hsat : satAdd u64Max 1=u64Max := by decide
  have hasked := h.asked
  rw [hsat] at hasked
  have hcheck : (afterAsk s u64Max u64Max).gate.check u64Max=some (.ok u64Max) := by
    simp [afterAsk,RefreshGateState.check,h.gate,h.measured (by decide)]
  refine ⟨_,hasked.step (.check _ u64Max u64Max _ (by simp [afterAsk]) hcheck),?_,?_⟩
  · rw [setCall_self]
    rfl
  · intro hfresh
    obtain ⟨target,h₁,h₂,h₃,g,he,_,_⟩ := hfresh
    -- The registration is the last entry of the history, so nothing begins behind it.
    have hsplit : s.history++.registered u64Max u64Max::[]=
        h₁++.registered u64Max target::(h₂++.begun g::h₃) := by
      simpa [State.setCall,afterAsk] using he
    have hnone := (h.unused u64Max (Nat.le_refl _)).2 target
    have hlen := congrArg List.length hsplit
    have hlast : h₁.length < s.history.length := by
      simp only [List.length_append,List.length_cons,List.length_nil] at hlen
      omega
    have hget := congrArg (fun l => l[h₁.length]?) hsplit
    simp only [List.getElem?_append_left hlast,List.getElem?_append_right (Nat.le_refl _),
      Nat.sub_self,List.getElem?_cons_zero] at hget
    exact hnone (List.mem_of_getElem? hget)

end Runs

/-- Refresh coalescing is fresh and loses no request, until the counter of generations
is exhausted. -/
theorem coalescing_is_fresh {s : State M} (h : Reachable s)
    (hroom : s.gate.startedGeneration < u64Max) :
    (∀ c measurement, (s.calls c).outcome=some (.ok measurement) →
      FreshMeasurement s.history c measurement) ∧
    (∀ c outcome error, (s.calls c).outcome=some outcome → outcome.refreshError=some error →
      FreshFailure s.history c error) ∧
    ∀ target, Pending s target → Scheduled s target ∨ HandedOver s target := by
  have hinv := reachable_inv h hroom
  refine ⟨fun c measurement ho => hinv.told c _ ho,?_,fun target hp => hinv.scheduled hp⟩
  intro c outcome error ho he
  have htold := hinv.told c outcome ho
  cases outcome with
  | failed error' =>
    cases he
    exact htold
  | unavailable => exact htold.elim
  | ok measurement => cases he
  | terminal error' => cases he
  | timeout => cases he

/-- The rules at a run of four callers: the second and the third come while the first
generation is measured and share the next, and the fourth finds the queue full. -/
theorem callers_are_fresh : ∃ s : State Nat,
    ((s.calls 0).outcome=some (.ok 7) ∧ FreshMeasurement s.history 0 7) ∧
    ((s.calls 1).outcome=some (.ok 9) ∧ FreshMeasurement s.history 1 9) ∧
    ((s.calls 2).outcome=some (.ok 9) ∧ FreshMeasurement s.history 2 9) ∧
    ((s.calls 3).outcome=some (.failed "runtime_control_busy") ∧
      FreshFailure s.history 3 "runtime_control_busy") := by
  have hfirst := (rounds_zero.asked.step (.receive _ rfl (by decide))).step (.begin _ 1 _ rfl rfl)
  have hsecond := (hfirst.step (.register _ 1 2 true _ rfl rfl rfl)).step
    (.sendOk _ 1 2 rfl (by decide))
  have hthird := hsecond.step (.register _ 2 2 false _ rfl rfl rfl)
  have hmeasured := (hthird.step (.complete _ 1 7 rfl)).step (.check _ 0 1 (.ok 7) rfl rfl)
  have hagain := (hmeasured.step (.receive _ rfl (by decide))).step (.begin _ 2 _ rfl rfl)
  have hshared := ((hagain.step (.complete _ 2 9 rfl)).step (.check _ 1 2 (.ok 9) rfl rfl)).step
    (.check _ 2 2 (.ok 9) rfl rfl)
  have hbusy := ((hshared.step (.register _ 3 3 true _ rfl rfl rfl)).step
    (.sendFailed _ 3 3 .full rfl)).step (.recordSendFailure _ 3 3 .full rfl)
  obtain ⟨hfresh,hfailed,-⟩ := coalescing_is_fresh hbusy (by decide)
  exact ⟨_,⟨rfl,hfresh 0 7 rfl⟩,⟨rfl,hfresh 1 9 rfl⟩,⟨rfl,hfresh 2 9 rfl⟩,
    rfl,hfailed 3 _ _ rfl rfl⟩

/-- After 2^64-1 generations a new call gets an old measurement; a wake-up is nowhere to be
seen between a failed send and its record, and between the queue and the next generation. -/
theorem coalescing_gaps :
    (∃ (s : State Nat) (c : Nat) (measurement : Nat), Reachable s ∧
      (s.calls c).outcome=some (.ok measurement) ∧ ¬ FreshMeasurement s.history c measurement) ∧
    (∃ (s : State Nat) (target c : Nat) (error : SendError), Reachable s ∧
      s.calls c=.sendFailed target error ∧ Pending s target ∧ ¬ Scheduled s target) ∧
    ∃ (s : State Nat) (target : Nat), Reachable s ∧ s.worker=.received ∧ Pending s target ∧
      ¬ Scheduled s target := by
  have hasked := (Reachable.init (M:=Nat)).step (.register {} 0 1 true _ rfl rfl rfl)
  refine ⟨?_,?_,?_⟩
  · obtain ⟨s,hs⟩ := exists_rounds u64Max (Nat.le_refl _)
    obtain ⟨s',hr,ho,hstale⟩ := hs.stale
    exact ⟨s',u64Max,u64Max,hr,ho,hstale⟩
  · refine ⟨_,1,0,.full,hasked.step (.sendFailed _ 0 1 .full rfl),rfl,?_,?_⟩
    · exact ⟨⟨0,by simp [State.note,State.setCall]⟩,by simp [State.note,State.setCall],
        by simp [State.note,State.setCall],rfl⟩
    · simp only [Scheduled,Underway,State.note,State.setCall]
      simp
      intro c
      by_cases hc : c=0 <;> simp [hc]
  · have hsent := hasked.step (.sendOk _ 0 1 rfl (by decide))
    refine ⟨_,1,hsent.step (.receive _ rfl (by decide)),rfl,?_,?_⟩
    · exact ⟨⟨0,by simp [State.note,State.setCall]⟩,by simp [State.note,State.setCall],
        by simp [State.note,State.setCall],rfl⟩
    · simp only [Scheduled,Underway,State.note,State.setCall]
      simp
      intro c
      by_cases hc : c=0 <;> simp [hc]

end BatCave.RuntimeStore.Refresh
