import BatCave.CollectorEngine.RefreshGate

/-! All that one step of the refresh gate can do, and the rules that follow: the generations
stay one apart, and the calls between registration and return are counted. -/
namespace BatCave.CollectorEngine
open BatCave.Lib.Word

variable {P : Type}

/-- The generation that a call is still to be answered for. -/
def Call.target : Call P → Option Nat
  | .scheduling target => some target
  | .sendFailed target _ => some target
  | .looking target => some target
  | .sleeping target => some target
  | .expired target => some target
  | _ => none

/-- A registered call that has not left the gate. -/
def Call.active : Call P → Bool
  | .idle => false
  | .returned _ => false
  | _ => true

theorem Call.active_of_target {call : Call P} {target : Nat} (h : call.target=some target) :
    call.active=true := by
  cases call with
  | idle => cases h
  | finishing outcome => rfl
  | returned outcome => cases h
  | _ => rfl

@[simp] theorem Call.woken_target (call : Call P) : call.woken.target=call.target := by
  cases call with
  | _ => rfl

@[simp] theorem Call.woken_active (call : Call P) : call.woken.active=call.active := by
  cases call with
  | _ => rfl

theorem Call.woken_ne_sleeping (call : Call P) (target : Nat) : call.woken≠.sleeping target := by
  cases call with
  | sleeping target' => nofun
  | _ => nofun

theorem Call.of_woken_expired {call : Call P} {target : Nat} (h : call.woken=.expired target) :
    call=.expired target := by
  cases call with
  | sleeping target' => cases h
  | _ => exact h

/-- All that a step can do. -/
inductive Moves (s : State P) : State P → Prop
  | refused (c : Nat) (outcome : Outcome P) (hcall : s.calls c=.idle)
      (houtcome : outcome=.shuttingDown ∨
        ∃ error, outcome=.terminal error ∧ s.gate.terminalError=some error) :
    Moves s (s.refuse c outcome)
  | registered (c target : Nat) (schedule : Bool) (gate : RefreshGateState P)
      (hcall : s.calls c=.idle) (hlive : s.gate.terminalError=none)
      (hroom : s.gate.waitingCallers < u64Max) (hgate : s.gate.register=(target,schedule,gate)) :
    Moves s (({ s with gate := gate, active := c::s.active }.setCall c
      (if schedule then .scheduling target else .looking target)).note (.registered c target))
  /-- A call goes on for the same generation. -/
  | moved (c target queued : Nat) (call : Call P) (hcall : (s.calls c).target=some target)
      (htarget : call.target=some target) (hexpired : ∀ target, call≠.expired target)
      (hsleeping : ∀ target, call=.sleeping target → s.gate.terminalError=none) :
    Moves s ({ s with queued := queued }.setCall c call)
  | expired (c target : Nat) (hcall : s.calls c=.sleeping target) :
    Moves s ((s.setCall c (.expired target)).note (.expired c))
  | sendFailed (c target : Nat) (error : SendError) (hcall : s.calls c=.sendFailed target error) :
    Moves s (({ s with gate := s.gate.fail target error.message }.notifyAll).answer c
      (.sendFailed error))
  | checked (c target : Nat) (outcome : Outcome P) (hcall : s.calls c=.looking target)
      (houtcome : s.gate.check target=some outcome) : Moves s (s.answer c outcome)
  | timeout (c target : Nat) (hcall : (s.calls c).target=some target)
      (hlate : s.calls c=.expired target ∨ s.gate.terminalError=none) :
    Moves s (s.answer c .timeout)
  | finished (c : Nat) (outcome : Outcome P) (hcall : s.calls c=.finishing outcome) :
    Moves s ({ s with gate := s.gate.finishWait, active := s.active.erase c }.setCall c
      (.returned outcome))
  /-- The worker takes a control or leaves, or finds nothing to do. -/
  | worked (worker : Worker) (queued : Nat) (wakeQueued : Bool)
      (hworker : ∀ generation, worker≠.collecting generation) :
    Moves s { s with
      worker := worker
      queued := queued
      gate := { s.gate with wakeQueued := wakeQueued } }
  | begun (hlt : s.gate.startedGeneration < s.gate.requestedGeneration) :
    Moves s ({ s with
      worker := .collecting (satAdd s.gate.startedGeneration 1)
      gate := { s.gate with
        wakeQueued := false
        startedGeneration := satAdd s.gate.startedGeneration 1 } }.note
      (.begun (satAdd s.gate.startedGeneration 1)))
  | completed (generation : Nat) (publication : P) (hworker : s.worker=.collecting generation) :
    Moves s ({ s with
      worker := .idle
      gate := s.gate.complete generation publication }.notifyAll.note
      (.completed generation publication))
  | shutdown : Moves s { s with shutdownStarted := true }
  | terminated (error : String) :
    Moves s ({ s with gate := s.gate.terminate error }.notifyAll.note (.terminated error))

theorem begin_moves {s s' : State P} {c : Nat} (h : s.begin c=some s') : Moves s s' := by
  rw [State.begin] at h
  split at h
  · next hcall =>
    split at h
    · cases h
      exact .refused c .shuttingDown hcall (.inl rfl)
    · split at h
      · next error herror =>
        cases h
        exact .refused c (.terminal error) hcall (.inr ⟨error,rfl,herror⟩)
      · next hlive =>
        split at h
        · next hroom =>
          cases h
          exact .registered c _ _ _ hcall hlive hroom rfl
        · cases h
  · cases h

theorem look_moves {s s' : State P} {c : Nat} {late : Bool} (h : s.step (.look c late)=some s') :
    Moves s s' := by
  rw [State.step] at h
  split at h
  · next target hcall =>
    have htarget : (s.calls c).target=some target := by rw [hcall]; rfl
    split at h
    · next outcome houtcome =>
      cases h
      exact .checked c target outcome hcall houtcome
    · next hnone =>
      have hlive : s.gate.terminalError=none := by
        rw [RefreshGateState.check] at hnone
        split at hnone
        · cases hnone
        · next hlive => exact hlive
      split at h
      · cases h
        exact .timeout c target htarget (.inr hlive)
      · cases h
        exact .moved c target s.queued (.sleeping target) htarget rfl nofun (fun _ _ => hlive)
  · next target hcall =>
    cases h
    exact .timeout c target (by rw [hcall]; rfl) (.inl hcall)
  · cases h

theorem step_moves {s s' : State P} {event : Event P} (h : s.step event=some s') : Moves s s' := by
  cases event with
  | begin c => exact begin_moves h
  | send c failure =>
    rw [State.step.eq_def] at h
    dsimp only at h
    split at h
    · next target hcall =>
      split at h
      · cases h
        exact .moved c target _ (.looking target) (by rw [hcall]; rfl) rfl nofun nofun
      · cases h
    · next target error hcall =>
      cases h
      exact .moved c target s.queued (.sendFailed target error) (by rw [hcall]; rfl) rfl nofun nofun
    · cases h
  | recordSendFailure c =>
    rw [State.step] at h
    split at h
    · next target error hcall =>
      cases h
      exact .sendFailed c target error hcall
    · cases h
  | look c late => exact look_moves h
  | wake c =>
    rw [State.step] at h
    split at h
    · next target hcall =>
      cases h
      exact .moved c target s.queued (.looking target) (by rw [hcall]; rfl) rfl nofun nofun
    · cases h
  | expire c =>
    rw [State.step] at h
    split at h
    · next target hcall =>
      cases h
      exact .expired c target hcall
    · cases h
  | finish c =>
    rw [State.step] at h
    split at h
    · next outcome hcall =>
      cases h
      exact .finished c outcome hcall
    · cases h
  | receive =>
    rw [State.step] at h
    split at h
    · cases h
      exact .worked .received _ s.gate.wakeQueued nofun
    · cases h
  | beginGeneration =>
    rw [State.step.eq_def] at h
    simp only [RefreshGateState.beginGeneration] at h
    split at h
    · next hgate =>
      split at hgate
      · cases hgate
        cases h
        exact .worked .idle s.queued false nofun
      · cases hgate
    · next hgate =>
      split at hgate
      · cases hgate
      · next hlt =>
        cases hgate
        cases h
        exact .begun (Nat.lt_of_not_le hlt)
    · cases h
  | complete publication =>
    rw [State.step] at h
    split at h
    · next generation hworker =>
      cases h
      exact .completed generation publication hworker
    · cases h
  | shutdown =>
    cases h
    exact .shutdown
  | terminate error =>
    cases h
    exact .terminated error
  | stop =>
    rw [State.step] at h
    split at h
    · cases h
      exact .worked .stopped 0 s.gate.wakeQueued nofun
    · cases h

end BatCave.CollectorEngine
