import BatCave.Lib.Word

/-! The refresh gate: callers that ask for a fresh sample share generations, one worker
serves them. Every lock section, channel send and receive is a step of its own, in any
order; the history only records what the steps did. -/
namespace BatCave.RuntimeStore.Refresh
open BatCave.Lib.Word

variable {M : Type*}

/-- `M` stands for the measurement a refresh hands out. -/
structure RefreshGateState (M : Type*) where
  requestedGeneration : Nat := 0
  startedGeneration : Nat := 0
  completedGeneration : Nat := 0
  waitingCallers : Nat := 0
  wakeQueued : Bool := false
  completedMeasurement : Option (Nat × M) := none
  failedGeneration : Option (Nat × String) := none
  terminalError : Option String := none

/-- How a call of `refresh_now_measured` ends. -/
inductive Outcome (M : Type*) where
  | ok (measurement : M)
  | unavailable
  | terminal (error : String)
  | failed (error : String)
  | timeout

def Outcome.result : Outcome M → Except String M
  | .ok measurement => .ok measurement
  | .unavailable => .error "runtime_refresh_result_unavailable"
  | .terminal error => .error error
  | .failed error => .error error
  | .timeout => .error "runtime_control_timeout"

inductive SendError where
  | full | disconnected

/-- `control_send_error` -/
def SendError.message : SendError → String
  | .full => "runtime_control_busy"
  | .disconnected => "runtime_engine_unavailable"

namespace RefreshGateState

/-- The first lock section of `refresh_now_measured`: the target generation, whether
this caller has to schedule the wake-up, and the gate it leaves. -/
def register (gate : RefreshGateState M) : Nat × Bool × RefreshGateState M :=
  let requested := if gate.requestedGeneration=gate.startedGeneration then
    satAdd gate.requestedGeneration 1 else gate.requestedGeneration
  let schedule := !gate.wakeQueued
  (requested,schedule,{ gate with
    requestedGeneration := requested
    wakeQueued := true
    failedGeneration := if schedule then none else gate.failedGeneration
    waitingCallers := satAdd gate.waitingCallers 1 })

/-- `begin_refresh_generation` -/
def beginGeneration (gate : RefreshGateState M) : Option Nat × RefreshGateState M :=
  if gate.requestedGeneration ≤ gate.startedGeneration then (none,{ gate with wakeQueued := false })
  else (some gate.requestedGeneration,
    { gate with wakeQueued := false, startedGeneration := gate.requestedGeneration })

/-- `complete_refresh_generation` -/
def complete (gate : RefreshGateState M) (generation : Nat) (measurement : M) :
    RefreshGateState M :=
  { gate with
    completedGeneration := max gate.completedGeneration generation
    completedMeasurement := some (generation,measurement) }

/-- `fail_refresh_generation` -/
def fail (gate : RefreshGateState M) (generation : Nat) (error : String) : RefreshGateState M :=
  { gate with
    wakeQueued := false
    startedGeneration := max gate.startedGeneration generation
    failedGeneration := some (generation,error) }

/-- `finish_refresh_wait` -/
def finishWait (gate : RefreshGateState M) : RefreshGateState M :=
  { gate with waitingCallers := gate.waitingCallers-1 }

/-- `terminate_refresh_gate` -/
def terminate (gate : RefreshGateState M) (error : String) : RefreshGateState M :=
  { gate with terminalError := some error }

/-- One look of `wait_for_refresh_generation` at the gate: an outcome, or wait on. -/
def check (gate : RefreshGateState M) (target : Nat) : Option (Outcome M) :=
  if target ≤ gate.completedGeneration then
    some (gate.completedMeasurement.elim .unavailable (fun completed => .ok completed.2))
  else
    match gate.terminalError with
    | some error => some (.terminal error)
    | none =>
      match gate.failedGeneration with
      | some (generation,error) => if target ≤ generation then some (.failed error) else none
      | none => none

end RefreshGateState

/-- Where a call is. -/
inductive Call (M : Type*) where
  | idle
  | scheduling (target : Nat)
  | sendFailed (target : Nat) (error : SendError)
  | waiting (target : Nat)
  | finishing (outcome : Outcome M)
  | returned (outcome : Outcome M)

/-- Where the engine worker is. -/
inductive Worker where
  | idle
  | received
  | refreshing (generation : Nat)
  | stopped

inductive Fact (M : Type*) where
  | registered (call target : Nat)
  | begun (generation : Nat)
  | completed (generation : Nat) (measurement : M)
  | failed (generation : Nat) (error : String)

structure State (M : Type*) where
  gate : RefreshGateState M := {}
  shutdownStarted : Bool := false
  /-- The `Refresh` controls in the queue. -/
  queued : Nat := 0
  worker : Worker := .idle
  calls : Nat → Call M := fun _ => .idle
  history : List (Fact M) := []

def controlQueueCapacity : Nat := 32

namespace State

def setCall (s : State M) (c : Nat) (call : Call M) : State M :=
  { s with calls := fun c' => if c'=c then call else s.calls c' }

def note (s : State M) (fact : Fact M) : State M := { s with history := s.history++[fact] }

end State

/-- The steps of the callers, of the queue and of the worker. -/
inductive Step : State M → State M → Prop where
  | refused (s : State M) (c : Nat) : s.calls c=.idle → s.shutdownStarted=true →
      Step s (s.setCall c (.returned (.terminal "runtime_engine_shutting_down")))
  | terminated (s : State M) (c : Nat) (error : String) : s.calls c=.idle →
      s.gate.terminalError=some error → Step s (s.setCall c (.returned (.terminal error)))
  | register (s : State M) (c target : Nat) (schedule : Bool) (gate : RefreshGateState M) :
      s.calls c=.idle → s.gate.terminalError=none → s.gate.register=(target,schedule,gate) →
      Step s ((({ s with gate := gate } : State M).setCall c
        (if schedule then .scheduling target else .waiting target)).note (.registered c target))
  | sendOk (s : State M) (c target : Nat) : s.calls c=.scheduling target →
      s.queued < controlQueueCapacity →
      Step s (({ s with queued := s.queued+1 } : State M).setCall c (.waiting target))
  | sendFailed (s : State M) (c target : Nat) (error : SendError) :
      s.calls c=.scheduling target → Step s (s.setCall c (.sendFailed target error))
  | recordSendFailure (s : State M) (c target : Nat) (error : SendError) :
      s.calls c=.sendFailed target error →
      Step s ((({ s with gate := s.gate.fail target error.message } : State M).setCall c
        (.finishing (.failed error.message))).note (.failed target error.message))
  | check (s : State M) (c target : Nat) (outcome : Outcome M) : s.calls c=.waiting target →
      s.gate.check target=some outcome → Step s (s.setCall c (.finishing outcome))
  | timeout (s : State M) (c target : Nat) : s.calls c=.waiting target →
      Step s (s.setCall c (.finishing .timeout))
  | finish (s : State M) (c : Nat) (outcome : Outcome M) : s.calls c=.finishing outcome →
      Step s (({ s with gate := s.gate.finishWait } : State M).setCall c (.returned outcome))
  | receive (s : State M) : s.worker=.idle → 0 < s.queued →
      Step s { s with worker := .received, queued := s.queued-1 }
  | skip (s : State M) (gate : RefreshGateState M) : s.worker=.received →
      s.gate.beginGeneration=(none,gate) → Step s { s with worker := .idle, gate := gate }
  | begin (s : State M) (generation : Nat) (gate : RefreshGateState M) : s.worker=.received →
      s.gate.beginGeneration=(some generation,gate) →
      Step s (({ s with worker := .refreshing generation, gate := gate } : State M).note
        (.begun generation))
  | complete (s : State M) (generation : Nat) (measurement : M) :
      s.worker=.refreshing generation →
      Step s (({ s with worker := .idle, gate := s.gate.complete generation measurement } :
        State M).note (.completed generation measurement))
  | fail (s : State M) (generation : Nat) (error : String) : s.worker=.refreshing generation →
      Step s (({ s with worker := .idle, gate := s.gate.fail generation error } : State M).note
        (.failed generation error))
  | shutdown (s : State M) : Step s { s with shutdownStarted := true }
  | terminate (s : State M) (error : String) :
      Step s { s with gate := s.gate.terminate error }
  /-- After a terminal error the worker leaves its loop and what is queued is lost. -/
  | stop (s : State M) (error : String) : s.gate.terminalError=some error →
      Step s { s with worker := .stopped, queued := 0 }

inductive Reachable : State M → Prop where
  | init : Reachable {}
  | step {s s' : State M} : Reachable s → Step s s' → Reachable s'

end BatCave.RuntimeStore.Refresh
