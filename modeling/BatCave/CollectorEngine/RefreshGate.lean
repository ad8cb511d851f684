import BatCave.Lib.Word

/-! The collector's refresh gate. Unlike the runtime's it drops its results with the last
waiting caller, and a send that failed leaves the generation to the next one. A caller
sleeps on the condition variable, is woken by whoever changes the gate, or runs out of time. -/
namespace BatCave.CollectorEngine
open BatCave.Lib.Word

variable {P : Type}

def controlQueueCapacity : Nat := 8

/-- `P` stands for the publication that a refresh hands out. -/
structure RefreshGateState (P : Type) where
  requestedGeneration : Nat := 0
  startedGeneration : Nat := 0
  completedGeneration : Nat := 0
  waitingCallers : Nat := 0
  wakeQueued : Bool := false
  completedPublication : Option (Nat × P) := none
  failedGeneration : Option (Nat × String) := none
  terminalError : Option String := none

inductive SendError where
  | full | disconnected
  deriving DecidableEq, Repr

/-- `control_send_error` -/
def SendError.message : SendError → String
  | .full => "collector_control_busy"
  | .disconnected => "collector_engine_unavailable"

/-- How a call of `refresh_now` ends; a failed send is told to the caller that made it
and, through the gate, to the others. -/
inductive Outcome (P : Type) where
  | ok (publication : P)
  | unavailable
  | terminal (error : String)
  | failed (error : String)
  | sendFailed (error : SendError)
  | timeout
  | shuttingDown

def Outcome.result : Outcome P → Except String P
  | .ok publication => .ok publication
  | .unavailable => .error "collector_refresh_result_unavailable"
  | .terminal error => .error error
  | .failed error => .error error
  | .sendFailed error => .error error.message
  | .timeout => .error "collector_refresh_timeout"
  | .shuttingDown => .error "collector_engine_shutting_down"

namespace RefreshGateState

/-- The first lock section of `refresh_now`: the target generation, whether this caller has
to schedule it, and the gate it leaves. -/
def register (gate : RefreshGateState P) : Nat × Bool × RefreshGateState P :=
  let requested := if gate.requestedGeneration=gate.startedGeneration then
    satAdd gate.requestedGeneration 1 else gate.requestedGeneration
  let schedule := !gate.wakeQueued
  (requested,schedule,{ gate with
    requestedGeneration := requested
    wakeQueued := true
    failedGeneration := if schedule then none else gate.failedGeneration
    waitingCallers := satAdd gate.waitingCallers 1 })

/-- `begin_refresh_generation` -/
def beginGeneration (gate : RefreshGateState P) : Option Nat × RefreshGateState P :=
  if gate.requestedGeneration ≤ gate.startedGeneration then (none,{ gate with wakeQueued := false })
  else (some (satAdd gate.startedGeneration 1),
    { gate with wakeQueued := false, startedGeneration := satAdd gate.startedGeneration 1 })

/-- `complete_refresh_generation` -/
def complete (gate : RefreshGateState P) (generation : Nat) (publication : P) :
    RefreshGateState P :=
  { gate with
    completedGeneration := generation
    completedPublication := some (generation,publication) }

/-- `fail_refresh_generation` -/
def fail (gate : RefreshGateState P) (generation : Nat) (error : String) : RefreshGateState P :=
  { gate with failedGeneration := some (generation,error), wakeQueued := false }

/-- `finish_refresh_wait` -/
def finishWait (gate : RefreshGateState P) : RefreshGateState P :=
  let waiting := gate.waitingCallers-1
  { gate with
    waitingCallers := waiting
    completedPublication := if waiting=0 then none else gate.completedPublication
    failedGeneration := if waiting=0 then none else gate.failedGeneration }

/-- `terminate_refresh_gate` -/
def terminate (gate : RefreshGateState P) (error : String) : RefreshGateState P :=
  { gate with terminalError := some error, wakeQueued := false }

/-- One look of `wait_for_refresh_generation` at the gate: an outcome, or wait on. -/
def check (gate : RefreshGateState P) (target : Nat) : Option (Outcome P) :=
  match gate.terminalError with
  | some error => some (.terminal error)
  | none =>
    if target ≤ gate.completedGeneration then
      some (match gate.completedPublication with
        | some (generation,publication) =>
          if target ≤ generation then .ok publication else .unavailable
        | none => .unavailable)
    else
      match gate.failedGeneration with
      | some (generation,error) => if target ≤ generation then some (.failed error) else none
      | none => none

end RefreshGateState

/-- Where a call is. -/
inductive Call (P : Type) where
  | idle
  | scheduling (target : Nat)
  | sendFailed (target : Nat) (error : SendError)
  /-- About to look at the gate. -/
  | looking (target : Nat)
  | sleeping (target : Nat)
  /-- Its time ran out before anybody woke it. -/
  | expired (target : Nat)
  | finishing (outcome : Outcome P)
  | returned (outcome : Outcome P)

/-- `notify_all` -/
def Call.woken : Call P → Call P
  | .sleeping target => .looking target
  | call => call

inductive Worker where
  | idle
  | received
  | collecting (generation : Nat)
  | stopped
  deriving DecidableEq, Repr

/-- What happened, for the statements only. -/
inductive Fact (P : Type) where
  | registered (call target : Nat)
  | begun (generation : Nat)
  | completed (generation : Nat) (publication : P)
  | terminated (error : String)
  | expired (call : Nat)
  | answered (call : Nat) (outcome : Outcome P)

structure State (P : Type) where
  gate : RefreshGateState P := {}
  shutdownStarted : Bool := false
  /-- The `Refresh` controls in the queue. -/
  queued : Nat := 0
  worker : Worker := .idle
  calls : Nat → Call P := fun _ => .idle
  /-- Not in the source: the calls that are registered and have not finished. -/
  active : List Nat := []
  history : List (Fact P) := []

inductive Event (P : Type) where
  | begin (call : Nat)
  | send (call : Nat) (failure : Option SendError)
  | recordSendFailure (call : Nat)
  | look (call : Nat) (late : Bool)
  | wake (call : Nat)
  | expire (call : Nat)
  | finish (call : Nat)
  | receive
  | beginGeneration
  | complete (publication : P)
  | shutdown
  | terminate (error : String)
  | stop

namespace State

def setCall (s : State P) (c : Nat) (call : Call P) : State P :=
  { s with calls := fun c' => if c'=c then call else s.calls c' }

def note (s : State P) (fact : Fact P) : State P := { s with history := s.history++[fact] }

def notifyAll (s : State P) : State P := { s with calls := fun c => (s.calls c).woken }

def answer (s : State P) (c : Nat) (outcome : Outcome P) : State P :=
  (s.setCall c (.finishing outcome)).note (.answered c outcome)

/-- A call that never gets to the gate. -/
def refuse (s : State P) (c : Nat) (outcome : Outcome P) : State P :=
  (s.setCall c (.returned outcome)).note (.answered c outcome)

/-- `refresh_now` up to its first unlock. A caller is a thread, of which fewer than 2^64-1
can wait at once. -/
def begin (s : State P) (c : Nat) : Option (State P) :=
  match s.calls c with
  | .idle =>
    if s.shutdownStarted then some (s.refuse c .shuttingDown)
    else
      match s.gate.terminalError with
      | some error => some (s.refuse c (.terminal error))
      | none =>
        if s.gate.waitingCallers < u64Max then
          let (target,schedule,gate) := s.gate.register
          some (({ s with gate := gate, active := c::s.active }.setCall c
            (if schedule then .scheduling target else .looking target)).note
              (.registered c target))
        else none
  | _ => none

/-- One step of a caller, of the queue, of the worker or of whoever ends the engine. -/
def step (s : State P) : Event P → Option (State P)
  | .begin c => s.begin c
  | .send c failure =>
    match s.calls c,failure with
    | .scheduling target,none =>
      if s.queued < controlQueueCapacity then
        some ({ s with queued := s.queued+1 }.setCall c (.looking target))
      else none
    | .scheduling target,some error => some (s.setCall c (.sendFailed target error))
    | _,_ => none
  | .recordSendFailure c =>
    match s.calls c with
    | .sendFailed target error =>
      some (({ s with gate := s.gate.fail target error.message }.notifyAll).answer c
        (.sendFailed error))
    | _ => none
  | .look c late =>
    match s.calls c with
    | .looking target =>
      match s.gate.check target with
      | some outcome => some (s.answer c outcome)
      | none => if late then some (s.answer c .timeout) else some (s.setCall c (.sleeping target))
    | .expired _ => some (s.answer c .timeout)
    | _ => none
  | .wake c =>
    match s.calls c with
    | .sleeping target => some (s.setCall c (.looking target))
    | _ => none
  | .expire c =>
    match s.calls c with
    | .sleeping target => some ((s.setCall c (.expired target)).note (.expired c))
    | _ => none
  | .finish c =>
    match s.calls c with
    | .finishing outcome =>
      some ({ s with gate := s.gate.finishWait, active := s.active.erase c }.setCall c
        (.returned outcome))
    | _ => none
  | .receive =>
    if s.worker=.idle ∧ 0 < s.queued then
      some { s with worker := .received, queued := s.queued-1 }
    else none
  | .beginGeneration =>
    match s.worker,s.gate.beginGeneration with
    | .received,(none,gate) => some { s with worker := .idle, gate := gate }
    | .received,(some generation,gate) =>
      some ({ s with worker := .collecting generation, gate := gate }.note (.begun generation))
    | _,_ => none
  | .complete publication =>
    match s.worker with
    | .collecting generation =>
      some ({ s with
        worker := .idle
        gate := s.gate.complete generation publication }.notifyAll.note
        (.completed generation publication))
    | _ => none
  | .shutdown => some { s with shutdownStarted := true }
  | .terminate error =>
    some ({ s with gate := s.gate.terminate error }.notifyAll.note (.terminated error))
  | .stop =>
    -- The loop is left for good only once the engine is being shut down or has failed.
    if s.shutdownStarted || s.gate.terminalError.isSome then
      some { s with worker := .stopped, queued := 0 }
    else none

/-- Every interleaving. -/
def run (s : State P) (events : List (Event P)) : Option (State P) := events.foldlM step s

end State
end BatCave.CollectorEngine
