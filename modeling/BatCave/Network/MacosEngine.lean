import BatCave.Network.Attribution

/-! The macOS collector session on decoded network-statistics messages: the event
clock, the single active query, the attribution engine and the sample it shares
with the sampler. Wire parsing is NOT here; a message arrives decoded, and one
that does not decode ends the session. -/
namespace BatCave.MacosNetwork
open BatCave.Lib.Word BatCave.Lib.Table BatCave.NetworkAttribution

structure SourceUpdate where
  sourceRef : Nat
  pid : Nat
  uniquePid : Nat
  receivedBytes : Nat
  transmittedBytes : Nat
  closing : Bool := false
  previousEventDiscarded : Bool := false
  deriving DecidableEq, Repr

structure SourceState where
  pid : Nat
  uniquePid : Nat
  receivedBytes : Nat
  transmittedBytes : Nat
  deriving DecidableEq, Repr

structure EventOrder where
  epoch : Nat
  ordinal : Nat
  deriving DecidableEq, Repr

/-- The derived order: by epoch, then by ordinal. -/
def EventOrder.before (a b : EventOrder) : Bool :=
  decide (a.epoch < b.epoch) || (decide (a.epoch=b.epoch) && decide (a.ordinal < b.ordinal))

inductive SourceEvent where
  | update (update : SourceUpdate)
  | removed (sourceRef : Nat)
  deriving DecidableEq, Repr

def SourceEvent.sourceRef : SourceEvent → Nat
  | .update u => u.sourceRef
  | .removed sourceRef => sourceRef

structure OrderedSourceEvent where
  order : EventOrder
  event : SourceEvent
  deriving DecidableEq, Repr

structure ActiveQuery where
  context : Nat
  startedAt : Nat
  epoch : Nat
  nextOrdinal : Nat := 0
  events : List OrderedSourceEvent := []

def ActiveQuery.push (q : ActiveQuery) (event : SourceEvent) : ActiveQuery :=
  {q with
    nextOrdinal := satAdd q.nextOrdinal 1
    events := q.events++[⟨⟨q.epoch,q.nextOrdinal⟩,event⟩]}

structure EventClock where
  nextEpoch : Nat := 0
  deriving DecidableEq, Repr

/-- `EventClock::next_epoch`: the clock moves first and its new value is the epoch. -/
def EventClock.tick (c : EventClock) : EventClock := ⟨satAdd c.nextEpoch 1⟩

structure SharedSample where
  baselineComplete : Bool := false
  intervalComplete : Bool := false
  intervalBytesByProcess : RatesByProcess := ∅
  intervalStartedAt : Nat
  failure : Option String := none
  dataLoss : Option String := none

structure AttributionEngine where
  sources : AList (fun _ : Nat => SourceState) := ∅
  lastEventOrder : AList (fun _ : Nat => EventOrder) := ∅
  baselineComplete : Bool := false

/-- `entry(identity).or_default()` with both fields added to. -/
def addBytes (interval : RatesByProcess) (identity : ObservedProcessGeneration)
    (received transmitted : Nat) : RatesByProcess :=
  let rates := (interval.lookup identity).getD {}
  interval.insert identity
    ⟨satAdd rates.receivedBps received,satAdd rates.transmittedBps transmitted⟩

namespace AttributionEngine

def applyUpdate (e : AttributionEngine) (update : SourceUpdate) (interval : RatesByProcess) :
    Option String × AttributionEngine × RatesByProcess :=
  let discarded :=
    if update.previousEventDiscarded then
      some s!"nstat_previous_event_discarded:source_ref={update.sourceRef}"
    else none
  let (dataLoss,interval) :=
    match e.sources.lookup update.sourceRef with
    | some previous =>
      if update.pid≠previous.pid ∨ update.uniquePid≠previous.uniquePid then
        (some (s!"nstat_source_generation_changed:source_ref={update.sourceRef}"++
            s!":previous_unique_pid={previous.uniquePid}:current_unique_pid={update.uniquePid}"),
          interval)
      else if update.receivedBytes < previous.receivedBytes ∨
          update.transmittedBytes < previous.transmittedBytes then
        (some (s!"nstat_counter_regressed:source_ref={update.sourceRef}"++
            s!":unique_pid={previous.uniquePid}"),
          interval)
      else
        (discarded,addBytes interval (.platform previous.pid previous.uniquePid)
          (update.receivedBytes-previous.receivedBytes)
          (update.transmittedBytes-previous.transmittedBytes))
    | none =>
      if e.baselineComplete then
        (discarded,addBytes interval (.platform update.pid update.uniquePid)
          update.receivedBytes update.transmittedBytes)
      else (discarded,interval)
  let sources :=
    if update.closing then e.sources.erase update.sourceRef
    else e.sources.insert update.sourceRef
      ⟨update.pid,update.uniquePid,update.receivedBytes,update.transmittedBytes⟩
  (dataLoss,{e with sources := sources},interval)

/-- An event no newer than the last one applied to its source is dropped. -/
def applyEvent (e : AttributionEngine) (ordered : OrderedSourceEvent)
    (interval : RatesByProcess) : Option String × AttributionEngine × RatesByProcess :=
  let sourceRef := ordered.event.sourceRef
  if (e.lastEventOrder.lookup sourceRef).any (fun last => !last.before ordered.order) then
    (none,e,interval)
  else
    let e := {e with lastEventOrder := e.lastEventOrder.insert sourceRef ordered.order}
    match ordered.event with
    | .update update => e.applyUpdate update interval
    | .removed sourceRef => (none,{e with sources := e.sources.erase sourceRef},interval)

def finishBaseline (e : AttributionEngine) : AttributionEngine := {e with baselineComplete := true}

def pruneTombstones (e : AttributionEngine) : AttributionEngine :=
  let retained := e.lastEventOrder.entries.filter (fun x => (e.sources.lookup x.1).isSome)
  {e with lastEventOrder := ofList retained}

end AttributionEngine

/-- One turn of the loop of `commit_events`. -/
def commitEvent (s : AttributionEngine × SharedSample) (event : OrderedSourceEvent) :
    AttributionEngine × SharedSample :=
  let r := s.1.applyEvent event s.2.intervalBytesByProcess
  (r.2.1,{s.2 with
    intervalBytesByProcess := r.2.2
    dataLoss := r.1.or s.2.dataLoss})

def commitEvents (s : AttributionEngine × SharedSample) (events : List OrderedSourceEvent) :
    AttributionEngine × SharedSample :=
  events.foldl commitEvent s

/-- One loopback flow the session opened to qualify the wire layout. -/
structure ExpectedFlow where
  tcp : Bool
  localPort : Nat
  remotePort : Nat
  received : Nat
  transmitted : Nat
  sourceRef : Option Nat := none
  deriving DecidableEq

structure ProtocolQualification where
  ownPid : Nat
  uniquePid : Nat
  flows : List ExpectedFlow

/-- The descriptor fields that name the provider and the loopback ports. -/
structure FlowPorts where
  provider : Nat
  localPort : Option Nat
  remotePort : Option Nat

def FlowPorts.tcp (f : FlowPorts) : Bool := decide (f.provider∈[2,3,8])

namespace ProtocolQualification

def complete (q : ProtocolQualification) : Bool := q.flows.all (fun f => f.sourceRef.isSome)

def excludes (q : ProtocolQualification) (sourceRef : Nat) : Bool :=
  q.flows.any (fun f => f.sourceRef==some sourceRef)

def matchesFlow (ports : FlowPorts) (f : ExpectedFlow) : Bool :=
  f.tcp==ports.tcp && ports.localPort==some f.localPort && ports.remotePort==some f.remotePort

def observe (q : ProtocolQualification) (ports : FlowPorts) (update : SourceUpdate) :
    Except String ProtocolQualification :=
  if q.complete then .ok q
  else
    match q.flows.findIdx? (matchesFlow ports) with
    | none => .ok q
    | some index =>
      if (q.flows.eraseIdx index).any (fun f => f.sourceRef==some update.sourceRef) then
        .error "nstat_protocol_probe_source_collision"
      else
        match q.flows[index]? with
        | none => .ok q
        | some flow =>
          if update.pid≠q.ownPid ∨ update.uniquePid≠q.uniquePid ∨
              update.receivedBytes≠flow.received ∨ update.transmittedBytes≠flow.transmitted ∨
              update.previousEventDiscarded ∨ update.closing ∨
              flow.sourceRef.any (fun source => source≠update.sourceRef) then
            .error s!"nstat_protocol_probe_mismatch:provider={ports.provider}"
          else .ok {q with
            flows := q.flows.set index {flow with sourceRef := some update.sourceRef}}

end ProtocolQualification

inductive Body where
  | success
  | error (errno : Nat)
  | added
  | description
  | counts
  | update (update : SourceUpdate) (ports : FlowPorts)
  | removed (sourceRef : Nat)

structure Message where
  context : Nat
  flags : Nat
  body : Body

def Message.continuation (m : Message) : Bool := m.flags.testBit 1
def Message.closedAfterDrop (m : Message) : Bool := m.flags.testBit 3

def firstQueryContext : Nat := 0x4e53540000000001
def pollInterval : Nat := 500*10^6

structure Session where
  pendingSubscriptions : AList (fun _ : Nat => Nat)
  activeQuery : Option ActiveQuery := none
  engine : AttributionEngine := {}
  eventClock : EventClock := {}
  shared : SharedSample
  queryContext : Nat := firstQueryContext
  nextQueryAt : Nat
  qualification : ProtocolQualification

def subscriptionContext (provider : Nat) : Nat := 0x4e53530000000000+provider
def providers : List Nat := [2,3,4,5,8]

/-- The events a step hands to `commit_events`, and the epochs it takes from the clock. -/
structure StepLog where
  committed : List OrderedSourceEvent := []
  reserved : Nat := 0

def StepLog.extend (log next : StepLog) : StepLog :=
  ⟨log.committed++next.committed,log.reserved+next.reserved⟩

namespace Session

/-- A session as `run_collector_session` sets it up, after `begin_session`. -/
def start (now : Nat) (qualification : ProtocolQualification) (dataLoss : Option String) :
    Session where
  pendingSubscriptions := ofList (providers.map (fun p => ⟨subscriptionContext p,p⟩))
  shared := {intervalStartedAt := now, dataLoss := dataLoss}
  nextQueryAt := now
  qualification := qualification

def isQueryContext (s : Session) (context : Nat) : Bool :=
  s.activeQuery.any (fun q => q.context==context)

def commit (s : Session) (events : List OrderedSourceEvent) : Session :=
  let r := commitEvents (s.engine,s.shared) events
  {s with engine := r.1, shared := r.2}

def routeEvent (s : Session) (event : SourceEvent) (context : Nat) :
    Except String (Session × StepLog) :=
  if context=0 then
    let clock := s.eventClock.tick
    let direct : OrderedSourceEvent := ⟨⟨clock.nextEpoch,0⟩,event⟩
    .ok ({s with eventClock := clock}.commit [direct],{committed := [direct], reserved := 1})
  else
    match s.activeQuery with
    | some query =>
      if query.context≠context then
        .error s!"nstat_event_context_mismatch:expected={query.context}:actual={context}"
      else .ok ({s with activeQuery := some (query.push event)},{})
    | none => .error s!"nstat_event_context_unexpected:{context}"

/-- A query's last answer: commit what it collected, prune, then baseline or interval. -/
def completeQuery (s : Session) (query : ActiveQuery) (now : Nat) : Session :=
  let s := {s with activeQuery := none}.commit query.events
  let s := {s with engine := s.engine.pruneTombstones}
  let s :=
    if !s.engine.baselineComplete && s.qualification.complete then
      {s with
        engine := s.engine.finishBaseline
        shared := {s.shared with
          baselineComplete := true
          intervalComplete := false
          intervalBytesByProcess := ∅
          intervalStartedAt := now}}
    else if s.engine.baselineComplete then
      {s with shared := {s.shared with intervalComplete := true}}
    else s
  {s with nextQueryAt := now+pollInterval}

def handleSuccess (s : Session) (m : Message) (now : Nat) : Session × StepLog :=
  if (s.pendingSubscriptions.lookup m.context).isSome then
    let pending := s.pendingSubscriptions.erase m.context
    ({s with
      pendingSubscriptions := pending
      nextQueryAt := if pending.keys=[] then now else s.nextQueryAt},{})
  else
    match s.activeQuery with
    | some query =>
      if query.context=m.context then
        if m.continuation then (s,{})
        else (s.completeQuery query now,{committed := query.events})
      else (s,{})
    | none => (s,{})

/-- One message of a datagram. -/
def handleMessage (s : Session) (now : Nat) (m : Message) : Except String (Session × StepLog) :=
  match m.body with
  | .success => .ok (s.handleSuccess m now)
  | .error errno =>
    match s.pendingSubscriptions.lookup m.context with
    | some provider =>
      .error s!"nstat_subscription_rejected:provider={provider}:errno={errno}"
    | none =>
      if s.isQueryContext m.context then .error s!"nstat_update_rejected:errno={errno}"
      else .ok (s,{})
  | .update update ports =>
    if m.context≠0 ∧ s.isQueryContext m.context=false then
      .error s!"nstat_event_context_unexpected:{m.context}"
    else do
      let qualification ← s.qualification.observe ports update
      let s := {s with qualification := qualification}
      if qualification.excludes update.sourceRef then .ok (s,{})
      else s.routeEvent (.update update) m.context
  | .removed sourceRef =>
    if m.context≠0 ∧ s.isQueryContext m.context=false then
      .error s!"nstat_event_context_unexpected:{m.context}"
    else if s.qualification.excludes sourceRef then .ok (s,{})
    else
      let s :=
        if m.closedAfterDrop then
          {s with shared := {s.shared with
            dataLoss := some s!"nstat_final_counts_dropped:source_ref={sourceRef}"}}
        else s
      s.routeEvent (.removed sourceRef) m.context
  | .added | .description => .ok (s,{})
  | .counts =>
    if s.engine.baselineComplete then .error s!"nstat_message_type_unexpected:10004"
    else .ok (s,{})

/-- The top of the session's loop: start a query when none is active and one is due. -/
def startQuery (s : Session) (now : Nat) : Session × StepLog :=
  if s.pendingSubscriptions.keys=[] ∧ s.activeQuery.isNone ∧ now≥s.nextQueryAt then
    let clock := s.eventClock.tick
    ({s with
      eventClock := clock
      activeQuery := some {context := s.queryContext, startedAt := now, epoch := clock.nextEpoch}
      queryContext := max ((s.queryContext+1)%2^64) firstQueryContext},{reserved := 1})
  else (s,{})

end Session

/-- `bytes_per_second` over a time in nanoseconds. -/
def bytesPerSecond (bytes elapsed : Nat) : Nat :=
  min (min (bytes*10^9) (2^128-1)/max elapsed 1) u64Max

/-- `MacosNetworkAttribution::sample`. -/
def SharedSample.sample (shared : SharedSample) (now : Nat) :
    NetworkAttributionSample × SharedSample :=
  match shared.failure with
  | some failure => (.failed failure,shared)
  | none =>
    if !shared.baselineComplete then
      (.pendingBaseline "Waiting for the initial macOS network-statistics baseline.",shared)
    else if !shared.intervalComplete then
      (.held "Waiting for the next complete macOS network-statistics interval.",shared)
    else
      let elapsed := now-shared.intervalStartedAt
      if elapsed=0 then
        (.held "Waiting for the next macOS network-statistics interval.",shared)
      else
        let rates : RatesByProcess := ofList (shared.intervalBytesByProcess.entries.map (fun x =>
          ⟨x.1,⟨bytesPerSecond x.2.receivedBps elapsed,bytesPerSecond x.2.transmittedBps elapsed⟩⟩))
        let taken := {shared with
          intervalStartedAt := now
          intervalComplete := false
          intervalBytesByProcess := ∅
          dataLoss := none}
        match shared.dataLoss with
        | some message => (.partialRates rates message,taken)
        | none => (.ready rates,taken)

/-- The collector thread's turns and the sampler's, in any order. -/
inductive Step where
  | poll (now : Nat)
  | message (now : Nat) (m : Message)
  | sample (now : Nat)

def step (s : Session) : Step → Except String (Session × StepLog)
  | .poll now => .ok (s.startQuery now)
  | .message now m => s.handleMessage now m
  | .sample now => .ok ({s with shared := (s.shared.sample now).2},{})

def advance (r : Session × StepLog) (a : Step) : Except String (Session × StepLog) := do
  let (s,log) ← step r.1 a
  .ok (s,r.2.extend log)

/-- A session's run up to now, with everything it committed and reserved. It stops at
the first error, which ends the session. -/
def run (s : Session) (steps : List Step) : Except String (Session × StepLog) :=
  steps.foldlM advance (s,{})

end BatCave.MacosNetwork
