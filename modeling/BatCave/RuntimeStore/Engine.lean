import BatCave.RuntimeStore.Views

/-! The two engines of a running desktop: the sampling loop that owns the store, and the
collector's loop that it talks to through a queue of controls. A control that is not answered
in time stays in the queue and is served later. -/
namespace BatCave.RuntimeStore
open BatCave.Contracts BatCave.ProcessView BatCave.Lib BatCave.Lib.Word BatCave.Lib.Text

section Collector

inductive CollectorEvent where
  | sample (sample : TelemetrySample)
  | unavailable (error : String)
  | fatal (code message : String)
  | pausedHeartbeat

structure CollectorCadence where
  deadlineMisses : Nat
  recentDeadlineMisses : Nat
  deadlineLatenessP95Ms : Float

structure CollectorPublication where
  revision : Nat
  completedAtMs : Nat
  event : CollectorEvent
  collectionLatencyMs : Float
  cadence : CollectorCadence

/-- What the raw collector answers. -/
inductive Collection where
  | sample (sample : TelemetrySample)
  | unavailable (error : String)
  | fatal (message : String)

def Collection.event : Collection → CollectorEvent
  | .sample measured => .sample measured
  | .unavailable error => .unavailable error
  | .fatal message => .fatal "collector_fatal" message

def Collection.isFatal : Collection → Bool
  | .fatal _ => true
  | _ => false

/-- One turn of work with what it took. -/
structure Work where
  collection : Collection
  completedAtMs : Nat
  collectionLatencyMs : Float
  cadence : CollectorCadence

inductive CollectorControl where
  | pause
  | resume
  | setInterval (intervalMs : Nat)
  deriving DecidableEq, Repr

/-- The collector's loop; after a fatal collection it only answers with errors. -/
structure CollectorLoop where
  paused : Bool
  intervalMs : Nat
  revision : Nat := 0
  published : Option CollectorPublication := none
  fatal : Bool := false
  queue : List CollectorControl := []

namespace CollectorLoop

def publish (c : CollectorLoop) (event : CollectorEvent) (work : Work) : CollectorLoop :=
  { c with
    revision := satAdd c.revision 1
    published := some ⟨satAdd c.revision 1,work.completedAtMs,event,work.collectionLatencyMs,
      work.cadence⟩ }

/-- `collect_and_publish` -/
def collectAndPublish (c : CollectorLoop) (work : Work) : CollectorLoop :=
  { c.publish work.collection.event work with fatal := work.collection.isFatal }

/-- The collector's own turn: a scheduled collection, a refresh or a heartbeat. -/
def turn (c : CollectorLoop) (heartbeat : Bool) (work : Work) : CollectorLoop :=
  if c.fatal then c
  else if heartbeat then c.publish .pausedHeartbeat work
  else c.collectAndPublish work

/-- A control that the loop comes to. -/
def serve (work : Work) (c : CollectorLoop) (control : CollectorControl) : CollectorLoop :=
  if c.fatal then c
  else match control with
    | .pause => { c with paused := true }
    | .resume => { c with paused := false }.collectAndPublish work
    | .setInterval intervalMs => { c with intervalMs := intervalMs }

/-- What becomes of a control that the sampling loop sends. -/
inductive Answer where
  | shuttingDown | busy | unavailable
  /-- It is queued and not answered in time. -/
  | timeout
  /-- The loop comes to it after all that was queued before. -/
  | served (work : Work)

/-- `request_unit` and `request_publication` -/
def call (c : CollectorLoop) (control : CollectorControl) : Answer →
    Except String Unit × CollectorLoop
  | .shuttingDown => (.error "collector_engine_shutting_down",c)
  | .busy => (.error "collector_control_busy",c)
  | .unavailable => (.error "collector_engine_unavailable",c)
  | .timeout => (.error "collector_control_timeout",{ c with queue := c.queue++[control] })
  | .served work =>
    let c := (c.queue++[control]).foldl (serve work) { c with queue := [] }
    (if c.fatal then .error "collector_engine_fatal" else .ok (),c)

end CollectorLoop
end Collector

/-- What the outside answers while a publication of the collector is applied. -/
structure PublicationAnswers where
  occurredAtMs : Nat
  schedule : Answers
  applied : Answers
  measured : Answers
  publicationLatencyMs : Float

/-- What the outside answers to a request: the turns that the collector takes before its
latest publication is read, the clock, whether the settings could be handed to the writer,
and the publications. -/
structure Outside where
  turns : List (Bool × Work) := []
  nowMs : Nat
  persists : Bool
  latest : PublicationAnswers
  answers : Answers
  measured : Answers
  publicationLatencyMs : Float

/-- The sampling loop with the settings it last handed to the writer, and its collector. -/
structure Engine where
  store : Store
  persisted : RuntimeSettings
  lastCollectorRevision : Nat := 0
  collector : CollectorLoop
  ended : Bool := false

inductive ControlRequest where
  | pause
  | resume
  | setSampleInterval (sampleIntervalMs : Nat)
  deriving DecidableEq, Repr

namespace Engine
variable (lower : Lowercase) (sha256 : List UInt8 → List UInt8)

/-- `publish_store`, as far as it changes the store. -/
def publishStore (s : Store) (answers measured : Answers) (latencyMs : Float) : Store :=
  (s.refreshSnapshotHealth answers).recordPublicationLatency latencyMs measured

/-- `reply_with_publication`, as far as it changes the store. -/
def publishReply (s : Store) (outside : Outside) : Store :=
  publishStore s outside.answers outside.measured outside.publicationLatencyMs

/-- `persist_settings` of a user's change. -/
def persist (e : Engine) (persists : Bool) : Engine :=
  { e with persisted := if persists then
      { e.store.settings with query := e.store.durableQuery } else e.persisted }

/-- `publish_store` after a publication of the collector was applied. -/
def publishApplied (s : Store) (answers : PublicationAnswers) : Store :=
  publishStore s answers.applied answers.measured answers.publicationLatencyMs

/-- The store once the collector was heard of. -/
def heard (s : Store) (publication : CollectorPublication) (answers : Answers) : Store :=
  (s.noteHeartbeat publication.completedAtMs).updateScheduleHealth
    publication.cadence.deadlineMisses publication.cadence.recentDeadlineMisses
    publication.cadence.deadlineLatenessP95Ms answers

/-- Unless it is paused, a collection shows that the engine runs. -/
def running (s : Store) : Store := if s.settings.paused then s else s.setEngineState .running

/-- `apply_collector_publication`: whether there is a measurement, or the engine's fatal error. -/
def applyCollectorPublication (e : Engine) (publication : CollectorPublication)
    (answers : PublicationAnswers) : Except String Bool × Engine :=
  if publication.revision ≤ e.lastCollectorRevision then (.ok false,e)
  else
    let s := heard e.store publication answers.schedule
    let failed := { running s with
      collectionLatencyMs := some publication.collectionLatencyMs }
    let e := { e with lastCollectorRevision := publication.revision }
    match publication.event with
    | .pausedHeartbeat =>
      let s := s.publishSnapshotOnly lower answers.applied
      (.ok false,{ e with store := publishApplied s answers })
    | .sample sample =>
      let s := (running s).applyRawSample lower sha256 sample publication.completedAtMs
        answers.applied
      (.ok true,{ e with store := publishApplied s answers })
    | .unavailable _ =>
      let s := failed.publishCollectorUnavailable lower sha256 answers.applied
      (.ok true,{ e with store := publishApplied s answers })
    | .fatal code message =>
      let s := failed.markEngineFatal lower sha256 code message answers.occurredAtMs answers.applied
      (.error (if code="collector_fatal" then "runtime_engine_fatal:"++message
          else "runtime_engine_fatal"),
        { e with store := publishApplied s answers, ended := true })

/-- `apply_latest_collector_publication` -/
def applyLatest (e : Engine) (answers : PublicationAnswers) : Except String Bool × Engine :=
  match e.collector.published with
  | none => (.ok false,e)
  | some publication => e.applyCollectorPublication lower sha256 publication answers

/-- The `Pause` arm: the collector first, then the store. -/
def pause (e : Engine) (answer : CollectorLoop.Answer) (outside : Outside) :
    Except String Unit × Engine :=
  match e.collector.call .pause answer with
  | (.error error,collector) => (.error error,{ e with collector := collector })
  | (.ok _,collector) =>
    let collector := outside.turns.foldl (fun c turn => c.turn turn.1 turn.2) collector
    match { e with collector := collector }.applyLatest lower sha256 outside.latest with
    | (.error error,e) => (.error error,e)
    | (.ok _,e) =>
      let s := ((e.store.noteHeartbeat outside.nowMs).setEngineState .paused).setPaused lower true
        outside.answers
      (.ok (),persist { e with store := publishReply s outside } outside.persists)

/-- The `Resume` arm: the store first, then the collector. -/
def resume (e : Engine) (answer : CollectorLoop.Answer) (outside : Outside) :
    Except String Unit × Engine :=
  let s := ((e.store.noteHeartbeat outside.nowMs).setEngineState .running).setPaused lower false
    outside.answers
  let e := persist { e with store := s } outside.persists
  match e.collector.call .resume answer with
  | (.error error,collector) => (.error error,{ e with collector := collector })
  | (.ok _,collector) =>
    match { e with collector := collector }.applyLatest lower sha256 outside.latest with
    | (.error error,e) => (.error error,e)
    | (.ok true,e) => (.ok (),e)
    | (.ok false,e) => (.error "runtime_refresh_result_unavailable",e)

/-- The `SetSampleInterval` arm: the collector is only asked for another interval. -/
def setSampleInterval (e : Engine) (sampleIntervalMs : Nat) (answer : CollectorLoop.Answer)
    (outside : Outside) : Except String Unit × Engine :=
  let s := e.store.noteHeartbeat outside.nowMs
  let normalized := max 500 (min sampleIntervalMs 5000)
  let (reply,collector) :=
    if normalized≠s.settings.sampleIntervalMs then
      e.collector.call (.setInterval normalized) answer
    else (.ok (),e.collector)
  match reply with
  | .error error => (.error error,{ e with store := s, collector := collector })
  | .ok _ =>
    let s := s.setSampleInterval lower normalized outside.answers
    (.ok (),persist { e with store := publishReply s outside, collector := collector }
      outside.persists)

/-- A request with its reply; a loop that has ended refuses it. -/
def request (e : Engine) (request : ControlRequest) (answer : CollectorLoop.Answer)
    (outside : Outside) : Except String Unit × Engine :=
  if e.ended then (.error "runtime_engine_fatal",e)
  else match request with
    | .pause => e.pause lower sha256 answer outside
    | .resume => e.resume lower sha256 answer outside
    | .setSampleInterval sampleIntervalMs =>
      e.setSampleInterval lower sampleIntervalMs answer outside

/-- What happens to the two loops. -/
inductive Event where
  | request (request : ControlRequest) (answer : CollectorLoop.Answer) (outside : Outside)
  /-- A scheduled collection, a refresh or a heartbeat of the collector. -/
  | turn (heartbeat : Bool) (work : Work)
  /-- The collector comes to a control that nobody waits for any more. -/
  | serve (work : Work)
  /-- The sampling loop applies a publication that the collector made. -/
  | apply (publication : CollectorPublication) (answers : PublicationAnswers)
  | setQuery (query : RuntimeQuery) (intent : QueryWriteIntent) (outside : Outside)
  | setUiPreferences (preferences : RuntimeUiPreferences) (outside : Outside)

def step (e : Engine) : Event → Engine
  | .request request answer outside => (e.request lower sha256 request answer outside).2
  | .turn heartbeat work => { e with collector := e.collector.turn heartbeat work }
  | .serve work =>
    match e.collector.queue with
    | [] => e
    | control::queue =>
      { e with collector := { e.collector with queue := queue }.serve work control }
  | .apply publication answers =>
    if e.ended ∨ e.collector.revision < publication.revision then e
    else (e.applyCollectorPublication lower sha256 publication answers).2
  | .setQuery query intent outside =>
    if e.ended then e
    else
      let s := (e.store.noteHeartbeat outside.nowMs).setQueryWithIntent lower query intent
        outside.answers
      persist { e with store := publishReply s outside }
        (outside.persists && intent=.userMutation)
  | .setUiPreferences preferences outside =>
    if e.ended then e
    else
      let s := (e.store.noteHeartbeat outside.nowMs).setUiPreferences lower preferences
        outside.answers
      persist { e with store := publishReply s outside } outside.persists

/-- Both loops as they are started, with what the storage then holds. -/
def start (s : Store) (persisted : RuntimeSettings) : Engine where
  store := s.setEngineState (if s.settings.paused then .paused else .starting)
  persisted := persisted
  collector :=
    { paused := s.settings.paused
      intervalMs := max 500 (min s.settings.sampleIntervalMs 5000) }

/-- What a refused request must leave alone. -/
structure Unchanged (e e' : Engine) : Prop where
  paused : e'.store.settings.paused=e.store.settings.paused
  sampleIntervalMs : e'.store.settings.sampleIntervalMs=e.store.settings.sampleIntervalMs
  engineState : e'.store.engineState=e.store.engineState
  persisted : e'.persisted=e.persisted

/-- The store and the collector's loop have the same settings. -/
structure Agrees (e : Engine) : Prop where
  paused : e.store.settings.paused=e.collector.paused
  sampleIntervalMs : e.store.settings.sampleIntervalMs=e.collector.intervalMs

/-- A request is answered well with both sides equal, or with an error that leaves everything
as it was unless the engine has ended. -/
def Atomic (e : Engine) (result : Except String Unit × Engine) : Prop :=
  match result.1 with
  | .ok _ => Agrees result.2
  | .error _ => result.2.ended=true ∨ Unchanged e result.2

/-- A resumption would change nothing of the store. -/
structure Resumed (e : Engine) : Prop where
  running : e.store.engineState=.running
  paused : e.store.settings.paused=false
  persisted : e.persisted={ e.store.settings with query := e.store.durableQuery }

/-- No control is left behind in the queue, and the collector answers a resumption that would
change something. -/
def Smooth (e : Engine) (request : ControlRequest) (answer : CollectorLoop.Answer) : Prop :=
  answer≠.timeout ∧
    (request=.resume → ((e.collector.call .resume answer).1.isOk=true ∧
      e.collector.revision < u64Max) ∨ Resumed e)

def RunAtomic (e : Engine) : List Event → Prop
  | [] => True
  | event::events =>
    (match event with
      | .request request answer outside =>
        Atomic e (e.request lower sha256 request answer outside)
      | _ => True) ∧ RunAtomic (e.step lower sha256 event) events

def Event.isRequest : Event → Bool
  | .request _ _ _ => true
  | _ => false

/-- No request comes behind these events: what the collector serves late meets none. -/
def LastRequest (request : ControlRequest) (events : List Event) : Prop :=
  request≠.resume ∧ ∀ later∈events, later.isRequest=false

/-- Every request is smooth, but for a last one that the collector may leave unanswered. -/
def RunSmooth (e : Engine) : List Event → Prop
  | [] => True
  | event::events =>
    (match event with
      | .request request answer _ => e.ended=false →
          Smooth e request answer ∨ LastRequest request events
      | _ => True) ∧ RunSmooth (e.step lower sha256 event) events

end Engine
end BatCave.RuntimeStore
