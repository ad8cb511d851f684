import BatCave.CollectorService.Authorization
import BatCave.CollectorService.Client
import BatCave.Lib.Binary64
import BatCave.Lib.Result

/-! The service's end of a connection: the snapshot that it offers of what its collector
published last, and the loop that reads a client's frames and answers them. -/
namespace BatCave.CollectorService
open BatCave.Lib BatCave.Lib.Result BatCave.Lib.Word

def staleSequence (detail : String) : ContractFailure := ⟨.staleSequence,detail⟩

section Publications

/-- A sample as the service looks at it; `σ` is what it measures. -/
structure ServiceSample (σ : Type) where
  /-- `system.process_count` -/
  processCount : Nat
  /-- `processes.len()` -/
  processes : Nat
  latencyMs : Nat
  measured : σ

inductive CollectorEvent (σ : Type) where
  | sample (sample : ServiceSample σ)
  | unavailable
  | fatal
  | pausedHeartbeat

structure CollectorPublication (σ : Type) where
  revision : Nat
  completedAt : Nat
  event : CollectorEvent σ
  collectionLatencyMs : Float

/-- Instants in nanoseconds. -/
structure ServiceWireClock where
  origin : Nat
  wireOriginMs : Nat

def durationMs (duration : Nat) : Nat := min (duration/10^6) u64Max

def ServiceWireClock.atMs (clock : ServiceWireClock) (instant : Nat) : Nat :=
  if clock.origin ≤ instant then satAdd clock.wireOriginMs (durationMs (instant-clock.origin))
  else clock.wireOriginMs-durationMs (clock.origin-instant)

/-- The longer of both latencies, in whole milliseconds that fit. -/
def wireLatencyMs (collectionLatencyMs : Float) (sampleLatencyMs : Nat) : Nat :=
  (min (max (Binary64.ceil collectionLatencyMs) (Binary64.ofUnsigned sampleLatencyMs))
    (Binary64.ofUnsigned u64Max)).toUInt64.toNat

end Publications

/-- serde at both ends, and what becomes of a measurement on the wire. -/
structure WireParts (σ μ : Type) where
  requestToVec : ClientRequestV1 → Option (List UInt8)
  requestFromSlice : List UInt8 → Option ClientRequestV1
  /-- `get("request_id")?.as_u64()` of any JSON text -/
  requestId : List UInt8 → Option Nat
  responseToVec : ServiceResponseV1 μ → Option (List UInt8)
  responseFromSlice : List UInt8 → Option (ServiceResponseV1 μ)
  toWire : σ → Except ContractFailure μ
  validateMetrics : μ → Except ContractFailure Unit

/-- One run of the service's process. -/
structure ServiceProcess where
  identity : ServiceIdentityV1
  clock : ServiceWireClock

inductive SnapshotAvailability (μ : Type) where
  | pending
  | ready (snapshot : CollectorSnapshotV1 μ)
  | recoverableFailure (failure : ContractFailure)
  | fatal (failure : ContractFailure)

structure SnapshotState (μ : Type) where
  observedPublicationRevision : Nat := 0
  availability : SnapshotAvailability μ := .pending

namespace WireParts
variable {σ μ : Type} (wire : WireParts σ μ) (process : ServiceProcess)

section Source

/-- What the session of a client reads and writes; the provider comes with `session`. -/
def checks : SessionParts μ Unit where
  fromSlice := wire.requestFromSlice
  toVec := wire.responseToVec
  latest := fun _ state => (.error (incompatible "collector_service_snapshot_not_ready"),state)
  validateMetrics := wire.validateMetrics

def snapshotFromPublication (publication : CollectorPublication σ) (sample : ServiceSample σ) :
    Except ContractFailure (CollectorSnapshotV1 μ) := do
  reject (publication.revision==0) (malformed "collector_service_publication_sequence_zero")
  reject (!publication.collectionLatencyMs.isFinite || publication.collectionLatencyMs < 0.0)
    (malformed "collector_service_collection_latency_invalid")
  reject (decide (maxProcessCount < sample.processes))
    (oversized "collector_service_process_limit_exceeded")
  reject (sample.processCount != sample.processes)
    (malformed "collector_service_raw_process_count_mismatch")
  let metrics ← wire.toWire sample.measured
  let snapshot : CollectorSnapshotV1 μ :=
    { snapshotSchemaVersion := collectorSnapshotSchemaVersion
      serviceInstanceId := process.identity.instanceId
      sampleSeq := publication.revision
      sampledAtMs := process.clock.atMs publication.completedAt
      collectionLatencyMs := wireLatencyMs publication.collectionLatencyMs sample.latencyMs
      metrics := metrics }
  wire.checks.validateSnapshot snapshot
  return snapshot

/-- What a publication makes available, the `match` of `refresh_state`. -/
def availability (publication : CollectorPublication σ) : SnapshotAvailability μ :=
  match publication.event with
  | .sample sample =>
    match wire.snapshotFromPublication process publication sample with
    | .ok snapshot => .ready snapshot
    | .error failure => .recoverableFailure failure
  | .unavailable => .recoverableFailure (incompatible "collector_service_snapshot_unavailable")
  | .fatal => .fatal (incompatible "collector_service_snapshot_fatal")
  | .pausedHeartbeat => .recoverableFailure (incompatible "collector_service_snapshot_paused")

/-- `refresh_state`, of what the collector published last. -/
def refreshState (published : Option (CollectorPublication σ)) (state : SnapshotState μ) :
    SnapshotState μ :=
  match published with
  | none => state
  | some publication =>
    if publication.revision ≤ state.observedPublicationRevision then state
    else ⟨publication.revision,wire.availability process publication⟩

/-- `latest` of what is available. -/
def latestOf (afterSampleSeq : Option Nat) :
    SnapshotAvailability μ → Except ContractFailure (LatestSnapshotV1 μ)
  | .pending => .error (incompatible "collector_service_snapshot_not_ready")
  | .recoverableFailure failure => .error failure
  | .fatal failure => .error failure
  | .ready snapshot =>
    match afterSampleSeq with
    | none => .ok (.snapshot snapshot)
    | some after =>
      if snapshot.sampleSeq < after then
        .error (staleSequence "collector_service_requested_sequence_ahead")
      else if after=snapshot.sampleSeq then
        .ok (.unchanged ⟨snapshot.serviceInstanceId,snapshot.sampleSeq⟩)
      else .ok (.snapshot snapshot)

/-- `terminal_failure` of what is available, as the listener polls it. -/
def terminalFailureOf : SnapshotAvailability μ → Option String
  | .fatal failure => some failure.detail
  | _ => none

/-- A session's parts over what the collector published last. -/
def session (published : Option (CollectorPublication σ)) : SessionParts μ (SnapshotState μ) where
  fromSlice := wire.requestFromSlice
  toVec := wire.responseToVec
  latest := fun afterSampleSeq state =>
    let state := wire.refreshState process published state
    (latestOf afterSampleSeq state.availability,state)
  validateMetrics := wire.validateMetrics

end Source

section Replies

/-- The longest prefix of whole characters that fits. -/
def boundedPrefix : Nat → List Char → List Char
  | _,[] => []
  | room,c::cs => if c.utf8Size ≤ room then c::boundedPrefix (room-c.utf8Size) cs else []

def boundedFailureDetail (value : String) : String :=
  if value.utf8ByteSize ≤ maxStringBytes then value
  else .ofList (boundedPrefix maxStringBytes value.toList)

/-- `ContractFailure::response` -/
def failureResponse (failure : ContractFailure) : ContractFailure :=
  ⟨failure.code,boundedFailureDetail failure.detail⟩

def failureReply (requestId : Nat) (failure : ContractFailure) :
    Except ContractFailure SessionReply :=
  if requestId=0 then .error (malformed "collector_service_failure_request_id_zero")
  else wire.checks.encodeResponse
    ⟨collectorServiceProtocolVersion,requestId,.error (failureResponse failure)⟩ true

def extractRequestId (payload : List UInt8) : Option Nat :=
  (wire.requestId payload).filter (fun requestId => 0 < requestId)

end Replies
end WireParts

section Serving

def sessionMaxRequests : Nat := 4096

/-- What `serve_client` keeps of its connection. -/
structure ClientWorker where
  authorization : AuthorizationSession := {}
  decoder : FrameDecoder := {}
  requestCount : Nat := 0
  deriving DecidableEq, Repr

/-- What a stretch of serving writes back, and whether the connection goes on. -/
structure Served (μ : Type) where
  written : List UInt8
  worker : ClientWorker
  state : SnapshotState μ
  goesOn : Bool

namespace WireParts
variable {σ μ : Type} (wire : WireParts σ μ) (process : ServiceProcess)
  (published : Option (CollectorPublication σ)) (peer : VerifiedPeer)

/-- One turn of the loop over payloads; without a reply the connection ends. -/
def servePayload (payload : List UInt8) (worker : ClientWorker) (state : SnapshotState μ) :
    Except String SessionReply × ClientWorker × SnapshotState μ :=
  let requestCount := satAdd worker.requestCount 1
  if sessionMaxRequests < requestCount then
    (.error "collector_service_connection_request_limit_exceeded",
      { worker with requestCount := requestCount },state)
  else
    let (reply,after) := (wire.session process published).handlePayload
      ⟨process.identity,state,worker.authorization⟩ ⟨peer,payload⟩
    let worker :=
      { worker with requestCount := requestCount, authorization := after.authorization }
    match reply with
    | .ok reply => (.ok reply,worker,after.snapshots)
    | .error failure =>
      match wire.extractRequestId payload with
      | none => (.error "collector_service_request_rejected",worker,after.snapshots)
      | some requestId =>
        match wire.failureReply requestId failure with
        | .error _ => (.error "collector_service_request_rejected",worker,after.snapshots)
        | .ok reply => (.ok reply,worker,after.snapshots)

/-- The payloads of one read, until a reply closes the connection. -/
def servePayloads : List (List UInt8) → ClientWorker → SnapshotState μ → Served μ
  | [],worker,state => ⟨[],worker,state,true⟩
  | payload::payloads,worker,state =>
    match wire.servePayload process published peer payload worker state with
    | (.error _,worker,state) => ⟨[],worker,state,false⟩
    | (.ok reply,worker,state) =>
      if reply.close then ⟨reply.frame,worker,state,false⟩
      else
        let rest := servePayloads payloads worker state
        { rest with written := reply.frame++rest.written }

/-- One read of the connection. -/
def serveBytes (bytes : List UInt8) (worker : ClientWorker) (state : SnapshotState μ) : Served μ :=
  match worker.decoder.push bytes with
  | (.error _,decoder) => ⟨[],{ worker with decoder := decoder },state,false⟩
  | (.ok payloads,decoder) =>
    wire.servePayloads process published peer payloads { worker with decoder := decoder } state

/-- The reads of the connection, as long as it goes on. -/
def serveReads : List (List UInt8) → ClientWorker → SnapshotState μ → Served μ
  | [],worker,state => ⟨[],worker,state,true⟩
  | bytes::reads,worker,state =>
    let served := wire.serveBytes process published peer bytes worker state
    if served.goesOn then
      let rest := serveReads reads served.worker served.state
      { rest with written := served.written++rest.written }
    else served

end WireParts
end Serving
end BatCave.CollectorService
