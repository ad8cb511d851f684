import BatCave.CollectorService.Protocol
import BatCave.Lib.Word
import Mathlib.Data.List.Induction

/-! The desktop's session with the collector service. The transport is hostile: what
`exchange`, `reconnect` and the clocks answer is an arbitrary function of an
arbitrary environment. Only the verified peer of a transport is its own. -/
namespace BatCave.CollectorService
open BatCave.Lib.Word

inductive ClientFailureKind where
  | notInstalled | stopped | restarted | notReady | incompatible | unauthorized | failed
  deriving DecidableEq, Repr

structure ClientFailure where
  kind : ClientFailureKind
  detail : String
  serviceRelease : Option ReleaseIdentityV1 := none
  serviceIdentity : Option ServiceIdentityV1 := none
  deriving DecidableEq, Repr

namespace ClientFailure

def new (kind : ClientFailureKind) (detail : String) : ClientFailure :=
  {kind := kind, detail := String.ofList (detail.toList.take 1024)}

def withServiceRelease (f : ClientFailure) (release : ReleaseIdentityV1) : ClientFailure :=
  {f with serviceRelease := some release}

def withServiceIdentity (f : ClientFailure) (identity : ServiceIdentityV1) : ClientFailure :=
  {f with
    serviceRelease := some identity.release
    serviceIdentity := some identity}

end ClientFailure

/-- Durations in nanoseconds. -/
def sessionRenewIdleAfter : Nat := (30-5)*10^9
def sessionRenewAfterRequests : Nat := 4096-64

def shouldRenewSession (idleFor requestCount : Nat) : Bool :=
  decide (idleFor≥sessionRenewIdleAfter) || decide (requestCount≥sessionRenewAfterRequests)

/-- A connection with the peer its opening verified; `handle` is everything else. -/
structure Transport (τ : Type) where
  verifiedPeer : VerifiedServicePeer
  handle : τ

/-- How the world outside the session answers. -/
structure Outside (μ τ ω : Type) where
  desktopRelease : ReleaseIdentityV1
  exchange : Transport τ → ClientRequestV1 → ω → Except ClientFailure (ServiceResponseV1 μ) × ω
  reconnect : Transport τ → ω → Except ClientFailure (Transport τ) × ω
  now : ω → Nat × ω
  wireNowMs : ω → Nat × ω

/-- The calls a session makes on its transport, an exchange with what it answered. -/
inductive TransportCall (μ : Type) where
  | exchange (peer : VerifiedServicePeer) (request : ClientRequestV1)
      (response : Except ClientFailure (ServiceResponseV1 μ))
  | reconnect

/-- The environment and the calls made on it so far. -/
structure World (μ ω : Type) where
  env : ω
  calls : List (TransportCall μ) := []

structure TelemetrySampleProvenance where
  sourceInstanceId : String
  sourceSampleSeq : Nat
  sampledAtMs : Nat
  deriving DecidableEq

structure RuntimeCollectorServiceStatus where
  releaseIdentity : ReleaseIdentityV1
  serviceVersion : String
  negotiatedProtocolVersion : Nat
  minimumDesktopVersion : String
  instanceId : String
  lastConnectedAtMs : Nat

structure TelemetrySample (μ : Type) where
  latencyMs : Nat
  metrics : μ
  collectorService : RuntimeCollectorServiceStatus
  sourceProvenance : TelemetrySampleProvenance

structure ServiceClientSession (μ τ : Type) where
  transport : Transport τ
  identity : ServiceIdentityV1
  nextRequestId : Nat
  lastSampleSeq : Option Nat
  lastSnapshot : Option (CollectorSnapshotV1 μ)
  lastActivity : Nat
  requestCount : Nat

variable {μ τ ω : Type}

def connectFailure (failure : ClientFailure) (transportRelease : ReleaseIdentityV1) :
    ClientFailure :=
  if failure.kind=.incompatible then failure.withServiceRelease transportRelease else failure

def contractFailure (failure : ContractFailure) : ClientFailure :=
  .new (if failure.code=.unauthorized then .unauthorized else .incompatible) failure.detail

def failureKind (failure : ContractFailure) : ClientFailureKind :=
  match failure.code with
  | .incompatible =>
    if failure.detail∈["collector_service_snapshot_not_ready",
        "collector_service_snapshot_unavailable","collector_service_snapshot_paused"] then .notReady
    else if failure.detail="collector_service_snapshot_fatal" then .failed
    else .incompatible
  | .unauthorized => .unauthorized
  | .malformed | .oversized | .staleSequence => .incompatible

def responseOutcome (response : ServiceResponseV1 μ) (expectedRequestId : Nat) :
    Except ClientFailure (ServiceOutcomeV1 μ) :=
  if response.requestId≠expectedRequestId then
    .error (.new .incompatible "collector_service_response_request_mismatch")
  else
    match response.outcome with
    | .error failure => .error (.new (failureKind failure) failure.detail)
    | outcome => .ok outcome

def activeStatus (identity : ServiceIdentityV1) (nowMs : Nat) : RuntimeCollectorServiceStatus where
  releaseIdentity := identity.release
  serviceVersion := identity.serviceVersion
  negotiatedProtocolVersion := collectorServiceProtocolVersion
  minimumDesktopVersion := identity.minimumDesktopVersion
  instanceId := identity.instanceId
  lastConnectedAtMs := nowMs

def sampleFromSnapshot (snapshot : CollectorSnapshotV1 μ)
    (status : RuntimeCollectorServiceStatus) : TelemetrySample μ where
  latencyMs := snapshot.collectionLatencyMs
  metrics := snapshot.metrics
  collectorService := status
  sourceProvenance := ⟨snapshot.serviceInstanceId,snapshot.sampleSeq,snapshot.sampledAtMs⟩

namespace Outside
variable (out : Outside μ τ ω)

def exchangeIn (t : Transport τ) (request : ClientRequestV1) (w : World μ ω) :
    Except ClientFailure (ServiceResponseV1 μ) × World μ ω :=
  let r := out.exchange t request w.env
  (r.1,⟨r.2,w.calls++[.exchange t.verifiedPeer request r.1]⟩)

def reconnectIn (t : Transport τ) (w : World μ ω) :
    Except ClientFailure (Transport τ) × World μ ω :=
  let r := out.reconnect t w.env
  (r.1,⟨r.2,w.calls++[.reconnect]⟩)

def nowIn (w : World μ ω) : Nat × World μ ω := ((out.now w.env).1,{w with env := (out.now w.env).2})

def wireNowIn (w : World μ ω) : Nat × World μ ω :=
  ((out.wireNowMs w.env).1,{w with env := (out.wireNowMs w.env).2})

end Outside

namespace ServiceClientSession
variable (out : Outside μ τ ω)

def negotiateRequest : ClientRequestV1 where
  protocolVersion := collectorServiceProtocolVersion
  requestId := 1
  operation := .negotiate ⟨collectorServiceProtocolVersion,collectorServiceProtocolVersion,
    out.desktopRelease⟩

def connect (transport : Transport τ) (w : World μ ω) :
    Except ClientFailure (ServiceClientSession μ τ) × World μ ω :=
  let transportRelease := transport.verifiedPeer.executableRelease
  if transportRelease≠out.desktopRelease then
    (.error ((ClientFailure.new .incompatible
      "collector_service_desktop_release_incompatible").withServiceRelease transportRelease),w)
  else
    let (response,w) := out.exchangeIn transport (negotiateRequest out) w
    match response with
    | .error failure => (.error (connectFailure failure transportRelease),w)
    | .ok response =>
      match responseOutcome response (negotiateRequest out).requestId with
      | .error failure => (.error (connectFailure failure transportRelease),w)
      | .ok (.negotiated negotiated) =>
        match authorizeServiceIdentity (some transport.verifiedPeer) negotiated.service with
        | .error failure =>
          (.error (connectFailure (contractFailure failure) transportRelease),w)
        | .ok _ =>
          if negotiated.negotiatedProtocolVersion≠collectorServiceProtocolVersion ∨
              negotiated.service.release≠out.desktopRelease then
            (.error ((ClientFailure.new .incompatible
              "collector_service_desktop_release_incompatible").withServiceRelease
                negotiated.service.release),w)
          else
            let (now,w) := out.nowIn w
            (.ok ⟨transport,negotiated.service,2,none,none,now,1⟩,w)
      | .ok _ =>
        (.error ((ClientFailure.new .incompatible
          "collector_service_negotiation_response_invalid").withServiceRelease transportRelease),w)

def takeRequestId (s : ServiceClientSession μ τ) :
    Except ClientFailure (Nat × ServiceClientSession μ τ) :=
  match checkedAdd s.nextRequestId 1 with
  | none => .error (.new .incompatible "collector_service_request_sequence_exhausted")
  | some next => .ok (s.nextRequestId,{s with nextRequestId := next})

/-- The checks on an answer, with the snapshot it delivers and the session after it. -/
def acceptLatest (s : ServiceClientSession μ τ) (latest : LatestSnapshotV1 μ) :
    Except ClientFailure (CollectorSnapshotV1 μ × ServiceClientSession μ τ) :=
  match latest with
  | .snapshot snapshot =>
    if snapshot.serviceInstanceId≠s.identity.instanceId ∨
        s.lastSampleSeq.any (fun last => snapshot.sampleSeq ≤ last) then
      .error (.new .incompatible "collector_service_snapshot_sequence_invalid")
    else
      .ok (snapshot,{s with
        lastSampleSeq := some snapshot.sampleSeq
        lastSnapshot := some snapshot})
  | .unchanged unchanged =>
    if unchanged.serviceInstanceId≠s.identity.instanceId ∨
        s.lastSampleSeq≠some unchanged.sampleSeq then
      .error (.new .incompatible "collector_service_unchanged_sequence_invalid")
    else
      match s.lastSnapshot with
      | some snapshot => .ok (snapshot,s)
      | none => .error (.new .incompatible "collector_service_unchanged_without_snapshot")

def latestSampleOnce (s : ServiceClientSession μ τ) (w : World μ ω) :
    Except ClientFailure (TelemetrySample μ) × ServiceClientSession μ τ × World μ ω :=
  match s.takeRequestId with
  | .error failure => (.error failure,s,w)
  | .ok (requestId,s) =>
    let request : ClientRequestV1 :=
      ⟨collectorServiceProtocolVersion,requestId,.latestSnapshot s.lastSampleSeq⟩
    let s := {s with requestCount := satAdd s.requestCount 1}
    let (response,w) := out.exchangeIn s.transport request w
    match response with
    | .error failure => (.error failure,s,w)
    | .ok response =>
      let (now,w) := out.nowIn w
      let s := {s with lastActivity := now}
      match responseOutcome response requestId with
      | .error failure => (.error failure,s,w)
      | .ok (.latestSnapshot latest) =>
        match s.acceptLatest latest with
        | .error failure => (.error failure,s,w)
        | .ok (snapshot,s) =>
          let (nowMs,w) := out.wireNowIn w
          (.ok (sampleFromSnapshot snapshot (activeStatus s.identity nowMs)),s,w)
      | .ok _ =>
        (.error (.new .incompatible "collector_service_snapshot_response_invalid"),s,w)

def renewConnection (s : ServiceClientSession μ τ) (w : World μ ω) :
    Except ClientFailure Unit × ServiceClientSession μ τ × World μ ω :=
  let (replacement,w) := out.reconnectIn s.transport w
  match replacement with
  | .error failure => (.error failure,s,w)
  | .ok replacement =>
    let (renewed,w) := connect out replacement w
    match renewed with
    | .error failure => (.error failure,s,w)
    | .ok renewed =>
      if renewed.identity.instanceId≠s.identity.instanceId ∨
          renewed.transport.verifiedPeer≠s.transport.verifiedPeer then
        (.error ((ClientFailure.new .restarted
          "collector_service_instance_restarted").withServiceIdentity renewed.identity),s,w)
      else
        (.ok (),{s with
          transport := renewed.transport
          identity := renewed.identity
          nextRequestId := renewed.nextRequestId
          lastActivity := renewed.lastActivity
          requestCount := renewed.requestCount},w)

/-- Failures of a renewal after which the old connection is not tried. -/
def renewalFatal (failure : ClientFailure) : Bool :=
  decide (failure.kind∈[ClientFailureKind.restarted,.incompatible,.unauthorized])

/-- The request itself, with one renewal and a second try if none was made before. -/
def latestSampleRetrying (s : ServiceClientSession μ τ) (w : World μ ω)
    (reconnectAttempted : Bool) :
    Except ClientFailure (TelemetrySample μ) × ServiceClientSession μ τ × World μ ω :=
  match latestSampleOnce out s w with
  | (.ok sample,s,w) => (.ok sample,s,w)
  | (.error failure,s,w) =>
    if failure.kind=.failed ∧ reconnectAttempted=false then
      match renewConnection out s w with
      | (.error failure,s,w) => (.error failure,s,w)
      | (.ok _,s,w) => latestSampleOnce out s w
    else (.error failure,s,w)

/-- The request of a session whose renewal is due. -/
def latestSampleRenewing (s : ServiceClientSession μ τ) (w : World μ ω) :
    Except ClientFailure (TelemetrySample μ) × ServiceClientSession μ τ × World μ ω :=
  match renewConnection out s w with
  | (.error failure,s,w) =>
    if renewalFatal failure then (.error failure,s,w)
    else latestSampleRetrying out s w true
  | (.ok _,s,w) => latestSampleRetrying out s w true

def latestSampleInner (s : ServiceClientSession μ τ) (w : World μ ω) :
    Except ClientFailure (TelemetrySample μ) × ServiceClientSession μ τ × World μ ω :=
  let (now,w) := out.nowIn w
  if shouldRenewSession (now-s.lastActivity) s.requestCount then latestSampleRenewing out s w
  else latestSampleRetrying out s w false

def latestSample (s : ServiceClientSession μ τ) (w : World μ ω) :
    Except ClientFailure (TelemetrySample μ) × ServiceClientSession μ τ × World μ ω :=
  match latestSampleInner out s w with
  | (.ok sample,s,w) => (.ok sample,s,w)
  | (.error failure,s,w) =>
    if failure.serviceIdentity.isSome then (.error failure,s,w)
    else (.error (failure.withServiceIdentity s.identity),s,w)

end ServiceClientSession

end BatCave.CollectorService
