import BatCave.CollectorService.Client
import BatCave.Contracts.Snapshot

/-! The desktop's collector on Windows: a session with the service as long as it works, and
the standard collector otherwise. A session that failed is dropped and a new one is not tried
for five seconds. The approval of the desktop's own workload is left out here. -/
namespace BatCave.CollectorService
open BatCave.Contracts (RuntimeReleaseIdentity)

section Status

/-- The service as the runtime reports it. -/
abbrev ServiceReport := BatCave.Contracts.RuntimeCollectorServiceStatus

def runtimeRelease (release : ReleaseIdentityV1) : RuntimeReleaseIdentity :=
  ⟨release.appVersion,release.sourceCommitSha⟩

def failureState (kind : ClientFailureKind) (previouslyActive : Bool) :
    BatCave.Contracts.RuntimeCollectorServiceState :=
  match kind with
  | .notInstalled => .notInstalled
  | .stopped => .stopped
  | .restarted => .recovering
  | .notReady => .connecting
  | .incompatible => .incompatible
  | .unauthorized => .unauthorized
  | .failed => if previouslyActive then .recovering else .failed

/-- `status_from_failure_with_clock` -/
def statusFromFailure (failure : ClientFailure) (previouslyActive : Bool) (nowMs : Nat) :
    ServiceReport :=
  let identity := failure.serviceIdentity
  let release := (identity.map ServiceIdentityV1.release).or failure.serviceRelease
  { state := failureState failure.kind previouslyActive
    releaseIdentity := release.map runtimeRelease
    serviceVersion := (identity.map ServiceIdentityV1.serviceVersion).or
      (release.map ReleaseIdentityV1.appVersion)
    negotiatedProtocolVersion := identity.map ServiceIdentityV1.protocolVersion
    minimumDesktopVersion := identity.map ServiceIdentityV1.minimumDesktopVersion
    instanceId := identity.map ServiceIdentityV1.instanceId
    lastConnectedAtMs := identity.map (fun _ => nowMs)
    detail := some failure.detail }

/-- `active_status_with_clock`, of what the session says. -/
def activeReport (status : RuntimeCollectorServiceStatus) : ServiceReport where
  state := .active
  releaseIdentity := some (runtimeRelease status.releaseIdentity)
  serviceVersion := some status.serviceVersion
  negotiatedProtocolVersion := some status.negotiatedProtocolVersion
  minimumDesktopVersion := some status.minimumDesktopVersion
  instanceId := some status.instanceId
  lastConnectedAtMs := some status.lastConnectedAtMs

end Status

/-- The world of a session, with the opening of connections and the standard collector. -/
structure Around (μ τ ω φ : Type) extends Outside μ τ ω where
  connect : ω → Except ClientFailure (Transport τ) × ω
  fallback : ω → Except String φ × ω

structure DesktopCollector (μ τ : Type) where
  service : Option (ServiceClientSession μ τ) := none
  retryAt : Nat
  lastStatus : Option ServiceReport := none

/-- What a collection returns: a sample of the service, or a standard one with the report on
the service and the warning that is added. -/
inductive Collected (μ φ : Type) where
  | service (sample : TelemetrySample μ)
  | standard (sample : φ) (status : ServiceReport) (warning : Option String)

/-- A step of the collector: what it gives, the failure that it noted, and what is left. -/
structure Turn (α μ τ ω : Type) where
  result : α
  noted : Option ClientFailure := none
  collector : DesktopCollector μ τ
  world : World μ ω

namespace DesktopCollector
variable {μ τ ω φ : Type} (around : Around μ τ ω φ)

def retryAfter : Nat := 5*10^9

/-- `new`, at an instant. -/
def new (now : Nat) : DesktopCollector μ τ := { retryAt := now }

def previouslyActive (s : DesktopCollector μ τ) : Bool :=
  s.lastStatus.any (fun status => status.state==.active)

def noteFailure (s : DesktopCollector μ τ) (failure : ClientFailure) (w : World μ ω) :
    DesktopCollector μ τ × World μ ω :=
  let (nowMs,w) := around.wireNowIn w
  let (now,w) := around.nowIn w
  ({ s with
    lastStatus := some (statusFromFailure failure s.previouslyActive nowMs)
    retryAt := now+retryAfter },w)

/-- A failure that is noted. -/
def noted {α : Type} (result : α) (s : DesktopCollector μ τ) (failure : ClientFailure)
    (w : World μ ω) : Turn α μ τ ω :=
  let (s,w) := s.noteFailure around failure w
  ⟨result,some failure,s,w⟩

def openTransport (w : World μ ω) : Except ClientFailure (Transport τ) × World μ ω :=
  let (transport,env) := around.connect w.env
  (transport,⟨env,w.calls++[.reconnect]⟩)

/-- A session, when there is none and it is time for one. -/
def connectService (s : DesktopCollector μ τ) (w : World μ ω) : Turn Unit μ τ ω :=
  if s.service.isSome then ⟨(),none,s,w⟩
  else
    let (now,w) := around.nowIn w
    if now < s.retryAt then ⟨(),none,s,w⟩
    else
      match openTransport around w with
      | (.error failure,w) => s.noted around () failure w
      | (.ok transport,w) =>
        match ServiceClientSession.connect around.toOutside transport w with
        | (.error failure,w) => s.noted around () failure w
        | (.ok session,w) => ⟨(),none,{ s with service := some session },w⟩

/-- The sample of the session, which a failure drops. -/
def readService (s : DesktopCollector μ τ) (w : World μ ω) :
    Turn (Option (TelemetrySample μ)) μ τ ω :=
  match s.service with
  | none => ⟨none,none,s,w⟩
  | some session =>
    match session.latestSample around.toOutside w with
    | (.ok sample,session,w) =>
      ⟨some sample,none,{ s with
        service := some session
        lastStatus := some (activeReport sample.collectorService) },w⟩
    | (.error failure,_,w) => { s with service := none }.noted around none failure w

def unavailableStatus (nowMs : Nat) : ServiceReport :=
  statusFromFailure (.new .failed "collector_service_connection_unavailable") false nowMs

def fallbackWarning (status : ServiceReport) : Option String :=
  status.detail.map (fun detail => s!"{detail}; standard-access collector fallback is active")

/-- The standard sample, with the report on the service. -/
def collectStandard (s : DesktopCollector μ τ) (noted : Option ClientFailure) (w : World μ ω) :
    Turn (Except String (Collected μ φ)) μ τ ω :=
  let (sample,env) := around.fallback w.env
  let w : World μ ω := ⟨env,w.calls⟩
  match sample with
  | .error failure => ⟨.error failure,noted,s,w⟩
  | .ok sample =>
    let (nowMs,w) := around.wireNowIn w
    let status := s.lastStatus.getD (unavailableStatus nowMs)
    ⟨.ok (.standard sample status (fallbackWarning status)),noted,s,w⟩

def collect (s : DesktopCollector μ τ) (w : World μ ω) :
    Turn (Except String (Collected μ φ)) μ τ ω :=
  let connected := s.connectService around w
  let read := connected.collector.readService around connected.world
  match read.result with
  | some sample => ⟨.ok (.service sample),none,read.collector,read.world⟩
  | none => read.collector.collectStandard around (connected.noted.or read.noted) read.world

/-- One collection of a run, with what stood before it. -/
structure Collection (μ τ ω φ : Type) where
  collector : DesktopCollector μ τ
  world : World μ ω
  turn : Turn (Except String (Collected μ φ)) μ τ ω

def collections : Nat → DesktopCollector μ τ → World μ ω → List (Collection μ τ ω φ)
  | 0,_,_ => []
  | n+1,s,w =>
    let turn := s.collect around w
    ⟨s,w,turn⟩::collections n turn.collector turn.world

end DesktopCollector
end BatCave.CollectorService
