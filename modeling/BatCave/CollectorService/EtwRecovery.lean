import BatCave.CollectorService.EtwLease
import BatCave.Lib.Effects

/-! How the collector service owns its ETW session: what a start makes of the lease and the
session it finds, how both are brought up and how they are brought down again. Every look at
the system and every change to it is a call. -/
namespace BatCave.CollectorService.EtwLease
open BatCave.Lib.Result BatCave.Lib.Effects

section Decision

structure EtwExpectedOwnerV1 where
  installId : Vector UInt8 16
  serviceGeneration : Vector UInt8 16
  bootIdentity : Vector UInt8 16
  session : EtwSessionIdentityV1
  deriving DecidableEq

inductive EtwSessionObservation where
  | absent
  | present (session : EtwSessionIdentityV1)
  | queryUnavailable
  deriving DecidableEq

inductive EtwControllerObservation where
  | absent
  | present (controller : EtwControllerIdentityV1)
  | queryUnavailable
  deriving DecidableEq

inductive EtwReclaimAttempt where
  | notAttempted | stopFailed
  deriving DecidableEq

inductive EtwLeaseConflict where
  | corruptLease | untrustedLease | schemaVersionMismatch | malformedLease
  | sessionWithoutTrustedLease | installIdMismatch | serviceGenerationMismatch
  | bootIdentityMismatch | leaseSessionMismatch | observedSessionMismatch | controllerStillActive
  deriving DecidableEq

inductive EtwRecoveryHold where
  | sessionQueryUnavailable | controllerQueryUnavailable | controllerObservationMismatch
  | stopFailed
  deriving DecidableEq

inductive EtwRecoveryDecision where
  | startFresh (discardStaleLease : Bool)
  | reclaimExact (phase : EtwLeasePhase)
  | conflict (conflict : EtwLeaseConflict)
  | retain (hold : EtwRecoveryHold)
  deriving DecidableEq

/-- The end of `decide_etw_recovery`, for a session that is absent or the lease's. -/
def decideControlled (lease : EtwLeaseV1) (settled : EtwRecoveryDecision)
    (controller : EtwControllerObservation) (attempt : EtwReclaimAttempt) : EtwRecoveryDecision :=
  let settled := if attempt=.stopFailed then .retain .stopFailed else settled
  match controller with
  | .queryUnavailable => .retain .controllerQueryUnavailable
  | .absent => settled
  | .present controller =>
    if controller.processId≠lease.controller.processId ∨ controller.processStartedAt=0 then
      .retain .controllerObservationMismatch
    else if controller=lease.controller then .conflict .controllerStillActive
    else settled

/-- What `decide_etw_recovery` makes of a lease of this owner and this boot. -/
def decideOwned (lease : EtwLeaseV1) (session : EtwSessionObservation)
    (controller : EtwControllerObservation) (attempt : EtwReclaimAttempt) : EtwRecoveryDecision :=
  match session with
  | .queryUnavailable => .retain .sessionQueryUnavailable
  | .absent => decideControlled lease (.startFresh true) controller attempt
  | .present session =>
    if session≠lease.session then .conflict .observedSessionMismatch
    else decideControlled lease (.reclaimExact lease.phase) controller attempt

/-- `decide_etw_recovery` -/
def decideEtwRecovery (expected : EtwExpectedOwnerV1) (observation : EtwLeaseObservation)
    (session : EtwSessionObservation) (controller : EtwControllerObservation)
    (attempt : EtwReclaimAttempt) : EtwRecoveryDecision :=
  match observation with
  | .absent =>
    match session with
    | .absent => .startFresh false
    | .present _ => .conflict .sessionWithoutTrustedLease
    | .queryUnavailable => .retain .sessionQueryUnavailable
  | .corrupt => .conflict .corruptLease
  | .untrusted => .conflict .untrustedLease
  | .trusted lease =>
    if lease.schemaVersion≠etwLeaseSchemaVersion then .conflict .schemaVersionMismatch
    else if !leaseIsWellFormed lease then .conflict .malformedLease
    else if lease.installId≠expected.installId then .conflict .installIdMismatch
    else if lease.serviceGeneration≠expected.serviceGeneration then
      .conflict .serviceGenerationMismatch
    else if lease.session≠expected.session then .conflict .leaseSessionMismatch
    else if lease.bootIdentity≠expected.bootIdentity then
      match session with
      | .absent => .startFresh true
      | .present _ => .conflict .bootIdentityMismatch
      | .queryUnavailable => .retain .sessionQueryUnavailable
    else decideOwned lease session controller attempt

/-- `stale_prior_generation_can_be_discarded` -/
def stalePriorGenerationCanBeDiscarded (expected : EtwExpectedOwnerV1) (lease : EtwLeaseV1)
    (session : EtwSessionObservation) (controller : EtwControllerObservation) : Bool :=
  if lease.serviceGeneration=expected.serviceGeneration ∨ lease.phase≠.stopping then false
  else decide (decideEtwRecovery { expected with serviceGeneration := lease.serviceGeneration }
    (.trusted lease) session controller .notAttempted=.startFresh true)

/-- `controller_with_exclusive_owner` -/
def controllerWithExclusiveOwner (session : EtwSessionObservation)
    (controller : EtwControllerObservation) : EtwControllerObservation :=
  if session=.absent ∧ controller=.queryUnavailable then .absent else controller

end Decision

section Calls
variable (platform : Platform)

/-- What the service asks of the system. -/
inductive Op where
  | tryAcquireOwner
  | serviceGeneration
  | bootIdentity
  | currentControllerIdentity
  | observeLease
  | replaceLease (prior : EtwLeaseSnapshot platform) (lease : EtwLeaseV1)
  | removeLease (prior : EtwLeaseSnapshot platform)
  | queryServiceSession
  | stopTraceByHandle (traceHandle : Nat)
  | observeController (expected : EtwControllerIdentityV1)
  | startTrace
  | openTrace
  | spawnConsumer
  | controlStopTrace (traceHandle : Nat)
  | closeTrace
  | joinConsumer
  | startEngine
  | serve
  | stopEngine

/-- What a shutdown of the engine comes to: whether the collector was taken down with it. -/
structure EngineShutdown where
  collectorStopped : Bool
  result : Except String Unit

@[reducible] def Op.Res : Op platform → Type
  | .tryAcquireOwner => Except String Bool
  | .serviceGeneration => Except String (Vector UInt8 16)
  | .bootIdentity => Except String (Vector UInt8 16)
  | .currentControllerIdentity => Except String EtwControllerIdentityV1
  | .observeLease => Except EtwLeasePersistenceError (EtwLeaseSnapshot platform)
  | .replaceLease _ _ => Except EtwLeasePersistenceError Unit
  | .removeLease _ => Except EtwLeasePersistenceError Bool
  | .queryServiceSession => Except Nat (Option (EtwSessionIdentityV1 × Nat))
  | .stopTraceByHandle _ => Except String Unit
  | .observeController _ => EtwControllerObservation
  | .startTrace => Except String Nat
  | .openTrace => Except String Unit
  | .spawnConsumer => Except String Unit
  | .controlStopTrace _ => Except String Unit
  | .closeTrace => Except String Unit
  | .joinConsumer => Except String Unit
  | .startEngine => Except String Unit
  | .serve => Except String Unit
  | .stopEngine => EngineShutdown

/-- Why a call of the service failed. Each stands for the error text of its name. -/
inductive Failure where
  | etwOwnerContended
  | etwOwnerUnavailable (error : String)
  | etwExpectedOwnerUnavailable (error : String)
  | etwLeaseObserveFailed (error : EtwLeasePersistenceError)
  | etwRecoverySessionNotAbsent
  | etwRecoveryLeaseRemoveFailed (error : EtwLeasePersistenceError)
  | etwRecoveryLeaseObserveFailed (error : EtwLeasePersistenceError)
  | etwRecoveryStoppingWriteFailed (error : EtwLeasePersistenceError)
  | etwRecoveryStoppingObserveFailed (error : EtwLeasePersistenceError)
  | etwRecoveryStopFailed (error : String) (retained : EtwRecoveryDecision)
  | etwRecoveryIncomplete (afterStop : EtwRecoveryDecision)
  | etwRecoveryBlocked (decision : EtwRecoveryDecision)
  | controllerIdentityUnavailable (error : String)
  | etwIntentWriteFailed (error : EtwLeasePersistenceError)
  | etwIntentObserveFailed (error : EtwLeasePersistenceError)
  | networkAttribution (error : String)
  | etwFailedStartRetained
  | etwFailedStartCleanupFailed (error : EtwLeasePersistenceError)
  | etwActiveWriteFailed (error : EtwLeasePersistenceError)
  | etwActiveObserveFailed (error : EtwLeasePersistenceError)
  | etwStoppingWriteFailed (error : EtwLeasePersistenceError)
  | etwStoppingObserveFailed (error : EtwLeasePersistenceError)
  | etwSessionNotAbsent
  | etwLeaseRemoveFailed (error : EtwLeasePersistenceError)
  | collectorEngine (error : String)
  | transport (error : String)
  | nothing
  | both (first second : Failure)

/-- A failure that names a conflict. -/
def Failure.isConflict : Failure → Bool
  | .etwRecoveryStopFailed _ (.conflict _) => true
  | .etwRecoveryIncomplete (.conflict _) => true
  | .etwRecoveryBlocked (.conflict _) => true
  | .both first second => first.isConflict || second.isConflict
  | _ => false

/-- `combine_results` -/
def combineResults : Except Failure Unit → Except Failure Unit → Failure
  | .error first,.error second => .both first second
  | .error error,.ok () => error
  | .ok (),.error error => error
  | .ok (),.ok () => .nothing

/-- `combine_unit_results` -/
def combineUnitResults (first second : Except Failure Unit) : Except Failure Unit :=
  match first,second with
  | .ok (),.ok () => .ok ()
  | first,second => .error (combineResults first second)

end Calls

/-- What stays the same from start to start: one install, one build of the service. -/
structure Service where
  platform : Platform
  store : EtwLeaseStore
  authority : EtwOwnershipAuthority
  installId : Vector UInt8 16
  serviceGeneration : Vector UInt8 16
  session : EtwSessionIdentityV1

namespace Service
variable (c : Service)

abbrev Call (α : Type) := Program (Op c.platform) (Op.Res c.platform) α
abbrev Action (α : Type) := Fallible (Op c.platform) (Op.Res c.platform) Failure α

section Asking

def askOwner : c.Call (Except String Bool) := .call .tryAcquireOwner .ret
def askGeneration : c.Call (Except String (Vector UInt8 16)) := .call .serviceGeneration .ret
def askBoot : c.Call (Except String (Vector UInt8 16)) := .call .bootIdentity .ret
def askSelf : c.Call (Except String EtwControllerIdentityV1) :=
  .call .currentControllerIdentity .ret

def askLease : c.Call (Except EtwLeasePersistenceError (EtwLeaseSnapshot c.platform)) :=
  .call .observeLease .ret

def askReplace (prior : EtwLeaseSnapshot c.platform) (lease : EtwLeaseV1) :
    c.Call (Except EtwLeasePersistenceError Unit) := .call (.replaceLease prior lease) .ret

def askRemove (prior : EtwLeaseSnapshot c.platform) :
    c.Call (Except EtwLeasePersistenceError Bool) :=
  .call (.removeLease prior) .ret

def askSession : c.Call (Except Nat (Option (EtwSessionIdentityV1 × Nat))) :=
  .call .queryServiceSession .ret

def askStopByHandle (traceHandle : Nat) : c.Call (Except String Unit) :=
  .call (.stopTraceByHandle traceHandle) .ret

def askController (expected : EtwControllerIdentityV1) : c.Call EtwControllerObservation :=
  .call (.observeController expected) .ret

def askStart : c.Call (Except String Nat) := .call .startTrace .ret
def askOpen : c.Call (Except String Unit) := .call .openTrace .ret
def askSpawn : c.Call (Except String Unit) := .call .spawnConsumer .ret
def askStop (traceHandle : Nat) : c.Call (Except String Unit) :=
  .call (.controlStopTrace traceHandle) .ret

def askClose : c.Call (Except String Unit) := .call .closeTrace .ret
def askJoin : c.Call (Except String Unit) := .call .joinConsumer .ret
def askEngine : c.Call (Except String Unit) := .call .startEngine .ret
def askServe : c.Call (Except String Unit) := .call .serve .ret
def askEngineStop : c.Call EngineShutdown := .call .stopEngine .ret

end Asking

section Session

def observeSession : c.Call EtwSessionObservation := do
  match ← c.askSession with
  | .ok (some (identity,_)) => return .present identity
  | .ok none => return .absent
  | .error _ => return .queryUnavailable

def stopSessionIfExact (expected : EtwSessionIdentityV1) : c.Call (Except String Unit) :=
  if expected≠c.session then
    return .error "network_attribution_reclaim_identity_not_configured"
  else do
    match ← c.askSession with
    | .ok none => return .error "network_attribution_reclaim_session_absent"
    | .error _ => return .error "network_attribution_reclaim_query_failed"
    | .ok (some (observed,traceHandle)) =>
      if observed≠expected then return .error "network_attribution_reclaim_identity_mismatch"
      else if traceHandle=0 then return .error "network_attribution_reclaim_handle_missing"
      else c.askStopByHandle traceHandle

/-- `stop_trace` -/
def stopTrace (traceHandle : Nat) : c.Call (Except String Unit) :=
  if traceHandle=0 then return .ok () else c.askStop traceHandle

/-- `new_for_collector_service`, with the handle of the session that was started. -/
def startMonitor : c.Call (Except String Nat) := do
  match ← c.askStart with
  | .error error => return .error error
  | .ok traceHandle =>
    match ← c.askOpen with
    | .error error =>
      let _ ← c.stopTrace traceHandle
      return .error error
    | .ok () =>
      match ← c.askSpawn with
      | .error error =>
        let _ ← c.stopTrace traceHandle
        let _ ← c.askClose
        return .error error
      | .ok () => return .ok traceHandle

/-- `NetworkAttributionMonitor::shutdown`; its result is what the settlement records. -/
def shutdownMonitor (traceHandle : Nat) : c.Call (Except String Unit) := do
  let stopped ← c.stopTrace traceHandle
  let closed ← c.askClose
  let joined ← c.askJoin
  let errors := [stopped,closed,joined].filterMap (fun
    | .ok () => none
    | .error error => some error)
  return if errors=[] then .ok () else .error (";".intercalate errors)

/-- `require_clean` of a settlement. -/
def requireClean (settlement : Option (Except String Unit)) : Except String Unit :=
  settlement.getD (.error "network_attribution_settlement_unproven")

end Session

section Recovery

/-- `remove_stale_lease` -/
def removeStaleLease (snapshot : EtwLeaseSnapshot c.platform) :
    c.Action (EtwLeaseSnapshot c.platform) := do
  let session ← always c.observeSession
  if session≠.absent then throw .etwRecoverySessionNotAbsent
  else do
    let _ ← attempt (c.askRemove snapshot) Failure.etwRecoveryLeaseRemoveFailed
    attempt c.askLease Failure.etwRecoveryLeaseObserveFailed

/-- The end of a reclaim, after the session was stopped. -/
def settleReclaim (expected : EtwExpectedOwnerV1) (stopping : EtwLeaseSnapshot c.platform)
    (lease : EtwLeaseV1) : c.Action (EtwLeaseSnapshot c.platform) := do
  let session ← always c.observeSession
  let controller ← always (c.askController lease.controller)
  let afterStop := decideEtwRecovery expected stopping.observation session controller .notAttempted
  if afterStop≠.startFresh true then throw (.etwRecoveryIncomplete afterStop)
  else c.removeStaleLease stopping

/-- What `recover_etw_start` does with a session that is its own to reclaim. -/
def reclaim (expected : EtwExpectedOwnerV1) (snapshot : EtwLeaseSnapshot c.platform)
    (lease : EtwLeaseV1) : c.Action (EtwLeaseSnapshot c.platform) := do
  let lease := { lease with phase := .stopping }
  attempt (c.askReplace snapshot lease) Failure.etwRecoveryStoppingWriteFailed
  let stopping ← attempt c.askLease Failure.etwRecoveryStoppingObserveFailed
  match ← always (c.stopSessionIfExact lease.session) with
  | .ok () => c.settleReclaim expected stopping lease
  | .error error =>
    let session ← always c.observeSession
    let controller ← always (c.askController lease.controller)
    throw (.etwRecoveryStopFailed error
      (decideEtwRecovery expected stopping.observation session controller .stopFailed))

/-- The controller as `recover_etw_start` first sees it. -/
def observeLeaseController (expected : EtwExpectedOwnerV1) (observation : EtwLeaseObservation) :
    c.Call EtwControllerObservation :=
  match observation with
  | .trusted lease =>
    if lease.bootIdentity=expected.bootIdentity then c.askController lease.controller
    else return .queryUnavailable
  | _ => return .queryUnavailable

/-- `recover_etw_start` -/
def recoverEtwStart (expected : EtwExpectedOwnerV1) (snapshot : EtwLeaseSnapshot c.platform) :
    c.Action (EtwLeaseSnapshot c.platform) := do
  let session ← always c.observeSession
  let observed ← always (c.observeLeaseController expected snapshot.observation)
  let controller := controllerWithExclusiveOwner session observed
  let stale := match snapshot.observation with
    | .trusted lease => stalePriorGenerationCanBeDiscarded expected lease session controller
    | _ => false
  if stale then c.removeStaleLease snapshot
  else
    let decision := decideEtwRecovery expected snapshot.observation session controller
      .notAttempted
    match decision,snapshot.observation with
    | .startFresh false,_ => return snapshot
    | .startFresh true,_ => c.removeStaleLease snapshot
    | .reclaimExact _,.trusted lease => c.reclaim expected snapshot lease
    | _,_ => throw (.etwRecoveryBlocked decision)

end Recovery

section Lifecycle

/-- `ServiceEtwLifecycle`, with the handle that its monitor has of the session. -/
structure Lifecycle (platform : Platform) where
  snapshot : EtwLeaseSnapshot platform
  lease : EtwLeaseV1
  traceHandle : Nat

/-- `remove_exact_lease_if_session_absent` -/
def removeExactLeaseIfSessionAbsent (snapshot : EtwLeaseSnapshot c.platform) : c.Action Unit := do
  let session ← always c.observeSession
  if session≠.absent then throw .etwFailedStartRetained
  else do
    let _ ← attempt (c.askRemove snapshot) Failure.etwFailedStartCleanupFailed
    return ()

/-- `remove_exact_lease_after_clean_settlement` -/
def removeExactLeaseAfterCleanSettlement (snapshot : EtwLeaseSnapshot c.platform)
    (settlement : Option (Except String Unit)) : c.Action Unit :=
  match requireClean settlement with
  | .error error => throw (.networkAttribution error)
  | .ok () => c.removeExactLeaseIfSessionAbsent snapshot

/-- `expected_etw_owner` -/
def expectedEtwOwner : c.Action EtwExpectedOwnerV1 := do
  let serviceGeneration ← attempt c.askGeneration Failure.etwExpectedOwnerUnavailable
  let bootIdentity ← attempt c.askBoot Failure.etwExpectedOwnerUnavailable
  return ⟨c.installId,serviceGeneration,bootIdentity,c.session⟩

/-- The end of a start whose session is up. -/
def activate (intent : EtwLeaseSnapshot c.platform) (lease : EtwLeaseV1) (traceHandle : Nat) :
    c.Action (Lifecycle c.platform) := do
  let lease := { lease with phase := .active }
  match ← always (c.askReplace intent lease) with
  | .error error =>
    let settled ← always (c.shutdownMonitor traceHandle)
    let cleanup ← outcome (c.removeExactLeaseAfterCleanSettlement intent (some settled))
    throw (combineResults (.error (.etwActiveWriteFailed error))
      (combineUnitResults (settled.mapError .networkAttribution) cleanup))
  | .ok () =>
    match ← always c.askLease with
    | .error error =>
      -- The monitor is dropped with the error.
      let _ ← always (c.shutdownMonitor traceHandle)
      throw (.etwActiveObserveFailed error)
    | .ok active => return ⟨active,lease,traceHandle⟩

/-- The middle of a start: the intent is written before the session is started. -/
def bringUp (expected : EtwExpectedOwnerV1) (snapshot : EtwLeaseSnapshot c.platform)
    (serviceInstanceId : Vector UInt8 16) : c.Action (Lifecycle c.platform) := do
  let controller ← attempt c.askSelf Failure.controllerIdentityUnavailable
  let lease : EtwLeaseV1 :=
    { phase := .intent
      installId := expected.installId
      serviceGeneration := expected.serviceGeneration
      serviceInstanceId := serviceInstanceId
      bootIdentity := expected.bootIdentity
      controller := controller
      session := expected.session }
  attempt (c.askReplace snapshot lease) Failure.etwIntentWriteFailed
  let intent ← attempt c.askLease Failure.etwIntentObserveFailed
  match ← always c.startMonitor with
  | .error error =>
    let cleanup ← outcome (c.removeExactLeaseIfSessionAbsent intent)
    throw (combineResults (.error (.networkAttribution error)) cleanup)
  | .ok traceHandle => c.activate intent lease traceHandle

/-- `ServiceEtwLifecycle::start` -/
def start (serviceInstanceId : Vector UInt8 16) : c.Action (Lifecycle c.platform) := do
  let acquired ← attempt c.askOwner Failure.etwOwnerUnavailable
  if !acquired then throw .etwOwnerContended
  else do
    let expected ← c.expectedEtwOwner
    let observed ← attempt c.askLease Failure.etwLeaseObserveFailed
    let snapshot ← c.recoverEtwStart expected observed
    c.bringUp expected snapshot serviceInstanceId

/-- `mark_stopping` -/
def markStopping (lifecycle : Lifecycle c.platform) : c.Action (Lifecycle c.platform) := do
  let lease := { lifecycle.lease with phase := .stopping }
  attempt (c.askReplace lifecycle.snapshot lease) Failure.etwStoppingWriteFailed
  let snapshot ← attempt c.askLease Failure.etwStoppingObserveFailed
  return { lifecycle with lease := lease, snapshot := snapshot }

/-- `remove_after_absence` -/
def removeAfterAbsence (snapshot : EtwLeaseSnapshot c.platform)
    (settlement : Option (Except String Unit)) : c.Action Unit :=
  match requireClean settlement with
  | .error error => throw (.networkAttribution error)
  | .ok () => do
    let session ← always c.observeSession
    if session≠.absent then throw .etwSessionNotAbsent
    else do
      let _ ← attempt (c.askRemove snapshot) Failure.etwLeaseRemoveFailed
      return ()

/-- `engine.shutdown()` with the settlement that it leaves. -/
def stopEngine (traceHandle : Nat) :
    c.Call (Except String Unit × Option (Except String Unit)) := do
  let shutdown ← c.askEngineStop
  if shutdown.collectorStopped then do
    let settled ← c.shutdownMonitor traceHandle
    return (shutdown.result,some settled)
  else return (shutdown.result,none)

/-- `shutdown_engine` -/
def shutdownEngine (lifecycle : Lifecycle c.platform) : c.Action Unit := do
  let stopping ← outcome (c.markStopping lifecycle)
  let (shutdown,settlement) ← always (c.stopEngine lifecycle.traceHandle)
  match stopping,shutdown with
  | .ok lifecycle,.ok () => c.removeAfterAbsence lifecycle.snapshot settlement
  | stopping,shutdown => throw (combineResults (stopping.map (fun _ => ()))
      (shutdown.mapError .collectorEngine))

/-- `finish_after_monitor_drop` -/
def finishAfterMonitorDrop (lifecycle : Lifecycle c.platform)
    (settlement : Option (Except String Unit)) : c.Action Unit := do
  let lifecycle ← c.markStopping lifecycle
  c.removeAfterAbsence lifecycle.snapshot settlement

/-- What `run_service_body` does between the start and the end. -/
def runStarted (lifecycle : Lifecycle c.platform) : c.Action Unit := do
  match ← always c.askEngine with
  | .error error =>
    let settled ← always (c.shutdownMonitor lifecycle.traceHandle)
    let finished ← outcome (c.finishAfterMonitorDrop lifecycle (some settled))
    throw (combineResults (.error (.collectorEngine error)) finished)
  | .ok () =>
    let transport ← always c.askServe
    let shutdown ← outcome (c.shutdownEngine lifecycle)
    match transport,shutdown with
    | .ok (),.ok () => return ()
    | transport,shutdown =>
      throw (combineResults (transport.mapError .transport) shutdown)

/-- `run_service_body`, as far as the session and its lease are concerned. -/
def runServiceBody (serviceInstanceId : Vector UInt8 16) : c.Action Unit := do
  let lifecycle ← c.start serviceInstanceId
  c.runStarted lifecycle

end Lifecycle
end Service
end BatCave.CollectorService.EtwLease
