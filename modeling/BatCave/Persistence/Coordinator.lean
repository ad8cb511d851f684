import BatCave.Contracts.Persistence
import BatCave.Lib.Text
import BatCave.Lib.Word

/-! The coordinator that runs every storage operation of the current user and keeps the
health of its three components. What the storage backend answers is an argument. -/
namespace BatCave.Persistence
open BatCave.Contracts BatCave.Lib.Text BatCave.Lib.Word

inductive UserStorageComponent where
  | settings | warmCache | diagnostics
  deriving DecidableEq, Repr

def UserStorageComponent.runtimeKind : UserStorageComponent → RuntimePersistenceKind
  | .settings => .settings
  | .warmCache => .warmCache
  | .diagnostics => .diagnostics

inductive PersistenceOperation where
  | resolveRoot | create | load | parse | migrate | serialize | write | sync | replace
  | rotate | remove | permissions
  deriving DecidableEq, Repr

inductive PersistenceFailureCode where
  | permissionDenied | readOnlyFilesystem | storageFull | corruptData | invalidPath | notFound
  | serializationFailed | migrationFailed | verificationUnavailable | ioFailure
  deriving DecidableEq, Repr

inductive PersistenceWriteEffect where
  | notCommitted | committedDurabilityUncertain
  deriving DecidableEq, Repr

structure PersistenceFailure where
  code : PersistenceFailureCode
  operation : PersistenceOperation
  path : Option String
  retryable : Bool
  writeEffect : PersistenceWriteEffect
  summary : String
  deriving DecidableEq, Repr

inductive PermissionVerification where
  | verifiedCurrentUser | unverified | invalid
  deriving DecidableEq, Repr

def failureCode : PersistenceFailureCode → String
  | .permissionDenied => "permission_denied"
  | .readOnlyFilesystem => "read_only_filesystem"
  | .storageFull => "storage_full"
  | .corruptData => "corrupt_data"
  | .invalidPath => "invalid_path"
  | .notFound => "not_found"
  | .serializationFailed => "serialization_failed"
  | .migrationFailed => "migration_failed"
  | .verificationUnavailable => "verification_unavailable"
  | .ioFailure => "io_failure"

def runtimeOperation : PersistenceOperation → RuntimePersistenceOperation
  | .resolveRoot => .resolveRoot
  | .create => .create
  | .load => .load
  | .parse => .parse
  | .migrate => .migrate
  | .serialize => .serialize
  | .write => .write
  | .sync => .sync
  | .replace => .replace
  | .rotate => .rotate
  | .remove => .remove
  | .permissions => .permissions

def runtimeFailure (failure : PersistenceFailure) (nowMs : Nat) : RuntimePersistenceFailure where
  code := failureCode failure.code
  operation := runtimeOperation failure.operation
  occurredAtMs := nowMs
  retryable := failure.retryable
  summary := failure.summary

/-- `diagnostic_failure_opens_breaker` -/
def opensBreaker (failure : PersistenceFailure) : Bool :=
  failure.operation∈[.create,.load,.write,.sync,.replace,.rotate,.remove,.permissions]

inductive DiagnosticWriteOutcome where
  | written | suppressed | failed (failure : PersistenceFailure)
  deriving DecidableEq, Repr

/-- What `UserStorageCoordinator` keeps: its root and the breaker of the diagnostics. -/
structure UserStorageCoordinator where
  directory : String
  activeFailure : Option PersistenceFailure := none
  suppressedEvents : Nat := 0
  deriving DecidableEq, Repr

namespace UserStorageCoordinator

/-- `ensure_root`: everything but a verified root is a failure. -/
def ensureRoot (storage : UserStorageCoordinator)
    (prepared : Except PersistenceFailure PermissionVerification) :
    Except PersistenceFailure Unit :=
  match prepared with
  | .error failure => .error failure
  | .ok .verifiedCurrentUser => .ok ()
  | .ok .invalid => .error
    { code := .permissionDenied, operation := .permissions, path := some storage.directory,
      retryable := true, writeEffect := .notCommitted,
      summary := "current-user data directory is not private" }
  | .ok .unverified => .error
    { code := .verificationUnavailable, operation := .permissions,
      path := some storage.directory, retryable := false, writeEffect := .notCommitted,
      summary := "current-user ownership and permissions are unverified" }

/-- `record_diagnostic`; `appended` is what rotating and appending came to. -/
def recordDiagnostic (storage : UserStorageCoordinator)
    (appended : Except PersistenceFailure Unit) :
    DiagnosticWriteOutcome × UserStorageCoordinator :=
  if storage.activeFailure.isSome then
    (.suppressed,{ storage with suppressedEvents := satAdd storage.suppressedEvents 1 })
  else
    match appended with
    | .ok _ => (.written,storage)
    | .error failure =>
      (.failed failure,
        if opensBreaker failure then { storage with activeFailure := some failure } else storage)

def retryDiagnostics (storage : UserStorageCoordinator) : UserStorageCoordinator :=
  { storage with activeFailure := none }

end UserStorageCoordinator

structure RuntimePersistenceCoordinator where
  storage : UserStorageCoordinator
  root : RuntimePersistenceRoot
  /-- The map always holds all three components. -/
  components : UserStorageComponent → RuntimePersistenceComponent
  rootFailure : Option PersistenceFailure := none
  componentsBeforeRootFailure : Option (UserStorageComponent → RuntimePersistenceComponent) :=
    none
  componentsAttemptedDuringRootFailure : UserStorageComponent → Bool := fun _ => false
  rootRevalidationEnabled : Bool := true
  rootFailureReportedToDiagnostics : Bool := false
  rootFailureSuppressedDiagnostics : Nat := 0

/-- What the backend answers in the course of one operation: to the check of the root, to
the operation itself, and to the check of the root after a failure. -/
structure Answers (α : Type) where
  root : Except PersistenceFailure PermissionVerification
  result : Except PersistenceFailure α
  recheck : Except PersistenceFailure PermissionVerification

namespace RuntimePersistenceCoordinator

def updateComponent (s : RuntimePersistenceCoordinator) (component : UserStorageComponent)
    (f : RuntimePersistenceComponent → RuntimePersistenceComponent) :
    RuntimePersistenceCoordinator :=
  { s with components := fun c => if c=component then f (s.components c) else s.components c }

/-- `components_attempted_during_root_failure.insert` -/
def attempt (s : RuntimePersistenceCoordinator) (component : UserStorageComponent) :
    RuntimePersistenceCoordinator :=
  { s with componentsAttemptedDuringRootFailure := fun c =>
      c=component || s.componentsAttemptedDuringRootFailure c }

def permissionStateOf (failure : PersistenceFailure) : RuntimePersistencePermissionState :=
  if failure.code=.verificationUnavailable then .unavailable else .invalid

def recordRootFailure (s : RuntimePersistenceCoordinator) (failure : PersistenceFailure)
    (nowMs : Nat) : RuntimePersistenceCoordinator :=
  let permissionState := permissionStateOf failure
  { s with
    componentsBeforeRootFailure :=
      if s.rootFailure.isNone then some s.components else s.componentsBeforeRootFailure
    rootFailureReportedToDiagnostics :=
      if s.rootFailure.isNone then false else s.rootFailureReportedToDiagnostics
    root := { s.root with
      permissionState := permissionState
      directory := if permissionState≠.unavailable then some s.storage.directory else none }
    rootFailure := some failure
    components := fun c => { s.components c with
      state := if permissionState=.unavailable then .unavailable else .degraded
      durability := .sessionOnly
      activeFailure := some (runtimeFailure failure nowMs) } }

def initialComponent (component : UserStorageComponent) : RuntimePersistenceComponent where
  owner := .currentUser
  kind := component.runtimeKind
  state := .healthy
  durability := .notApplicable
  lastSuccessAtMs := none
  activeFailure := none

/-- `RuntimePersistenceCoordinator::new` -/
def new (storage : UserStorageCoordinator)
    (prepared : Except PersistenceFailure PermissionVerification) (nowMs : Nat) :
    RuntimePersistenceCoordinator :=
  let coordinator : RuntimePersistenceCoordinator :=
    { storage := storage
      root := { owner := .currentUser, directory := some storage.directory,
                permissionState := .verified }
      components := initialComponent }
  match storage.ensureRoot prepared with
  | .ok _ => coordinator
  | .error failure => coordinator.recordRootFailure failure nowMs

/-- `RuntimePersistenceCoordinator::unavailable` -/
def unavailable (storage : UserStorageCoordinator) (failure : PersistenceFailure) (nowMs : Nat) :
    RuntimePersistenceCoordinator where
  storage := storage
  root := { owner := .currentUser, directory := none, permissionState := .unavailable }
  components := fun c => { initialComponent c with
    state := .unavailable
    durability := .sessionOnly
    activeFailure := some (runtimeFailure failure nowMs) }
  rootFailure := some failure
  rootRevalidationEnabled := false

/-- What a verified root brings back: the components from before the failure, those
attempted meanwhile degraded. -/
def recoverRoot (s : RuntimePersistenceCoordinator) (failure : PersistenceFailure) (nowMs : Nat) :
    RuntimePersistenceCoordinator :=
  let components := s.componentsBeforeRootFailure.getD s.components
  { s with
    rootFailure := none
    root := { s.root with
      permissionState := .verified
      directory := some s.storage.directory }
    rootFailureReportedToDiagnostics := false
    componentsBeforeRootFailure := none
    componentsAttemptedDuringRootFailure := fun _ => false
    components := fun c =>
      if s.componentsAttemptedDuringRootFailure c then
        { components c with
          state := .degraded
          durability := .sessionOnly
          activeFailure := some (runtimeFailure failure nowMs) }
      else components c }

/-- `revalidate_root`: the failure to return, if any, and the state it leaves. -/
def revalidateRoot (s : RuntimePersistenceCoordinator) (component : UserStorageComponent)
    (nowMs : Nat) (prepared : Except PersistenceFailure PermissionVerification) :
    Option PersistenceFailure × RuntimePersistenceCoordinator :=
  if s.rootRevalidationEnabled=false then (s.rootFailure,s.attempt component)
  else
    match s.storage.ensureRoot prepared with
    | .ok _ =>
      match s.rootFailure with
      | some failure => (none,s.recoverRoot failure nowMs)
      | none => (none,s)
    | .error failure => (some failure,(s.recordRootFailure failure nowMs).attempt component)

def recordSuccess (s : RuntimePersistenceCoordinator) (component : UserStorageComponent)
    (durability : RuntimePersistenceDurability) (lastSuccessAtMs : Option Nat) :
    RuntimePersistenceCoordinator :=
  s.updateComponent component (fun state => { state with
    state := .healthy
    durability := durability
    lastSuccessAtMs := lastSuccessAtMs.or state.lastSuccessAtMs
    activeFailure := none })

def recordFailure (s : RuntimePersistenceCoordinator) (component : UserStorageComponent)
    (failure : PersistenceFailure) (nowMs : Nat) : RuntimePersistenceCoordinator :=
  s.updateComponent component (fun state => { state with
    state := if s.root.permissionState=.unavailable then .unavailable else .degraded
    durability := .sessionOnly
    activeFailure := some (runtimeFailure failure nowMs) })

def recordOperationFailure (s : RuntimePersistenceCoordinator) (component : UserStorageComponent)
    (failure : PersistenceFailure) (nowMs : Nat)
    (recheck : Except PersistenceFailure PermissionVerification) :
    RuntimePersistenceCoordinator :=
  if failure.path=some s.storage.directory ∧
      (failure.operation=.create ∨ failure.operation=.permissions) then
    (s.recordRootFailure failure nowMs).attempt component
  else if s.rootRevalidationEnabled then
    match s.storage.ensureRoot recheck with
    | .error rootFailure => (s.recordRootFailure rootFailure nowMs).attempt component
    | .ok _ => s.recordFailure component failure nowMs
  else s.recordFailure component failure nowMs

/-- What loading, writing and removing share: a root check, the operation, its record. -/
def operate {α : Type} (s : RuntimePersistenceCoordinator) (component : UserStorageComponent)
    (nowMs : Nat) (answers : Answers α)
    (record : α → RuntimePersistenceCoordinator → RuntimePersistenceCoordinator) :
    Except PersistenceFailure α × RuntimePersistenceCoordinator :=
  match s.revalidateRoot component nowMs answers.root with
  | (some failure,s) => (.error failure,s)
  | (none,s) =>
    match answers.result with
    | .ok value => (.ok value,record value s)
    | .error failure =>
      (.error failure,s.recordOperationFailure component failure nowMs answers.recheck)

/-- `load_json`; the storage answers whether it found a value. -/
def loadJson (s : RuntimePersistenceCoordinator) (component : UserStorageComponent) (nowMs : Nat)
    (answers : Answers Bool) : Except PersistenceFailure Bool × RuntimePersistenceCoordinator :=
  s.operate component nowMs answers (fun found s =>
    s.recordSuccess component (if found then .durable else .notApplicable)
      (if found then some nowMs else none))

/-- `load_json_migrating` -/
def loadJsonMigrating (s : RuntimePersistenceCoordinator) (component : UserStorageComponent)
    (nowMs : Nat) (answers : Answers Bool) :
    Except PersistenceFailure Bool × RuntimePersistenceCoordinator :=
  s.operate component nowMs answers (fun found s =>
    s.recordSuccess component (if found then .durable else .notApplicable)
      (if found then some nowMs else none))

def writeJson (s : RuntimePersistenceCoordinator) (component : UserStorageComponent) (nowMs : Nat)
    (answers : Answers Unit) : Except PersistenceFailure Unit × RuntimePersistenceCoordinator :=
  s.operate component nowMs answers (fun _ s =>
    s.recordSuccess component .durable (some nowMs))

def remove (s : RuntimePersistenceCoordinator) (component : UserStorageComponent) (nowMs : Nat)
    (answers : Answers Bool) : Except PersistenceFailure Bool × RuntimePersistenceCoordinator :=
  s.operate component nowMs answers (fun _ s => s.recordSuccess component .notApplicable none)

def recordDiagnostic (s : RuntimePersistenceCoordinator) (nowMs : Nat) (answers : Answers Unit) :
    DiagnosticWriteOutcome × RuntimePersistenceCoordinator :=
  match s.revalidateRoot .diagnostics nowMs answers.root with
  | (some failure,s) =>
    if s.rootFailureReportedToDiagnostics then
      (.suppressed,{ s with
        rootFailureSuppressedDiagnostics := satAdd s.rootFailureSuppressedDiagnostics 1 })
    else (.failed failure,{ s with rootFailureReportedToDiagnostics := true })
  | (none,s) =>
    let (outcome,storage) := s.storage.recordDiagnostic answers.result
    let s := { s with storage := storage }
    match outcome with
    | .written => (outcome,s.recordSuccess .diagnostics .durable (some nowMs))
    | .suppressed => (outcome,s)
    | .failed failure =>
      (outcome,s.recordOperationFailure .diagnostics failure nowMs answers.recheck)

def retryDiagnostics (s : RuntimePersistenceCoordinator) : RuntimePersistenceCoordinator :=
  if s.rootFailure.isNone then { s with storage := s.storage.retryDiagnostics } else s

def stateRank : RuntimePersistenceState → Nat
  | .healthy => 0
  | .degraded => 1
  | .unavailable => 2

def worstState (left right : RuntimePersistenceState) : RuntimePersistenceState :=
  if stateRank left < stateRank right then right else left

def kindRank : RuntimePersistenceKind → Nat
  | .settings => 0
  | .warmCache => 1
  | .diagnostics => 2
  | .serviceState => 3

def rootState : RuntimePersistencePermissionState → RuntimePersistenceState
  | .verified => .healthy
  | .invalid => .degraded
  | .unavailable => .unavailable

/-- The fold of `health` over the components that store something. -/
def overallState (root : RuntimePersistenceState)
    (components : List RuntimePersistenceComponent) : RuntimePersistenceState :=
  (components.filter (fun component => component.durability≠.notApplicable)).foldl
    (fun state component => worstState state component.state) root

def health (s : RuntimePersistenceCoordinator) : RuntimePersistence :=
  let components := ([.settings,.warmCache,.diagnostics].map s.components).mergeSort
    (fun a b => kindRank a.kind ≤ kindRank b.kind)
  { state := overallState (rootState s.root.permissionState) components
    roots := [s.root]
    components := components
    suppressedDiagnosticEvents :=
      satAdd s.storage.suppressedEvents s.rootFailureSuppressedDiagnostics }

end RuntimePersistenceCoordinator
end BatCave.Persistence
