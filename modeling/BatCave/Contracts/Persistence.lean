import Mathlib.Algebra.Ring.Nat

/-! What the runtime reports about its own storage: the roots it found, and for every
component whether what it holds is on disk. -/
namespace BatCave.Contracts

inductive RuntimePersistenceState where
  | healthy | degraded | unavailable
  deriving DecidableEq, Repr

inductive RuntimePersistenceOwner where
  | currentUser | collectorService
  deriving DecidableEq, Repr

inductive RuntimePersistencePermissionState where
  | verified | invalid | unavailable
  deriving DecidableEq, Repr

structure RuntimePersistenceRoot where
  owner : RuntimePersistenceOwner
  directory : Option String
  permissionState : RuntimePersistencePermissionState
  deriving DecidableEq, Repr

inductive RuntimePersistenceKind where
  | settings | warmCache | diagnostics | serviceState
  deriving DecidableEq, Repr

inductive RuntimePersistenceDurability where
  | durable | notWritten | sessionOnly | notApplicable
  deriving DecidableEq, Repr

inductive RuntimePersistenceOperation where
  | resolveRoot | create | load | parse | migrate | serialize | write | sync | replace
  | rotate | remove | permissions
  deriving DecidableEq, Repr

structure RuntimePersistenceFailure where
  code : String
  operation : RuntimePersistenceOperation
  occurredAtMs : Nat
  retryable : Bool
  summary : String
  deriving DecidableEq, Repr

structure RuntimePersistenceComponent where
  owner : RuntimePersistenceOwner
  kind : RuntimePersistenceKind
  state : RuntimePersistenceState
  durability : RuntimePersistenceDurability
  lastSuccessAtMs : Option Nat
  activeFailure : Option RuntimePersistenceFailure
  deriving DecidableEq, Repr

structure RuntimePersistence where
  state : RuntimePersistenceState
  roots : List RuntimePersistenceRoot
  components : List RuntimePersistenceComponent
  suppressedDiagnosticEvents : Nat
  deriving DecidableEq, Repr

end BatCave.Contracts
