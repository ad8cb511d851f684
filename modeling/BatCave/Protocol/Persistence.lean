import BatCave.Contracts.Persistence
import BatCave.Lib.Text

/-! The persistence section of the protocol: how it is encoded, and what a reader of the
envelope accepts. -/
namespace BatCave.Protocol
open BatCave.Contracts BatCave.Lib.Text

def jsMaxSafeInteger : Nat := 9007199254740991

inductive RuntimePersistenceStateV4 where
  | healthy | degraded | unavailable
  deriving DecidableEq, Repr

inductive RuntimePersistenceOwnerV4 where
  | currentUser | collectorService
  deriving DecidableEq, Repr

inductive RuntimePersistencePermissionStateV4 where
  | verified | invalid | unavailable
  deriving DecidableEq, Repr

structure RuntimePersistenceRootV4 where
  owner : RuntimePersistenceOwnerV4
  directory : Option String
  permissionState : RuntimePersistencePermissionStateV4
  deriving DecidableEq, Repr

inductive RuntimePersistenceKindV4 where
  | settings | warmCache | diagnostics | serviceState
  deriving DecidableEq, Repr

inductive RuntimePersistenceDurabilityV4 where
  | durable | notWritten | sessionOnly | notApplicable
  deriving DecidableEq, Repr

inductive RuntimePersistenceOperationV4 where
  | resolveRoot | create | load | parse | migrate | serialize | write | sync | replace
  | rotate | remove | permissions
  deriving DecidableEq, Repr

structure RuntimePersistenceFailureV4 where
  code : String
  operation : RuntimePersistenceOperationV4
  occurredAtMs : Nat
  retryable : Bool
  summary : String
  deriving DecidableEq, Repr

structure RuntimePersistenceComponentV4 where
  owner : RuntimePersistenceOwnerV4
  kind : RuntimePersistenceKindV4
  state : RuntimePersistenceStateV4
  durability : RuntimePersistenceDurabilityV4
  lastSuccessAtMs : Option Nat
  activeFailure : Option RuntimePersistenceFailureV4
  deriving DecidableEq, Repr

structure RuntimePersistenceV4 where
  state : RuntimePersistenceStateV4
  roots : List RuntimePersistenceRootV4
  components : List RuntimePersistenceComponentV4
  suppressedDiagnosticEvents : Nat
  deriving DecidableEq, Repr

def persistenceState : RuntimePersistenceState → RuntimePersistenceStateV4
  | .healthy => .healthy
  | .degraded => .degraded
  | .unavailable => .unavailable

def persistenceOwner : RuntimePersistenceOwner → RuntimePersistenceOwnerV4
  | .currentUser => .currentUser
  | .collectorService => .collectorService

def persistencePermissionState :
    RuntimePersistencePermissionState → RuntimePersistencePermissionStateV4
  | .verified => .verified
  | .invalid => .invalid
  | .unavailable => .unavailable

def persistenceKind : RuntimePersistenceKind → RuntimePersistenceKindV4
  | .settings => .settings
  | .warmCache => .warmCache
  | .diagnostics => .diagnostics
  | .serviceState => .serviceState

def persistenceDurability : RuntimePersistenceDurability → RuntimePersistenceDurabilityV4
  | .durable => .durable
  | .notWritten => .notWritten
  | .sessionOnly => .sessionOnly
  | .notApplicable => .notApplicable

def persistenceOperation : RuntimePersistenceOperation → RuntimePersistenceOperationV4
  | .resolveRoot => .resolveRoot
  | .create => .create
  | .load => .load
  | .parse => .parse
  | .migrate => .migrate
  | .serialize => .serialize
  | .write => .write
  | .sync => .sync
  | .replace => .replace
  | .rotate => .rotate
  | .remove => .remove
  | .permissions => .permissions

def encodePersistenceRoot (root : RuntimePersistenceRoot) : RuntimePersistenceRootV4 where
  owner := persistenceOwner root.owner
  directory := root.directory
  permissionState := persistencePermissionState root.permissionState

def encodePersistenceFailure (failure : RuntimePersistenceFailure) :
    RuntimePersistenceFailureV4 where
  code := failure.code
  operation := persistenceOperation failure.operation
  occurredAtMs := failure.occurredAtMs
  retryable := failure.retryable
  summary := failure.summary

def encodePersistenceComponent (component : RuntimePersistenceComponent) :
    RuntimePersistenceComponentV4 where
  owner := persistenceOwner component.owner
  kind := persistenceKind component.kind
  state := persistenceState component.state
  durability := persistenceDurability component.durability
  lastSuccessAtMs := component.lastSuccessAtMs
  activeFailure := component.activeFailure.map encodePersistenceFailure

/-- `encode_persistence` -/
def encodePersistence (persistence : RuntimePersistence) : RuntimePersistenceV4 where
  state := persistenceState persistence.state
  roots := persistence.roots.map encodePersistenceRoot
  components := persistence.components.map encodePersistenceComponent
  suppressedDiagnosticEvents := persistence.suppressedDiagnosticEvents

def RuntimePersistenceStateV4.rank : RuntimePersistenceStateV4 → Nat
  | .healthy => 0
  | .degraded => 1
  | .unavailable => 2

/-- `record_persistence_state` -/
def recordPersistenceState (worst : Option RuntimePersistenceStateV4)
    (candidate : RuntimePersistenceStateV4) : Option RuntimePersistenceStateV4 :=
  match worst with
  | none => some candidate
  | some current => if current.rank < candidate.rank then some candidate else some current

def RuntimePersistencePermissionStateV4.state :
    RuntimePersistencePermissionStateV4 → RuntimePersistenceStateV4
  | .verified => .healthy
  | .invalid => .degraded
  | .unavailable => .unavailable

/-- The root has a directory exactly as its permission state asks for. -/
def rootStateInvalid (root : RuntimePersistenceRootV4) : Bool :=
  match root.permissionState with
  | .verified => root.directory.all (fun directory => trim directory=="")
  | .unavailable => root.directory.isSome
  | .invalid => false

/-- The loop over the roots: the owners seen and the worst state. -/
def validatePersistenceRoots (owners : List RuntimePersistenceOwnerV4)
    (worst : Option RuntimePersistenceStateV4) : List RuntimePersistenceRootV4 →
      Except String (List RuntimePersistenceOwnerV4 × Option RuntimePersistenceStateV4)
  | [] => .ok (owners,worst)
  | root::roots =>
    if root.owner∈owners then .error "protocol_persistence_root_duplicate"
    else if rootStateInvalid root then .error "protocol_persistence_root_state_invalid"
    else validatePersistenceRoots (root.owner::owners)
      (recordPersistenceState worst root.permissionState.state) roots

def RuntimePersistenceComponentV4.requiresFailure (component : RuntimePersistenceComponentV4) :
    Bool :=
  component.state==.degraded || component.state==.unavailable

def failureInvalid (failure : RuntimePersistenceFailureV4) (evaluatedAtMs : Nat) : Bool :=
  jsMaxSafeInteger < failure.occurredAtMs || evaluatedAtMs < failure.occurredAtMs ||
    trim failure.code=="" || trim failure.summary==""

/-- What the component loop checks of one component alone. -/
def validatePersistenceComponent (component : RuntimePersistenceComponentV4)
    (evaluatedAtMs : Nat) : Except String Unit :=
  if component.lastSuccessAtMs.any
      (fun value => jsMaxSafeInteger < value || evaluatedAtMs < value) then
    .error "protocol_persistence_timestamp_invalid"
  else if component.requiresFailure≠component.activeFailure.isSome then
    .error "protocol_persistence_failure_state_invalid"
  else if component.state=.healthy ∧ component.durability=.notWritten then
    .error "protocol_persistence_durability_state_invalid"
  else if component.durability=.notApplicable ∧
      (component.lastSuccessAtMs.isSome ∨ component.activeFailure.isSome) then
    .error "protocol_persistence_not_applicable_invalid"
  else if component.activeFailure.any (fun failure => failureInvalid failure evaluatedAtMs) then
    .error "protocol_persistence_failure_invalid"
  else .ok ()

def recordComponentState (worst : Option RuntimePersistenceStateV4)
    (component : RuntimePersistenceComponentV4) : Option RuntimePersistenceStateV4 :=
  if component.durability=.notApplicable then worst
  else recordPersistenceState worst component.state

def validatePersistenceComponents (owners : List RuntimePersistenceOwnerV4) (evaluatedAtMs : Nat)
    (keys : List (RuntimePersistenceOwnerV4 × RuntimePersistenceKindV4))
    (worst : Option RuntimePersistenceStateV4) : List RuntimePersistenceComponentV4 →
      Except String (Option RuntimePersistenceStateV4)
  | [] => .ok worst
  | component::components =>
    if component.owner∉owners then .error "protocol_persistence_component_root_missing"
    else if (component.owner,component.kind)∈keys then
      .error "protocol_persistence_component_duplicate"
    else
      match validatePersistenceComponent component evaluatedAtMs with
      | .error error => .error error
      | .ok _ => validatePersistenceComponents owners evaluatedAtMs
          ((component.owner,component.kind)::keys) (recordComponentState worst component) components

/-- `validate_persistence` -/
def validatePersistence (persistence : Option RuntimePersistenceV4) (evaluatedAtMs : Nat) :
    Except String Unit :=
  match persistence with
  | none => .ok ()
  | some persistence =>
    if jsMaxSafeInteger < persistence.suppressedDiagnosticEvents then
      .error "protocol_persistence_counter_invalid"
    else
      match validatePersistenceRoots [] none persistence.roots with
      | .error error => .error error
      | .ok (owners,worst) =>
        match validatePersistenceComponents owners evaluatedAtMs [] worst
            persistence.components with
        | .error error => .error error
        | .ok worst =>
          if persistence.state≠.unavailable ∧
              (persistence.roots=[] ∨ persistence.components=[]) then
            .error "protocol_persistence_nonempty_state_invalid"
          else if persistence.state≠worst.getD .unavailable then
            .error "protocol_persistence_overall_state_invalid"
          else .ok ()

section Acceptance
variable {owners : List RuntimePersistenceOwnerV4} {evaluatedAtMs : Nat}

/-- The component loop goes through when every component passes on its own, belongs to a
root seen and is not a second of its kind. -/
theorem validatePersistenceComponents_ok (components : List RuntimePersistenceComponentV4)
    (keys : List (RuntimePersistenceOwnerV4 × RuntimePersistenceKindV4))
    (worst : Option RuntimePersistenceStateV4)
    (howner : ∀ component∈components, component.owner∈owners)
    (hnodup : (components.map (fun component => (component.owner,component.kind))).Nodup)
    (hfresh : ∀ component∈components, (component.owner,component.kind)∉keys)
    (hok : ∀ component∈components, validatePersistenceComponent component evaluatedAtMs=.ok ()) :
    validatePersistenceComponents owners evaluatedAtMs keys worst components=
      .ok (components.foldl recordComponentState worst) := by
  induction components generalizing keys worst with
  | nil => rfl
  | cons component components ih =>
    rw [List.map_cons,List.nodup_cons] at hnodup
    have hhead := hok component List.mem_cons_self
    have hkey := hfresh component List.mem_cons_self
    have hown := howner component List.mem_cons_self
    simp only [validatePersistenceComponents,hown,not_true_eq_false,if_false,hkey,hhead,
      List.foldl_cons]
    refine ih _ _ (fun c hc => howner c (List.mem_cons_of_mem _ hc)) hnodup.2 ?_
      (fun c hc => hok c (List.mem_cons_of_mem _ hc))
    intro c hc hmem
    rw [List.mem_cons] at hmem
    cases hmem with
    | inl heq => exact hnodup.1 (List.mem_map.mpr ⟨c,hc,heq⟩)
    | inr hold => exact hfresh c (List.mem_cons_of_mem _ hc) hold

/-- One root, components of its owner that each pass, and the state that the loops find. -/
theorem validatePersistence_ok {persistence : RuntimePersistenceV4}
    {root : RuntimePersistenceRootV4} (hroots : persistence.roots=[root])
    (hcount : persistence.suppressedDiagnosticEvents ≤ jsMaxSafeInteger)
    (hroot : rootStateInvalid root=false) (hne : persistence.components≠[])
    (howner : ∀ component∈persistence.components, component.owner=root.owner)
    (hnodup : (persistence.components.map
      (fun component => (component.owner,component.kind))).Nodup)
    (hok : ∀ component∈persistence.components,
      validatePersistenceComponent component evaluatedAtMs=.ok ())
    (hstate : persistence.components.foldl recordComponentState
      (some root.permissionState.state)=some persistence.state) :
    validatePersistence (some persistence) evaluatedAtMs=.ok () := by
  have hloop : validatePersistenceRoots [] none persistence.roots=
      .ok ([root.owner],some root.permissionState.state) := by
    simp [hroots,validatePersistenceRoots,hroot,recordPersistenceState]
  have hcomponents : validatePersistenceComponents [root.owner] evaluatedAtMs []
      (some root.permissionState.state) persistence.components=.ok (some persistence.state) := by
    rw [← hstate]
    exact validatePersistenceComponents_ok persistence.components [] _
      (fun c hc => by simp [howner c hc]) hnodup (fun c _ => by simp) hok
  simp only [validatePersistence,hloop,hcomponents,Nat.not_lt.mpr hcount,if_false]
  simp [hroots,hne]

/-- The rank that the loops record is the largest seen. -/
theorem recordPersistenceState_rank (current candidate : RuntimePersistenceStateV4) :
    ∃ next, recordPersistenceState (some current) candidate=some next ∧
      next.rank=max current.rank candidate.rank := by
  simp only [recordPersistenceState]
  split
  · exact ⟨candidate,rfl,by omega⟩
  · exact ⟨current,rfl,by omega⟩

theorem rank_inj {a b : RuntimePersistenceStateV4} (h : a.rank=b.rank) : a=b := by
  cases a <;> cases b <;> first | rfl | cases h

end Acceptance
end BatCave.Protocol
