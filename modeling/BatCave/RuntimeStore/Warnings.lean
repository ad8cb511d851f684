import BatCave.Persistence.Coordinator
import BatCave.Protocol.Persistence

/-! The warnings of the runtime store: what pushes, replaces and clears them, from the
construction of the store on. The store is cut down to what decides its warnings; what the
clock, the storage and the legacy-helper migration answer are lists that each use takes
one entry off. -/
namespace BatCave.RuntimeStore.Warnings
open BatCave.Persistence BatCave.Lib.Text BatCave.Lib.Word

structure RuntimeWarning where
  key : String
  publicationSeq : Nat
  occurredAtMs : Nat
  category : String
  message : String
  deriving DecidableEq, Repr

def maxWarnings : Nat := 16

/-- `str::trim_end_matches`, on the reversed text. -/
def dropAll (pattern : List Char) : List Char → Nat → List Char
  | text,0 => text
  | text,fuel+1 =>
    if pattern.isPrefixOf text then dropAll pattern (text.drop pattern.length) fuel else text

def trimEndMatches (pattern : String) (text : List Char) : List Char :=
  (dropAll pattern.toList.reverse text.reverse text.length).reverse

/-- The first piece of `split([':', ';', ' '])`. -/
def firstPiece (message : String) : List Char :=
  message.toList.takeWhile (fun c => !(c== ':' || c== ';' || c== ' '))

def warningKey (category message : String) : String :=
  if category="admin_mode" then "admin_mode"
  else if category="persistence" ∧
      "legacy_helper_migration_".toList.isPrefixOf message.toList then
    "persistence.legacy_helper_migration"
  else
    let piece := firstPiece message
    let code := if piece=[] then "unknown".toList else piece
    category++"."++String.ofList (trimEndMatches "_failed" code)

/-- `push_warning`: the oldest warnings leave first. -/
def pushWarning (warnings : List RuntimeWarning) (publicationSeq occurredAtMs : Nat)
    (category message : String) : List RuntimeWarning :=
  let pushed := warnings++[{ key := warningKey category message
                             publicationSeq := publicationSeq
                             occurredAtMs := occurredAtMs
                             category := category
                             message := message }]
  pushed.drop (pushed.length-maxWarnings)

def operationName : PersistenceOperation → String
  | .resolveRoot => "resolve_root"
  | .create => "create"
  | .load => "load"
  | .parse => "parse"
  | .migrate => "migrate"
  | .serialize => "serialize"
  | .write => "write"
  | .sync => "sync"
  | .replace => "replace"
  | .rotate => "rotate"
  | .remove => "remove"
  | .permissions => "permissions"

/-- `RuntimePersistenceCoordinator::failure_message` -/
def failureMessage (failure : PersistenceFailure) : String :=
  "persistence_"++failureCode failure.code++" operation="++operationName failure.operation++
    (failure.path.elim "" (fun path => " path="++path))++" error="++failure.summary

/-- What a try at the legacy-helper migration comes to; `idle` when it does not run or has
not answered yet. -/
inductive LegacyAnswer where
  | idle | done | failed (error : String)

/-- What is published of the warnings. -/
structure PublishedWarnings where
  publicationSeq : Nat
  publishedAtMs : Nat
  sampledAtMs : Option Nat := none
  warnings : List RuntimeWarning

/-- What the outside answers in the course of one operation. -/
structure World where
  ticks : List Nat := []
  diagnostics : List DiagnosticWriteOutcome := []
  writes : List (Option PersistenceFailure) := []
  healthy : List Bool := []
  legacy : List LegacyAnswer := []

structure Store where
  clock : Nat
  publicationSeq : Nat
  sampleSeq : Nat := 0
  sampledAtMs : Option Nat := none
  warnings : List RuntimeWarning
  snapshot : PublishedWarnings
  /-- The snapshot that readers get. -/
  published : PublishedWarnings
  world : World := {}
  windows : Bool
  elevated : Bool
  /-- Whether a collector service was reported, and as active. -/
  collectorService : Option Bool := none
  adminActive : Bool := false
  settingsRewriteBlocked : Bool := false
  legacyPending : Bool
  background : Bool := false
  persistenceFlushed : Bool := false

namespace Store

/-- `clock.now_ms()`: time passes before it is read. -/
def now (s : Store) : Nat × Store :=
  match s.world.ticks with
  | [] => (s.clock,s)
  | tick::ticks =>
    (s.clock+tick,{ s with clock := s.clock+tick, world := { s.world with ticks := ticks } })

def recordDiagnostic (s : Store) : DiagnosticWriteOutcome × Store :=
  match s.world.diagnostics with
  | [] => (.suppressed,s)
  | outcome::diagnostics =>
    (outcome,{ s with world := { s.world with diagnostics := diagnostics } })

/-- The result of a write or a removal: the failure, if any. -/
def write (s : Store) : Option PersistenceFailure × Store :=
  match s.world.writes with
  | [] => (none,s)
  | outcome::writes => (outcome,{ s with world := { s.world with writes := writes } })

def isHealthy (s : Store) : Bool × Store :=
  match s.world.healthy with
  | [] => (true,s)
  | healthy::rest => (healthy,{ s with world := { s.world with healthy := rest } })

def legacyAnswer (s : Store) : LegacyAnswer × Store :=
  match s.world.legacy with
  | [] => (.idle,s)
  | answer::legacy => (answer,{ s with world := { s.world with legacy := legacy } })

def upsertWarning (s : Store) (category message : String) : Bool × Store :=
  let key := warningKey category message
  if s.warnings.any (fun warning => warning.key==key && warning.message==message) then (false,s)
  else
    let (occurredAtMs,s) := s.now
    let kept := s.warnings.eraseP (fun warning => warning.key==key)
    (true,{ s with
      warnings := pushWarning kept s.publicationSeq occurredAtMs category message })

/-- `append_diagnostic`: both clock readings only go into the event. -/
def appendDiagnostic (s : Store) : Store :=
  let s := s.now.2.now.2
  match s.recordDiagnostic with
  | (.failed failure,s) => (s.upsertWarning "persistence" (failureMessage failure)).2
  | (_,s) => s

def addWarning (s : Store) (category message : String) : Store :=
  match s.upsertWarning category message with
  | (true,s) => s.appendDiagnostic
  | (false,s) => s

def clearWarning (s : Store) (key : String) : Store :=
  if s.warnings.any (fun warning => warning.key==key) then
    { s with warnings := s.warnings.eraseP (fun warning => warning.key==key) }.appendDiagnostic
  else s

def desktopElevatedMessage : String :=
  "collector_service_desktop_elevated: The installed collector service accepts standard-token desktop connections. Open BatCave normally to use service-backed process-network metrics; administrator approval is required for installation, not each launch."

def syncCollectorWarnings (s : Store) (messages : List String) : Store :=
  let messages := if s.windows ∧ s.elevated ∧ s.collectorService≠some true then
    messages++[desktopElevatedMessage] else messages
  let active := messages.map (warningKey "collector")
  let stale := (s.warnings.filter (fun warning =>
    warning.category=="collector" && !active.contains warning.key)).map RuntimeWarning.key
  messages.foldl (fun s message => s.addWarning "collector" message) (stale.foldl clearWarning s)

def isLegacyMessage (message : String) : Bool :=
  "legacy_helper_migration_".toList.isPrefixOf message.toList

/-- `retry_legacy_helper_migration`, on Windows. -/
def retryLegacyHelperMigration (s : Store) : Store :=
  if s.windows && s.legacyPending then
    match s.legacyAnswer with
    | (.idle,s) => s
    | (.done,s) =>
      let s := { s with legacyPending := false }
      ((s.warnings.filter (fun warning => warning.category=="persistence" &&
        isLegacyMessage warning.message)).map RuntimeWarning.key).foldl clearWarning s
    | (.failed error,s) => s.addWarning "persistence" error
  else s

def clearPersistenceWarningsIfHealthy (s : Store) : Store :=
  match s.isHealthy with
  | (false,s) => s
  | (true,s) =>
    match s.retryLegacyHelperMigration.isHealthy with
    | (false,s) => s
    | (true,s) =>
      ((s.warnings.filter (fun warning => warning.category=="persistence" &&
        !isLegacyMessage warning.message)).map RuntimeWarning.key).foldl clearWarning s

/-- What `persist_settings`, `persist_warm_cache` and `purge_warm_cache` do with the result
of their write. -/
def afterWrite (s : Store) (succeeded : Store → Store) : Store :=
  match s.now.2.write with
  | (none,s) => (succeeded s).clearPersistenceWarningsIfHealthy
  | (some failure,s) => s.addWarning "persistence" (failureMessage failure)

def persistSettings (s : Store) (userMutation : Bool) : Store :=
  let s := if userMutation then { s with settingsRewriteBlocked := false } else s
  if !userMutation && s.settingsRewriteBlocked then s
  else s.afterWrite (fun s =>
    -- The diagnostic of an inline write is not looked at.
    if s.background then s else s.now.2.now.2.recordDiagnostic.2)

def warmCacheIsRestricted (s : Store) : Bool := s.adminActive || s.elevated

def persistWarmCache (s : Store) : Store :=
  if s.warmCacheIsRestricted then s else s.afterWrite id

def purgeWarmCache (s : Store) : Store := s.afterWrite id

/-- `build_snapshot` as far as the warnings go. -/
def buildSnapshot (s : Store) : Store :=
  let (publishedAtMs,s) := s.now
  { s with snapshot :=
    { publicationSeq := s.publicationSeq
      publishedAtMs := publishedAtMs
      sampledAtMs := s.sampledAtMs
      warnings := s.warnings } }

def nextPublication (s : Store) : Store := { s with publicationSeq := satAdd s.publicationSeq 1 }

/-- `publish_snapshot_only`; the health is built with a clock reading of its own. -/
def publishSnapshotOnly (s : Store) (warning : Option (String × String)) : Store :=
  let s := s.nextPublication
  let s := warning.elim s (fun w => s.addWarning w.1 w.2)
  s.now.2.buildSnapshot

/-- `apply_collector_service_status`; the status says whether the service is active. -/
def applyCollectorServiceStatus (s : Store) (status : Option Bool) : Store :=
  match status with
  | none => s
  | some active => { s with adminActive := active, collectorService := some active }

def warmCacheWriteIntervalTicks : Nat := 60

/-- `apply_raw_sample` as far as the warnings go. -/
def applyRawSample (s : Store) (status : Option Bool) (sourceUnchanged : Bool)
    (warnings : List String) (completedAtMs : Nat) : Store :=
  let s := s.applyCollectorServiceStatus status
  if sourceUnchanged then (s.syncCollectorWarnings warnings).publishSnapshotOnly none
  else
    let s := (s.syncCollectorWarnings warnings).nextPublication
    let s := { s with sampleSeq := satAdd s.sampleSeq 1, sampledAtMs := some completedAtMs }
    let s := if s.sampleSeq%warmCacheWriteIntervalTicks=0 then s.persistWarmCache else s
    s.now.2.buildSnapshot

/-- `publish_store` -/
def publishStore (s : Store) : Store := { s with published := s.snapshot }

/-- `publish_fatal_from_latest`: the warnings are those last published. -/
def publishFatalFromLatest (s : Store) : Store :=
  let (occurredAtMs,s) := s.now
  { s with published := { s.published with
      publicationSeq := satAdd s.published.publicationSeq 1
      publishedAtMs := max occurredAtMs (s.published.sampledAtMs.getD 0) } }

def shutdownOwnedResources (s : Store) : Store :=
  if s.persistenceFlushed then s
  else
    let s := { s with persistenceFlushed := true }.persistSettings false
    if s.warmCacheIsRestricted then s.purgeWarmCache else s.persistWarmCache

end Store

/-- The operations of a store; `startWriter` hands the storage to its writer. -/
inductive Operation where
  | setPaused
  | setQuery (userMutation : Bool)
  | setSampleInterval
  | setUiPreferences
  | publish
  | applyRawSample (status : Option Bool) (sourceUnchanged : Bool) (warnings : List String)
      (completedAtMs : Nat)
  | publishCollectorUnavailable (error : String)
  | markEngineFatal (message : String)
  | refreshSnapshotHealth
  | shutdownOwnedResources
  | startWriter
  | publishStore
  | publishFatalFromLatest
  deriving DecidableEq, Repr

def Operation.run (operation : Operation) (s : Store) : Store :=
  match operation with
  | .setPaused => (s.persistSettings true).publishSnapshotOnly none
  | .setQuery userMutation =>
    (if userMutation then s.persistSettings true else s).publishSnapshotOnly none
  | .setSampleInterval => (s.persistSettings true).publishSnapshotOnly none
  | .setUiPreferences => (s.persistSettings true).publishSnapshotOnly none
  | .publish => s.publishSnapshotOnly none
  | .applyRawSample status sourceUnchanged warnings completedAtMs =>
    s.applyRawSample status sourceUnchanged warnings completedAtMs
  | .publishCollectorUnavailable error => s.publishSnapshotOnly (some ("collector",error))
  | .markEngineFatal message => s.now.2.publishSnapshotOnly (some ("collector",message))
  | .refreshSnapshotHealth => s.retryLegacyHelperMigration
  | .shutdownOwnedResources => s.shutdownOwnedResources
  | .startWriter => { s with background := true }
  | .publishStore => s.publishStore
  | .publishFatalFromLatest => s.publishFatalFromLatest

/-- How loading the settings at startup ends. -/
inductive SettingsLoad where
  | loaded (migrated : Bool)
  | missing (written : Option PersistenceFailure)
  | failed (failure : PersistenceFailure)

/-- What a startup meets: the privilege warning, the settings, the legacy-helper migration
(on Windows), the warm cache with its sequence number. -/
structure Startup where
  windows : Bool
  elevated : Bool
  clock : Nat
  world : World
  privilegeWarning : Option String
  settings : SettingsLoad
  legacy : Except String Unit
  warmCache : Except PersistenceFailure (Option Nat)

/-- `push_startup_warning`: a failed diagnostic is pushed too, unless its text is there. -/
def pushStartupWarning (s : Store) (category message : String) : Store :=
  let (occurredAtMs,s) := s.now
  let s := { s with warnings := pushWarning s.warnings 0 occurredAtMs category message }
  match s.recordDiagnostic with
  | (.failed failure,s) =>
    let message := failureMessage failure
    if s.warnings.any (fun warning => warning.message==message) then s
    else { s with warnings := pushWarning s.warnings 0 occurredAtMs "persistence" message }
  | (_,s) => s

def pushStartupPersistenceFailure (s : Store) (failure : PersistenceFailure) : Store :=
  pushStartupWarning s "persistence" (failureMessage failure)

def startupSettings (s : Store) : SettingsLoad → Store
  | .loaded false => s
  | .loaded true =>
    match s.now.2.now.2.recordDiagnostic with
    | (.failed failure,s) => pushStartupPersistenceFailure s failure
    | (_,s) => s
  | .missing none => s.now.2
  | .missing (some failure) => pushStartupPersistenceFailure s.now.2 failure
  | .failed failure =>
    { pushStartupPersistenceFailure s failure with settingsRewriteBlocked := true }

/-- Only Windows has a legacy helper to migrate. -/
def startupLegacy (windows : Bool) (legacy : Except String Unit) (s : Store) : Store :=
  match windows,legacy with
  | true,.ok _ => { s.now.2 with legacyPending := false }
  | true,.error error => pushStartupWarning s.now.2 "persistence" error
  | false,_ => s

def startupWarmCache (s : Store) : Except PersistenceFailure (Option Nat) → Store
  | .ok seq => { s with publicationSeq := seq.getD 0 }
  | .error failure => pushStartupPersistenceFailure s failure

/-- `from_base_dir_with_persistence_and_provenance` up to the first snapshot. -/
def Startup.unpublished (startup : Startup) : Store :=
  let s : Store :=
    { clock := startup.clock
      publicationSeq := 0
      warnings := []
      snapshot := { publicationSeq := 0, publishedAtMs := 0, warnings := [] }
      published := { publicationSeq := 0, publishedAtMs := 0, warnings := [] }
      world := startup.world
      windows := startup.windows
      elevated := startup.elevated
      legacyPending := startup.windows }
  let s := startup.privilegeWarning.elim s (pushStartupWarning s "admin_mode")
  let s := startupSettings s.now.2 startup.settings
  let s := startupLegacy startup.windows startup.legacy s
  startupWarmCache s.now.2 startup.warmCache

/-- `from_base_dir_with_persistence_and_provenance` as far as the warnings go. -/
def Startup.store (startup : Startup) : Store := startup.unpublished.buildSnapshot.publishStore

/-- `validate_warnings` -/
def validateWarnings (payload : PublishedWarnings) : Except String Unit :=
  go [] payload.warnings
where
  go (keys : List String) : List RuntimeWarning → Except String Unit
    | [] => .ok ()
    | warning::warnings =>
      if warning.publicationSeq>BatCave.Protocol.jsMaxSafeInteger ∨
          warning.occurredAtMs>BatCave.Protocol.jsMaxSafeInteger ∨
          warning.publicationSeq>payload.publicationSeq ∨
          warning.occurredAtMs>payload.publishedAtMs ∨ trim warning.key="" ∨
          trim warning.category="" ∨ trim warning.message="" ∨ warning.key∈keys then
        .error "protocol_warning_invalid"
      else go (warning.key::keys) warnings

end BatCave.RuntimeStore.Warnings
