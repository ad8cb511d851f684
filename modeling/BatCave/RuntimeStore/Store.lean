import BatCave.RuntimeStore.Health
import BatCave.RuntimeStore.Rates

/-! The runtime store: the last sample, the views cached for it, and every operation that
publishes. The warnings that an operation leaves and the storage's own health are answers
from outside here; the charts' history of machine totals is left out. -/
namespace BatCave.RuntimeStore
open BatCave.Contracts BatCave.ProcessView BatCave.Lib BatCave.Lib.Word BatCave.Lib.Text
open BatCave.RuntimeStore.Warnings (RuntimeWarning)
open BatCave.WorkloadIdentity (BatCaveWorkloadContext)

structure TelemetrySampleProvenance where
  sourceInstanceId : String
  sourceSampleSeq : Nat
  sampledAtMs : Nat
  deriving DecidableEq

structure TelemetrySample where
  latencyMs : Nat
  collectorState : RuntimeCollectorState
  system : SystemMetricsSnapshot
  processes : List ProcessSample
  warnings : List String
  collectorService : Option RuntimeCollectorServiceStatus
  sourceProvenance : Option TelemetrySampleProvenance
  batcaveWorkload : Option BatCaveWorkloadContext
  standardFallbackProcessEtwDisabled : Bool

/-- What the process knows of itself when it starts. -/
structure RuntimeProvenance where
  environment : RuntimeEnvironment
  adminModeStatus : RuntimeAdminModeStatus

/-- What the outside answers while an operation publishes: the clock when telemetry is held,
when the health is built and when the snapshot is, the warnings that are left, the storage,
the own process and the latency windows. -/
structure Answers where
  heldAtMs : Nat
  healthAtMs : Nat
  publishedAtMs : Nat
  warnings : List RuntimeWarning
  persistence : RuntimePersistence
  appPid : String
  collectionLatencyMs : Float
  tickP95Ms : Float
  sortP95Ms : Float
  publicationP95Ms : Float

structure Store where
  provenance : RuntimeProvenance
  settings : RuntimeSettings
  durableQuery : RuntimeQuery
  adminMode : RuntimeAdminModeStatus
  standardFallbackProcessEtwDisabled : Bool := false
  snapshot : RuntimeSnapshot
  warnings : List RuntimeWarning
  previousTotals : Option TelemetryTotals := none
  previousProcesses : List ProcessSample
  batcaveWorkload : Option BatCaveWorkloadContext := none
  processGroups : List ProcessAppGroup
  fullViewRows : List ProcessViewRow
  liveExes : List String := []
  attentionMembers : Finset Generation := ∅
  rankingHistory : RankingHistory := ∅
  liveProcessSnapshot : Bool := false
  engineState : RuntimeEngineState
  collectorState : Option RuntimeCollectorState := none
  lastHeartbeatAtMs : Option Nat := none
  deadlineMisses : Nat := 0
  recentDeadlineMisses : Nat := 0
  deadlineLatenessP95Ms : Float := 0.0
  collectionLatencyMs : Option Float := none
  publicationLatencyMs : Option Float := none
  fatalError : Option RuntimeFatalError := none
  publicationSeq : Nat
  sampleSeq : Nat := 0
  sampledAtMs : Option Nat := none
  lastSampleProvenance : Option TelemetrySampleProvenance := none

section Settings

/-- `normalize_query` -/
def normalizeQuery (query : RuntimeQuery) : RuntimeQuery :=
  { query with
    filterText := String.ofList ((trim query.filterText).toList.take 256)
    limit := max 25 (min query.limit 20000) }

def isValidThemePreference (value : String) : Bool :=
  value∈["system","cave","aurora","ember","daylight"] ||
    (match value.toList.splitAt (value.toList.findIdx (· == ':')) with
    | (family,':'::mode) => String.ofList family∈["cave","aurora","ember","canopy"] &&
        String.ofList mode∈["system","light","dark"]
    | _ => false)

def validUiPreferences (preferences : RuntimeUiPreferences) : Bool :=
  isValidThemePreference preferences.theme && preferences.historyPointLimit∈[30,72,180,360]

/-- `normalize_settings` -/
def normalizeSettings (settings : RuntimeSettings) : RuntimeSettings where
  query := normalizeQuery settings.query
  metricWindowSeconds := max 15 (min settings.metricWindowSeconds 600)
  sampleIntervalMs := max 500 (min settings.sampleIntervalMs 5000)
  paused := settings.paused
  uiPreferences := settings.uiPreferences.filter validUiPreferences

inductive QueryWriteIntent where
  | userMutation | runtimeOnly
  deriving DecidableEq

end Settings

/-- What a snapshot is made of, beside the rows. -/
structure SnapshotParts where
  publicationSeq : Nat
  publishedAtMs : Nat
  sampleSeq : Nat
  sampledAtMs : Option Nat
  environment : RuntimeEnvironment
  settings : RuntimeSettings
  adminMode : RuntimeAdminModeStatus
  standardFallbackProcessEtwDisabled : Bool
  health : RuntimeHealth
  persistence : RuntimePersistence
  system : SystemMetricsSnapshot
  warnings : List RuntimeWarning

/-- `build_snapshot` -/
def buildSnapshot (parts : SnapshotParts) (allProcesses : List ProcessSample)
    (processGroups : List ProcessAppGroup) (fullViewRows processViewRows : List ProcessViewRow)
    (processes : List ProcessSample) : RuntimeSnapshot :=
  evaluateSnapshotHealth
    { eventKind := "runtime_snapshot"
      publicationSeq := parts.publicationSeq
      publishedAtMs := parts.publishedAtMs
      sampleSeq := parts.sampleSeq
      sampledAtMs := parts.sampledAtMs
      source := "tauri_runtime"
      environment := parts.environment
      adminMode := parts.adminMode
      standardFallbackProcessEtwDisabled := parts.standardFallbackProcessEtwDisabled
      settings := parts.settings
      health := parts.health
      persistence := some parts.persistence
      system := parts.system
      processContributors := summarizeProcessContributors allProcesses
      processes := processes
      processViewRows := applyDisplayValues processViewRows (displayByWorkload processGroups)
      overviewRows := applyDisplayValues
        (shapeOverviewRows fullViewRows (rankingByWorkload processGroups))
        (displayByWorkload processGroups)
      totalProcessCount := allProcesses.length
      warnings := parts.warnings } parts.publishedAtMs

namespace Store
variable (lower : Lowercase) (sha256 : List UInt8 → List UInt8)

/-- `current_process_view_rows` -/
def currentProcessViewRows (s : Store) : List ProcessViewRow :=
  if queryIsFullView s.settings.query s.processGroups.length then s.fullViewRows
  else emitProcessView lower s.processGroups s.settings.query s.attentionMembers

/-- `rebuild_process_views` -/
def rebuildProcessViews (s : Store) : Store :=
  let groups := buildProcessGroupsWithContext lower sha256 s.previousProcesses s.rankingHistory
    s.batcaveWorkload
  { s with
    processGroups := groups
    fullViewRows := emitProcessView lower groups fullViewQuery s.attentionMembers }

/-- `set_previous_processes_with_context` -/
def setPreviousProcessesWithContext (s : Store) (processes : List ProcessSample)
    (context : Option BatCaveWorkloadContext) : Store :=
  rebuildProcessViews lower sha256
    { s with
      liveExes := (processes.filter (fun process => trim process.exe≠"")).map
        (fun process => lower.apply (trim process.exe))
      previousProcesses := processes
      batcaveWorkload := context }

def setPreviousProcesses (s : Store) (processes : List ProcessSample) : Store :=
  s.setPreviousProcessesWithContext lower sha256 processes none

/-- The instance that an active service is bound to. -/
def binding (status : RuntimeCollectorServiceStatus) : Option String :=
  if status.state=.active then status.instanceId else none

/-- What a change of the bound instance throws away. -/
def unbind (s : Store) : Store :=
  { setPreviousProcesses lower sha256 { s with previousTotals := none, rankingHistory := ∅ } [] with
    liveProcessSnapshot := false }

/-- `apply_collector_service_status`; the flag says whether the service is active. -/
def applyCollectorServiceStatus (s : Store) (status : Option RuntimeCollectorServiceStatus)
    (sampleTsMs : Nat) : Bool × Store :=
  match status with
  | none => (false,s)
  | some status =>
    let s := if s.adminMode.collectorService.bind binding≠binding status then
        unbind lower sha256 s else s
    let active := decide (status.state=.active)
    let mode : RuntimeAdminModeStatus :=
      if active then
        { s.adminMode with
          state := .active
          source := .collectorService
          detail := none
          lastSuccessAtMs := some sampleTsMs }
      else
        { s.provenance.adminModeStatus with
          detail := status.detail
          lastSuccessAtMs := s.adminMode.lastSuccessAtMs }
    (active,{ s with adminMode := { mode with collectorService := some status } })

def healthState (s : Store) (persistence : RuntimePersistence) : HealthState where
  sampleSeq := s.sampleSeq
  paused := s.settings.paused
  adminModeState := s.adminMode.state
  engineState := s.engineState
  collectorState := s.collectorState
  lastHeartbeatAtMs := s.lastHeartbeatAtMs
  deadlineMisses := s.deadlineMisses
  recentDeadlineMisses := s.recentDeadlineMisses
  deadlineLatenessP95Ms := s.deadlineLatenessP95Ms
  collectionLatencyMs := s.collectionLatencyMs
  publicationLatencyMs := s.publicationLatencyMs
  fatalError := s.fatalError
  warnings := s.warnings
  persistenceState := persistence.state

/-- `build_health` with the row of the own process, if it has one. -/
def health (s : Store) (answers : Answers) (latencyMs : Nat) : RuntimeHealth :=
  let app := s.previousProcesses.find? (fun process => process.pid==answers.appPid)
  buildHealth (s.healthState answers.persistence)
    { nowMs := answers.healthAtMs
      latencyMs := latencyMs
      appCpuPercent := app.elim 0.0 ProcessSample.cpuPercent
      appRssBytes := app.elim 0 ProcessSample.memoryBytes
      tickP95Ms := answers.tickP95Ms
      sortP95Ms := answers.sortP95Ms
      publicationP95Ms := answers.publicationP95Ms }

/-- The snapshot of the store as it stands. -/
def publish (s : Store) (answers : Answers) (latencyMs : Nat) (system : SystemMetricsSnapshot) :
    Store :=
  { s with
    snapshot := buildSnapshot
      { publicationSeq := s.publicationSeq
        publishedAtMs := answers.publishedAtMs
        sampleSeq := s.sampleSeq
        sampledAtMs := s.sampledAtMs
        environment := s.provenance.environment
        settings := s.settings
        adminMode := s.adminMode
        standardFallbackProcessEtwDisabled := s.standardFallbackProcessEtwDisabled
        health := s.health answers latencyMs
        persistence := answers.persistence
        system := system
        warnings := s.warnings }
      s.previousProcesses s.processGroups s.fullViewRows (s.currentProcessViewRows lower)
      (shapeRowsWithHistory lower s.previousProcesses s.rankingHistory s.attentionMembers
        s.settings.query) }

/-- `publish_snapshot_only` -/
def publishSnapshotOnly (s : Store) (answers : Answers) : Store :=
  publish lower
    { s with publicationSeq := satAdd s.publicationSeq 1, warnings := answers.warnings }
    answers 0 s.snapshot.system

/-- `hold_retained_telemetry` -/
def holdRetainedTelemetry (s : Store) (heldAtMs : Nat) : Store :=
  match s.sampledAtMs with
  | none => s
  | some sampledAtMs =>
    rebuildProcessViews lower sha256
      { s with
        snapshot := { s.snapshot with system := holdSystem sampledAtMs heldAtMs s.snapshot.system }
        previousProcesses := s.previousProcesses.map (holdProcess sampledAtMs heldAtMs) }

/-- `publish_collector_unavailable` -/
def publishCollectorUnavailable (s : Store) (answers : Answers) : Store :=
  publishSnapshotOnly lower
    (holdRetainedTelemetry lower sha256
      { s with collectorState := some .unavailable, liveProcessSnapshot := false }
      answers.heldAtMs) answers

/-- `mark_engine_fatal` -/
def markEngineFatal (s : Store) (code message : String) (occurredAtMs : Nat) (answers : Answers) :
    Store :=
  publishSnapshotOnly lower
    { holdRetainedTelemetry lower sha256
        { s with
          engineState := .fatal
          collectorState := some .unavailable
          liveProcessSnapshot := false } answers.heldAtMs with
      fatalError := some ⟨code,message,occurredAtMs⟩ } answers

/-- `authenticate_standard_fallback_process_etw_disabled` -/
def authenticateStandardFallbackProcessEtwDisabled (s : Store) (reported serviceActive : Bool) :
    Bool :=
  reported && s.provenance.environment.platform==.windows &&
    s.provenance.environment.processElevation==.standard && s.adminMode.source==.none &&
    !serviceActive

/-- The time since the totals of the earlier sample. -/
def elapsedSeconds (s : Store) (sampleTsMs : Nat) : Float :=
  Binary64.max ((s.previousTotals.bind (fun previous =>
    if 0 < sampleTsMs-previous.tsMs then
      some (Binary64.ofUnsigned (sampleTsMs-previous.tsMs)/1000.0)
    else none)).getD 1.0) 0.5

/-- What `apply_raw_sample` does with a sample of a source that has moved on. -/
def takeSample (s : Store) (sample : TelemetrySample) (completedAtMs : Nat) (answers : Answers) :
    Store :=
  let sampleTsMs := (sample.sourceProvenance.map
    TelemetrySampleProvenance.sampledAtMs).getD completedAtMs
  let baselineIsLive := s.liveProcessSnapshot
  let elapsed := s.elapsedSeconds sampleTsMs
  let processes := addProcessRates sample.processes s.previousProcesses elapsed baselineIsLive
  let system := addProcessMemoryAccounting processes
    (deriveSystemRates s.previousTotals elapsed sample.system)
  let (history,members) := updateRankingHistory s.rankingHistory s.attentionMembers processes
  let s := setPreviousProcessesWithContext lower sha256
    { s with
      lastSampleProvenance := sample.sourceProvenance
      collectorState := some sample.collectorState
      warnings := answers.warnings
      rankingHistory := history
      attentionMembers := members } processes sample.batcaveWorkload
  publish lower
    { s with
      liveProcessSnapshot := true
      previousTotals := some (TelemetryTotals.fromSystem system sampleTsMs)
      publicationSeq := satAdd s.publicationSeq 1
      sampleSeq := satAdd s.sampleSeq 1
      sampledAtMs := some completedAtMs
      collectionLatencyMs := some answers.collectionLatencyMs } answers sample.latencyMs system

/-- `apply_raw_sample` -/
def applyRawSample (s : Store) (sample : TelemetrySample) (completedAtMs : Nat)
    (answers : Answers) : Store :=
  let unchanged := sample.sourceProvenance.isSome &&
    sample.sourceProvenance==s.lastSampleProvenance
  let statusTsMs := if unchanged then s.sampledAtMs.getD completedAtMs else completedAtMs
  let (active,s) := applyCollectorServiceStatus lower sha256 s sample.collectorService statusTsMs
  let s := { s with
    standardFallbackProcessEtwDisabled := s.authenticateStandardFallbackProcessEtwDisabled
      sample.standardFallbackProcessEtwDisabled active }
  if unchanged then
    publishSnapshotOnly lower
      { s with collectionLatencyMs := some answers.collectionLatencyMs } answers
  else takeSample lower sha256 s sample completedAtMs answers

section Requests

def setPaused (s : Store) (paused : Bool) (answers : Answers) : Store :=
  publishSnapshotOnly lower
    { s with
      settings := { s.settings with paused := paused }
      liveProcessSnapshot := s.liveProcessSnapshot && !paused } answers

/-- `set_query_with_intent` -/
def setQueryWithIntent (s : Store) (query : RuntimeQuery) (intent : QueryWriteIntent)
    (answers : Answers) : Store :=
  let query := normalizeQuery query
  publishSnapshotOnly lower
    { s with
      settings := { s.settings with query := query }
      durableQuery := if intent=.userMutation then query else s.durableQuery } answers

def setSampleInterval (s : Store) (sampleIntervalMs : Nat) (answers : Answers) : Store :=
  publishSnapshotOnly lower
    { s with
      settings := { s.settings with
        sampleIntervalMs := max 500 (min sampleIntervalMs 5000) } } answers

def setUiPreferences (s : Store) (preferences : RuntimeUiPreferences) (answers : Answers) : Store :=
  publishSnapshotOnly lower
    { s with settings := { s.settings with uiPreferences := some preferences } } answers

end Requests

section Engine

/-- `set_engine_state` -/
def setEngineState (s : Store) (state : RuntimeEngineState) : Store :=
  { s with
    engineState := state
    fatalError := if state=.fatal then s.fatalError else none }

def noteHeartbeat (s : Store) (occurredAtMs : Nat) : Store :=
  { s with lastHeartbeatAtMs := some occurredAtMs }

/-- `refresh_snapshot_health` -/
def refreshSnapshotHealth (s : Store) (answers : Answers) : Store :=
  { s with
    warnings := answers.warnings
    snapshot := { s.snapshot with
      health := health { s with warnings := answers.warnings } answers
        (Binary64.toU64 (Binary64.round (s.collectionLatencyMs.getD 0.0)))
      persistence := some answers.persistence } }

/-- `update_schedule_health` -/
def updateScheduleHealth (s : Store) (deadlineMisses recentDeadlineMisses : Nat)
    (deadlineLatenessP95Ms : Float) (answers : Answers) : Store :=
  refreshSnapshotHealth
    { s with
      deadlineMisses := deadlineMisses
      recentDeadlineMisses := recentDeadlineMisses
      deadlineLatenessP95Ms := deadlineLatenessP95Ms } answers

/-- `record_publication_latency` -/
def recordPublicationLatency (s : Store) (latencyMs : Float) (answers : Answers) : Store :=
  refreshSnapshotHealth { s with publicationLatencyMs := some latencyMs } answers

end Engine

/-- The health that the first snapshot starts from. -/
def initialHealth (engineState : RuntimeEngineState) (persistence : RuntimePersistenceState) :
    RuntimeHealth :=
  { engineState := some engineState
    reasonCodes := match persistence with
      | .unavailable => [.persistenceUnavailable]
      | .degraded => [.persistenceDegraded]
      | .healthy => []
    degraded := persistence != .healthy
    statusSummary := match persistence with
      | .unavailable =>
        "Local persistence is unavailable; monitoring is starting with session-only state."
      | .degraded =>
        "Local persistence is degraded; monitoring is starting with visible state loss risk."
      | .healthy => "Runtime starting." }

/-- The constructor, from the settings and the warm cache that were loaded. The busy
generations of the cache shape the first snapshot only. -/
def fromWarmCache (provenance : RuntimeProvenance) (settings : RuntimeSettings) (seq : Nat)
    (rows : List ProcessSample) (answers : Answers) : Store :=
  let settings := normalizeSettings settings
  let rows := rows.map holdProcessRates
  let engineState : RuntimeEngineState := if settings.paused then .paused else .starting
  let groups := buildProcessGroups lower sha256 rows ∅
  let attention := attentionCandidates rows ∅
  let fullViewRows := emitProcessView lower groups fullViewQuery attention
  { provenance := provenance
    settings := settings
    durableQuery := settings.query
    adminMode := provenance.adminModeStatus
    snapshot := buildSnapshot
      { publicationSeq := seq
        publishedAtMs := answers.publishedAtMs
        sampleSeq := 0
        sampledAtMs := none
        environment := provenance.environment
        settings := settings
        adminMode := provenance.adminModeStatus
        standardFallbackProcessEtwDisabled := false
        health := initialHealth engineState answers.persistence.state
        persistence := answers.persistence
        system := emptySystem
        warnings := answers.warnings }
      rows groups fullViewRows (emitProcessView lower groups settings.query attention)
      (shapeRowsWithHistory lower rows ∅ attention settings.query)
    warnings := answers.warnings
    previousProcesses := rows
    processGroups := groups
    fullViewRows := fullViewRows
    engineState := engineState
    publicationSeq := seq }

end Store
end BatCave.RuntimeStore
