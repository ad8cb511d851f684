import BatCave.Contracts.Metrics
import BatCave.Contracts.Persistence
import BatCave.RuntimeStore.Warnings
import BatCave.WorkloadHistory.Points

/-! What the runtime publishes: the query and the rows it selects, the health of the
runtime and the snapshot that carries both. -/
namespace BatCave.Contracts
open BatCave.RuntimeStore.Warnings (RuntimeWarning)
open BatCave.WorkloadHistory (RuntimePlatform)

section Query

inductive ProcessFocusMode where
  | all | attention | io
  deriving DecidableEq, Repr

inductive SortColumn where
  | attention | name | pid | cpuPct | memoryBytes | ioBps | networkBps | threads | handles
  | startTimeMs
  deriving DecidableEq, Repr

inductive SortDirection where
  | asc | desc
  deriving DecidableEq, Repr

structure RuntimeQuery where
  filterText : String := ""
  focusMode : ProcessFocusMode := .all
  sortColumn : SortColumn := .attention
  sortDirection : SortDirection := .desc
  limit : UInt64 := 5000
  deriving DecidableEq, Repr

structure RuntimeUiPreferences where
  theme : String
  historyPointLimit : Nat
  deriving DecidableEq, Repr

structure RuntimeSettings where
  query : RuntimeQuery := {}
  metricWindowSeconds : Nat := 60
  sampleIntervalMs : Nat := 1000
  paused : Bool := false
  uiPreferences : Option RuntimeUiPreferences := none
  deriving DecidableEq, Repr

end Query

section Rows

structure GroupMetricQuality where
  cpu : MetricQualityInfo
  memory : MetricQualityInfo
  io : MetricQualityInfo
  otherIo : MetricQualityInfo
  network : MetricQualityInfo
  threads : MetricQualityInfo
  deriving DecidableEq, Repr

structure GroupMetricCoverage where
  cpu : MetricCoverage
  memory : MetricCoverage
  io : MetricCoverage
  otherIo : MetricCoverage
  network : MetricCoverage
  threads : MetricCoverage
  deriving DecidableEq, Repr

structure ProcessDetail where
  workloadId : String
  process : ProcessSample
  ioBps : Nat
  networkBps : Nat
  deriving DecidableEq, Repr

structure GroupDetail where
  workloadId : String
  groupKey : String
  label : String
  category : String
  processCount : Nat
  cpuPercent : Float
  memoryBytes : Nat
  ioBps : Nat
  otherIoBps : Option Nat
  networkBps : Nat
  threads : Nat
  quality : GroupMetricQuality
  coverage : GroupMetricCoverage
  deriving DecidableEq, Repr

inductive ProcessViewRow where
  | process (detail : ProcessDetail) (groupKey groupLabel groupCategory : String)
      (groupCount : Nat) (iconKind : String) (isChild isGrouped : Bool) (attentionLabel : String)
  | group (detail : GroupDetail) (iconKind : String) (iconSource exampleLabel : Option String)
      (attentionLabel : String)
  deriving DecidableEq, Repr

structure ProcessContributorIdentity where
  pid : String
  startTimeMs : Nat
  deriving DecidableEq, Repr

/-- What the summary says of one metric. -/
structure ProcessContributor where
  name : Option String
  identity : Option ProcessContributorIdentity
  coverage : Option MetricCoverage
  quality : Option MetricQualityInfo
  nameAmbiguous : Bool
  deriving DecidableEq, Repr

structure ProcessContributorSummary where
  cpu : ProcessContributor
  memory : ProcessContributor
  io : ProcessContributor
  network : ProcessContributor
  deriving DecidableEq, Repr

end Rows

section Health

inductive RuntimeFreshness where
  | starting | live | paused | stale
  deriving DecidableEq, Repr

inductive RuntimeHealthReason where
  | collectorUnavailable | collectorLimited | collectorWarning | persistenceUnavailable
  | persistenceDegraded | cadenceMissed | runtimeCpuBudget | runtimeMemoryBudget | engineFatal
  | heartbeatStale | publicationStale | sampleStale
  deriving DecidableEq, Repr

inductive RuntimeEngineState where
  | starting | running | paused | fatal
  deriving DecidableEq, Repr

inductive RuntimeCollectorState where
  | healthy | limited | unavailable
  deriving DecidableEq, Repr

structure RuntimeFatalError where
  code : String
  message : String
  occurredAtMs : Nat
  deriving DecidableEq, Repr

structure RuntimeHealth where
  tickCount : Nat := 0
  snapshotLatencyMs : Nat := 0
  degraded : Bool := false
  freshness : RuntimeFreshness := .starting
  reasonCodes : List RuntimeHealthReason := []
  collectorWarnings : Nat := 0
  runtimeLoopEnabled : Bool := true
  runtimeLoopRunning : Bool := false
  statusSummary : String := "Runtime starting."
  updatedAtMs : Nat := 0
  tickP95Ms : Float := 0.0
  sortP95Ms : Float := 0.0
  jitterP95Ms : Float := 0.0
  droppedTicks : Nat := 0
  appCpuPercent : Float := 0.0
  appRssBytes : Nat := 0
  lastWarning : Option String := none
  engineState : Option RuntimeEngineState := none
  collectorState : Option RuntimeCollectorState := none
  lastHeartbeatAtMs : Option Nat := none
  deadlineMisses : Option Nat := none
  deadlineLatenessP95Ms : Option Float := none
  collectionLatencyMs : Option Float := none
  collectionP95Ms : Option Float := none
  publicationLatencyMs : Option Float := none
  publicationP95Ms : Option Float := none
  fatalError : Option RuntimeFatalError := none
  deriving DecidableEq, Repr

end Health

section Provenance

inductive RuntimeProcessElevation where
  | unknown | standard | elevated | notApplicable
  deriving DecidableEq, Repr

inductive RuntimeInstallKind where
  | unknown | nsis | appimage | deb | dmg | appBundle | portable | development
  deriving DecidableEq, Repr

structure RuntimeEnvironment where
  platform : RuntimePlatform
  adminModeAvailable : Bool
  processElevation : RuntimeProcessElevation
  installKind : RuntimeInstallKind
  dataDirectory : Option String
  deriving DecidableEq, Repr

inductive RuntimePrivilegedSource where
  | none | currentProcess | collectorService
  deriving DecidableEq, Repr

inductive RuntimeAdminModeState where
  | unavailable | off | requesting | active | recovering | failed
  deriving DecidableEq, Repr

inductive RuntimeCollectorServiceState where
  | notInstalled | stopped | connecting | recovering | active | incompatible | unauthorized
  | failed
  deriving DecidableEq, Repr

structure RuntimeReleaseIdentity where
  appVersion : String
  sourceCommitSha : Option String
  deriving DecidableEq, Repr

structure RuntimeCollectorServiceStatus where
  state : RuntimeCollectorServiceState
  releaseIdentity : Option RuntimeReleaseIdentity := .none
  serviceVersion : Option String := .none
  negotiatedProtocolVersion : Option Nat := .none
  minimumDesktopVersion : Option String := .none
  instanceId : Option String := .none
  lastConnectedAtMs : Option Nat := .none
  detail : Option String := .none
  deriving DecidableEq, Repr

structure RuntimeAdminModeStatus where
  state : RuntimeAdminModeState
  source : RuntimePrivilegedSource
  detail : Option String := .none
  lastSuccessAtMs : Option Nat := .none
  collectorService : Option RuntimeCollectorServiceStatus := .none
  deriving DecidableEq, Repr

end Provenance

structure RuntimeSnapshot where
  eventKind : String
  publicationSeq : Nat
  publishedAtMs : Nat
  sampleSeq : Nat
  sampledAtMs : Option Nat
  source : String
  environment : RuntimeEnvironment
  adminMode : RuntimeAdminModeStatus
  standardFallbackProcessEtwDisabled : Bool
  settings : RuntimeSettings
  health : RuntimeHealth
  persistence : Option RuntimePersistence
  system : SystemMetricsSnapshot
  processContributors : ProcessContributorSummary
  processes : List ProcessSample
  processViewRows : List ProcessViewRow
  overviewRows : List ProcessViewRow
  totalProcessCount : Nat
  warnings : List RuntimeWarning
  deriving DecidableEq, Repr

end BatCave.Contracts
