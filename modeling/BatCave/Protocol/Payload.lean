import BatCave.CollectorService.Protocol
import BatCave.Protocol.Workloads

/-! The runtime snapshot on the wire, and the envelope that carries it. Where a type of the
protocol mirrors one of the contracts name by name, the contract's own stands for both. -/
namespace BatCave.Protocol
open BatCave.Contracts
open BatCave.RuntimeStore.Warnings (RuntimeWarning)
open BatCave.WorkloadHistory (RuntimePlatform)

/-- `RUNTIME_PROTOCOL_VERSION` -/
def runtimeProtocolVersion : Nat := 4

inductive RuntimeArchitectureV4 where
  | x86_64 | aarch64 | x86 | unknown
  deriving DecidableEq, Repr

structure RuntimeEnvironmentV4 where
  platform : RuntimePlatform
  architecture : RuntimeArchitectureV4
  processElevation : RuntimeProcessElevation
  installKind : RuntimeInstallKind
  dataDirectory : Option String
  releaseIdentity : RuntimeReleaseIdentity
  deriving DecidableEq, Repr

inductive PrivilegedCollectionStateV4 where
  | unavailable | standardOnly | connecting | active | recovering | failed
  deriving DecidableEq, Repr

inductive PrivilegedCollectionSourceV4 where
  | none | localProcess | collectorService
  deriving DecidableEq, Repr

inductive PrivilegedCollectionPreferenceV4 where
  | standardOnly | bestAvailable
  deriving DecidableEq, Repr

structure RuntimePrivilegedCollectionV4 where
  state : PrivilegedCollectionStateV4
  source : PrivilegedCollectionSourceV4
  preference : PrivilegedCollectionPreferenceV4
  standardFallbackProcessEtwDisabled : Bool
  detail : Option String
  lastSuccessAtMs : Option Nat
  collectorService : Option RuntimeCollectorServiceStatus
  deriving DecidableEq, Repr

structure RuntimeQueryV4 where
  filterText : String
  focusMode : ProcessFocusMode
  sortColumn : SortColumn
  sortDirection : SortDirection
  limit : Nat
  deriving DecidableEq, Repr

structure RuntimeSettingsV4 where
  query : RuntimeQueryV4
  metricWindowSeconds : Nat
  effectiveSampleIntervalMs : Nat
  collectionPaused : Bool
  uiPreferences : Option RuntimeUiPreferences
  deriving DecidableEq, Repr

structure RuntimeHealthV4 where
  engineState : Option RuntimeEngineState
  collectorState : Option RuntimeCollectorState
  degraded : Bool
  freshness : RuntimeFreshness
  reasonCodes : List RuntimeHealthReason
  statusSummary : String
  evaluatedAtMs : Nat
  lastHeartbeatAtMs : Option Nat
  heartbeatAgeMs : Option Nat
  publicationAgeMs : Nat
  sampleAgeMs : Option Nat
  deadlineMisses : Option Nat
  deadlineLatenessP95Ms : Option Float
  collectionLatencyMs : Option Float
  collectionP95Ms : Option Float
  publicationLatencyMs : Option Float
  publicationP95Ms : Option Float
  collectorWarningCount : Nat
  appCpuPercent : Float
  appRssBytes : Nat
  lastWarning : Option String
  fatalError : Option RuntimeFatalError
  deriving DecidableEq, Repr

inductive ContributorMetricV4 where
  | cpu | memory | io | network
  deriving DecidableEq, Repr

structure ProcessContributorV4 where
  metric : ContributorMetricV4
  processId : Option String
  displayName : Option String
  nameAmbiguous : Bool
  availableContributors : Nat
  totalContributors : Nat
  qualityCode : Nat
  source : MetricSourceV4
  limitationIndex : Option Nat
  deriving DecidableEq, Repr

/-- The snapshot that readers get; what the checks of an observation read comes first. -/
structure RuntimeSnapshotPayloadV4 extends PublicationFacts where
  publicationSeq : Nat
  sampleSeq : Nat
  source : String
  environment : RuntimeEnvironmentV4
  privilegedCollection : RuntimePrivilegedCollectionV4
  settings : RuntimeSettingsV4
  health : RuntimeHealthV4
  persistence : Option RuntimePersistenceV4
  system : SystemDetailV4
  workloads : List WorkloadDetailV4
  overviewWorkloads : List WorkloadDetailV4
  contributors : List ProcessContributorV4
  totalProcessCount : Nat
  visibleProcessCount : Nat
  warnings : List RuntimeWarning

inductive ProtocolMismatchReason where
  | legacyWriter | readerTooOld | breakingWriter | malformedPayload
  deriving DecidableEq, Repr

structure ProtocolMismatchPayload where
  reason : ProtocolMismatchReason
  writerVersion : Nat
  minimumReaderVersion : Nat
  message : String

inductive ProtocolEvent where
  | runtimeSnapshot (payload : RuntimeSnapshotPayloadV4)
  | protocolMismatch (payload : ProtocolMismatchPayload)

structure Compatibility where
  minimumReaderVersion : Nat
  breaking : Bool

structure ProtocolEnvelope where
  protocolVersion : Nat
  compatibility : Compatibility
  event : ProtocolEvent

end BatCave.Protocol
