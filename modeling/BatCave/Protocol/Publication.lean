import BatCave.Protocol.Envelope
import BatCave.RuntimeStore.Health

/-! The snapshot that the runtime holds as the envelope that readers get: its sections in the
order they fill the catalogs, and the payload that is checked before it is handed out. -/
namespace BatCave.Protocol
open BatCave.Contracts BatCave.Lib BatCave.Lib.Result CatalogBuilder
open BatCave.RuntimeStore (evaluatedHealth)

section Mirrors

def adminState : RuntimeAdminModeState → PrivilegedCollectionStateV4
  | .unavailable => .unavailable
  | .off => .standardOnly
  | .requesting => .connecting
  | .active => .active
  | .recovering => .recovering
  | .failed => .failed

def privilegedSource : RuntimePrivilegedSource → PrivilegedCollectionSourceV4
  | .none => .none
  | .currentProcess => .localProcess
  | .collectorService => .collectorService

end Mirrors

section Contributors

/-- What a contributor says of its limitation before its quality is looked at. -/
def contributorLimitation (contributor : ProcessContributor) (coverage : MetricCoverage)
    (totalProcessCount : Nat) : Option LimitationEntry :=
  if contributor.quality.any (fun quality => quality.message.isSome) then
    contributor.quality.bind reportedLimitation
  else if (contributor.quality.bind MetricQualityInfo.source).isNone then
    some ⟨.missingMetadata,"Contributor source provenance was not reported by the runtime."⟩
  else if contributor.coverage.isNone then
    some ⟨.missingMetadata,"Contributor coverage was not reported by the runtime."⟩
  else if coverage.available < coverage.total then
    some ⟨.partialCoverage,toString coverage.available++" of "++toString coverage.total++
      " processes provide this contributor metric."⟩
  else if coverage.total≠totalProcessCount then
    some ⟨.missingMetadata,
      "Contributor coverage does not match the runtime process population."⟩
  else none

def requiresExplanation (qualityCode : Nat) : Bool :=
  [MetricQuality.held,.partialQuality,.unavailable].any
    (fun quality => qualityCode==metricQualityCode quality)

/-- A quality that needs an explanation and has none is no quality. -/
def explainContributor (qualityCode : Nat) (index : Option Nat) : Encoder (Nat × Option Nat) :=
  if requiresExplanation qualityCode && index.isNone then do
    let index ← limitation
      ⟨.missingMetadata,"Contributor quality is missing a typed explanation."⟩
    return (metricQualityCode .unavailable,some index)
  else return (qualityCode,index)

/-- Not every process contributes to a metric that is native or estimated. -/
def coverContributor (coverage : MetricCoverage) (qualityCode : Nat) (index : Option Nat) :
    Encoder (Nat × Option Nat) :=
  if decide (coverage.available < coverage.total) &&
      [MetricQuality.native,.estimated].any
        (fun quality => qualityCode==metricQualityCode quality) then do
    let index ← limitation ⟨.partialCoverage,toString coverage.available++" of "++
      toString coverage.total++" processes provide this contributor metric."⟩
    return (metricQualityCode .partialQuality,some index)
  else return (qualityCode,index)

def encodeContributor (sampleSeq totalProcessCount : Nat)
    (entry : ContributorMetricV4 × ProcessContributor) : Encoder ProcessContributorV4 := do
  let contributor := entry.2
  let coverage := contributor.coverage.getD ⟨0,totalProcessCount⟩
  let source := contributor.quality.bind MetricQualityInfo.source
  let qualityCode := ((contributor.quality.filter (fun _ => source.isSome)).map
    (fun quality => metricQualityCode quality.quality)).getD (metricQualityCode .unavailable)
  let index ← limitationIndex (contributorLimitation contributor coverage totalProcessCount)
  let (qualityCode,index) ← explainContributor qualityCode index
  let (qualityCode,index) ← coverContributor coverage qualityCode index
  let processId := (contributor.identity.map (stableContributorId · sampleSeq)).filter
    (fun _ => source.isSome)
  let available ← toU32 coverage.available "protocol_contributor_coverage_out_of_range"
  let total ← toU32 coverage.total "protocol_contributor_coverage_out_of_range"
  return { metric := entry.1
           processId := processId
           displayName := processId.bind (fun _ => contributor.name)
           nameAmbiguous := contributor.nameAmbiguous
           availableContributors := available
           totalContributors := total
           qualityCode := qualityCode
           source := (source.map metricSource).getD .unknown
           limitationIndex := index }

def contributorEntries (summary : ProcessContributorSummary) :
    List (ContributorMetricV4 × ProcessContributor) :=
  [(.cpu,summary.cpu),(.memory,summary.memory),(.io,summary.io),(.network,summary.network)]

/-- `encode_contributors` -/
def encodeContributors (snapshot : RuntimeSnapshot) : Encoder (List ProcessContributorV4) :=
  (contributorEntries snapshot.processContributors).mapM
    (encodeContributor snapshot.sampleSeq snapshot.totalProcessCount)

end Contributors

/-- What `target_architecture` and `release_identity` say of the running build. -/
structure Build where
  architecture : RuntimeArchitectureV4
  releaseIdentity : RuntimeReleaseIdentity

section Payload

/-- The sections that fill the catalogs. -/
structure EncodedSections where
  system : SystemDetailV4
  workloads : List WorkloadDetailV4
  overviewWorkloads : List WorkloadDetailV4
  contributors : List ProcessContributorV4

def encodeSections (snapshot : RuntimeSnapshot) : Encoder EncodedSections := do
  let system ← encodeSystem snapshot.system snapshot.sampledAtMs
  let workloads ← encodeWorkloads snapshot.processViewRows snapshot.sampleSeq
    snapshot.sampledAtMs snapshot.environment.platform
  let overviewWorkloads ← encodeWorkloads snapshot.overviewRows snapshot.sampleSeq
    snapshot.sampledAtMs snapshot.environment.platform
  let contributors ← encodeContributors snapshot
  return ⟨system,workloads,overviewWorkloads,contributors⟩

def encodeEnvironment (build : Build) (environment : RuntimeEnvironment) :
    RuntimeEnvironmentV4 where
  platform := environment.platform
  architecture := build.architecture
  processElevation := environment.processElevation
  installKind := environment.installKind
  dataDirectory := environment.dataDirectory
  releaseIdentity := build.releaseIdentity

def encodePrivilegedCollection (snapshot : RuntimeSnapshot) : RuntimePrivilegedCollectionV4 where
  state := adminState snapshot.adminMode.state
  source := privilegedSource snapshot.adminMode.source
  preference := if snapshot.environment.adminModeAvailable then .bestAvailable else .standardOnly
  standardFallbackProcessEtwDisabled := snapshot.standardFallbackProcessEtwDisabled
  detail := snapshot.adminMode.detail
  lastSuccessAtMs := snapshot.adminMode.lastSuccessAtMs
  collectorService := snapshot.adminMode.collectorService

def encodeSettings (settings : RuntimeSettings) (limit : Nat) : RuntimeSettingsV4 where
  query :=
    { filterText := settings.query.filterText
      focusMode := settings.query.focusMode
      sortColumn := settings.query.sortColumn
      sortDirection := settings.query.sortDirection
      limit := limit }
  metricWindowSeconds := settings.metricWindowSeconds
  effectiveSampleIntervalMs := settings.sampleIntervalMs
  collectionPaused := settings.paused
  uiPreferences := settings.uiPreferences

/-- Ages are counted from the time of the evaluation; the heartbeat's is the snapshot's own. -/
def encodeHealth (snapshot : RuntimeSnapshot) (health : RuntimeHealth) (evaluatedAtMs : Nat)
    (collectorWarningCount : Nat) : RuntimeHealthV4 where
  engineState := health.engineState
  collectorState := health.collectorState
  degraded := health.degraded
  freshness := health.freshness
  reasonCodes := health.reasonCodes
  statusSummary := health.statusSummary
  evaluatedAtMs := evaluatedAtMs
  lastHeartbeatAtMs := health.lastHeartbeatAtMs
  heartbeatAgeMs := snapshot.health.lastHeartbeatAtMs.map (fun heartbeat => evaluatedAtMs-heartbeat)
  publicationAgeMs := evaluatedAtMs-snapshot.publishedAtMs
  sampleAgeMs := snapshot.sampledAtMs.map (fun sampled => evaluatedAtMs-sampled)
  deadlineMisses := health.deadlineMisses
  deadlineLatenessP95Ms := health.deadlineLatenessP95Ms
  collectionLatencyMs := health.collectionLatencyMs
  collectionP95Ms := health.collectionP95Ms
  publicationLatencyMs := health.publicationLatencyMs
  publicationP95Ms := health.publicationP95Ms
  collectorWarningCount := collectorWarningCount
  appCpuPercent := health.appCpuPercent
  appRssBytes := health.appRssBytes
  lastWarning := health.lastWarning
  fatalError := health.fatalError

/-- The counts that the payload holds as `u32`. -/
structure PayloadCounts where
  limit : Nat
  collectorWarnings : Nat
  totalProcesses : Nat
  visibleProcesses : Nat

def payloadCounts (snapshot : RuntimeSnapshot) (health : RuntimeHealth)
    (sections : EncodedSections) : Except String PayloadCounts := do
  let limit ← toU32 snapshot.settings.query.limit.toNat "protocol_query_limit_out_of_range"
  let collectorWarnings ← toU32 health.collectorWarnings "protocol_warning_count_out_of_range"
  let totalProcesses ← toU32 snapshot.totalProcessCount "protocol_process_count_out_of_range"
  let visibleProcesses ← toU32 (processCount sections.workloads)
    "protocol_visible_process_count_out_of_range"
  return ⟨limit,collectorWarnings,totalProcesses,visibleProcesses⟩

def assemblePayload (build : Build) (snapshot : RuntimeSnapshot) (health : RuntimeHealth)
    (evaluatedAtMs : Nat) (sections : EncodedSections) (catalogs : Catalogs)
    (counts : PayloadCounts) : RuntimeSnapshotPayloadV4 where
  toCatalogs := catalogs
  publishedAtMs := snapshot.publishedAtMs
  sampledAtMs := snapshot.sampledAtMs
  qualityCodes := qualityCodes
  publicationSeq := snapshot.publicationSeq
  sampleSeq := snapshot.sampleSeq
  source := snapshot.source
  environment := encodeEnvironment build snapshot.environment
  privilegedCollection := encodePrivilegedCollection snapshot
  settings := encodeSettings snapshot.settings counts.limit
  health := encodeHealth snapshot health evaluatedAtMs counts.collectorWarnings
  persistence := snapshot.persistence.map encodePersistence
  system := sections.system
  workloads := sections.workloads
  overviewWorkloads := sections.overviewWorkloads
  contributors := sections.contributors
  totalProcessCount := counts.totalProcesses
  visibleProcessCount := counts.visibleProcesses
  warnings := snapshot.warnings

end Payload

section Snapshot

def ensureJsSafe (value : Nat) : Except String Unit :=
  reject (jsMaxSafeInteger < value) "protocol_timestamp_out_of_range"

/-- The times of a snapshot, checked before anything is encoded. -/
def ensureSnapshotTimes (snapshot : RuntimeSnapshot) (evaluatedAtMs : Nat) :
    Except String Unit := do
  ensureJsSafe snapshot.publicationSeq
  ensureJsSafe snapshot.publishedAtMs
  ensureJsSafe snapshot.sampleSeq
  ensureJsSafe evaluatedAtMs
  reject (evaluatedAtMs < snapshot.publishedAtMs) "protocol_health_evaluation_before_publication"
  ifSome snapshot.sampledAtMs (fun sampled => do
    ensureJsSafe sampled
    reject (snapshot.publishedAtMs < sampled) "protocol_sample_time_after_publication")

/-- `encode_snapshot_with_identity` -/
def encodeSnapshotWithIdentity (build : Build) (snapshot : RuntimeSnapshot) (evaluatedAtMs : Nat)
    (healthOverride : Option RuntimeHealth) : Except String ProtocolEnvelope := do
  ensureSnapshotTimes snapshot evaluatedAtMs
  let health := healthOverride.getD (evaluatedHealth snapshot evaluatedAtMs)
  let catalog ← CatalogBuilder.new snapshot.settings.sampleIntervalMs
  let (sections,catalog) ← encodeSections snapshot catalog
  let counts ← payloadCounts snapshot health sections
  let payload := assemblePayload build snapshot health evaluatedAtMs sections catalog.toCatalogs
    counts
  let envelope : ProtocolEnvelope :=
    { protocolVersion := runtimeProtocolVersion
      compatibility := ⟨runtimeProtocolVersion,true⟩
      event := .runtimeSnapshot payload }
  validateEnvelope envelope
  return envelope

/-- `encode_snapshot` and `encode_snapshot_ref`: the runtime's own clock evaluates. -/
def encodeSnapshot (build : Build) (snapshot : RuntimeSnapshot) : Except String ProtocolEnvelope :=
  encodeSnapshotWithIdentity build snapshot
    (max (max snapshot.health.updatedAtMs snapshot.publishedAtMs)
      (snapshot.health.lastHeartbeatAtMs.getD 0)) none

/-- `encode_snapshot_ref_with_health` -/
def encodeSnapshotRefWithHealth (build : Build) (snapshot : RuntimeSnapshot)
    (health : RuntimeHealth) (evaluatedAtMs : Nat) : Except String ProtocolEnvelope :=
  encodeSnapshotWithIdentity build snapshot evaluatedAtMs (some health)

end Snapshot
end BatCave.Protocol
