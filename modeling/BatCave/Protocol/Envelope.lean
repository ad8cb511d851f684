import BatCave.Protocol.WorkloadChecks

/-! What the writer checks of an envelope before it hands it out, section by section. -/
namespace BatCave.Protocol
open BatCave.Contracts BatCave.Lib BatCave.Lib.Result BatCave.Lib.Text
open BatCave.CollectorService (isAsciiHexdigit)
open BatCave.RuntimeStore.Warnings (RuntimeWarning)

section Settings

def commitShaInvalid (sha : String) : Bool :=
  sha.utf8ByteSize != 40 || !sha.toList.all isAsciiHexdigit

/-- `validate_release_identity`: the length is that of the trimmed version. -/
def validateReleaseIdentity (identity : RuntimeReleaseIdentity) : Except String Unit := do
  let appVersion := trim identity.appVersion
  reject (appVersion=="" || 64 < appVersion.utf8ByteSize) "protocol_release_version_invalid"
  reject (identity.sourceCommitSha.any commitShaInvalid) "protocol_release_commit_invalid"

/-- `validate_settings` -/
def validateSettings (settings : RuntimeSettingsV4) : Except String Unit := do
  reject (settings.metricWindowSeconds==0 || settings.effectiveSampleIntervalMs==0)
    "protocol_runtime_settings_invalid"
  reject (settings.uiPreferences.any (fun preferences => blank preferences.theme ||
      64 < preferences.theme.length || preferences.historyPointLimit==0))
    "protocol_ui_preferences_invalid"

end Settings

section Health

def RuntimeHealthV4.engineIntegerFacts (health : RuntimeHealthV4) : List (Option Nat) :=
  [health.lastHeartbeatAtMs,health.heartbeatAgeMs,health.deadlineMisses]

def RuntimeHealthV4.engineNumericFacts (health : RuntimeHealthV4) : List (Option Float) :=
  [health.deadlineLatenessP95Ms,health.collectionLatencyMs,health.collectionP95Ms,
    health.publicationLatencyMs,health.publicationP95Ms]

/-- Not a measurement: infinite, not a number or negative. -/
def unmeasured (value : Float) : Bool := !value.isFinite || value < 0.0

/-- A time and its age, both or neither. -/
def ageFits (evaluatedAtMs : Nat) : Option Nat → Option Nat → Bool
  | some atMs,some ageMs => atMs ≤ evaluatedAtMs && ageMs==evaluatedAtMs-atMs
  | none,none => true
  | _,_ => false

def validateHealthFacts (payload : RuntimeSnapshotPayloadV4) : Except String Unit := do
  let health := payload.health
  reject (health.engineIntegerFacts.any (Option.any (fun value => jsMaxSafeInteger < value)) ||
      health.engineNumericFacts.any (Option.any unmeasured))
    "protocol_engine_health_fact_invalid"
  reject (jsMaxSafeInteger < health.evaluatedAtMs || jsMaxSafeInteger < health.publicationAgeMs ||
      health.sampleAgeMs.any (fun value => jsMaxSafeInteger < value) ||
      jsMaxSafeInteger < health.appRssBytes || unmeasured health.appCpuPercent ||
      health.evaluatedAtMs < payload.publishedAtMs ||
      health.publicationAgeMs != health.evaluatedAtMs-payload.publishedAtMs)
    "protocol_health_fact_invalid"
  reject (!ageFits health.evaluatedAtMs payload.sampledAtMs health.sampleAgeMs)
    "protocol_sample_age_invalid"
  reject (!ageFits health.evaluatedAtMs health.lastHeartbeatAtMs health.heartbeatAgeMs)
    "protocol_heartbeat_age_invalid"

def RuntimeHealthV4.hasEngineOwnedFact (health : RuntimeHealthV4) : Bool :=
  health.engineIntegerFacts.any Option.isSome || health.engineNumericFacts.any Option.isSome ||
    health.collectorState.isSome || health.fatalError.isSome

def pauseStateInvalid (paused : Bool) (engineState : Option RuntimeEngineState) : Bool :=
  engineState != some .fatal &&
    ((paused && !(engineState==none || engineState==some .paused)) ||
      (!paused && engineState==some .paused))

def validateHealthStates (payload : RuntimeSnapshotPayloadV4) : Except String Unit := do
  let health := payload.health
  reject (health.engineState.isNone && health.hasEngineOwnedFact)
    "protocol_engine_health_without_state"
  reject (health.deadlineLatenessP95Ms.isSome && health.deadlineMisses.isNone)
    "protocol_deadline_lateness_without_misses"
  reject (health.engineState==some .fatal && health.fatalError.isNone)
    "protocol_fatal_state_without_error"
  reject (health.engineState.any (fun state => state != .fatal) && health.fatalError.isSome)
    "protocol_nonfatal_state_has_error"
  reject (!health.degraded && (health.engineState==some .fatal ||
      health.collectorState==some .limited || health.collectorState==some .unavailable))
    "protocol_health_degraded_state_invalid"
  reject (pauseStateInvalid payload.settings.collectionPaused health.engineState)
    "protocol_engine_pause_state_invalid"

def validateFatalError (health : RuntimeHealthV4) : Except String Unit :=
  reject (health.fatalError.any (fun error => jsMaxSafeInteger < error.occurredAtMs ||
      health.evaluatedAtMs < error.occurredAtMs || blank error.code || blank error.message))
    "protocol_fatal_error_invalid"

/-- What the health's reasons and freshness follow from. -/
structure HealthFacts where
  fatal : Bool
  paused : Bool
  starting : Bool
  unavailable : Bool
  limited : Bool
  heartbeatStale : Bool
  publicationStale : Bool
  sampleStale : Bool

def healthFacts (payload : RuntimeSnapshotPayloadV4) : HealthFacts :=
  let health := payload.health
  let fatal := health.engineState==some .fatal
  let paused := payload.settings.collectionPaused || health.engineState==some .paused
  let starting := payload.sampledAtMs.isNone || health.engineState==some .starting
  let active := !fatal && !paused && !starting
  let budget := max 500 (min payload.settings.effectiveSampleIntervalMs 5000)*2
  let running := health.engineState==some .running
  { fatal := fatal
    paused := paused
    starting := starting
    unavailable := health.collectorState==some .unavailable
    limited := health.collectorState==some .limited
    heartbeatStale := active && running && health.heartbeatAgeMs.all (fun age => budget < age)
    publicationStale := active && running && budget < health.publicationAgeMs
    sampleStale := active && health.sampleAgeMs.all (fun age => budget < age) }

def HealthFacts.required (facts : HealthFacts) : List (RuntimeHealthReason × Bool) :=
  [(.engineFatal,facts.fatal),(.collectorUnavailable,facts.unavailable),
    (.collectorLimited,facts.limited),(.heartbeatStale,facts.heartbeatStale),
    (.publicationStale,facts.publicationStale),(.sampleStale,facts.sampleStale)]

def HealthFacts.freshness (facts : HealthFacts) : RuntimeFreshness :=
  if facts.fatal then .stale
  else if facts.paused then .paused
  else if facts.starting then .starting
  else if facts.unavailable || facts.heartbeatStale || facts.publicationStale ||
    facts.sampleStale then .stale
  else .live

def validateHealthReasons (payload : RuntimeSnapshotPayloadV4) : Except String Unit := do
  let health := payload.health
  let facts := healthFacts payload
  reject (!health.reasonCodes.Nodup || health.degraded != !health.reasonCodes.isEmpty)
    "protocol_health_reasons_invalid"
  facts.required.forM (fun entry => reject (health.reasonCodes.contains entry.1 != entry.2)
    "protocol_health_reason_fact_mismatch")
  reject (health.freshness != facts.freshness) "protocol_health_freshness_invalid"

/-- `validate_health` -/
def validateHealth (payload : RuntimeSnapshotPayloadV4) : Except String Unit := do
  validateHealthFacts payload
  validateHealthStates payload
  validateFatalError payload.health
  validateHealthReasons payload

end Health

section Privileged

/-- `as_deref().is_none_or(|value| value.trim().is_empty())` -/
def unnamed (value : Option String) : Bool := value.all blank

def activeServiceIncomplete (service : RuntimeCollectorServiceStatus) : Bool :=
  service.releaseIdentity.isNone || unnamed service.serviceVersion ||
    service.negotiatedProtocolVersion.isNone || unnamed service.instanceId ||
    service.lastConnectedAtMs.isNone

def releaseMismatch (service desktop : RuntimeReleaseIdentity) : Bool :=
  service.appVersion != desktop.appVersion ||
    (service.sourceCommitSha.isSome && service.sourceCommitSha != desktop.sourceCommitSha)

/-- A time that no reader can hold or that is yet to come. -/
def timeInvalid (evaluatedAtMs : Nat) (value : Option Nat) : Bool :=
  value.any (fun value => jsMaxSafeInteger < value || evaluatedAtMs < value)

def validateCollectorService (desktop : RuntimeReleaseIdentity) (evaluatedAtMs : Nat)
    (service : RuntimeCollectorServiceStatus) : Except String Unit := do
  ifSome service.releaseIdentity validateReleaseIdentity
  reject (timeInvalid evaluatedAtMs service.lastConnectedAtMs)
    "protocol_collector_service_timestamp_invalid"
  reject (service.state==.active && activeServiceIncomplete service)
    "protocol_collector_service_active_identity_invalid"
  reject (service.state==.active && service.releaseIdentity.any (releaseMismatch · desktop))
    "protocol_collector_service_release_mismatch"
  reject (service.state==.incompatible &&
      (unnamed service.serviceVersion || service.minimumDesktopVersion.any blank))
    "protocol_collector_service_incompatible_version_invalid"

def RuntimePrivilegedCollectionV4.serviceActive (privileged : RuntimePrivilegedCollectionV4) :
    Bool :=
  privileged.collectorService.any (fun service => service.state==.active)

/-- `validate_privileged_collection` -/
def validatePrivilegedCollection (payload : RuntimeSnapshotPayloadV4) : Except String Unit := do
  let privileged := payload.privilegedCollection
  let environment := payload.environment
  reject ((privileged.state==.active)==(privileged.source==.none))
    "protocol_privileged_collection_state_source_invalid"
  reject (privileged.source==.localProcess && environment.processElevation != .elevated)
    "protocol_local_process_elevation_invalid"
  reject (timeInvalid payload.health.evaluatedAtMs privileged.lastSuccessAtMs)
    "protocol_privileged_collection_timestamp_invalid"
  ifSome privileged.collectorService (validateCollectorService environment.releaseIdentity
    payload.health.evaluatedAtMs)
  reject (privileged.source==.collectorService &&
      (privileged.state != .active || !privileged.serviceActive))
    "protocol_collector_service_source_invalid"
  reject (privileged.source==.localProcess && privileged.serviceActive)
    "protocol_local_and_service_collection_conflict"
  reject (privileged.standardFallbackProcessEtwDisabled &&
      (environment.platform != .windows || environment.processElevation != .standard ||
        privileged.source != .none || privileged.serviceActive))
    "protocol_standard_fallback_etw_authority_invalid"

end Privileged

section Sections

/-- One entry of the loop over the descriptors. -/
def validateDescriptor (entry : MeasurementDescriptor × Nat) : Except String Unit := do
  let descriptor := entry.1
  reject (descriptor.id != entry.2) "protocol_descriptor_ids_not_contiguous"
  let definition ← okOr (semanticDefinition descriptor.semantic descriptor.scope)
    "protocol_semantic_scope_invalid"
  reject (descriptor.unit != definition.unit) "protocol_semantic_unit_invalid"
  reject (descriptor.networkScope !=
      networkScopeDefinition descriptor.semantic descriptor.scope descriptor.source)
    "protocol_semantic_network_scope_invalid"
  reject (definition.sampledOverInterval != descriptor.intervalMs.isSome ||
      descriptor.intervalMs==some 0)
    "protocol_descriptor_interval_invalid"

/-- One logical processor, with the ids and the indexes seen so far. -/
def validateLogicalCpu (seen : List String × List Nat) (logical : LogicalCpuDetailV4) :
    Except String (List String × List Nat) := do
  let _ ← reject (logical.stableId != logicalCpuId logical.index ||
      seen.1.contains logical.stableId || seen.2.contains logical.index)
    "protocol_logical_cpu_identity_invalid"
  return (logical.stableId::seen.1,logical.index::seen.2)

def validatePoolTag (ids : List String) (tag : KernelPoolTagDetailV4) :
    Except String (List String) := do
  let _ ← reject (tag.stableId != poolTagId tag.tag tag.kind || blank tag.tag ||
      ids.contains tag.stableId || tag.driverCandidates.any blank)
    "protocol_kernel_pool_identity_invalid"
  return tag.stableId::ids

/-- `validate_system` -/
def validateSystem (system : SystemDetailV4) : Except String Unit := do
  reject (system.stableId != "system:local") "protocol_system_identity_invalid"
  let _ ← system.logicalCpus.foldlM validateLogicalCpu ([],[])
  let _ ← system.kernelPoolTags.foldlM validatePoolTag []

/-- `valid_process_id` -/
def validProcessId (id : String) (sampleSeq : Nat) : Bool :=
  match split ':' id with
  | ["process",pid,startTime] => (validJsSafeDecimal pid true).isSome &&
      (validJsSafeDecimal startTime false).isSome
  | ["process",pid,"publication",sequence] => (validJsSafeDecimal pid true).isSome &&
      (validJsSafeDecimal sequence true)==some sampleSeq
  | _ => false

/-- One contributor; its quality is read once its code is known to have one. -/
def validateContributor (payload : RuntimeSnapshotPayloadV4) (metrics : List ContributorMetricV4)
    (contributor : ProcessContributorV4) : Except String (List ContributorMetricV4) := do
  let quality ← okOr payload.qualityCodes[contributor.qualityCode]? "protocol_contributor_invalid"
  let _ ← reject (contributor.totalContributors < contributor.availableContributors ||
      contributor.totalContributors != payload.totalProcessCount) "protocol_contributor_invalid"
  let _ ← reject (metrics.contains contributor.metric) "protocol_duplicate_contributor_metric"
  let _ ← reject (contributor.processId.isSome && (unnamed contributor.displayName ||
      contributor.availableContributors==0 || contributor.totalContributors==0 ||
      quality==.held || quality==.unavailable))
    "protocol_contributor_identity_invalid"
  let _ ← reject (contributor.processId.any (fun id => !validProcessId id payload.sampleSeq))
    "protocol_contributor_identity_malformed"
  let _ ← reject (contributor.processId.isNone && contributor.displayName.isSome)
    "protocol_contributor_name_without_identity"
  let _ ← reject (contributor.availableContributors < contributor.totalContributors &&
      contributor.limitationIndex.isNone) "protocol_contributor_coverage_unexplained"
  let _ ← validateQualityLimitation payload.toPublicationFacts quality contributor.limitationIndex
  let _ ← reject (contributor.source==.unknown && (quality != .unavailable ||
      limitationCodeAt payload.toPublicationFacts contributor.limitationIndex !=
        some .missingMetadata)) "protocol_contributor_source_quality_contradiction"
  let _ ← reject (contributor.availableContributors < contributor.totalContributors &&
      (quality==.native || quality==.estimated))
    "protocol_contributor_quality_coverage_contradiction"
  return contributor.metric::metrics

def contributorMetrics : List ContributorMetricV4 := [.cpu,.memory,.io,.network]

def validateContributors (payload : RuntimeSnapshotPayloadV4) : Except String Unit := do
  let metrics ← payload.contributors.foldlM (validateContributor payload) []
  reject (!contributorMetrics.all metrics.contains) "protocol_contributor_catalog_incomplete"

def validateWarning (payload : RuntimeSnapshotPayloadV4) (keys : List String)
    (warning : RuntimeWarning) : Except String (List String) := do
  let _ ← reject (jsMaxSafeInteger < warning.publicationSeq ||
      jsMaxSafeInteger < warning.occurredAtMs || payload.publicationSeq < warning.publicationSeq ||
      payload.publishedAtMs < warning.occurredAtMs || blank warning.key ||
      blank warning.category || blank warning.message || keys.contains warning.key)
    "protocol_warning_invalid"
  return warning.key::keys

/-- `validate_warnings` -/
def validateWarnings (payload : RuntimeSnapshotPayloadV4) : Except String Unit := do
  let _ ← payload.warnings.foldlM (validateWarning payload) []

end Sections

def processCount (workloads : List WorkloadDetailV4) : Nat :=
  (workloads.filter (fun row => row.process?.isSome)).length

def validateMetadata (payload : RuntimeSnapshotPayloadV4) : Except String Unit := do
  reject (jsMaxSafeInteger < payload.publicationSeq || jsMaxSafeInteger < payload.publishedAtMs ||
      jsMaxSafeInteger < payload.sampleSeq ||
      payload.sampledAtMs.any (fun sampled => jsMaxSafeInteger < sampled))
    "protocol_publication_metadata_invalid"
  reject (payload.sampledAtMs.any (fun sampled => payload.publishedAtMs < sampled))
    "protocol_sample_time_after_publication"

/-- `validate_envelope` on a snapshot. -/
def validateSnapshot (payload : RuntimeSnapshotPayloadV4) : Except String Unit := do
  validateMetadata payload
  validateReleaseIdentity payload.environment.releaseIdentity
  validateSettings payload.settings
  validateHealth payload
  validatePrivilegedCollection payload
  validatePersistence payload.persistence payload.health.evaluatedAtMs
  reject (payload.qualityCodes != qualityCodes) "protocol_quality_catalog_mismatch"
  reject (payload.limitations.any (fun limitation => blank limitation.message))
    "protocol_limitation_message_empty"
  payload.descriptors.zipIdx.forM validateDescriptor
  validateSystem payload.system
  validateWorkloadSet payload.workloads payload.visibleProcessCount payload
  reject (2^32 ≤ processCount payload.overviewWorkloads) "protocol_overview_count_out_of_range"
  validateWorkloadSet payload.overviewWorkloads (processCount payload.overviewWorkloads) payload
  validateContributors payload
  validateWarnings payload

/-- `validate_envelope` -/
def validateEnvelope (envelope : ProtocolEnvelope) : Except String Unit := do
  reject (envelope.protocolVersion != runtimeProtocolVersion) "protocol_writer_version_mismatch"
  reject (runtimeProtocolVersion < envelope.compatibility.minimumReaderVersion)
    "protocol_minimum_reader_unsupported"
  match envelope.event with
  | .runtimeSnapshot payload => validateSnapshot payload
  | .protocolMismatch _ => .ok ()

end BatCave.Protocol
