import BatCave.Lib.Js
import BatCave.Protocol.Payload

/-! The snapshot as the reader gets it: the JSON that serde writes, parsed. Enumerations are
written by name in snake case, an absent value as null, an observation as five elements. -/
namespace BatCave.Reader
open BatCave.Contracts BatCave.Lib.Js BatCave.Lib.Js.Value BatCave.Protocol
open BatCave.RuntimeStore.Warnings (RuntimeWarning)
open BatCave.WorkloadHistory (RuntimePlatform)

section Names

def qualityName : MetricQualityV4 → String
  | .native => "native"
  | .estimated => "estimated"
  | .held => "held"
  | .partialQuality => "partial"
  | .unavailable => "unavailable"

def limitationName : LimitationCode → String
  | .unsupportedMetric => "unsupported_metric"
  | .accessDenied => "access_denied"
  | .authorizationScope => "authorization_scope"
  | .partialCoverage => "partial_coverage"
  | .pendingBaseline => "pending_baseline"
  | .heldValue => "held_value"
  | .collectorFailure => "collector_failure"
  | .dataLoss => "data_loss"
  | .missingMetadata => "missing_metadata"
  | .groupPartialCoverage => "group_partial_coverage"
  | .numericRange => "numeric_range"

def sourceName : MetricSourceV4 → String
  | .unknown => "unknown"
  | .directApi => "direct_api"
  | .libproc => "libproc"
  | .iokit => "iokit"
  | .pdh => "pdh"
  | .interfaceAggregate => "interface_aggregate"
  | .processAggregate => "process_aggregate"
  | .sysinfo => "sysinfo"
  | .runtime => "runtime"
  | .etw => "etw"
  | .nstat => "nstat"
  | .procfs => "procfs"
  | .ebpf => "ebpf"
  | .fixture => "fixture"

def scopeName : MetricScope → String
  | .system => "system"
  | .process => "process"
  | .group => "group"

def unitName : MetricUnit → String
  | .percentOneCore => "percent_one_core"
  | .percentSystem => "percent_system"
  | .bytes => "bytes"
  | .bytesPerSecond => "bytes_per_second"
  | .count => "count"

def networkScopeName : NetworkScopeV4 → String
  | .nonLoopbackInterfaceAggregate => "non_loopback_interface_aggregate"
  | .allInterfaceAggregate => "all_interface_aggregate"
  | .ipSocketPayload => "ip_socket_payload"

def semanticName : MetricSemantic → String
  | .cpuUsage => "cpu_usage"
  | .kernelCpuUsage => "kernel_cpu_usage"
  | .logicalCpuUsage => "logical_cpu_usage"
  | .residentMemory => "resident_memory"
  | .privateMemory => "private_memory"
  | .virtualMemory => "virtual_memory"
  | .memoryUsed => "memory_used"
  | .memoryCapacity => "memory_capacity"
  | .memoryAvailable => "memory_available"
  | .swapUsed => "swap_used"
  | .swapCapacity => "swap_capacity"
  | .processWorkingSetMemory => "process_working_set_memory"
  | .processPrivateMemory => "process_private_memory"
  | .deniedProcessCount => "denied_process_count"
  | .partialProcessCount => "partial_process_count"
  | .commitUsed => "commit_used"
  | .commitLimit => "commit_limit"
  | .systemCache => "system_cache"
  | .kernelMemory => "kernel_memory"
  | .kernelPagedPool => "kernel_paged_pool"
  | .kernelNonpagedPool => "kernel_nonpaged_pool"
  | .kernelPoolBytes => "kernel_pool_bytes"
  | .kernelPoolAllocations => "kernel_pool_allocations"
  | .kernelPoolFrees => "kernel_pool_frees"
  | .physicalDiskReadTotal => "physical_disk_read_total"
  | .physicalDiskWriteTotal => "physical_disk_write_total"
  | .physicalDiskReadRate => "physical_disk_read_rate"
  | .physicalDiskWriteRate => "physical_disk_write_rate"
  | .readIoTotal => "read_io_total"
  | .writeIoTotal => "write_io_total"
  | .otherIoTotal => "other_io_total"
  | .readIoRate => "read_io_rate"
  | .writeIoRate => "write_io_rate"
  | .otherIoRate => "other_io_rate"
  | .readWriteIoRate => "read_write_io_rate"
  | .networkReceiveTotal => "network_receive_total"
  | .networkTransmitTotal => "network_transmit_total"
  | .networkReceiveRate => "network_receive_rate"
  | .networkTransmitRate => "network_transmit_rate"
  | .networkRate => "network_rate"
  | .processCount => "process_count"
  | .threadCount => "thread_count"
  | .handleCount => "handle_count"

def platformName : RuntimePlatform → String
  | .windows => "windows"
  | .linux => "linux"
  | .macos => "macos"
  | .fixture => "fixture"

def architectureName : RuntimeArchitectureV4 → String
  | .x86_64 => "x86_64"
  | .aarch64 => "aarch64"
  | .x86 => "x86"
  | .unknown => "unknown"

def elevationName : RuntimeProcessElevation → String
  | .unknown => "unknown"
  | .standard => "standard"
  | .elevated => "elevated"
  | .notApplicable => "not_applicable"

def installKindName : RuntimeInstallKind → String
  | .unknown => "unknown"
  | .nsis => "nsis"
  | .appimage => "appimage"
  | .deb => "deb"
  | .dmg => "dmg"
  | .appBundle => "app_bundle"
  | .portable => "portable"
  | .development => "development"

def privilegedStateName : PrivilegedCollectionStateV4 → String
  | .unavailable => "unavailable"
  | .standardOnly => "standard_only"
  | .connecting => "connecting"
  | .active => "active"
  | .recovering => "recovering"
  | .failed => "failed"

def privilegedSourceName : PrivilegedCollectionSourceV4 → String
  | .none => "none"
  | .localProcess => "local_process"
  | .collectorService => "collector_service"

def preferenceName : PrivilegedCollectionPreferenceV4 → String
  | .standardOnly => "standard_only"
  | .bestAvailable => "best_available"

def serviceStateName : RuntimeCollectorServiceState → String
  | .notInstalled => "not_installed"
  | .stopped => "stopped"
  | .connecting => "connecting"
  | .recovering => "recovering"
  | .active => "active"
  | .incompatible => "incompatible"
  | .unauthorized => "unauthorized"
  | .failed => "failed"

def focusModeName : ProcessFocusMode → String
  | .all => "all"
  | .attention => "attention"
  | .io => "io"

def sortColumnName : SortColumn → String
  | .attention => "attention"
  | .name => "name"
  | .pid => "pid"
  | .cpuPct => "cpu_pct"
  | .memoryBytes => "memory_bytes"
  | .ioBps => "io_bps"
  | .networkBps => "network_bps"
  | .threads => "threads"
  | .handles => "handles"
  | .startTimeMs => "start_time_ms"

def sortDirectionName : SortDirection → String
  | .asc => "asc"
  | .desc => "desc"

def engineStateName : RuntimeEngineState → String
  | .starting => "starting"
  | .running => "running"
  | .paused => "paused"
  | .fatal => "fatal"

def collectorStateName : RuntimeCollectorState → String
  | .healthy => "healthy"
  | .limited => "limited"
  | .unavailable => "unavailable"

def freshnessName : RuntimeFreshness → String
  | .starting => "starting"
  | .live => "live"
  | .paused => "paused"
  | .stale => "stale"

def reasonName : RuntimeHealthReason → String
  | .collectorUnavailable => "collector_unavailable"
  | .collectorLimited => "collector_limited"
  | .collectorWarning => "collector_warning"
  | .persistenceUnavailable => "persistence_unavailable"
  | .persistenceDegraded => "persistence_degraded"
  | .cadenceMissed => "cadence_missed"
  | .runtimeCpuBudget => "runtime_cpu_budget"
  | .runtimeMemoryBudget => "runtime_memory_budget"
  | .engineFatal => "engine_fatal"
  | .heartbeatStale => "heartbeat_stale"
  | .publicationStale => "publication_stale"
  | .sampleStale => "sample_stale"

def persistenceStateName : RuntimePersistenceStateV4 → String
  | .healthy => "healthy"
  | .degraded => "degraded"
  | .unavailable => "unavailable"

def ownerName : RuntimePersistenceOwnerV4 → String
  | .currentUser => "current_user"
  | .collectorService => "collector_service"

def permissionName : RuntimePersistencePermissionStateV4 → String
  | .verified => "verified"
  | .invalid => "invalid"
  | .unavailable => "unavailable"

def persistenceKindName : RuntimePersistenceKindV4 → String
  | .settings => "settings"
  | .warmCache => "warm_cache"
  | .diagnostics => "diagnostics"
  | .serviceState => "service_state"

def durabilityName : RuntimePersistenceDurabilityV4 → String
  | .durable => "durable"
  | .notWritten => "not_written"
  | .sessionOnly => "session_only"
  | .notApplicable => "not_applicable"

def operationName : RuntimePersistenceOperationV4 → String
  | .resolveRoot => "resolve_root"
  | .create => "create"
  | .load => "load"
  | .parse => "parse"
  | .migrate => "migrate"
  | .serialize => "serialize"
  | .write => "write"
  | .sync => "sync"
  | .replace => "replace"
  | .rotate => "rotate"
  | .remove => "remove"
  | .permissions => "permissions"

def poolKindName : KernelPoolKindV4 → String
  | .paged => "paged"
  | .nonpaged => "nonpaged"

def stabilityName : ProcessIdentityStabilityV4 → String
  | .stable => "stable"
  | .publication => "publication"

def accessName : AccessState → String
  | .full => "full"
  | .partialAccess => "partial"
  | .denied => "denied"

def contributorMetricName : ContributorMetricV4 → String
  | .cpu => "cpu"
  | .memory => "memory"
  | .io => "io"
  | .network => "network"

end Names

section Wire

def releaseIdentityWire (identity : RuntimeReleaseIdentity) : Value :=
  .obj [("app_version",.str identity.appVersion),
    ("source_commit_sha",orNull .str identity.sourceCommitSha)]

def environmentWire (environment : RuntimeEnvironmentV4) : Value :=
  .obj [("platform",.str (platformName environment.platform)),
    ("architecture",.str (architectureName environment.architecture)),
    ("process_elevation",.str (elevationName environment.processElevation)),
    ("install_kind",.str (installKindName environment.installKind)),
    ("data_directory",orNull .str environment.dataDirectory),
    ("release_identity",releaseIdentityWire environment.releaseIdentity)]

def collectorServiceWire (service : RuntimeCollectorServiceStatus) : Value :=
  .obj [("state",.str (serviceStateName service.state)),
    ("release_identity",orNull releaseIdentityWire service.releaseIdentity),
    ("service_version",orNull .str service.serviceVersion),
    ("negotiated_protocol_version",orNull .nat service.negotiatedProtocolVersion),
    ("minimum_desktop_version",orNull .str service.minimumDesktopVersion),
    ("instance_id",orNull .str service.instanceId),
    ("last_connected_at_ms",orNull .nat service.lastConnectedAtMs),
    ("detail",orNull .str service.detail)]

def privilegedCollectionWire (privileged : RuntimePrivilegedCollectionV4) : Value :=
  .obj [("state",.str (privilegedStateName privileged.state)),
    ("source",.str (privilegedSourceName privileged.source)),
    ("preference",.str (preferenceName privileged.preference)),
    ("standard_fallback_process_etw_disabled",
      .bool privileged.standardFallbackProcessEtwDisabled),
    ("detail",orNull .str privileged.detail),
    ("last_success_at_ms",orNull .nat privileged.lastSuccessAtMs),
    ("collector_service",orNull collectorServiceWire privileged.collectorService)]

def queryWire (query : RuntimeQueryV4) : Value :=
  .obj [("filter_text",.str query.filterText),
    ("focus_mode",.str (focusModeName query.focusMode)),
    ("sort_column",.str (sortColumnName query.sortColumn)),
    ("sort_direction",.str (sortDirectionName query.sortDirection)),
    ("limit",.nat query.limit)]

def uiPreferencesWire (preferences : RuntimeUiPreferences) : Value :=
  .obj [("theme",.str preferences.theme),
    ("history_point_limit",.nat preferences.historyPointLimit)]

def settingsWire (settings : RuntimeSettingsV4) : Value :=
  .obj [("query",queryWire settings.query),
    ("metric_window_seconds",.nat settings.metricWindowSeconds),
    ("effective_sample_interval_ms",.nat settings.effectiveSampleIntervalMs),
    ("collection_paused",.bool settings.collectionPaused),
    ("ui_preferences",orNull uiPreferencesWire settings.uiPreferences)]

def fatalErrorWire (error : RuntimeFatalError) : Value :=
  .obj [("code",.str error.code),("message",.str error.message),
    ("occurred_at_ms",.nat error.occurredAtMs)]

def healthWire (health : RuntimeHealthV4) : Value :=
  .obj [("engine_state",orNull (.str ∘ engineStateName) health.engineState),
    ("collector_state",orNull (.str ∘ collectorStateName) health.collectorState),
    ("degraded",.bool health.degraded),
    ("freshness",.str (freshnessName health.freshness)),
    ("reason_codes",.arr (health.reasonCodes.map (.str ∘ reasonName))),
    ("status_summary",.str health.statusSummary),
    ("evaluated_at_ms",.nat health.evaluatedAtMs),
    ("last_heartbeat_at_ms",orNull .nat health.lastHeartbeatAtMs),
    ("heartbeat_age_ms",orNull .nat health.heartbeatAgeMs),
    ("publication_age_ms",.nat health.publicationAgeMs),
    ("sample_age_ms",orNull .nat health.sampleAgeMs),
    ("deadline_misses",orNull .nat health.deadlineMisses),
    ("deadline_lateness_p95_ms",orNull .num health.deadlineLatenessP95Ms),
    ("collection_latency_ms",orNull .num health.collectionLatencyMs),
    ("collection_p95_ms",orNull .num health.collectionP95Ms),
    ("publication_latency_ms",orNull .num health.publicationLatencyMs),
    ("publication_p95_ms",orNull .num health.publicationP95Ms),
    ("collector_warning_count",.nat health.collectorWarningCount),
    ("app_cpu_percent",.num health.appCpuPercent),
    ("app_rss_bytes",.nat health.appRssBytes),
    ("last_warning",orNull .str health.lastWarning),
    ("fatal_error",orNull fatalErrorWire health.fatalError)]

def persistenceRootWire (root : RuntimePersistenceRootV4) : Value :=
  .obj [("owner",.str (ownerName root.owner)),("directory",orNull .str root.directory),
    ("permission_state",.str (permissionName root.permissionState))]

def persistenceFailureWire (failure : RuntimePersistenceFailureV4) : Value :=
  .obj [("code",.str failure.code),("operation",.str (operationName failure.operation)),
    ("occurred_at_ms",.nat failure.occurredAtMs),("retryable",.bool failure.retryable),
    ("summary",.str failure.summary)]

def persistenceComponentWire (component : RuntimePersistenceComponentV4) : Value :=
  .obj [("owner",.str (ownerName component.owner)),
    ("kind",.str (persistenceKindName component.kind)),
    ("state",.str (persistenceStateName component.state)),
    ("durability",.str (durabilityName component.durability)),
    ("last_success_at_ms",orNull .nat component.lastSuccessAtMs),
    ("active_failure",orNull persistenceFailureWire component.activeFailure)]

def persistenceWire (persistence : RuntimePersistenceV4) : Value :=
  .obj [("state",.str (persistenceStateName persistence.state)),
    ("roots",.arr (persistence.roots.map persistenceRootWire)),
    ("components",.arr (persistence.components.map persistenceComponentWire)),
    ("suppressed_diagnostic_events",.nat persistence.suppressedDiagnosticEvents)]

def descriptorWire (descriptor : MeasurementDescriptor) : Value :=
  .obj [("id",.nat descriptor.id),("semantic",.str (semanticName descriptor.semantic)),
    ("scope",.str (scopeName descriptor.scope)),("unit",.str (unitName descriptor.unit)),
    ("interval_ms",orNull .nat descriptor.intervalMs),
    ("network_scope",orNull (.str ∘ networkScopeName) descriptor.networkScope),
    ("source",.str (sourceName descriptor.source))]

def observationWire (observation : MetricObservation) : Value :=
  .arr [.nat observation.descriptorIndex,orNull .num observation.value,
    .nat observation.qualityCode,orNull .nat observation.observedAtMs,
    orNull .nat observation.limitationIndex]

def metricsWire (metrics : List MetricObservation) : Value := .arr (metrics.map observationWire)

def limitationWire (limitation : LimitationEntry) : Value :=
  .obj [("code",.str (limitationName limitation.code)),("message",.str limitation.message)]

def logicalCpuWire (logical : LogicalCpuDetailV4) : Value :=
  .obj [("stable_id",.str logical.stableId),("index",.nat logical.index),
    ("metrics",metricsWire logical.metrics)]

def poolTagWire (tag : KernelPoolTagDetailV4) : Value :=
  .obj [("stable_id",.str tag.stableId),("tag",.str tag.tag),("kind",.str (poolKindName tag.kind)),
    ("driver_candidates",.arr (tag.driverCandidates.map .str)),
    ("driver_candidates_pending",.bool tag.driverCandidatesPending),
    ("metrics",metricsWire tag.metrics)]

def systemWire (system : SystemDetailV4) : Value :=
  .obj [("stable_id",.str system.stableId),("metrics",metricsWire system.metrics),
    ("logical_cpus",.arr (system.logicalCpus.map logicalCpuWire)),
    ("kernel_pool_tags",.arr (system.kernelPoolTags.map poolTagWire))]

def presentationWire (presentation : ProcessPresentationV4) : Value :=
  .obj [("group_id",orNull .str presentation.groupId),("group_key",.str presentation.groupKey),
    ("group_label",.str presentation.groupLabel),
    ("group_category",.str presentation.groupCategory),
    ("group_count",.nat presentation.groupCount),("icon_kind",.str presentation.iconKind),
    ("is_child",.bool presentation.isChild),("is_grouped",.bool presentation.isGrouped)]

def processWire (process : ProcessDetailV4) : Value :=
  .obj [("stable_id",.str process.stableId),
    ("identity_stability",.str (stabilityName process.identityStability)),
    ("pid",.str process.pid),("parent_pid",orNull .str process.parentPid),
    ("parent_process_id",orNull .str process.parentProcessId),
    ("start_time_ms",orNull .nat process.startTimeMs),("display_name",.str process.displayName),
    ("executable",.str process.executable),("status",.str process.status),
    ("access_state",.str (accessName process.accessState)),
    ("presentation",presentationWire process.presentation),
    ("metrics",metricsWire process.metrics)]

def coverageWire (coverage : GroupMetricCoverageV4) : Value :=
  .obj [("descriptor_index",.nat coverage.descriptorIndex),
    ("available_contributors",.nat coverage.availableContributors),
    ("total_contributors",.nat coverage.totalContributors),
    ("limitation_index",orNull .nat coverage.limitationIndex)]

def groupWire (detail : GroupDetailV4) : Value :=
  .obj [("stable_id",.str detail.stableId),("group_key",.str detail.groupKey),
    ("label",.str detail.label),("category",.str detail.category),
    ("member_ids",.arr (detail.memberIds.map .str)),("icon_kind",.str detail.iconKind),
    ("icon_source",orNull .str detail.iconSource),
    ("example_label",orNull .str detail.exampleLabel),("metrics",metricsWire detail.metrics),
    ("coverage",.arr (detail.coverage.map coverageWire))]

/-- Tagged by kind, with the detail beside it. -/
def workloadWire : WorkloadDetailV4 → Value
  | .process detail => .obj [("kind",.str "process"),("detail",processWire detail)]
  | .group detail => .obj [("kind",.str "group"),("detail",groupWire detail)]

def contributorWire (contributor : ProcessContributorV4) : Value :=
  .obj [("metric",.str (contributorMetricName contributor.metric)),
    ("process_id",orNull .str contributor.processId),
    ("display_name",orNull .str contributor.displayName),
    ("name_ambiguous",.bool contributor.nameAmbiguous),
    ("available_contributors",.nat contributor.availableContributors),
    ("total_contributors",.nat contributor.totalContributors),
    ("quality_code",.nat contributor.qualityCode),
    ("source",.str (sourceName contributor.source)),
    ("limitation_index",orNull .nat contributor.limitationIndex)]

def warningWire (warning : RuntimeWarning) : Value :=
  .obj [("key",.str warning.key),("publication_seq",.nat warning.publicationSeq),
    ("occurred_at_ms",.nat warning.occurredAtMs),("category",.str warning.category),
    ("message",.str warning.message)]

def workloadsWire (workloads : List WorkloadDetailV4) : Value := .arr (workloads.map workloadWire)

def payloadWire (payload : RuntimeSnapshotPayloadV4) : Value :=
  .obj [("publication_seq",.nat payload.publicationSeq),
    ("published_at_ms",.nat payload.publishedAtMs),
    ("sample_seq",.nat payload.sampleSeq),
    ("sampled_at_ms",orNull .nat payload.sampledAtMs),
    ("source",.str payload.source),
    ("environment",environmentWire payload.environment),
    ("privileged_collection",privilegedCollectionWire payload.privilegedCollection),
    ("settings",settingsWire payload.settings),
    ("health",healthWire payload.health),
    ("persistence",orNull persistenceWire payload.persistence),
    ("descriptors",.arr (payload.descriptors.map descriptorWire)),
    ("quality_codes",.arr (payload.qualityCodes.map (.str ∘ qualityName))),
    ("limitations",.arr (payload.limitations.map limitationWire)),
    ("system",systemWire payload.system),
    ("workloads",workloadsWire payload.workloads),
    ("overview_workloads",workloadsWire payload.overviewWorkloads),
    ("contributors",.arr (payload.contributors.map contributorWire)),
    ("total_process_count",.nat payload.totalProcessCount),
    ("visible_process_count",.nat payload.visibleProcessCount),
    ("warnings",.arr (payload.warnings.map warningWire))]

def mismatchReasonName : ProtocolMismatchReason → String
  | .legacyWriter => "legacy_writer"
  | .readerTooOld => "reader_too_old"
  | .breakingWriter => "breaking_writer"
  | .malformedPayload => "malformed_payload"

def eventWire : ProtocolEvent → Value
  | .runtimeSnapshot payload =>
    .obj [("kind",.str "runtime_snapshot"),("payload",payloadWire payload)]
  | .protocolMismatch payload =>
    .obj [("kind",.str "protocol_mismatch"),
      ("payload",.obj [("reason",.str (mismatchReasonName payload.reason)),
        ("writer_version",.nat payload.writerVersion),
        ("minimum_reader_version",.nat payload.minimumReaderVersion),
        ("message",.str payload.message)])]

def envelopeWire (envelope : ProtocolEnvelope) : Value :=
  .obj [("protocol_version",.nat envelope.protocolVersion),
    ("compatibility",
      .obj [("minimum_reader_version",.nat envelope.compatibility.minimumReaderVersion),
        ("breaking",.bool envelope.compatibility.breaking)]),
    ("event",eventWire envelope.event)]

end Wire
end BatCave.Reader
