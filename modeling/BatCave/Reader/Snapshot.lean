import BatCave.CollectorService.Protocol
import BatCave.Reader.Workloads

/-! The desktop reader: what it makes of an envelope, check by check. The host's locale
decides how it lower-cases a text. -/
namespace BatCave.Reader
open BatCave.CollectorService (isAsciiHexdigit)
open BatCave.Lib.Js BatCave.Lib.Js.Value BatCave.Lib.Result

/-- The part of the host that a check depends on: `toLocaleLowerCase`. -/
structure HostLocale where
  toLocaleLowerCase : String → String

section Sets

def platforms : List String := ["windows","linux","macos","fixture"]
def architectures : List String := ["x86_64","aarch64","x86","unknown"]
def elevations : List String := ["unknown","standard","elevated","not_applicable"]
def installKinds : List String :=
  ["unknown","nsis","appimage","deb","dmg","app_bundle","portable","development"]

def privilegedStates : List String :=
  ["unavailable","standard_only","connecting","active","recovering","failed"]

def privilegedSources : List String := ["none","local_process","collector_service"]
def privilegedPreferences : List String := ["standard_only","best_available"]
def collectorServiceStates : List String :=
  ["not_installed","stopped","connecting","recovering","active","incompatible","unauthorized",
    "failed"]

def focusModes : List String := ["all","attention","io"]
def sortColumns : List String :=
  ["attention","name","pid","cpu_pct","memory_bytes","io_bps","network_bps","threads","handles",
    "start_time_ms"]

def sortDirections : List String := ["asc","desc"]
def engineStates : List String := ["starting","running","paused","fatal"]
def collectorStates : List String := ["healthy","limited","unavailable"]
def kernelPoolKinds : List String := ["paged","nonpaged"]
def persistenceStates : List String := ["healthy","degraded","unavailable"]
def persistenceOwners : List String := ["current_user","collector_service"]
def persistencePermissions : List String := ["verified","invalid","unavailable"]
def persistenceKinds : List String := ["settings","warm_cache","diagnostics","service_state"]
def persistenceDurability : List String :=
  ["durable","not_written","session_only","not_applicable"]

def persistenceOperations : List String :=
  ["resolve_root","create","load","parse","migrate","serialize","write","sync","replace","rotate",
    "remove","permissions"]

def knownReasons : List String :=
  ["collector_unavailable","collector_limited","collector_warning","persistence_unavailable",
    "persistence_degraded","cadence_missed","runtime_cpu_budget","runtime_memory_budget",
    "engine_fatal","heartbeat_stale","publication_stale","sample_stale"]

end Sets

section Context

/-- `value !== null && !accept(value)` -/
def refused (v : Value) (accept : Value → Bool) : Bool := !v.isNull && !accept v

/-- `typeof v === "string" && v.trim().length > 0`, as the checks that spell it out do. -/
def blankText (v : Value) : Bool := !v.isString || (trim v.text).length==0

/-- `validReleaseIdentity`: the length is that of the whole version. -/
def validReleaseIdentity (v : Value) : Bool :=
  v.isRecord && !blankText (v.get "app_version") &&
    (v.get "app_version").text.utf8ByteSize ≤ 64 &&
    ((v.get "source_commit_sha").isNull ||
      ((v.get "source_commit_sha").isString &&
        (v.get "source_commit_sha").text.toList.length==40 &&
        (v.get "source_commit_sha").text.toList.all isAsciiHexdigit))

def serviceReleaseMatchesDesktop (service desktop : Value) : Bool :=
  validReleaseIdentity service && validReleaseIdentity desktop &&
    (service.get "app_version").same (desktop.get "app_version") &&
    ((service.get "source_commit_sha").isNull ||
      (service.get "source_commit_sha").same (desktop.get "source_commit_sha"))

def serviceMalformed (service health : Value) : Bool :=
  !service.isRecord || !(service.get "state").isIn collectorServiceStates ||
    refused (service.get "release_identity") validReleaseIdentity ||
    refused (service.get "service_version") isString ||
    refused (service.get "negotiated_protocol_version") safeInteger ||
    refused (service.get "minimum_desktop_version") isString ||
    refused (service.get "instance_id") isString ||
    (!(service.get "last_connected_at_ms").isNull &&
      (!safeInteger (service.get "last_connected_at_ms") ||
        (health.get "evaluated_at_ms").lt (service.get "last_connected_at_ms"))) ||
    refused (service.get "detail") isString

/-- `validateCollectorService` -/
def validateCollectorService (privileged health desktopReleaseIdentity : Value) :
    Except String Unit := do
  reject (!(privileged.get "last_success_at_ms").isNull &&
      (health.get "evaluated_at_ms").lt (privileged.get "last_success_at_ms"))
    "Privileged collection success occurs after health evaluation."
  let service := privileged.get "collector_service"
  if service.isNull then
    reject ((privileged.get "source").isStr "collector_service")
      "Collector-service source has no service status."
  else
    let active := (service.get "state").isStr "active"
    reject (serviceMalformed service health) "Collector-service status is malformed."
    reject (active && (!validReleaseIdentity (service.get "release_identity") ||
        blankText (service.get "service_version") ||
        (service.get "negotiated_protocol_version").isNull ||
        blankText (service.get "instance_id") || (service.get "last_connected_at_ms").isNull))
      "Active collector-service status lacks identity, version, or time."
    reject (active && !serviceReleaseMatchesDesktop (service.get "release_identity")
        desktopReleaseIdentity)
      "Active collector-service release identity does not match desktop."
    reject ((service.get "state").isStr "incompatible" &&
        (blankText (service.get "service_version") ||
          refused (service.get "minimum_desktop_version") (fun v => !blankText v)))
      "Incompatible collector-service status lacks version detail."
    reject ((privileged.get "source").isStr "collector_service" &&
        (!(privileged.get "state").isStr "active" || !active))
      "Collector-service source is not active."
    reject ((privileged.get "source").isStr "local_process" && active)
      "Local and collector-service collection cannot both be active."

def validatePrivileged (payload : Value) : Except String Unit := do
  let environment := payload.get "environment"
  let privileged := payload.get "privileged_collection"
  reject (!(privileged.get "state").isIn privilegedStates ||
      !(privileged.get "source").isIn privilegedSources ||
      !(privileged.get "preference").isIn privilegedPreferences ||
      !(privileged.get "standard_fallback_process_etw_disabled").isBoolean ||
      refused (privileged.get "detail") isString ||
      refused (privileged.get "last_success_at_ms") safeInteger)
    "Privileged collection context is malformed."
  reject ((privileged.get "state").isStr "active" != !(privileged.get "source").isStr "none")
    "Privileged collection state and source are inconsistent."
  reject ((privileged.get "source").isStr "local_process" &&
      !(environment.get "process_elevation").isStr "elevated")
    "Local-process privileged source requires an elevated process."
  validateCollectorService privileged (payload.get "health") (environment.get "release_identity")
  reject ((privileged.get "standard_fallback_process_etw_disabled").truthy &&
      (!(environment.get "platform").isStr "windows" ||
        !(environment.get "process_elevation").isStr "standard" ||
        !(privileged.get "source").isStr "none" ||
        ((privileged.get "collector_service").get "state").isStr "active"))
    "Standard-fallback ETW authority is inconsistent."

def uiPreferencesMalformed (preferences : Value) : Bool :=
  !preferences.isRecord || blankText (preferences.get "theme") ||
    64 < (preferences.get "theme").text.toList.length ||
    !safeInteger (preferences.get "history_point_limit") ||
    (preferences.get "history_point_limit").same (.nat 0)

def settingsMalformed (settings : Value) : Bool :=
  let query := settings.get "query"
  !(query.get "filter_text").isString || !(query.get "focus_mode").isIn focusModes ||
    !(query.get "sort_column").isIn sortColumns ||
    !(query.get "sort_direction").isIn sortDirections || !safeInteger (query.get "limit") ||
    !(settings.get "collection_paused").isBoolean ||
    !safeInteger (settings.get "metric_window_seconds") ||
    !safeInteger (settings.get "effective_sample_interval_ms") ||
    (settings.get "metric_window_seconds").same (.nat 0) ||
    (settings.get "effective_sample_interval_ms").same (.nat 0) ||
    refused (settings.get "ui_preferences") (fun v => !uiPreferencesMalformed v)

end Context

section Health

def engineIntegerFacts (health : Value) : List Value :=
  [health.get "last_heartbeat_at_ms",health.get "heartbeat_age_ms",health.get "deadline_misses"]

def engineNumericFacts (health : Value) : List Value :=
  [health.get "deadline_lateness_p95_ms",health.get "collection_latency_ms",
    health.get "collection_p95_ms",health.get "publication_latency_ms",
    health.get "publication_p95_ms"]

def fatalErrorMalformed (error : Value) : Bool :=
  !error.isRecord || blankText (error.get "code") || blankText (error.get "message") ||
    !safeInteger (error.get "occurred_at_ms")

def validateHealthFacts (payload : Value) : Except String Unit := do
  let health := payload.get "health"
  let evaluated := health.get "evaluated_at_ms"
  reject (!safeInteger evaluated || !safeInteger (health.get "publication_age_ms") ||
      !safeInteger (health.get "collector_warning_count") ||
      !safeInteger (health.get "app_rss_bytes") ||
      !nonNegativeFiniteNumber (health.get "app_cpu_percent") ||
      refused (health.get "sample_age_ms") safeInteger || !(health.get "degraded").isBoolean ||
      !(health.get "status_summary").isString || refused (health.get "last_warning") isString)
    "Runtime health is malformed."
  reject (refused (health.get "engine_state") (isIn · engineStates) ||
      (engineIntegerFacts health).any (refused · safeInteger) ||
      (engineNumericFacts health).any (refused · nonNegativeFiniteNumber) ||
      refused (health.get "collector_state") (isIn · collectorStates) ||
      refused (health.get "fatal_error") (fun v => !fatalErrorMalformed v))
    "Runtime engine health is malformed."
  reject (evaluated.lt (payload.get "published_at_ms") ||
      !(health.get "publication_age_ms").same (evaluated.sub (payload.get "published_at_ms")))
    "Runtime publication age is inconsistent."
  let sampled := payload.get "sampled_at_ms"
  let sampleAge := health.get "sample_age_ms"
  reject (if sampled.isNull then !sampleAge.isNull
      else sampleAge.isNull || evaluated.lt sampled || !sampleAge.same (evaluated.sub sampled))
    "Runtime sample age is inconsistent."
  let heartbeat := health.get "last_heartbeat_at_ms"
  let heartbeatAge := health.get "heartbeat_age_ms"
  reject (if heartbeat.isNull || heartbeatAge.isNull then !heartbeat.same heartbeatAge
      else evaluated.lt heartbeat || !heartbeatAge.same (evaluated.sub heartbeat))
    "Runtime heartbeat age is inconsistent."

def validateHealthStates (payload : Value) : Except String Unit := do
  let health := payload.get "health"
  let engineState := health.get "engine_state"
  let paused := (payload.get "settings").get "collection_paused"
  let hasEngineOwnedFact := (engineIntegerFacts health).any (fun v => !v.isNull) ||
    (engineNumericFacts health).any (fun v => !v.isNull) ||
    !(health.get "collector_state").isNull || !(health.get "fatal_error").isNull
  reject (engineState.isNull && hasEngineOwnedFact) "Runtime engine facts require an engine state."
  reject (!(health.get "deadline_lateness_p95_ms").isNull &&
      (health.get "deadline_misses").isNull)
    "Runtime deadline lateness requires deadline ownership."
  reject (engineState.isStr "fatal" && (health.get "fatal_error").isNull)
    "Fatal runtime engine state requires a fatal error."
  reject (!engineState.isNull && !engineState.isStr "fatal" && !(health.get "fatal_error").isNull)
    "Nonfatal runtime engine state cannot carry a fatal error."
  reject (!(health.get "degraded").truthy && (engineState.isStr "fatal" ||
      (health.get "collector_state").isStr "limited" ||
      (health.get "collector_state").isStr "unavailable"))
    "Runtime failure or limited collection state must be degraded."
  reject (!engineState.isNull && !engineState.isStr "fatal" &&
      paused.truthy != engineState.isStr "paused")
    "Runtime pause state is inconsistent with settings."
  reject (!(health.get "fatal_error").isNull &&
      (health.get "evaluated_at_ms").lt ((health.get "fatal_error").get "occurred_at_ms"))
    "Runtime fatal error occurs after health evaluation."

/-- `Math.min(5000, Math.max(500, interval)) * 2` -/
def staleBudget (interval : Value) : Value :=
  match interval with
  | .nat n => .nat (min 5000 (max 500 n)*2)
  | _ => .undefined

def validateHealthReasons (payload : Value) : Except String Unit := do
  let health := payload.get "health"
  let settings := payload.get "settings"
  let engineState := health.get "engine_state"
  let reasons := (health.get "reason_codes").items
  reject (!(health.get "reason_codes").isArray ||
      reasons.any (fun reason => !reason.isIn knownReasons) || !Value.distinct reasons ||
      (health.get "degraded").truthy != decide (0 < reasons.length))
    "Runtime health reasons are malformed."
  let fatal := engineState.isStr "fatal"
  let paused := (settings.get "collection_paused").truthy || engineState.isStr "paused"
  let starting := (payload.get "sampled_at_ms").isNull || engineState.isStr "starting"
  let active := !fatal && !paused && !starting
  let budget := staleBudget (settings.get "effective_sample_interval_ms")
  let running := engineState.isStr "running"
  let heartbeatAge := health.get "heartbeat_age_ms"
  let sampleAge := health.get "sample_age_ms"
  let heartbeatStale := active && running && (heartbeatAge.isNull || budget.lt heartbeatAge)
  let publicationStale := active && running && budget.lt (health.get "publication_age_ms")
  let sampleStale := active && (sampleAge.isNull || budget.lt sampleAge)
  let unavailable := (health.get "collector_state").isStr "unavailable"
  [("engine_fatal",fatal),("collector_unavailable",unavailable),
    ("collector_limited",(health.get "collector_state").isStr "limited"),
    ("heartbeat_stale",heartbeatStale),("publication_stale",publicationStale),
    ("sample_stale",sampleStale)].forM (fun entry =>
      reject (reasons.any (fun reason => reason.isStr entry.1) != entry.2)
        "Runtime health reason contradicts its facts.")
  let expectedFreshness :=
    if fatal then "stale"
    else if paused then "paused"
    else if starting then "starting"
    else if unavailable || heartbeatStale || publicationStale || sampleStale then "stale"
    else "live"
  reject (!(health.get "freshness").isStr expectedFreshness)
    "Runtime freshness contradicts its facts."

end Health

section Persistence

def stateRank (state : String) : Nat :=
  if state="healthy" then 0 else if state="degraded" then 1 else 2

/-- `recordState` -/
def recordState (worst : Option String) (state : String) : Option String :=
  match worst with
  | none => some state
  | some current => if stateRank current < stateRank state then some state else some current

def permissionState (permission : Value) : String :=
  if permission.isStr "verified" then "healthy"
  else if permission.isStr "invalid" then "degraded"
  else "unavailable"

def readRoot (state : List String × Option String) (root : Value) :
    Except String (List String × Option String) := do
  let permission := root.get "permission_state"
  let directory := root.get "directory"
  let _ ← reject (!root.isRecord || !(root.get "owner").isIn persistenceOwners ||
      state.1.contains (root.get "owner").text || refused directory isString ||
      !permission.isIn persistencePermissions ||
      (permission.isStr "verified" && blankText directory) ||
      (permission.isStr "unavailable" && !directory.isNull))
    "Runtime persistence root is malformed or duplicated."
  return ((root.get "owner").text::state.1,recordState state.2 (permissionState permission))

def failureMalformed (evaluatedAtMs failure : Value) : Bool :=
  !failure.isRecord || blankText (failure.get "code") ||
    !(failure.get "operation").isIn persistenceOperations ||
    !safeInteger (failure.get "occurred_at_ms") ||
    evaluatedAtMs.lt (failure.get "occurred_at_ms") || !(failure.get "retryable").isBoolean ||
    blankText (failure.get "summary")

def componentMalformed (evaluatedAtMs : Value) (rootOwners componentKeys : List String)
    (component : Value) : Bool :=
  let key := (component.get "owner").shown++":"++(component.get "kind").shown
  !(component.get "owner").isIn persistenceOwners ||
    !rootOwners.contains (component.get "owner").text ||
    !(component.get "kind").isIn persistenceKinds || componentKeys.contains key ||
    !(component.get "state").isIn persistenceStates ||
    !(component.get "durability").isIn persistenceDurability ||
    (!(component.get "last_success_at_ms").isNull &&
      (!safeInteger (component.get "last_success_at_ms") ||
        evaluatedAtMs.lt (component.get "last_success_at_ms"))) ||
    refused (component.get "active_failure") (fun v => !failureMalformed evaluatedAtMs v)

def readComponent (evaluatedAtMs : Value) (rootOwners : List String)
    (state : List String × Option String) (component : Value) :
    Except String (List String × Option String) := do
  let _ ← reject (!component.isRecord) "Runtime persistence component is malformed."
  let _ ← reject (componentMalformed evaluatedAtMs rootOwners state.1 component)
    "Runtime persistence component is malformed or duplicated."
  let own := component.get "state"
  let durability := component.get "durability"
  let failed := !(component.get "active_failure").isNull
  let _ ← reject ((own.isStr "degraded" || own.isStr "unavailable") != failed)
    "Runtime persistence component failure state is inconsistent."
  let _ ← reject (own.isStr "healthy" && durability.isStr "not_written")
    "Runtime persistence component durability is inconsistent."
  let _ ← reject (durability.isStr "not_applicable" &&
      (!(component.get "last_success_at_ms").isNull || failed))
    "Runtime persistence not-applicable component carries state."
  let key := (component.get "owner").shown++":"++(component.get "kind").shown
  return (key::state.1,
    if durability.isStr "not_applicable" then state.2 else recordState state.2 own.text)

/-- `validatePersistence` -/
def validatePersistence (input evaluatedAtMs : Value) : Except String Unit :=
  if input.isNull then .ok ()
  else do
    reject (!input.isRecord || !(input.get "state").isIn persistenceStates ||
        !(input.get "roots").isArray || !(input.get "components").isArray ||
        !safeInteger (input.get "suppressed_diagnostic_events"))
      "Runtime persistence health is malformed."
    let roots ← (input.get "roots").items.foldlM readRoot ([],none)
    let components ← (input.get "components").items.foldlM
      (readComponent evaluatedAtMs roots.1) ([],roots.2)
    reject (!(input.get "state").isStr "unavailable" &&
        ((input.get "roots").items.isEmpty || (input.get "components").items.isEmpty))
      "Runtime persistence active state requires roots and components."
    reject (!(input.get "state").isStr (components.2.getD "unavailable"))
      "Runtime persistence overall state is inconsistent."

end Persistence

section System

def readLogicalCpu (payload : Value) (seen : List String × List Value) (logical : Value) :
    Except String (List String × List Value) := do
  let _ ← reject (!logical.isRecord || !safeInteger (logical.get "index") ||
      !(logical.get "stable_id").isStr ("system:local:cpu:"++(logical.get "index").shown) ||
      seen.1.contains (logical.get "stable_id").text || seen.2.any (logical.get "index").same)
    "Logical CPU identity is malformed or duplicated."
  let _ ← validateObservations payload (logical.get "metrics") "system"
  return ((logical.get "stable_id").text::seen.1,logical.get "index"::seen.2)

def readPoolTag (locale : HostLocale) (payload : Value) (poolIds : List String) (tag : Value) :
    Except String (List String) := do
  let _ ← reject (!tag.isRecord || !nonEmptyString (tag.get "tag") ||
      !(tag.get "kind").isIn kernelPoolKinds ||
      !(tag.get "stable_id").isStr (locale.toLocaleLowerCase
        ("system:local:pool:"++(tag.get "tag").shown++":"++(tag.get "kind").shown)) ||
      poolIds.contains (tag.get "stable_id").text || !(tag.get "driver_candidates").isArray ||
      (tag.get "driver_candidates").items.any (fun candidate => !nonEmptyString candidate) ||
      !(tag.get "driver_candidates_pending").isBoolean)
    "Kernel pool tag is malformed or duplicated."
  let _ ← validateObservations payload (tag.get "metrics") "system"
  return (tag.get "stable_id").text::poolIds

/-- `validateSystem` -/
def validateSystem (locale : HostLocale) (payload input : Value) : Except String Unit := do
  reject (!input.isRecord || !(input.get "stable_id").isStr "system:local" ||
      !(input.get "logical_cpus").isArray || !(input.get "kernel_pool_tags").isArray)
    "System identity or facets are malformed."
  validateObservations payload (input.get "metrics") "system"
  let _ ← (input.get "logical_cpus").items.foldlM (readLogicalCpu payload) ([],[])
  let _ ← (input.get "kernel_pool_tags").items.foldlM (readPoolTag locale payload) []

end System

section Payload

def readWarning (payload : Value) (keys : List String) (warning : Value) :
    Except String (List String) := do
  let _ ← reject (!warning.isRecord || !nonEmptyString (warning.get "key") ||
      keys.contains (warning.get "key").text || !safeInteger (warning.get "publication_seq") ||
      (payload.get "publication_seq").lt (warning.get "publication_seq") ||
      !safeInteger (warning.get "occurred_at_ms") ||
      (payload.get "published_at_ms").lt (warning.get "occurred_at_ms") ||
      !nonEmptyString (warning.get "category") || !nonEmptyString (warning.get "message"))
    "Runtime warnings are malformed."
  return (warning.get "key").text::keys

/-- `{ ...payload, visible_process_count }` -/
def withVisible (payload : Value) (visible : Nat) : Value :=
  match payload with
  | .obj fields => .obj (("visible_process_count",.nat visible)::fields)
  | v => v

def validateMetadata (payload : Value) : Except String Unit := do
  let published := payload.get "published_at_ms"
  let sampled := payload.get "sampled_at_ms"
  reject (!safeInteger (payload.get "publication_seq") || !safeInteger published ||
      !safeInteger (payload.get "sample_seq"))
    "Publication metadata is outside the safe integer range."
  reject (refused sampled safeInteger) "Sample time is invalid."
  reject (!sampled.isNull && published.lt sampled) "Sample time is after publication."

def environmentMalformed (payload : Value) : Bool :=
  let environment := payload.get "environment"
  !nonEmptyString (payload.get "source") || !(environment.get "platform").isIn platforms ||
    !(environment.get "architecture").isIn architectures ||
    !(environment.get "process_elevation").isIn elevations ||
    !(environment.get "install_kind").isIn installKinds ||
    refused (environment.get "data_directory") isString

/-- `validatePayload` -/
def validatePayload (locale : HostLocale) (payload : Value) : Except String Unit := do
  reject (!payload.isRecord) "Runtime payload is not an object."
  validateMetadata payload
  reject (!(payload.get "environment").isRecord ||
    !(payload.get "privileged_collection").isRecord ||
      !(payload.get "settings").isRecord || !((payload.get "settings").get "query").isRecord ||
      !(payload.get "health").isRecord)
    "Runtime context is malformed."
  reject (!validReleaseIdentity ((payload.get "environment").get "release_identity"))
    "Runtime release identity is malformed."
  reject (environmentMalformed payload) "Runtime environment is malformed."
  validatePrivileged payload
  reject (settingsMalformed (payload.get "settings")) "Runtime settings are malformed."
  validateHealthFacts payload
  validateHealthStates payload
  validateHealthReasons payload
  validatePersistence (payload.get "persistence") ((payload.get "health").get "evaluated_at_ms")
  reject (!(payload.get "descriptors").isArray || !(payload.get "quality_codes").isArray ||
      !(payload.get "limitations").isArray || !(payload.get "system").isRecord ||
      !(payload.get "workloads").isArray || !(payload.get "overview_workloads").isArray ||
      !(payload.get "contributors").isArray || !(payload.get "warnings").isArray)
    "Runtime collections are malformed."
  validateMeasurementCatalog payload
  validateSystem locale payload (payload.get "system")
  validateWorkloads (payload.get "workloads") payload true
  validateWorkloads (payload.get "overview_workloads") (withVisible payload
    (processesOf (payload.get "overview_workloads").items).length) true
  let _ ← (payload.get "warnings").items.foldlM (readWarning payload) []

/-- The result of `decodeProtocolEnvelope`; the versions of a mismatch are left to its view. -/
inductive ProtocolDecodeResult where
  | snapshot (payload : Value)
  | protocolMismatch (reason message : String)

def textOr (v : Value) (fallback : String) : String := if v.isString then v.text else fallback

/-- `decodeProtocolEnvelope` -/
def decodeProtocolEnvelope (locale : HostLocale) (input : Value) : ProtocolDecodeResult :=
  let compatibility := input.get "compatibility"
  let writerVersion := input.get "protocol_version"
  let minimumReaderVersion := compatibility.get "minimum_reader_version"
  let event := input.get "event"
  if !input.isRecord then
    .protocolMismatch "malformed_payload" "Protocol envelope is not an object."
  else if !safeInteger writerVersion || !safeInteger minimumReaderVersion ||
      !(compatibility.get "breaking").isBoolean then
    .protocolMismatch "malformed_payload" "Protocol version metadata is malformed."
  else if writerVersion.lt (.nat 4) then
    .protocolMismatch "legacy_writer" "This build does not retain the legacy runtime reader."
  else if (Value.nat 4).lt minimumReaderVersion then
    .protocolMismatch "reader_too_old" "The runtime requires a newer telemetry reader."
  else if (Value.nat 4).lt writerVersion && (compatibility.get "breaking").truthy then
    .protocolMismatch "breaking_writer" "The runtime reports a breaking protocol revision."
  else if !event.isRecord || !(event.get "kind").isString || !(event.get "payload").isRecord then
    .protocolMismatch "malformed_payload" "Protocol event is malformed."
  else if (event.get "kind").isStr "protocol_mismatch" then
    .protocolMismatch (textOr ((event.get "payload").get "reason") "malformed_payload")
      (textOr ((event.get "payload").get "message") "The runtime rejected this protocol reader.")
  else if !(event.get "kind").isStr "runtime_snapshot" then
    .protocolMismatch "malformed_payload" "Protocol event kind is unknown."
  else
    match validatePayload locale (event.get "payload") with
    | .ok _ => .snapshot (event.get "payload")
    | .error error => .protocolMismatch "malformed_payload" error

end Payload
end BatCave.Reader
