import BatCave.Lib.Js
import BatCave.Lib.Result

/-! The desktop reader's checks of catalogs and observations. The policy is the table that
the protocol's generator writes out for it. -/
namespace BatCave.Reader
open BatCave.Lib.Js BatCave.Lib.Js.Value BatCave.Lib.Result

section Helpers

/-- `nonEmptyString` -/
def nonEmptyString (v : Value) : Bool := v.isString && 0 < (trim v.text).length

/-- `safeInteger` -/
def safeInteger (v : Value) : Bool := v.isSafeNatural

/-- `nonNegativeFiniteNumber` -/
def nonNegativeFiniteNumber (v : Value) : Bool := v.isFiniteNonNegative

/-- `validIndex` -/
def validIndex (index : Value) (length : Nat) : Bool :=
  index.isNull || (safeInteger index && index.lt (.nat length))

/-- `parseJsSafeDecimal`. Rounding to a double takes no unsafe integer to a safe one. -/
def parseJsSafeDecimal (value : Value) (allowZero : Bool) : Option Nat :=
  match value with
  | .str s =>
    if s.toList.isEmpty || (1 < s.toList.length && s.toList.head?==some '0') ||
        s.toList.any (fun c => !c.isDigit) then none
    else
      let parsed := Nat.ofDigitChars 10 s.toList 0
      if parsed ≤ maxSafeInteger && (allowZero || 0 < parsed) then some parsed else none
  | _ => none

end Helpers

section Policy

/-- An entry of `RUNTIME_PROTOCOL_POLICY.semantic_definitions`. -/
structure PolicyDefinition where
  semantic : String
  scope : String
  unit : String
  sampledOverInterval : Bool
  defaultScope : Option String := none
  sysinfoScope : Option String := none
  deriving DecidableEq

structure LimitationPolicy where
  quality : String
  requiresLimitation : Bool
  allowedCodes : List String
  deriving DecidableEq

def policyQualityCodes : List String := ["native","estimated","held","partial","unavailable"]

def limitationPolicies : List LimitationPolicy :=
  [⟨"native",false,[]⟩,
    ⟨"estimated",false,["unsupported_metric","access_denied","authorization_scope",
      "partial_coverage","collector_failure","data_loss","missing_metadata","numeric_range"]⟩,
    ⟨"held",true,["pending_baseline","held_value"]⟩,
    ⟨"partial",true,["unsupported_metric","access_denied","authorization_scope",
      "partial_coverage","collector_failure","data_loss","missing_metadata",
      "group_partial_coverage"]⟩,
    ⟨"unavailable",true,["unsupported_metric","access_denied","authorization_scope",
      "partial_coverage","collector_failure","data_loss","missing_metadata",
      "group_partial_coverage","numeric_range"]⟩]

def policyDefinitions : List PolicyDefinition :=
  [⟨"cpu_usage","system","percent_system",true,none,none⟩,
    ⟨"kernel_cpu_usage","system","percent_system",true,none,none⟩,
    ⟨"logical_cpu_usage","system","percent_system",true,none,none⟩,
    ⟨"cpu_usage","process","percent_one_core",true,none,none⟩,
    ⟨"kernel_cpu_usage","process","percent_one_core",true,none,none⟩,
    ⟨"cpu_usage","group","percent_one_core",true,none,none⟩,
    ⟨"memory_used","system","bytes",false,none,none⟩,
    ⟨"memory_capacity","system","bytes",false,none,none⟩,
    ⟨"memory_available","system","bytes",false,none,none⟩,
    ⟨"swap_used","system","bytes",false,none,none⟩,
    ⟨"swap_capacity","system","bytes",false,none,none⟩,
    ⟨"process_working_set_memory","system","bytes",false,none,none⟩,
    ⟨"process_private_memory","system","bytes",false,none,none⟩,
    ⟨"commit_used","system","bytes",false,none,none⟩,
    ⟨"commit_limit","system","bytes",false,none,none⟩,
    ⟨"system_cache","system","bytes",false,none,none⟩,
    ⟨"kernel_memory","system","bytes",false,none,none⟩,
    ⟨"kernel_paged_pool","system","bytes",false,none,none⟩,
    ⟨"kernel_nonpaged_pool","system","bytes",false,none,none⟩,
    ⟨"kernel_pool_bytes","system","bytes",false,none,none⟩,
    ⟨"physical_disk_read_total","system","bytes",false,none,none⟩,
    ⟨"physical_disk_write_total","system","bytes",false,none,none⟩,
    ⟨"network_receive_total","system","bytes",false,
      some "non_loopback_interface_aggregate",some "all_interface_aggregate"⟩,
    ⟨"network_transmit_total","system","bytes",false,
      some "non_loopback_interface_aggregate",some "all_interface_aggregate"⟩,
    ⟨"resident_memory","process","bytes",false,none,none⟩,
    ⟨"private_memory","process","bytes",false,none,none⟩,
    ⟨"virtual_memory","process","bytes",false,none,none⟩,
    ⟨"read_io_total","process","bytes",false,none,none⟩,
    ⟨"write_io_total","process","bytes",false,none,none⟩,
    ⟨"other_io_total","process","bytes",false,none,none⟩,
    ⟨"resident_memory","group","bytes",false,none,none⟩,
    ⟨"physical_disk_read_rate","system","bytes_per_second",true,none,none⟩,
    ⟨"physical_disk_write_rate","system","bytes_per_second",true,none,none⟩,
    ⟨"network_receive_rate","system","bytes_per_second",true,
      some "non_loopback_interface_aggregate",some "all_interface_aggregate"⟩,
    ⟨"network_transmit_rate","system","bytes_per_second",true,
      some "non_loopback_interface_aggregate",some "all_interface_aggregate"⟩,
    ⟨"read_io_rate","process","bytes_per_second",true,none,none⟩,
    ⟨"write_io_rate","process","bytes_per_second",true,none,none⟩,
    ⟨"other_io_rate","process","bytes_per_second",true,none,none⟩,
    ⟨"network_receive_rate","process","bytes_per_second",true,
      some "ip_socket_payload",some "ip_socket_payload"⟩,
    ⟨"network_transmit_rate","process","bytes_per_second",true,
      some "ip_socket_payload",some "ip_socket_payload"⟩,
    ⟨"read_write_io_rate","group","bytes_per_second",true,none,none⟩,
    ⟨"other_io_rate","group","bytes_per_second",true,none,none⟩,
    ⟨"network_rate","group","bytes_per_second",true,
      some "ip_socket_payload",some "ip_socket_payload"⟩,
    ⟨"process_count","system","count",false,none,none⟩,
    ⟨"denied_process_count","system","count",false,none,none⟩,
    ⟨"partial_process_count","system","count",false,none,none⟩,
    ⟨"kernel_pool_allocations","system","count",false,none,none⟩,
    ⟨"kernel_pool_frees","system","count",false,none,none⟩,
    ⟨"thread_count","process","count",false,none,none⟩,
    ⟨"handle_count","process","count",false,none,none⟩,
    ⟨"thread_count","group","count",false,none,none⟩]

end Policy

section Sets

def sources : List String :=
  ["unknown","direct_api","libproc","iokit","pdh","interface_aggregate","process_aggregate",
    "sysinfo","runtime","etw","nstat","procfs","ebpf","fixture"]

def limitationCodes : List String :=
  ["unsupported_metric","access_denied","authorization_scope","partial_coverage",
    "pending_baseline","held_value","collector_failure","data_loss","missing_metadata",
    "group_partial_coverage","numeric_range"]

end Sets

section Checks

/-- `semanticDefinitions.get` -/
def policyDefinition (scope semantic : Value) : Option PolicyDefinition :=
  policyDefinitions.find? (fun definition =>
    definition.scope++":"++definition.semantic==scope.shown++":"++semantic.shown)

/-- `networkScopeDefinition` -/
def policyNetworkScope (semantic scope source : Value) : Value :=
  if source.isStr "unknown" then .null
  else
    match policyDefinition scope semantic with
    | none => .null
    | some definition => orNull .str
        (if source.isStr "sysinfo" then definition.sysinfoScope else definition.defaultScope)

/-- The code that a limitation index names, or null. -/
def limitationCode (payload limitationIndex : Value) : Value :=
  if limitationIndex.isNull then .null
  else
    match (((payload.get "limitations").atIndex limitationIndex).get "code") with
    | .undefined => .null
    | code => code

/-- `validateQualityLimitation` -/
def validateQualityLimitation (payload quality limitationIndex : Value) : Except String Unit := do
  reject (!validIndex limitationIndex (payload.get "limitations").items.length)
    "quality limitation index is invalid."
  let policy ← okOr (limitationPolicies.find? (fun candidate => quality.isStr candidate.quality))
    "quality code is unknown."
  reject (!quality.isIn policyQualityCodes) "quality code is unknown."
  let code := limitationCode payload limitationIndex
  reject (policy.requiresLimitation && code.isNull) "quality requires a typed explanation."
  reject (!(if code.isNull then !policy.requiresLimitation else code.isIn policy.allowedCodes))
    "quality and limitation code contradict each other."

/-- What is asked of one observation by itself. -/
def validateMeasurement (payload : Value) (scope : String)
    (source value quality time limitation : Value) : Except String Unit := do
  reject (!value.isNull && !nonNegativeFiniteNumber value)
    (scope++" observation value is invalid.")
  reject (quality.isStr "unavailable" && !value.isNull)
    (scope++" unavailable observation carries a value.")
  reject (value.isNull &&
      !(quality.isStr "unavailable" || (quality.isStr "held" && !limitation.isNull)))
    (scope++" null observation carries publishable quality.")
  reject (value.isNull != time.isNull) (scope++" observation value/time state is inconsistent.")
  reject (!time.isNull && !safeInteger time) (scope++" observation time is invalid.")
  reject (!time.isNull && (payload.get "published_at_ms").lt time)
    (scope++" observation time is after publication.")
  reject (quality.isStr "held" && !time.isNull && !(payload.get "sampled_at_ms").isNull &&
      (payload.get "sampled_at_ms").lt time)
    (scope++" held observation time is after the sample.")
  reject (!validIndex limitation (payload.get "limitations").items.length)
    (scope++" limitation index is invalid.")
  (validateQualityLimitation payload quality limitation).mapError (scope++" "++·)
  reject (source.isStr "unknown" && (!quality.isStr "unavailable" ||
      !(limitationCode payload limitation).isStr "missing_metadata"))
    (scope++" observation source contradicts its quality.")

/-- One observation, with the semantics of its subject observed so far. -/
def validateObservation (payload : Value) (scope : String) (observed : List Value)
    (observation : Value) : Except String (List Value) := do
  let _ ← reject (!observation.isArray || observation.items.length != 5)
    (scope++" observation tuple is malformed.")
  let index := observation.atIndex (.nat 0)
  let code := observation.atIndex (.nat 2)
  let _ ← reject (!safeInteger index || !safeInteger code)
    (scope++" observation indexes are malformed.")
  let descriptor := (payload.get "descriptors").atIndex index
  let quality := (payload.get "quality_codes").atIndex code
  let _ ← reject (!descriptor.truthy || !(descriptor.get "scope").isStr scope || !quality.truthy)
    (scope++" observation descriptor or quality is invalid.")
  let semantic := descriptor.get "semantic"
  let _ ← reject (observed.any semantic.same) (scope++" subject repeats "++semantic.shown++".")
  let _ ← validateMeasurement payload scope (descriptor.get "source")
    (observation.atIndex (.nat 1)) quality (observation.atIndex (.nat 3))
    (observation.atIndex (.nat 4))
  return semantic::observed

/-- `validateObservations` -/
def validateObservations (payload input : Value) (scope : String) : Except String Unit := do
  reject (!input.isArray) (scope++" observations are not an array.")
  let _ ← input.items.foldlM (validateObservation payload scope) []

/-- One entry of the loop over the descriptors. -/
def validateDescriptor (entry : Value × Nat) : Except String Unit := do
  let descriptor := entry.1
  let invalid := "Descriptor "++toString entry.2++" is invalid."
  reject (!descriptor.isRecord) invalid
  let definition ← okOr (policyDefinition (descriptor.get "scope") (descriptor.get "semantic"))
    invalid
  reject (!(descriptor.get "id").same (.nat entry.2) || !(descriptor.get "source").isIn sources ||
      !(descriptor.get "unit").isStr definition.unit ||
      !(descriptor.get "network_scope").same (policyNetworkScope (descriptor.get "semantic")
        (descriptor.get "scope") (descriptor.get "source")) ||
      (if definition.sampledOverInterval then
        !safeInteger (descriptor.get "interval_ms") || (descriptor.get "interval_ms").same (.nat 0)
      else !(descriptor.get "interval_ms").isNull))
    invalid

/-- `validateMeasurementCatalog` -/
def validateMeasurementCatalog (payload : Value) : Except String Unit := do
  let codes := (payload.get "quality_codes").items
  reject (codes.length != policyQualityCodes.length ||
      (codes.zip policyQualityCodes).any (fun pair => !pair.1.isStr pair.2))
    "Quality catalog is unknown or reordered."
  (payload.get "descriptors").items.zipIdx.forM validateDescriptor
  reject ((payload.get "limitations").items.any (fun entry => !entry.isRecord ||
      !(entry.get "code").isIn limitationCodes || !nonEmptyString (entry.get "message")))
    "Limitation catalog is malformed."

end Checks
end BatCave.Reader
