import BatCave.Contracts.Metrics
import BatCave.Lib.Binary64
import BatCave.Lib.Interner
import BatCave.Lib.Result
import BatCave.Protocol.Persistence

/-! The catalogs of a publication: what an observation may measure, which limitation may
explain which quality, and how a reading of a collector becomes an observation that names
its descriptor and its limitation by their places in the catalogs. -/
namespace BatCave.Protocol
open BatCave.Contracts BatCave.Lib BatCave.Lib.Result

inductive MetricQualityV4 where
  | native | estimated | held | partialQuality | unavailable
  deriving DecidableEq, Repr

inductive LimitationCode where
  | unsupportedMetric | accessDenied | authorizationScope | partialCoverage | pendingBaseline
  | heldValue | collectorFailure | dataLoss | missingMetadata | groupPartialCoverage
  | numericRange
  deriving DecidableEq, Repr

inductive MetricSourceV4 where
  | unknown | directApi | libproc | iokit | pdh | interfaceAggregate | processAggregate | sysinfo
  | runtime | etw | nstat | procfs | ebpf | fixture
  deriving DecidableEq, Repr

inductive MetricScope where
  | system | process | group
  deriving DecidableEq, Repr

inductive MetricUnit where
  | percentOneCore | percentSystem | bytes | bytesPerSecond | count
  deriving DecidableEq, Repr

inductive NetworkScopeV4 where
  | nonLoopbackInterfaceAggregate | allInterfaceAggregate | ipSocketPayload
  deriving DecidableEq, Repr

inductive MetricSemantic where
  | cpuUsage | kernelCpuUsage | logicalCpuUsage | residentMemory | privateMemory | virtualMemory
  | memoryUsed | memoryCapacity | memoryAvailable | swapUsed | swapCapacity
  | processWorkingSetMemory | processPrivateMemory | deniedProcessCount | partialProcessCount
  | commitUsed | commitLimit | systemCache | kernelMemory | kernelPagedPool | kernelNonpagedPool
  | kernelPoolBytes | kernelPoolAllocations | kernelPoolFrees | physicalDiskReadTotal
  | physicalDiskWriteTotal | physicalDiskReadRate | physicalDiskWriteRate | readIoTotal
  | writeIoTotal | otherIoTotal | readIoRate | writeIoRate | otherIoRate | readWriteIoRate
  | networkReceiveTotal | networkTransmitTotal | networkReceiveRate | networkTransmitRate
  | networkRate | processCount | threadCount | handleCount
  deriving DecidableEq, Repr

structure MeasurementDescriptor where
  id : Nat
  semantic : MetricSemantic
  scope : MetricScope
  unit : MetricUnit
  intervalMs : Option Nat
  networkScope : Option NetworkScopeV4
  source : MetricSourceV4
  deriving DecidableEq, Repr

structure LimitationEntry where
  code : LimitationCode
  message : String
  deriving DecidableEq, Repr

/-- The five places of an observation on the wire. -/
structure MetricObservation where
  descriptorIndex : Nat
  value : Option Float
  qualityCode : Nat
  observedAtMs : Option Nat
  limitationIndex : Option Nat
  deriving DecidableEq, Repr

/-- `QUALITY_CODES` -/
def qualityCodes : List MetricQualityV4 := [.native,.estimated,.held,.partialQuality,.unavailable]

structure QualityLimitationPolicy where
  quality : MetricQualityV4
  requiresLimitation : Bool
  allowedCodes : List LimitationCode

def estimatedLimitations : List LimitationCode :=
  [.unsupportedMetric,.accessDenied,.authorizationScope,.partialCoverage,.collectorFailure,
    .dataLoss,.missingMetadata,.numericRange]

def heldLimitations : List LimitationCode := [.pendingBaseline,.heldValue]

def partialLimitations : List LimitationCode :=
  [.unsupportedMetric,.accessDenied,.authorizationScope,.partialCoverage,.collectorFailure,
    .dataLoss,.missingMetadata,.groupPartialCoverage]

def unavailableLimitations : List LimitationCode :=
  [.unsupportedMetric,.accessDenied,.authorizationScope,.partialCoverage,.collectorFailure,
    .dataLoss,.missingMetadata,.groupPartialCoverage,.numericRange]

/-- `quality_limitation_policy`: the row of `QUALITY_LIMITATION_POLICIES` for the quality. -/
def qualityLimitationPolicy : MetricQualityV4 → QualityLimitationPolicy
  | .native => ⟨.native,false,[]⟩
  | .estimated => ⟨.estimated,false,estimatedLimitations⟩
  | .held => ⟨.held,true,heldLimitations⟩
  | .partialQuality => ⟨.partialQuality,true,partialLimitations⟩
  | .unavailable => ⟨.unavailable,true,unavailableLimitations⟩

structure NetworkScopePolicy where
  default : Option NetworkScopeV4
  sysinfo : Option NetworkScopeV4

namespace NetworkScopePolicy

def noScope : NetworkScopePolicy := ⟨none,none⟩

def systemInterface : NetworkScopePolicy :=
  ⟨some .nonLoopbackInterfaceAggregate,some .allInterfaceAggregate⟩

def ipSocketPayload : NetworkScopePolicy := ⟨some .ipSocketPayload,some .ipSocketPayload⟩

def resolve (policy : NetworkScopePolicy) : MetricSourceV4 → Option NetworkScopeV4
  | .unknown => none
  | .sysinfo => policy.sysinfo
  | _ => policy.default

end NetworkScopePolicy

structure SemanticDefinition where
  semantic : MetricSemantic
  scope : MetricScope
  unit : MetricUnit
  networkScope : NetworkScopePolicy

/-- Rates and shares are measured over an interval. -/
def SemanticDefinition.sampledOverInterval (definition : SemanticDefinition) : Bool :=
  definition.unit∈[MetricUnit.percentOneCore,.percentSystem,.bytesPerSecond]

/-- `SEMANTIC_DEFINITIONS` -/
def semanticDefinitions : List SemanticDefinition :=
  [⟨.cpuUsage,.system,.percentSystem,.noScope⟩,
    ⟨.kernelCpuUsage,.system,.percentSystem,.noScope⟩,
    ⟨.logicalCpuUsage,.system,.percentSystem,.noScope⟩,
    ⟨.cpuUsage,.process,.percentOneCore,.noScope⟩,
    ⟨.kernelCpuUsage,.process,.percentOneCore,.noScope⟩,
    ⟨.cpuUsage,.group,.percentOneCore,.noScope⟩,
    ⟨.memoryUsed,.system,.bytes,.noScope⟩,
    ⟨.memoryCapacity,.system,.bytes,.noScope⟩,
    ⟨.memoryAvailable,.system,.bytes,.noScope⟩,
    ⟨.swapUsed,.system,.bytes,.noScope⟩,
    ⟨.swapCapacity,.system,.bytes,.noScope⟩,
    ⟨.processWorkingSetMemory,.system,.bytes,.noScope⟩,
    ⟨.processPrivateMemory,.system,.bytes,.noScope⟩,
    ⟨.commitUsed,.system,.bytes,.noScope⟩,
    ⟨.commitLimit,.system,.bytes,.noScope⟩,
    ⟨.systemCache,.system,.bytes,.noScope⟩,
    ⟨.kernelMemory,.system,.bytes,.noScope⟩,
    ⟨.kernelPagedPool,.system,.bytes,.noScope⟩,
    ⟨.kernelNonpagedPool,.system,.bytes,.noScope⟩,
    ⟨.kernelPoolBytes,.system,.bytes,.noScope⟩,
    ⟨.physicalDiskReadTotal,.system,.bytes,.noScope⟩,
    ⟨.physicalDiskWriteTotal,.system,.bytes,.noScope⟩,
    ⟨.networkReceiveTotal,.system,.bytes,.systemInterface⟩,
    ⟨.networkTransmitTotal,.system,.bytes,.systemInterface⟩,
    ⟨.residentMemory,.process,.bytes,.noScope⟩,
    ⟨.privateMemory,.process,.bytes,.noScope⟩,
    ⟨.virtualMemory,.process,.bytes,.noScope⟩,
    ⟨.readIoTotal,.process,.bytes,.noScope⟩,
    ⟨.writeIoTotal,.process,.bytes,.noScope⟩,
    ⟨.otherIoTotal,.process,.bytes,.noScope⟩,
    ⟨.residentMemory,.group,.bytes,.noScope⟩,
    ⟨.physicalDiskReadRate,.system,.bytesPerSecond,.noScope⟩,
    ⟨.physicalDiskWriteRate,.system,.bytesPerSecond,.noScope⟩,
    ⟨.networkReceiveRate,.system,.bytesPerSecond,.systemInterface⟩,
    ⟨.networkTransmitRate,.system,.bytesPerSecond,.systemInterface⟩,
    ⟨.readIoRate,.process,.bytesPerSecond,.noScope⟩,
    ⟨.writeIoRate,.process,.bytesPerSecond,.noScope⟩,
    ⟨.otherIoRate,.process,.bytesPerSecond,.noScope⟩,
    ⟨.networkReceiveRate,.process,.bytesPerSecond,.ipSocketPayload⟩,
    ⟨.networkTransmitRate,.process,.bytesPerSecond,.ipSocketPayload⟩,
    ⟨.readWriteIoRate,.group,.bytesPerSecond,.noScope⟩,
    ⟨.otherIoRate,.group,.bytesPerSecond,.noScope⟩,
    ⟨.networkRate,.group,.bytesPerSecond,.ipSocketPayload⟩,
    ⟨.processCount,.system,.count,.noScope⟩,
    ⟨.deniedProcessCount,.system,.count,.noScope⟩,
    ⟨.partialProcessCount,.system,.count,.noScope⟩,
    ⟨.kernelPoolAllocations,.system,.count,.noScope⟩,
    ⟨.kernelPoolFrees,.system,.count,.noScope⟩,
    ⟨.threadCount,.process,.count,.noScope⟩,
    ⟨.handleCount,.process,.count,.noScope⟩,
    ⟨.threadCount,.group,.count,.noScope⟩]

/-- `semantic_definition` -/
def semanticDefinition (semantic : MetricSemantic) (scope : MetricScope) :
    Option SemanticDefinition :=
  semanticDefinitions.find? (fun definition =>
    definition.scope==scope && definition.semantic==semantic)

/-- `network_scope_definition` -/
def networkScopeDefinition (semantic : MetricSemantic) (scope : MetricScope)
    (source : MetricSourceV4) : Option NetworkScopeV4 :=
  (semanticDefinition semantic scope).bind
    (fun definition => definition.networkScope.resolve source)

structure MetricDefinition where
  semantic : MetricSemantic
  scope : MetricScope
  unit : MetricUnit
  intervalMs : Option Nat := none
  deriving DecidableEq, Repr

def metricQualityCode : MetricQuality → Nat
  | .native => 0
  | .estimated => 1
  | .held => 2
  | .partialQuality => 3
  | .unavailable => 4

def metricSource : MetricSource → MetricSourceV4
  | .directApi => .directApi
  | .libproc => .libproc
  | .iokit => .iokit
  | .pdh => .pdh
  | .interfaceAggregate => .interfaceAggregate
  | .processAggregate => .processAggregate
  | .sysinfo => .sysinfo
  | .runtime => .runtime
  | .etw => .etw
  | .nstat => .nstat
  | .procfs => .procfs
  | .ebpf => .ebpf
  | .fixture => .fixture

def fallbackLimitationCode : MetricQuality → LimitationCode
  | .held => .heldValue
  | .partialQuality => .partialCoverage
  | .unavailable => .unsupportedMetric
  | .native => .collectorFailure
  | .estimated => .collectorFailure

def metricLimitationCode : MetricLimitationCode → LimitationCode
  | .unsupportedMetric => .unsupportedMetric
  | .accessDenied => .accessDenied
  | .authorizationScope => .authorizationScope
  | .partialCoverage => .partialCoverage
  | .pendingBaseline => .pendingBaseline
  | .heldValue => .heldValue
  | .collectorFailure => .collectorFailure
  | .dataLoss => .dataLoss
  | .missingMetadata => .missingMetadata
  | .groupPartialCoverage => .groupPartialCoverage
  | .numericRange => .numericRange

/-- The limitation a collector reports, with the quality's own code where it names none. -/
def reportedLimitation (quality : MetricQualityInfo) : Option LimitationEntry :=
  quality.message.map (fun message =>
    ⟨(quality.limitationCode.map metricLimitationCode).getD
      (fallbackLimitationCode quality.quality),
      message⟩)

/-- What is left of a reading once its value, quality and limitation agree. -/
structure Reading where
  value : Option Float
  qualityCode : Nat
  limitation : Option LimitationEntry
  observedAtMs : Option Nat := none
  deriving DecidableEq, Repr

def Reading.unavailable (code : LimitationCode) (message : String) : Reading where
  value := none
  qualityCode := metricQualityCode .unavailable
  limitation := some ⟨code,message⟩

/-- Native, estimated and partial readings need a value. -/
def live (quality : MetricQualityInfo) : Bool :=
  quality.quality∈[MetricQuality.native,.estimated,.partialQuality]

def awaitsBaseline (quality : MetricQualityInfo) : Bool :=
  quality.quality==.held && quality.limitationCode==some .pendingBaseline

def MetricUnit.safeInteger (unit : MetricUnit) : Bool :=
  unit≠.percentOneCore && unit≠.percentSystem

/-- The part of `CatalogBuilder::observation` that reads no catalog: the checks in the
order of the source, each on what the one before it left. -/
def reading (unit : MetricUnit) (value : Option Float) (quality : Option MetricQualityInfo)
    (sampledAtMs : Option Nat) : Reading :=
  let reading : Reading :=
    { value := value.filter Float.isFinite
      qualityCode := metricQualityCode (quality.elim .unavailable MetricQualityInfo.quality)
      limitation := quality.bind reportedLimitation }
  let reading :=
    if (quality.bind MetricQualityInfo.source).isNone then
      .unavailable .missingMetadata "Metric source provenance was not reported by the collector."
    else if reading.value.isNone && quality.any live then
      { reading with
        qualityCode := metricQualityCode .unavailable
        limitation := reading.limitation.or
          (some ⟨.unsupportedMetric,"Metric value was not reported by the collector."⟩) }
    else reading
  let reading :=
    if reading.value.any (fun value =>
        unit.safeInteger && Binary64.ofUnsigned jsMaxSafeInteger < value) then
      .unavailable .numericRange "Metric value exceeds the JavaScript safe integer range."
    else reading
  let reading :=
    if reading.qualityCode=metricQualityCode .unavailable then
      { reading with
        value := none
        limitation := reading.limitation.or
          (some ⟨.unsupportedMetric,"Metric is unavailable on this source."⟩) }
    else reading
  let reading := if quality.any awaitsBaseline then { reading with value := none } else reading
  let held := quality.any (fun quality => quality.quality==.held)
  let reading :=
    if held && !quality.any awaitsBaseline &&
        (reading.value.isNone || (quality.bind MetricQualityInfo.updatedAtMs).isNone) then
      .unavailable .missingMetadata "Held metric is missing its original observation time."
    else reading
  let observedAtMs :=
    if reading.value.isNone then none
    else if held then quality.bind MetricQualityInfo.updatedAtMs
    else (quality.bind MetricQualityInfo.updatedAtMs).or sampledAtMs
  if reading.value.isSome && observedAtMs.isNone then
    .unavailable .missingMetadata "Metric observation time was not reported by the collector."
  else { reading with observedAtMs := observedAtMs }

def Reading.observedTooLate (reading : Reading) : Bool :=
  reading.observedAtMs.any (fun value => jsMaxSafeInteger < value)

/-- What observations refer to by place. -/
structure Catalogs where
  descriptors : List MeasurementDescriptor
  limitations : List LimitationEntry

structure CatalogBuilder extends Catalogs where
  sampleIntervalMs : Nat

/-- Indices are `u16`. -/
def catalogSize : Nat := 2^16

/-- What is written with a catalog at hand: `&mut CatalogBuilder` and `?`. -/
abbrev Encoder := StateT CatalogBuilder (Except String)

namespace CatalogBuilder

def new (sampleIntervalMs : Nat) : Except String CatalogBuilder :=
  if sampleIntervalMs=0 then .error "protocol_sample_interval_zero"
  else .ok ⟨⟨[],[]⟩,sampleIntervalMs⟩

def limitation (entry : LimitationEntry) : Encoder Nat := fun c =>
  match Interner.intern catalogSize id entry (fun _ => entry) c.limitations with
  | none => .error "protocol_limitation_catalog_too_large"
  | some (index,limitations) => .ok (index,{ c with limitations := limitations })

/-- What two descriptors of one measurement agree on: everything but the place. -/
def measurement (descriptor : MeasurementDescriptor) : MeasurementDescriptor :=
  { descriptor with id := 0 }

def descriptorOf (definition : MetricDefinition) (source : MetricSourceV4) (id : Nat) :
    MeasurementDescriptor where
  id := id
  semantic := definition.semantic
  scope := definition.scope
  unit := definition.unit
  intervalMs := definition.intervalMs
  networkScope := networkScopeDefinition definition.semantic definition.scope source
  source := source

def descriptor (definition : MetricDefinition) (source : MetricSourceV4) : Encoder Nat := fun c =>
  match Interner.intern catalogSize measurement (descriptorOf definition source 0)
      (descriptorOf definition source) c.descriptors with
  | none => .error "protocol_descriptor_catalog_too_large"
  | some (index,descriptors) => .ok (index,{ c with descriptors := descriptors })

/-- The definition with the interval it is measured over. -/
def resolveDefinition (sampleIntervalMs : Nat) (definition : MetricDefinition) :
    Except String MetricDefinition :=
  match semanticDefinition definition.semantic definition.scope with
  | none => .error "protocol_semantic_scope_invalid"
  | some canonical =>
    if definition.unit≠canonical.unit then .error "protocol_semantic_unit_invalid"
    else if canonical.sampledOverInterval then
      let intervalMs := definition.intervalMs.getD sampleIntervalMs
      if intervalMs=0 then .error "protocol_descriptor_interval_invalid"
      else .ok { definition with intervalMs := some intervalMs }
    else if definition.intervalMs.isSome then .error "protocol_descriptor_interval_invalid"
    else .ok definition

/-- The source of an observation; unknown where the collector named none. -/
def sourceOf (quality : Option MetricQualityInfo) : MetricSourceV4 :=
  ((quality.bind MetricQualityInfo.source).map metricSource).getD .unknown

def limitationIndex : Option LimitationEntry → Encoder (Option Nat)
  | none => pure none
  | some entry => do
    let index ← limitation entry
    return some index

/-- Both catalogs are asked, the descriptor's first. -/
def record (definition : MetricDefinition) (source : MetricSourceV4) (reading : Reading) :
    Encoder MetricObservation := do
  let descriptorIndex ← descriptor definition source
  let _ ← reject reading.observedTooLate "protocol_timestamp_out_of_range"
  let limitationIndex ← limitationIndex reading.limitation
  return ⟨descriptorIndex,reading.value,reading.qualityCode,reading.observedAtMs,limitationIndex⟩

/-- `CatalogBuilder::observation` -/
def observation (definition : MetricDefinition) (value : Option Float)
    (quality : Option MetricQualityInfo) (sampledAtMs : Option Nat) :
    Encoder MetricObservation := do
  let definition ← resolveDefinition (← get).sampleIntervalMs definition
  record definition (sourceOf quality) (reading definition.unit value quality sampledAtMs)

end CatalogBuilder
end BatCave.Protocol
