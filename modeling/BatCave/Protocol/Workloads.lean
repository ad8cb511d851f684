import BatCave.Contracts.Snapshot
import BatCave.Protocol.Readings
import BatCave.WorkloadIdentity.Membership

/-! The workload sections of the protocol: the rows of a view as details with identities,
presentation and observations. What a detail says apart from its observations is its head. -/
namespace BatCave.Protocol
open BatCave.Contracts BatCave.Lib BatCave.Lib.Result CatalogBuilder
open BatCave.WorkloadIdentity (verifiedParentIndices)
open BatCave.WorkloadHistory (RuntimePlatform)

section Types

inductive ProcessIdentityStabilityV4 where
  | stable | publication
  deriving DecidableEq, Repr

structure ProcessPresentationV4 where
  groupId : Option String
  groupKey : String
  groupLabel : String
  groupCategory : String
  groupCount : Nat
  iconKind : String
  isChild : Bool
  isGrouped : Bool
  deriving DecidableEq, Repr

structure ProcessHeadV4 where
  stableId : String
  identityStability : ProcessIdentityStabilityV4
  pid : String
  parentPid : Option String
  parentProcessId : Option String
  startTimeMs : Option Nat
  displayName : String
  executable : String
  status : String
  accessState : AccessState
  presentation : ProcessPresentationV4
  deriving DecidableEq, Repr

structure ProcessDetailV4 extends ProcessHeadV4 where
  metrics : List MetricObservation
  deriving DecidableEq, Repr

structure GroupMetricCoverageV4 where
  descriptorIndex : Nat
  availableContributors : Nat
  totalContributors : Nat
  limitationIndex : Option Nat
  deriving DecidableEq, Repr

structure GroupHeadV4 where
  stableId : String
  groupKey : String
  label : String
  category : String
  memberIds : List String
  iconKind : String
  iconSource : Option String
  exampleLabel : Option String
  deriving DecidableEq, Repr

structure GroupDetailV4 extends GroupHeadV4 where
  metrics : List MetricObservation
  coverage : List GroupMetricCoverageV4
  deriving DecidableEq, Repr

inductive WorkloadHeadV4 where
  | process (head : ProcessHeadV4)
  | group (head : GroupHeadV4)
  deriving DecidableEq, Repr

inductive WorkloadDetailV4 where
  | process (detail : ProcessDetailV4)
  | group (detail : GroupDetailV4)
  deriving DecidableEq, Repr

def WorkloadDetailV4.head : WorkloadDetailV4 → WorkloadHeadV4
  | .process detail => .process detail.toProcessHeadV4
  | .group detail => .group detail.toGroupHeadV4

def WorkloadHeadV4.process? : WorkloadHeadV4 → Option ProcessHeadV4
  | .process head => some head
  | .group _ => none

def WorkloadHeadV4.group? : WorkloadHeadV4 → Option GroupHeadV4
  | .process _ => none
  | .group head => some head

end Types

section Requests

/-- `process_observation`: a request for one process. -/
def processRequest (semantic : MetricSemantic) (unit : MetricUnit) (value : Option Float)
    (quality : Option MetricQualityInfo) : Request :=
  ⟨{ semantic := semantic, scope := .process, unit := unit },value,quality⟩

def groupRequest (semantic : MetricSemantic) (unit : MetricUnit) (value : Option Float)
    (quality : MetricQualityInfo) : Request :=
  ⟨{ semantic := semantic, scope := .group, unit := unit },value,some quality⟩

/-- `io_total_quality`: a total is known while its rate still waits for a baseline. -/
def ioTotalQuality (rateQuality : Option MetricQualityInfo) : Option MetricQualityInfo :=
  (rateQuality.filter awaitsBaseline).map (fun quality =>
    { quality := if quality.source=some .sysinfo then .estimated else .native
      source := quality.source
      updatedAtMs := quality.updatedAtMs
      ageMs := quality.ageMs })

/-- On macOS a private size of zero counts only as read directly. -/
def privateValue (platform : RuntimePlatform) (process : ProcessSample) : Option Float :=
  let memory := process.quality.bind ProcessMetricQuality.memory
  if platform==.macos && process.privateBytes==0 &&
      !memory.any (fun quality => quality.quality==.native && quality.source==some .directApi) then
    none
  else asF64 process.privateBytes

/-- The fifteen metrics of a process, with the private size to show. -/
def processRequestsWith (privateValue : Option Float) (process : ProcessSample) : List Request :=
  let quality := process.quality
  let cpu := quality.bind ProcessMetricQuality.cpu
  let memory := quality.bind ProcessMetricQuality.memory
  let ioRate := quality.bind ProcessMetricQuality.io
  let ioTotal := (ioTotalQuality ioRate).or ioRate
  let otherRate := quality.bind ProcessMetricQuality.otherIo
  let otherTotal := (ioTotalQuality otherRate).or otherRate
  let network := quality.bind ProcessMetricQuality.network
  [processRequest .cpuUsage .percentOneCore (some process.cpuPercent) cpu,
    processRequest .kernelCpuUsage .percentOneCore process.kernelCpuPercent cpu,
    processRequest .residentMemory .bytes (asF64 process.memoryBytes) memory,
    processRequest .privateMemory .bytes privateValue memory,
    processRequest .virtualMemory .bytes (optionAsF64 process.virtualMemoryBytes) memory,
    processRequest .readIoTotal .bytes (asF64 process.ioReadTotalBytes) ioTotal,
    processRequest .writeIoTotal .bytes (asF64 process.ioWriteTotalBytes) ioTotal,
    processRequest .otherIoTotal .bytes (optionAsF64 process.otherIoTotalBytes) otherTotal,
    processRequest .readIoRate .bytesPerSecond (asF64 process.ioReadBps) ioRate,
    processRequest .writeIoRate .bytesPerSecond (asF64 process.ioWriteBps) ioRate,
    processRequest .otherIoRate .bytesPerSecond (optionAsF64 process.otherIoBps) otherRate,
    processRequest .networkReceiveRate .bytesPerSecond (optionAsF64 process.networkReceivedBps)
      network,
    processRequest .networkTransmitRate .bytesPerSecond
      (optionAsF64 process.networkTransmittedBps) network,
    processRequest .threadCount .count (asF64 process.threads)
      (quality.bind ProcessMetricQuality.threads),
    processRequest .handleCount .count (asF64 process.handles)
      (quality.bind ProcessMetricQuality.handles)]

def processRequests (platform : RuntimePlatform) (process : ProcessSample) : List Request :=
  processRequestsWith (privateValue platform process) process

/-- The six metrics of a group, each with what it covers. -/
def groupSpecs (detail : GroupDetail) : List (Request × MetricCoverage) :=
  [(groupRequest .cpuUsage .percentOneCore (some detail.cpuPercent) detail.quality.cpu,
      detail.coverage.cpu),
    (groupRequest .residentMemory .bytes (asF64 detail.memoryBytes) detail.quality.memory,
      detail.coverage.memory),
    (groupRequest .readWriteIoRate .bytesPerSecond (asF64 detail.ioBps) detail.quality.io,
      detail.coverage.io),
    (groupRequest .otherIoRate .bytesPerSecond (optionAsF64 detail.otherIoBps)
      detail.quality.otherIo,detail.coverage.otherIo),
    (groupRequest .networkRate .bytesPerSecond (asF64 detail.networkBps) detail.quality.network,
      detail.coverage.network),
    (groupRequest .threadCount .count (asF64 detail.threads) detail.quality.threads,
      detail.coverage.threads)]

def groupRequests (detail : GroupDetail) : List Request := (groupSpecs detail).map Prod.fst

/-- The observations a row asks for. -/
def rowRequests (platform : RuntimePlatform) : ProcessViewRow → List Request
  | .process detail _ _ _ _ _ _ _ _ => processRequests platform detail.process
  | .group detail _ _ _ _ => groupRequests detail

end Requests

section Encode

def toU32 (value : Nat) (error : String) : Except String Nat :=
  if value < 2^32 then .ok value else .error error

/-- The id of a generation; without a start time it is good for one sample. -/
def stableGenerationId (pid : String) (startTimeMs sampleSeq : Nat) : String :=
  if startTimeMs=0 then "process:"++pid++":publication:"++toString sampleSeq
  else "process:"++pid++":"++toString startTimeMs

def stableProcessSampleId (process : ProcessSample) (sampleSeq : Nat) : String :=
  stableGenerationId process.pid process.startTimeMs sampleSeq

def stableContributorId (identity : ProcessContributorIdentity) (sampleSeq : Nat) : String :=
  stableGenerationId identity.pid identity.startTimeMs sampleSeq

def rowProcess? : ProcessViewRow → Option ProcessSample
  | .process detail _ _ _ _ _ _ _ _ => some detail.process
  | .group _ _ _ _ _ => none

/-- The verified parents of the rows, by id. -/
def parentIds (processes : List ProcessSample) (sampleSeq : Nat) :
    AList (fun _ : String => String) :=
  Table.ofList ((processes.zip (verifiedParentIndices processes)).filterMap (fun row =>
    (row.2.bind (fun parent => processes[parent]?)).map (fun parent =>
      ⟨stableProcessSampleId row.1 sampleSeq,stableProcessSampleId parent sampleSeq⟩)))

/-- The group that a row belongs to, with the row's own id. -/
def groupMember? (sampleSeq : Nat) : ProcessViewRow → Option (String × String)
  | .process detail groupKey _ _ _ _ _ isGrouped _ =>
    if isGrouped then some (groupKey,stableProcessSampleId detail.process sampleSeq) else none
  | .group _ _ _ _ _ => none

def membersByGroup (rows : List ProcessViewRow) (sampleSeq : Nat) :
    AList (fun _ : String => List String) :=
  Table.pushAll (rows.filterMap (groupMember? sampleSeq))

/-- What the rows of a view know of each other. -/
structure RowTables where
  sampleSeq : Nat
  parents : AList (fun _ : String => String)
  members : AList (fun _ : String => List String)

def rowTables (rows : List ProcessViewRow) (sampleSeq : Nat) : RowTables where
  sampleSeq := sampleSeq
  parents := parentIds (rows.filterMap rowProcess?) sampleSeq
  members := membersByGroup rows sampleSeq

def processHead (tables : RowTables) (process : ProcessSample)
    (presentation : ProcessPresentationV4) : ProcessHeadV4 :=
  let id := stableProcessSampleId process tables.sampleSeq
  { stableId := id
    identityStability := if process.startTimeMs=0 then .publication else .stable
    pid := process.pid
    parentPid := process.parentPid
    parentProcessId := tables.parents.lookup id
    startTimeMs := if process.startTimeMs≠0 then some process.startTimeMs else none
    displayName := process.name
    executable := process.exe
    status := process.status
    accessState := process.accessState
    presentation := presentation }

def processPresentation (groupKey groupLabel groupCategory : String) (groupCount : Nat)
    (iconKind : String) (isChild isGrouped : Bool) : ProcessPresentationV4 where
  groupId := if isGrouped then some ("group:"++groupKey) else none
  groupKey := groupKey
  groupLabel := groupLabel
  groupCategory := groupCategory
  groupCount := groupCount
  iconKind := iconKind
  isChild := isChild
  isGrouped := isGrouped

def groupHead (tables : RowTables) (detail : GroupDetail) (iconKind : String)
    (iconSource exampleLabel : Option String) : GroupHeadV4 where
  stableId := detail.workloadId
  groupKey := detail.groupKey
  label := detail.label
  category := detail.category
  memberIds := (tables.members.lookup detail.groupKey).getD []
  iconKind := iconKind
  iconSource := iconSource
  exampleLabel := exampleLabel

def encodeGroupMetric (sampledAtMs : Option Nat) (spec : Request × MetricCoverage) :
    Encoder (MetricObservation × GroupMetricCoverageV4) := do
  let observation ← spec.1.observe sampledAtMs
  let available ← toU32 spec.2.available "protocol_coverage_out_of_range"
  let total ← toU32 spec.2.total "protocol_coverage_out_of_range"
  return (observation,⟨observation.descriptorIndex,available,total,observation.limitationIndex⟩)

def encodeRow (tables : RowTables) (platform : RuntimePlatform) (sampledAtMs : Option Nat) :
    ProcessViewRow → Encoder WorkloadDetailV4
  | .process detail groupKey groupLabel groupCategory groupCount iconKind isChild isGrouped _ => do
    let groupCount ← toU32 groupCount "protocol_group_count_out_of_range"
    let metrics ← observeAll sampledAtMs (processRequests platform detail.process)
    return .process ⟨processHead tables detail.process (processPresentation groupKey groupLabel
      groupCategory groupCount iconKind isChild isGrouped),metrics⟩
  | .group detail iconKind iconSource exampleLabel _ => do
    let metrics ← (groupSpecs detail).mapM (encodeGroupMetric sampledAtMs)
    return .group ⟨groupHead tables detail iconKind iconSource exampleLabel,
      metrics.map Prod.fst,metrics.map Prod.snd⟩

/-- `encode_workloads` -/
def encodeWorkloads (rows : List ProcessViewRow) (sampleSeq : Nat) (sampledAtMs : Option Nat)
    (platform : RuntimePlatform) : Encoder (List WorkloadDetailV4) :=
  rows.mapM (encodeRow (rowTables rows sampleSeq) platform sampledAtMs)

end Encode

section Recorded

/-- What a row says apart from its observations. -/
def rowHead (tables : RowTables) : ProcessViewRow → WorkloadHeadV4
  | .process detail groupKey groupLabel groupCategory groupCount iconKind isChild isGrouped _ =>
    .process (processHead tables detail.process (processPresentation groupKey groupLabel
      groupCategory groupCount iconKind isChild isGrouped))
  | .group detail iconKind iconSource exampleLabel _ =>
    .group (groupHead tables detail iconKind iconSource exampleLabel)

/-- The counts of a row fit their fields. -/
def rowFits : ProcessViewRow → Prop
  | .process _ _ _ _ groupCount _ _ _ _ => groupCount < 2^32
  | .group detail _ _ _ _ => ∀ spec∈groupSpecs detail, spec.2.available < 2^32 ∧ spec.2.total < 2^32

/-- A metric of a group and its coverage say the same through the catalogs. -/
structure SpecRecorded (interval : Nat) (sampledAtMs : Option Nat) (k : Catalogs)
    (spec : Request × MetricCoverage) (o : MetricObservation × GroupMetricCoverageV4) : Prop where
  observation : spec.1.Recorded interval sampledAtMs k o.1
  coverage : o.2=⟨o.1.descriptorIndex,spec.2.available,spec.2.total,o.1.limitationIndex⟩

def RowRecorded (tables : RowTables) (platform : RuntimePlatform) (interval : Nat)
    (sampledAtMs : Option Nat) (k : Catalogs) (row : ProcessViewRow) (w : WorkloadDetailV4) :
    Prop :=
  w.head=rowHead tables row ∧
    match row,w with
    | .process detail _ _ _ _ _ _ _ _,.process d =>
      List.Forall₂ (fun r o => r.Recorded interval sampledAtMs k o)
        (processRequests platform detail.process) d.metrics
    | .group detail _ _ _ _,.group d => ∃ os,
      List.Forall₂ (SpecRecorded interval sampledAtMs k) (groupSpecs detail) os ∧
        d.metrics=os.map Prod.fst ∧ d.coverage=os.map Prod.snd
    | _,_ => False

end Recorded

section Encoding
variable {interval : Nat} (sampledAtMs : Option Nat)

theorem toU32_encodes (interval value : Nat) (error : String) :
    Encodes interval (liftM (toU32 value error) : Encoder Nat) (value < 2^32) [] []
      (fun _ v => v=value) := by
  refine (Encodes.lift interval _).conseq ?_ ?_
  · rw [toU32]
    split
    · next h => simpa using h
    · next h => simpa using h
  · intro _ v hv
    rw [toU32] at hv
    split at hv
    · cases hv
      rfl
    · cases hv

theorem canonical_processRequests (platform : RuntimePlatform) (process : ProcessSample) :
    ∀ r∈processRequests platform process, r.definition.Canonical := by
  have hcanonical : ∀ (semantic : MetricSemantic) (unit : MetricUnit) (value : Option Float)
      (quality : Option MetricQualityInfo),
      (MetricDefinition.mk semantic .process unit none).Canonical →
      (processRequest semantic unit value quality).definition.Canonical := fun _ _ _ _ h => h
  intro r hr
  simp only [processRequests,processRequestsWith,List.mem_cons,List.not_mem_nil,or_false] at hr
  obtain rfl | rfl | rfl | rfl | rfl | rfl | rfl | rfl | rfl | rfl | rfl | rfl | rfl | rfl | rfl :=
    hr <;> exact hcanonical _ _ _ _ (by decide)

theorem canonical_groupRequests (detail : GroupDetail) :
    ∀ r∈groupRequests detail, r.definition.Canonical := by
  have hcanonical : ∀ (semantic : MetricSemantic) (unit : MetricUnit) (value : Option Float)
      (quality : MetricQualityInfo), (MetricDefinition.mk semantic .group unit none).Canonical →
      (groupRequest semantic unit value quality).definition.Canonical := fun _ _ _ _ h => h
  intro r hr
  simp only [groupRequests,groupSpecs,List.map_cons,List.map_nil,List.mem_cons,List.not_mem_nil,
    or_false] at hr
  obtain rfl | rfl | rfl | rfl | rfl | rfl := hr <;> exact hcanonical _ _ _ _ (by decide)

theorem encodeGroupMetric_encodes (hi : interval≠0) {spec : Request × MetricCoverage}
    (hcanonical : spec.1.definition.Canonical) :
    Encodes interval (encodeGroupMetric sampledAtMs spec)
      ((spec.2.available < 2^32 ∧ spec.2.total < 2^32) ∧
        (spec.1.reading sampledAtMs).observedTooLate=false)
      [spec.1.descriptor interval] (spec.1.reading sampledAtMs).limitation.toList
      (fun k o => SpecRecorded interval sampledAtMs k spec o) := by
  have h := (spec.1.encodes hi hcanonical sampledAtMs).bind (fun o _ _ =>
    (toU32_encodes interval spec.2.available "protocol_coverage_out_of_range").bind
      (fun available _ _ =>
        (toU32_encodes interval spec.2.total "protocol_coverage_out_of_range").bind
          (fun total _ _ => Encodes.ret interval ((o,⟨o.descriptorIndex,available,total,
            o.limitationIndex⟩) : MetricObservation × GroupMetricCoverageV4))))
  simp only [List.append_nil] at h
  refine h.conseq (by tauto) ?_
  intro k o ho
  obtain ⟨observation,hobs,_,rfl,_,rfl,rfl⟩ := ho
  exact ⟨hobs,rfl⟩

/-- What one row asks of the catalogs. -/
theorem encodeRow_encodes (hi : interval≠0) (tables : RowTables) (platform : RuntimePlatform)
    (row : ProcessViewRow) :
    Encodes interval (encodeRow tables platform sampledAtMs row)
      (rowFits row ∧ ∀ r∈rowRequests platform row, (r.reading sampledAtMs).observedTooLate=false)
      ((rowRequests platform row).map (fun r => r.descriptor interval))
      (limitationsOf sampledAtMs (rowRequests platform row))
      (fun k w => RowRecorded tables platform interval sampledAtMs k row w) := by
  cases row with
  | process detail groupKey groupLabel groupCategory groupCount iconKind isChild isGrouped label =>
    have h := (toU32_encodes interval groupCount "protocol_group_count_out_of_range").bind
      (fun count _ _ => (observeAll_encodes sampledAtMs hi _
        (canonical_processRequests platform detail.process)).bind (fun metrics _ _ =>
          Encodes.ret interval (WorkloadDetailV4.process ⟨processHead tables detail.process
            (processPresentation groupKey groupLabel groupCategory count iconKind isChild
              isGrouped),metrics⟩)))
    rw [List.append_nil,List.append_nil,List.nil_append,List.nil_append] at h
    refine h.conseq (by rw [and_true]; rfl) ?_
    intro k w hw
    obtain ⟨_,rfl,metrics,hm,rfl⟩ := hw
    exact ⟨rfl,hm⟩
  | group detail iconKind iconSource exampleLabel label =>
    have h := (Encodes.mapM (groupSpecs detail) (fun spec hspec =>
      encodeGroupMetric_encodes sampledAtMs hi
        (canonical_groupRequests detail spec.1 (List.mem_map_of_mem hspec)))).bind
      (fun metrics _ _ => Encodes.ret interval (WorkloadDetailV4.group
        ⟨groupHead tables detail iconKind iconSource exampleLabel,metrics.map Prod.fst,
          metrics.map Prod.snd⟩))
    have hds : (rowRequests platform (.group detail iconKind iconSource exampleLabel label)).map
        (fun r => r.descriptor interval)=
        (groupSpecs detail).flatMap (fun spec => [spec.1.descriptor interval]) := by
      simp only [rowRequests,groupRequests,List.map_map,← List.map_eq_flatMap]
      rfl
    have hls : limitationsOf sampledAtMs
        (rowRequests platform (.group detail iconKind iconSource exampleLabel label))=
        (groupSpecs detail).flatMap (fun spec =>
          (spec.1.reading sampledAtMs).limitation.toList) := by
      simp only [limitationsOf,rowRequests,groupRequests,List.flatMap_map]
    simp only [List.append_nil] at h
    rw [hds,hls]
    refine h.conseq ?_ ?_
    · simp only [rowFits,rowRequests,groupRequests,List.forall_mem_map,forall_and,and_true]
    · intro k w hw
      obtain ⟨metrics,hm,rfl⟩ := hw
      exact ⟨rfl,metrics,hm,rfl,rfl⟩

/-- Every request of a set of rows. -/
def rowsRequests (platform : RuntimePlatform) (rows : List ProcessViewRow) : List Request :=
  rows.flatMap (rowRequests platform)

theorem encodeWorkloads_encodes (hi : interval≠0) (rows : List ProcessViewRow) (sampleSeq : Nat)
    (platform : RuntimePlatform) :
    Encodes interval (encodeWorkloads rows sampleSeq sampledAtMs platform)
      ((∀ row∈rows, rowFits row) ∧
        ∀ r∈rowsRequests platform rows, (r.reading sampledAtMs).observedTooLate=false)
      ((rowsRequests platform rows).map (fun r => r.descriptor interval))
      (limitationsOf sampledAtMs (rowsRequests platform rows))
      (fun k ws => List.Forall₂ (RowRecorded (rowTables rows sampleSeq) platform interval
        sampledAtMs k) rows ws) := by
  have h := Encodes.mapM rows (fun row _ =>
    encodeRow_encodes sampledAtMs hi (rowTables rows sampleSeq) platform row)
  simp only [rowsRequests,List.map_flatMap,limitationsOf,List.flatMap_assoc]
  refine h.conseq ?_ (fun _ _ hw => hw)
  simp only [List.mem_flatMap,forall_exists_index,and_imp]
  constructor
  · intro hall
    exact ⟨fun row hrow => (hall row hrow).1,fun r row hrow hr => (hall row hrow).2 r hr⟩
  · rintro ⟨hfits,htimes⟩ row hrow
    exact ⟨hfits row hrow,fun r hr => htimes r row hrow hr⟩

end Encoding
end BatCave.Protocol
