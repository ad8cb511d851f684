import BatCave.Protocol.Observations

/-! The system section of the protocol: the observations of the whole machine, of each
logical processor and of each kernel pool tag. -/
namespace BatCave.Protocol
open BatCave.Contracts BatCave.Lib BatCave.Lib.Result BatCave.Lib.Text CatalogBuilder

structure LogicalCpuDetailV4 where
  stableId : String
  index : Nat
  metrics : List MetricObservation
  deriving DecidableEq, Repr

inductive KernelPoolKindV4 where
  | paged | nonpaged
  deriving DecidableEq, Repr

structure KernelPoolTagDetailV4 where
  stableId : String
  tag : String
  kind : KernelPoolKindV4
  driverCandidates : List String
  driverCandidatesPending : Bool
  metrics : List MetricObservation
  deriving DecidableEq, Repr

structure SystemDetailV4 where
  stableId : String
  metrics : List MetricObservation
  logicalCpus : List LogicalCpuDetailV4
  kernelPoolTags : List KernelPoolTagDetailV4
  deriving DecidableEq, Repr

/-- `observation`: a request for the whole machine. -/
def systemRequest (semantic : MetricSemantic) (unit : MetricUnit) (value : Option Float)
    (quality : Option MetricQualityInfo) : Request :=
  ⟨{ semantic := semantic, scope := .system, unit := unit },value,quality⟩

/-- `value as f64` -/
def asF64 (value : Nat) : Option Float := some (Binary64.ofUnsigned value)

def optionAsF64 (value : Option Nat) : Option Float := value.map Binary64.ofUnsigned

def runtimeNativeQuality : MetricQualityInfo := .new .native .runtime

/-- The sixteen metrics of every machine. -/
def machineRequests (system : SystemMetricsSnapshot) : List Request :=
  let quality := system.quality
  let memory := quality.bind SystemMetricQuality.memory
  let swap := quality.bind SystemMetricQuality.swap
  let disk := quality.bind SystemMetricQuality.disk
  let network := quality.bind SystemMetricQuality.network
  [systemRequest .cpuUsage .percentSystem (some system.cpuPercent)
      (quality.bind SystemMetricQuality.cpu),
    systemRequest .kernelCpuUsage .percentSystem (some system.kernelCpuPercent)
      (quality.bind SystemMetricQuality.kernelCpu),
    systemRequest .memoryUsed .bytes (asF64 system.memoryUsedBytes) memory,
    systemRequest .memoryCapacity .bytes (asF64 system.memoryTotalBytes) memory,
    systemRequest .memoryAvailable .bytes (optionAsF64 system.memoryAvailableBytes) memory,
    systemRequest .swapUsed .bytes (optionAsF64 system.swapUsedBytes) swap,
    systemRequest .swapCapacity .bytes (optionAsF64 system.swapTotalBytes) swap,
    systemRequest .processCount .count (asF64 system.processCount) (some runtimeNativeQuality),
    systemRequest .physicalDiskReadTotal .bytes (asF64 system.diskReadTotalBytes) disk,
    systemRequest .physicalDiskWriteTotal .bytes (asF64 system.diskWriteTotalBytes) disk,
    systemRequest .physicalDiskReadRate .bytesPerSecond (asF64 system.diskReadBps) disk,
    systemRequest .physicalDiskWriteRate .bytesPerSecond (asF64 system.diskWriteBps) disk,
    systemRequest .networkReceiveTotal .bytes (asF64 system.networkReceivedTotalBytes) network,
    systemRequest .networkTransmitTotal .bytes (asF64 system.networkTransmittedTotalBytes) network,
    systemRequest .networkReceiveRate .bytesPerSecond (asF64 system.networkReceivedBps) network,
    systemRequest .networkTransmitRate .bytesPerSecond (asF64 system.networkTransmittedBps) network]

/-- The ten metrics of a machine that accounts for its memory. -/
def accountingRequests (memory : Option MetricQualityInfo) (accounting : SystemMemoryAccounting) :
    List Request :=
  [systemRequest .processWorkingSetMemory .bytes (asF64 accounting.processWorkingSetBytes) memory,
    systemRequest .processPrivateMemory .bytes (asF64 accounting.processPrivateBytes) memory,
    systemRequest .deniedProcessCount .count (asF64 accounting.deniedProcessCount) memory,
    systemRequest .partialProcessCount .count (asF64 accounting.partialProcessCount) memory,
    systemRequest .commitUsed .bytes (optionAsF64 accounting.commitUsedBytes) memory,
    systemRequest .commitLimit .bytes (optionAsF64 accounting.commitLimitBytes) memory,
    systemRequest .systemCache .bytes (optionAsF64 accounting.systemCacheBytes) memory,
    systemRequest .kernelMemory .bytes (optionAsF64 accounting.kernelTotalBytes) memory,
    systemRequest .kernelPagedPool .bytes (optionAsF64 accounting.kernelPagedPoolBytes) memory,
    systemRequest .kernelNonpagedPool .bytes
      (optionAsF64 accounting.kernelNonpagedPoolBytes) memory]

def memoryQuality (system : SystemMetricsSnapshot) : Option MetricQualityInfo :=
  system.quality.bind SystemMetricQuality.memory

def systemRequests (system : SystemMetricsSnapshot) : List Request :=
  machineRequests system++
    system.memoryAccounting.elim [] (accountingRequests (memoryQuality system))

def logicalRequest (system : SystemMetricsSnapshot) (value : Float) : Request :=
  systemRequest .logicalCpuUsage .percentSystem (some value)
    (system.quality.bind SystemMetricQuality.logicalCpu)

def poolTagRequests (memory : Option MetricQualityInfo) (tag : KernelPoolTag) : List Request :=
  [systemRequest .kernelPoolBytes .bytes (asF64 tag.bytes) memory,
    systemRequest .kernelPoolAllocations .count (asF64 tag.allocations) memory,
    systemRequest .kernelPoolFrees .count (asF64 tag.frees) memory]

def observeAll (sampledAtMs : Option Nat) (requests : List Request) :
    Encoder (List MetricObservation) :=
  requests.mapM (fun r => r.observe sampledAtMs)

def logicalCpuId (index : Nat) : String := "system:local:cpu:"++toString index

def encodeLogicalCpu (system : SystemMetricsSnapshot) (sampledAtMs : Option Nat)
    (cpu : Float × Nat) : Encoder LogicalCpuDetailV4 := do
  let _ ← reject (decide (2^16 ≤ cpu.2)) "protocol_logical_cpu_count_out_of_range"
  let metrics ← observeAll sampledAtMs [logicalRequest system cpu.1]
  return ⟨logicalCpuId cpu.2,cpu.2,metrics⟩

def kernelPoolKind : KernelPoolKind → KernelPoolKindV4
  | .paged => .paged
  | .nonpaged => .nonpaged

/-- The kind as `{:?}` prints it. -/
def KernelPoolKindV4.debug : KernelPoolKindV4 → String
  | .paged => "Paged"
  | .nonpaged => "Nonpaged"

def poolTagId (tag : String) (kind : KernelPoolKindV4) : String :=
  ("system:local:pool:"++tag++":"++kind.debug).toLower

def encodePoolTag (memory : Option MetricQualityInfo) (sampledAtMs : Option Nat)
    (tag : KernelPoolTag) : Encoder KernelPoolTagDetailV4 := do
  let metrics ← observeAll sampledAtMs (poolTagRequests memory tag)
  return { stableId := poolTagId tag.tag (kernelPoolKind tag.kind)
           tag := tag.tag
           kind := kernelPoolKind tag.kind
           driverCandidates := tag.driverCandidates
           driverCandidatesPending := tag.driverCandidatesPending
           metrics := metrics }

def poolTags (system : SystemMetricsSnapshot) : List KernelPoolTag :=
  system.memoryAccounting.elim [] SystemMemoryAccounting.kernelPoolTags

/-- `encode_system` -/
def encodeSystem (system : SystemMetricsSnapshot) (sampledAtMs : Option Nat) :
    Encoder SystemDetailV4 := do
  let metrics ← observeAll sampledAtMs (systemRequests system)
  let logicalCpus ← system.logicalCpuPercent.zipIdx.mapM (encodeLogicalCpu system sampledAtMs)
  let kernelPoolTags ← (poolTags system).mapM
    (encodePoolTag (memoryQuality system) sampledAtMs)
  return ⟨"system:local",metrics,logicalCpus,kernelPoolTags⟩

/-- The limitations that the readings of the requests come to. -/
def limitationsOf (sampledAtMs : Option Nat) (requests : List Request) : List LimitationEntry :=
  requests.flatMap (fun r => (r.reading sampledAtMs).limitation.toList)

/-- Every request of the system section. -/
def allSystemRequests (system : SystemMetricsSnapshot) : List Request :=
  systemRequests system++(system.logicalCpuPercent.map (logicalRequest system)++
    (poolTags system).flatMap (poolTagRequests (memoryQuality system)))

structure LogicalCpuRecorded (system : SystemMetricsSnapshot) (interval : Nat)
    (sampledAtMs : Option Nat) (k : Catalogs) (cpu : Float × Nat) (detail : LogicalCpuDetailV4) :
    Prop where
  index : detail.index=cpu.2
  stableId : detail.stableId=logicalCpuId cpu.2
  metrics : List.Forall₂ (fun r o => r.Recorded interval sampledAtMs k o)
    [logicalRequest system cpu.1] detail.metrics

structure PoolTagRecorded (memory : Option MetricQualityInfo) (interval : Nat)
    (sampledAtMs : Option Nat) (k : Catalogs) (tag : KernelPoolTag)
    (detail : KernelPoolTagDetailV4) : Prop where
  stableId : detail.stableId=poolTagId tag.tag (kernelPoolKind tag.kind)
  name : detail.tag=tag.tag
  kind : detail.kind=kernelPoolKind tag.kind
  driverCandidates : detail.driverCandidates=tag.driverCandidates
  metrics : List.Forall₂ (fun r o => r.Recorded interval sampledAtMs k o)
    (poolTagRequests memory tag) detail.metrics

structure SystemRecorded (system : SystemMetricsSnapshot) (interval : Nat)
    (sampledAtMs : Option Nat) (k : Catalogs) (detail : SystemDetailV4) : Prop where
  stableId : detail.stableId="system:local"
  metrics : List.Forall₂ (fun r o => r.Recorded interval sampledAtMs k o) (systemRequests system)
    detail.metrics
  logicalCpus : List.Forall₂ (LogicalCpuRecorded system interval sampledAtMs k)
    system.logicalCpuPercent.zipIdx detail.logicalCpus
  kernelPoolTags : List.Forall₂ (PoolTagRecorded (memoryQuality system) interval sampledAtMs k)
    (poolTags system) detail.kernelPoolTags

section Encoding
variable {interval : Nat} (sampledAtMs : Option Nat)

theorem observeAll_encodes (hi : interval≠0) (requests : List Request)
    (hcanonical : ∀ r∈requests, r.definition.Canonical) :
    Encodes interval (observeAll sampledAtMs requests)
      (∀ r∈requests, (r.reading sampledAtMs).observedTooLate=false)
      (requests.map (fun r => r.descriptor interval)) (limitationsOf sampledAtMs requests)
      (fun k os => List.Forall₂ (fun r o => r.Recorded interval sampledAtMs k o) requests os) := by
  have h := Encodes.mapM requests (fun r hr => r.encodes hi (hcanonical r hr) sampledAtMs)
  rw [← List.map_eq_flatMap] at h
  exact h

theorem canonical_system {semantic : MetricSemantic} {unit : MetricUnit}
    (h : (MetricDefinition.mk semantic .system unit none).Canonical) (value : Option Float)
    (quality : Option MetricQualityInfo) :
    (systemRequest semantic unit value quality).definition.Canonical := h

theorem canonical_logicalRequest (system : SystemMetricsSnapshot) (value : Float) :
    (logicalRequest system value).definition.Canonical := canonical_system (by decide) _ _

theorem canonical_systemRequests (system : SystemMetricsSnapshot) :
    ∀ r∈systemRequests system, r.definition.Canonical := by
  intro r hr
  cases List.mem_append.mp hr with
  | inl h =>
    simp only [machineRequests,List.mem_cons,List.not_mem_nil,or_false] at h
    obtain rfl | rfl | rfl | rfl | rfl | rfl | rfl | rfl | rfl | rfl | rfl | rfl | rfl | rfl | rfl |
      rfl := h <;> exact canonical_system (by decide) _ _
  | inr h =>
    cases ha : system.memoryAccounting with
    | none => simp [ha] at h
    | some accounting =>
      rw [ha,Option.elim_some] at h
      simp only [accountingRequests,List.mem_cons,List.not_mem_nil,or_false] at h
      obtain rfl | rfl | rfl | rfl | rfl | rfl | rfl | rfl | rfl | rfl := h <;>
        exact canonical_system (by decide) _ _

theorem canonical_poolTagRequests (memory : Option MetricQualityInfo) (tag : KernelPoolTag) :
    ∀ r∈poolTagRequests memory tag, r.definition.Canonical := by
  intro r hr
  simp only [poolTagRequests,List.mem_cons,List.not_mem_nil,or_false] at hr
  obtain rfl | rfl | rfl := hr <;> exact canonical_system (by decide) _ _

theorem encodeLogicalCpu_encodes (hi : interval≠0) (system : SystemMetricsSnapshot)
    (cpu : Float × Nat) :
    Encodes interval (encodeLogicalCpu system sampledAtMs cpu)
      (cpu.2 < 2^16 ∧ ((logicalRequest system cpu.1).reading sampledAtMs).observedTooLate=false)
      [(logicalRequest system cpu.1).descriptor interval]
      (limitationsOf sampledAtMs [logicalRequest system cpu.1])
      (fun k detail => LogicalCpuRecorded system interval sampledAtMs k cpu detail) := by
  have hmetrics := observeAll_encodes sampledAtMs hi
    [logicalRequest system cpu.1] (by simpa using canonical_logicalRequest system cpu.1)
  have h := (Encodes.reject interval (decide (2^16 ≤ cpu.2))
    "protocol_logical_cpu_count_out_of_range").bind (fun _ _ _ => hmetrics.bind (fun metrics _ _ =>
      Encodes.ret interval (⟨logicalCpuId cpu.2,cpu.2,metrics⟩ : LogicalCpuDetailV4)))
  simp only [List.append_nil,List.nil_append] at h
  refine h.conseq (by simp) ?_
  intro k detail hdetail
  obtain ⟨_,_,metrics,hm,rfl⟩ := hdetail
  exact ⟨rfl,rfl,hm⟩

theorem encodePoolTag_encodes (hi : interval≠0) (memory : Option MetricQualityInfo)
    (tag : KernelPoolTag) :
    Encodes interval (encodePoolTag memory sampledAtMs tag)
      (∀ r∈poolTagRequests memory tag, (r.reading sampledAtMs).observedTooLate=false)
      ((poolTagRequests memory tag).map (fun r => r.descriptor interval))
      (limitationsOf sampledAtMs (poolTagRequests memory tag))
      (fun k detail => PoolTagRecorded memory interval sampledAtMs k tag detail) := by
  have h := (observeAll_encodes sampledAtMs hi _
    (canonical_poolTagRequests memory tag)).bind (fun metrics _ _ => Encodes.ret interval
      ({ stableId := poolTagId tag.tag (kernelPoolKind tag.kind)
         tag := tag.tag
         kind := kernelPoolKind tag.kind
         driverCandidates := tag.driverCandidates
         driverCandidatesPending := tag.driverCandidatesPending
         metrics := metrics } : KernelPoolTagDetailV4))
  simp only [List.append_nil] at h
  refine h.conseq (by simp) ?_
  intro k detail hdetail
  obtain ⟨metrics,hm,rfl⟩ := hdetail
  exact ⟨rfl,rfl,rfl,rfl,hm⟩

/-- Every processor has an index that fits when the last one does. -/
theorem logicalCpus_fit {P : Float → Prop} (values : List Float) :
    (∀ cpu∈values.zipIdx, cpu.2 < 2^16 ∧ P cpu.1) ↔ values.length ≤ 2^16 ∧ ∀ v∈values, P v := by
  constructor
  · intro h
    constructor
    · by_contra hlong
      have hlt : 2^16 < values.length := by omega
      have hmem : (values[2^16],2^16)∈values.zipIdx :=
        List.mem_zipIdx_iff_getElem?.mpr (List.getElem?_eq_getElem hlt)
      exact Nat.lt_irrefl _ (h _ hmem).1
    · intro v hv
      obtain ⟨i,hlt,rfl⟩ := List.getElem_of_mem hv
      have hmem : (values[i],i)∈values.zipIdx :=
        List.mem_zipIdx_iff_getElem?.mpr (List.getElem?_eq_getElem hlt)
      exact (h _ hmem).2
  · intro ⟨hlen,hall⟩ cpu hcpu
    obtain ⟨hlt,hget⟩ := List.getElem?_eq_some_iff.mp (List.mem_zipIdx_iff_getElem?.mp hcpu)
    refine ⟨by omega,?_⟩
    rw [← hget]
    exact hall _ (List.getElem_mem hlt)

theorem map_zipIdx {α β : Type} (values : List α) (g : α → β) :
    values.zipIdx.map (fun p => g p.1)=values.map g := by
  rw [← List.zipIdx_map_fst 0 values,List.map_map]
  simp

/-- What the system section asks of the catalogs, and what its details refer to. -/
theorem encodeSystem_encodes (hi : interval≠0) (system : SystemMetricsSnapshot) :
    Encodes interval (encodeSystem system sampledAtMs)
      (system.logicalCpuPercent.length ≤ 2^16 ∧
        ∀ r∈allSystemRequests system, (r.reading sampledAtMs).observedTooLate=false)
      ((allSystemRequests system).map (fun r => r.descriptor interval))
      (limitationsOf sampledAtMs (allSystemRequests system))
      (fun k detail => SystemRecorded system interval sampledAtMs k detail) := by
  have h := (observeAll_encodes sampledAtMs hi _
    (canonical_systemRequests system)).bind (fun metrics _ _ =>
      (Encodes.mapM system.logicalCpuPercent.zipIdx
        (fun cpu _ => encodeLogicalCpu_encodes sampledAtMs hi system cpu)).bind
        (fun logicalCpus _ _ => (Encodes.mapM (poolTags system)
          (fun tag _ => encodePoolTag_encodes sampledAtMs hi (memoryQuality system)
            tag)).bind (fun tags _ _ => Encodes.ret interval
              (⟨"system:local",metrics,logicalCpus,tags⟩ : SystemDetailV4))))
  have hds : (allSystemRequests system).map (fun r => r.descriptor interval)=
      (systemRequests system).map (fun r => r.descriptor interval)++
        (system.logicalCpuPercent.zipIdx.map (fun cpu =>
          (logicalRequest system cpu.1).descriptor interval)++
        (poolTags system).flatMap (fun tag =>
          (poolTagRequests (memoryQuality system) tag).map (fun r => r.descriptor interval))) := by
    rw [allSystemRequests,List.map_append,List.map_append,List.map_map,List.map_flatMap,
      map_zipIdx system.logicalCpuPercent (fun v => (logicalRequest system v).descriptor interval)]
    rfl
  have hls : limitationsOf sampledAtMs (allSystemRequests system)=
      limitationsOf sampledAtMs (systemRequests system)++
        (system.logicalCpuPercent.zipIdx.flatMap (fun cpu =>
          limitationsOf sampledAtMs [logicalRequest system cpu.1])++
        (poolTags system).flatMap (fun tag =>
          limitationsOf sampledAtMs (poolTagRequests (memoryQuality system) tag))) := by
    simp only [limitationsOf,allSystemRequests,List.flatMap_append,List.flatMap_assoc,
      List.flatMap_cons,List.flatMap_nil,List.append_nil]
    rw [← map_zipIdx system.logicalCpuPercent (logicalRequest system),List.flatMap_map]
  simp only [List.append_nil,← List.map_eq_flatMap] at h
  rw [hds,hls]
  refine h.conseq ?_ ?_
  · rw [logicalCpus_fit
      (P := fun v => ((logicalRequest system v).reading sampledAtMs).observedTooLate=
      false)]
    have hflat : (∀ r∈(poolTags system).flatMap (poolTagRequests (memoryQuality system)),
        (r.reading sampledAtMs).observedTooLate=false) ↔
        ∀ tag∈poolTags system, ∀ r∈poolTagRequests (memoryQuality system) tag,
          (r.reading sampledAtMs).observedTooLate=false := by
      simp only [List.mem_flatMap,forall_exists_index,and_imp]
      exact ⟨fun h tag ht r hr => h r tag ht hr,fun h r tag ht hr => h tag ht r hr⟩
    simp only [allSystemRequests,List.forall_mem_append,List.forall_mem_map,hflat]
    tauto
  · intro k detail hdetail
    obtain ⟨metrics,hm,cpus,hc,tags,ht,rfl⟩ := hdetail
    exact ⟨rfl,hm,hc,ht⟩

end Encoding
end BatCave.Protocol
