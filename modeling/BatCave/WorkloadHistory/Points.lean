import Mathlib.Algebra.Ring.Nat
import Mathlib.Data.List.Basic

/-! Rows of a sample, the workloads encoded from them and the history point each one
leaves. Measured values are of any type with a zero and an addition: no float is
compared here. -/
namespace BatCave.WorkloadHistory

inductive RuntimePlatform where
  | windows | linux | macos | fixture
  deriving DecidableEq, Repr

inductive MetricSemantic where
  | cpuUsage | kernelCpuUsage | logicalCpuUsage
  | residentMemory | privateMemory | virtualMemory
  | memoryUsed | memoryCapacity | memoryAvailable | swapUsed | swapCapacity
  | processWorkingSetMemory | processPrivateMemory | deniedProcessCount | partialProcessCount
  | commitUsed | commitLimit | systemCache
  | kernelMemory | kernelPagedPool | kernelNonpagedPool
  | kernelPoolBytes | kernelPoolAllocations | kernelPoolFrees
  | physicalDiskReadTotal | physicalDiskWriteTotal | physicalDiskReadRate | physicalDiskWriteRate
  | readIoTotal | writeIoTotal | otherIoTotal
  | readIoRate | writeIoRate | otherIoRate | readWriteIoRate
  | networkReceiveTotal | networkTransmitTotal
  | networkReceiveRate | networkTransmitRate | networkRate
  | processCount | threadCount | handleCount
  deriving DecidableEq, Repr

inductive NetworkScopeV4 where
  | nonLoopbackInterfaceAggregate | allInterfaceAggregate | ipSocketPayload
  deriving DecidableEq, Repr

inductive MetricSourceV4 where
  | unknown | directApi | libproc | iokit | pdh | interfaceAggregate | processAggregate
  | sysinfo | runtime | etw | nstat | procfs | ebpf | fixture
  deriving DecidableEq, Repr

inductive MetricQualityV4 where
  | native | estimated | held | partialCoverage | unavailable
  deriving DecidableEq, Repr

inductive ProcessIdentityStabilityV4 where
  | stable | publication
  deriving DecidableEq, Repr

def qualityCodes : List MetricQualityV4 :=
  [.native,.estimated,.held,.partialCoverage,.unavailable]

structure MeasurementDescriptor where
  semantic : MetricSemantic
  networkScope : Option NetworkScopeV4
  source : MetricSourceV4
  deriving DecidableEq, Repr

structure MetricObservation (ν : Type) where
  descriptorIndex : Nat
  value : Option ν
  qualityCode : Nat

structure GroupMetricCoverageV4 where
  descriptorIndex : Nat
  availableContributors : Nat

structure ProcessDetailV4 (ν κ : Type) where
  stableId : String
  identityStability : ProcessIdentityStabilityV4
  parentProcessId : Option String
  metrics : List (MetricObservation ν)
  rest : κ

structure GroupDetailV4 (ν κ : Type) where
  stableId : String
  memberIds : List String
  metrics : List (MetricObservation ν)
  coverage : List GroupMetricCoverageV4
  rest : κ

inductive WorkloadDetailV4 (ν κ : Type) where
  | process (detail : ProcessDetailV4 ν κ)
  | group (detail : GroupDetailV4 ν κ)

/-- What the encoder of one family leaves behind; `limitations` is never read here. -/
structure CatalogBuilder (κ : Type) where
  descriptors : List MeasurementDescriptor
  limitations : κ

structure InspectionCatalog (ν κ : Type) where
  sampleSeq : Nat
  sampledAtMs : Nat
  publishedAtMs : Nat
  descriptors : List MeasurementDescriptor
  qualityCodes : List MetricQualityV4
  limitations : κ
  workloads : List (WorkloadDetailV4 ν κ)

structure HistoryObservation (ν : Type) where
  value : Option ν
  quality : MetricQualityV4
  source : MetricSourceV4
  networkScope : Option NetworkScopeV4
  available : Nat
  total : Nat

structure WorkloadHistoryPoint (ν : Type) where
  sampleSeq : Nat
  sampledAtMs : Nat
  intervalMs : Nat
  gapBefore : Bool
  cpu : HistoryObservation ν
  memory : HistoryObservation ν
  io : HistoryObservation ν
  network : HistoryObservation ν

variable {ν κ ρ : Type}

def stableId : WorkloadDetailV4 ν κ → String
  | .process detail => detail.stableId
  | .group detail => detail.stableId

/-- Group identities encode their verified process membership. -/
def identityStability : WorkloadDetailV4 ν κ → ProcessIdentityStabilityV4
  | .process detail => detail.identityStability
  | .group _ => .stable

/-- A parent outside the family is not named. -/
def clearForeignParent (ids : List String) : WorkloadDetailV4 ν κ → WorkloadDetailV4 ν κ
  | .process detail =>
    if detail.parentProcessId.any (fun id => !ids.contains id) then
      .process {detail with parentProcessId := none}
    else .process detail
  | .group detail => .group detail

@[simp] theorem stableId_clearForeignParent (ids : List String) (row : WorkloadDetailV4 ν κ) :
    stableId (clearForeignParent ids row)=stableId row := by
  cases row with
  | process detail =>
    simp only [clearForeignParent]
    split <;> rfl
  | group detail => rfl

def qualityRank : MetricQualityV4 → Nat
  | .native => 0
  | .estimated => 1
  | .partialCoverage => 2
  | .held => 3
  | .unavailable => 4

namespace HistoryPoint
variable [Zero ν] [Add ν]

def metrics : WorkloadDetailV4 ν κ → List (MetricObservation ν)
  | .process detail => detail.metrics
  | .group detail => detail.metrics

/-- A process has no coverage table. -/
def coverage : WorkloadDetailV4 ν κ → Option (List GroupMetricCoverageV4)
  | .process _ => none
  | .group detail => some detail.coverage

def total : WorkloadDetailV4 ν κ → Nat
  | .process _ => 1
  | .group detail => detail.memberIds.length

/-- Contributors of one metric: its coverage row, else all of them if it has a value. -/
def contributors (row : WorkloadDetailV4 ν κ) (metric : MetricObservation ν) : Nat :=
  match (coverage row).bind
      (fun counts => counts.find? (fun c => c.descriptorIndex=metric.descriptorIndex)) with
  | some c => c.availableContributors
  | none => if metric.value.isSome then total row else 0

/-- Fold one semantic into an observation. The indices are the encoder's own, into the
tables of the same catalog. -/
def addSemantic (row : WorkloadDetailV4 ν κ) (catalog : InspectionCatalog ν κ)
    (result : HistoryObservation ν) (semantic : MetricSemantic) : HistoryObservation ν :=
  let described (metric : MetricObservation ν) := catalog.descriptors[metric.descriptorIndex]?
  match (metrics row).find? (fun metric => (described metric).any (·.semantic=semantic)) with
  | none => {result with value := none, quality := .unavailable, available := 0}
  | some metric =>
    match described metric,catalog.qualityCodes[metric.qualityCode]? with
    | some descriptor,some quality =>
      let count := contributors row metric
      { value :=
          match result.value,metric.value with
          | some left,some right =>
            if quality∉[MetricQualityV4.held,.unavailable] ∧ descriptor.source≠.unknown ∧
                count>0 then some (left+right)
            else none
          | _,_ => none
        quality :=
          if qualityRank quality>qualityRank result.quality then quality else result.quality
        source := descriptor.source
        networkScope := descriptor.networkScope
        available := min result.available count
        total := result.total}
    | _,_ => result

def observation (row : WorkloadDetailV4 ν κ) (catalog : InspectionCatalog ν κ)
    (semantics : List MetricSemantic) : HistoryObservation ν :=
  semantics.foldl (addSemantic row catalog)
    ⟨some 0,.native,.unknown,none,total row,total row⟩

def isGroup : WorkloadDetailV4 ν κ → Bool
  | .process _ => false
  | .group _ => true

end HistoryPoint

open HistoryPoint in
def historyPoint [Zero ν] [Add ν] (row : WorkloadDetailV4 ν κ) (catalog : InspectionCatalog ν κ)
    (intervalMs : Nat) : WorkloadHistoryPoint ν where
  sampleSeq := catalog.sampleSeq
  sampledAtMs := catalog.sampledAtMs
  intervalMs := intervalMs
  gapBefore := true
  cpu := observation row catalog [.cpuUsage]
  memory := observation row catalog [.residentMemory]
  io := observation row catalog
    (if isGroup row then [.readWriteIoRate] else [.readIoRate,.writeIoRate])
  network := observation row catalog
    (if isGroup row then [.networkRate] else [.networkReceiveRate,.networkTransmitRate])

def scopeChanged (left right : WorkloadHistoryPoint ν) : Bool :=
  [(left.cpu,right.cpu),(left.memory,right.memory),(left.io,right.io),
    (left.network,right.network)].any (fun (left,right) =>
      decide (left.source≠right.source) || decide (left.networkScope≠right.networkScope) ||
        decide (left.available≠right.available) || decide (left.total≠right.total))

/-- Whether a point continues the history that ends with `last`. -/
def gapAfter (last : Option (WorkloadHistoryPoint ν)) (point : WorkloadHistoryPoint ν) : Bool :=
  match last with
  | none => true
  | some last =>
    decide (last.sampleSeq+1≠point.sampleSeq) || decide (last.intervalMs≠point.intervalMs) ||
      scopeChanged last point || decide (point.sampledAtMs ≤ last.sampledAtMs) ||
      decide (point.sampledAtMs-last.sampledAtMs≥last.intervalMs*2)

/-- A row of the process view: what names it, and the rest of its data. -/
inductive ProcessViewRow (ρ : Type) where
  | group (groupKey workloadId : String) (rest : ρ)
  | process (groupKey : String) (isGrouped : Bool) (pid : String) (startTimeMs : Nat) (rest : ρ)

namespace ProcessViewRow

def isGroupedProcess : ProcessViewRow ρ → Bool
  | .process _ isGrouped _ _ _ => isGrouped
  | .group .. => false

/-- The key of the group a grouped process belongs to. -/
def memberKey? : ProcessViewRow ρ → Option String
  | .process groupKey true _ _ _ => some groupKey
  | _ => none

/-- The family of a row that opens one: a group with its members, or the row alone. -/
def family (rows : List (ProcessViewRow ρ)) : ProcessViewRow ρ → List (ProcessViewRow ρ)
  | row@(.group groupKey _ _) => row::rows.filter (fun member => member.memberKey?=some groupKey)
  | row => [row]

end ProcessViewRow

def rowId (row : ProcessViewRow ρ) (sampleSeq : Nat) : String :=
  match row with
  | .group _ workloadId _ => workloadId
  | .process _ _ pid startTimeMs _ =>
    if startTimeMs=0 then s!"process:{pid}:publication:{sampleSeq}"
    else s!"process:{pid}:{startTimeMs}"

end BatCave.WorkloadHistory
