import Mathlib.Algebra.Ring.Nat

/-! What one sample reports: the metrics of the machine, of a process and of a group
of processes, each with its quality. Machine words are naturals, `f64` is Lean's own
binary64 `Float`. -/
namespace BatCave.Contracts

inductive MetricQuality where
  | native | estimated | held | partialQuality | unavailable
  deriving DecidableEq, Repr

inductive MetricSource where
  | directApi | libproc | iokit | pdh | interfaceAggregate | processAggregate | sysinfo
  | runtime | etw | nstat | procfs | ebpf | fixture
  deriving DecidableEq, Repr

inductive MetricLimitationCode where
  | unsupportedMetric | accessDenied | authorizationScope | partialCoverage | pendingBaseline
  | heldValue | collectorFailure | dataLoss | missingMetadata | groupPartialCoverage
  | numericRange
  deriving DecidableEq, Repr

structure MetricQualityInfo where
  quality : MetricQuality
  source : Option MetricSource
  updatedAtMs : Option Nat := none
  ageMs : Option Nat := none
  limitationCode : Option MetricLimitationCode := none
  message : Option String := none
  deriving DecidableEq, Repr

/-- `MetricQualityInfo::new` -/
def MetricQualityInfo.new (quality : MetricQuality) (source : MetricSource) :
    MetricQualityInfo :=
  { quality := quality, source := some source }

def MetricQualityInfo.withLimitation (info : MetricQualityInfo) (code : MetricLimitationCode)
    (message : String) : MetricQualityInfo :=
  { info with limitationCode := some code, message := some message }

structure MetricCoverage where
  available : Nat
  total : Nat
  deriving DecidableEq, Repr

structure ProcessMetricQuality where
  cpu : Option MetricQualityInfo := none
  memory : Option MetricQualityInfo := none
  io : Option MetricQualityInfo := none
  otherIo : Option MetricQualityInfo := none
  network : Option MetricQualityInfo := none
  threads : Option MetricQualityInfo := none
  handles : Option MetricQualityInfo := none
  deriving DecidableEq, Repr

structure SystemMetricQuality where
  cpu : Option MetricQualityInfo := none
  kernelCpu : Option MetricQualityInfo := none
  logicalCpu : Option MetricQualityInfo := none
  memory : Option MetricQualityInfo := none
  swap : Option MetricQualityInfo := none
  disk : Option MetricQualityInfo := none
  network : Option MetricQualityInfo := none
  deriving DecidableEq, Repr

inductive AccessState where
  | full | partialAccess | denied
  deriving DecidableEq, Repr

structure ProcessSample where
  pid : String
  parentPid : Option String
  startTimeMs : Nat
  name : String
  exe : String
  status : String
  cpuPercent : Float
  kernelCpuPercent : Option Float := none
  memoryBytes : Nat
  privateBytes : Nat
  virtualMemoryBytes : Option Nat := none
  ioReadTotalBytes : Nat
  ioWriteTotalBytes : Nat
  otherIoTotalBytes : Option Nat := none
  ioReadBps : Nat
  ioWriteBps : Nat
  otherIoBps : Option Nat := none
  networkReceivedBps : Option Nat := none
  networkTransmittedBps : Option Nat := none
  threads : Nat
  handles : Nat
  accessState : AccessState
  quality : Option ProcessMetricQuality := none
  deriving DecidableEq, Repr

inductive KernelPoolKind where
  | paged | nonpaged
  deriving DecidableEq, Repr

structure KernelPoolTag where
  tag : String
  kind : KernelPoolKind
  bytes : Nat
  allocations : Nat
  frees : Nat
  driverCandidates : List String
  driverCandidatesPending : Bool
  deriving DecidableEq, Repr

structure SystemMemoryAccounting where
  processWorkingSetBytes : Nat
  processPrivateBytes : Nat
  deniedProcessCount : Nat
  partialProcessCount : Nat
  commitUsedBytes : Option Nat
  commitLimitBytes : Option Nat
  systemCacheBytes : Option Nat
  kernelTotalBytes : Option Nat
  kernelPagedPoolBytes : Option Nat
  kernelNonpagedPoolBytes : Option Nat
  kernelPoolTags : List KernelPoolTag
  deriving DecidableEq, Repr

structure SystemMetricsSnapshot where
  cpuPercent : Float
  kernelCpuPercent : Float
  logicalCpuPercent : List Float
  memoryUsedBytes : Nat
  memoryTotalBytes : Nat
  memoryAvailableBytes : Option Nat
  swapUsedBytes : Option Nat
  swapTotalBytes : Option Nat
  processCount : Nat
  diskReadTotalBytes : Nat
  diskWriteTotalBytes : Nat
  diskReadBps : Nat
  diskWriteBps : Nat
  networkReceivedTotalBytes : Nat
  networkTransmittedTotalBytes : Nat
  networkReceivedBps : Nat
  networkTransmittedBps : Nat
  memoryAccounting : Option SystemMemoryAccounting
  quality : Option SystemMetricQuality
  deriving DecidableEq, Repr

end BatCave.Contracts
