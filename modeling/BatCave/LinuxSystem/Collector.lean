import BatCave.Contracts.Metrics
import BatCave.Lib.Binary64
import BatCave.Lib.Text
import BatCave.Lib.Word

/-! The collector of a Linux machine's metrics: it turns counters into loads and rates by
the counters of the sample before, identity by identity, and says of each metric how far
it can be trusted. -/
namespace BatCave.LinuxSystem
open BatCave.Contracts BatCave.Lib BatCave.Lib.Text BatCave.Lib.Word

/-- `BTreeMap<String, _>`: pairs in the order of their keys. -/
structure Keyed (α : Type) where
  entries : List (String × α)
  sorted : entries.Pairwise (fun a b => a.1 < b.1)

namespace Keyed
variable {α : Type}

def get? (m : Keyed α) (key : String) : Option α := m.entries.lookup key

def values (m : Keyed α) : List α := m.entries.map Prod.snd

def empty : Keyed α := ⟨[],List.Pairwise.nil⟩

end Keyed

structure CpuTimes where
  user : Nat
  nice : Nat
  system : Nat
  idle : Nat
  iowait : Nat
  irq : Nat
  softirq : Nat
  steal : Nat
  deriving DecidableEq, Repr

namespace CpuTimes

def total (t : CpuTimes) : Nat :=
  satAdd (satAdd (satAdd (satAdd (satAdd (satAdd (satAdd t.user t.nice) t.system) t.idle)
    t.iowait) t.irq) t.softirq) t.steal

def idleTotal (t : CpuTimes) : Nat := satAdd t.idle t.iowait

def kernelTotal (t : CpuTimes) : Nat := satAdd (satAdd t.system t.irq) t.softirq

/-- Some counter went back. -/
def reset (previous current : CpuTimes) : Bool :=
  current.user < previous.user || current.nice < previous.nice ||
    current.system < previous.system || current.idle < previous.idle ||
    current.iowait < previous.iowait || current.irq < previous.irq ||
    current.softirq < previous.softirq || current.steal < previous.steal

end CpuTimes

structure MemoryTotals where
  totalBytes : Nat := 0
  availableBytes : Nat := 0
  usedBytes : Nat := 0
  swapTotalBytes : Nat := 0
  swapUsedBytes : Nat := 0
  deriving DecidableEq, Repr

structure IoTotals where
  readTotalBytes : Nat := 0
  writeTotalBytes : Nat := 0
  deriving DecidableEq, Repr

def IoTotals.reset (previous current : IoTotals) : Bool :=
  current.readTotalBytes < previous.readTotalBytes ||
    current.writeTotalBytes < previous.writeTotalBytes

structure TimedIoCounters where
  counters : Keyed IoTotals
  /-- The instant of the sample, in nanoseconds. -/
  sampledAt : Nat

def percent (numerator denominator : Nat) : Float :=
  if denominator=0 then 0.0
  else Binary64.ofUnsigned numerator/Binary64.ofUnsigned denominator*100.0

def round1 (value : Float) : Float := Binary64.round (value*10.0)/10.0

/-- `cpu_load`: the busy share and the kernel's share of the time between two samples. -/
def cpuLoad (previous current : CpuTimes) : Option (Float × Float) :=
  if previous.reset current then none
  else
    let totalDelta := current.total-previous.total
    if totalDelta=0 then some (0.0,0.0)
    else
      let idleDelta := current.idleTotal-previous.idleTotal
      let kernelDelta := current.kernelTotal-previous.kernelTotal
      some (round1 (percent (totalDelta-idleDelta) totalDelta),
        round1 (percent kernelDelta totalDelta))

/-- `Duration::as_secs_f64` of the time from one instant to a later one. -/
def secondsSince (later earlier : Nat) : Float :=
  let nanos := later-earlier
  Binary64.ofUnsigned (nanos/10^9)+Binary64.ofUnsigned (nanos%10^9)/Binary64.ofUnsigned (10^9)

/-- `byte_rate` -/
def byteRate (current previous : Nat) (elapsedSeconds : Float) : Nat :=
  if current < previous then 0
  else Binary64.toU64 (Binary64.round
    (Binary64.ofUnsigned (current-previous)/Binary64.max elapsedSeconds 0.001))

/-- `sum_io_totals` -/
def sumIoTotals (counters : List IoTotals) : IoTotals :=
  counters.foldl (fun totals counter =>
    { readTotalBytes := satAdd totals.readTotalBytes counter.readTotalBytes
      writeTotalBytes := satAdd totals.writeTotalBytes counter.writeTotalBytes }) {}

/-- What the loop over the identities has counted. -/
structure KeyedRates where
  readBps : Nat := 0
  writeBps : Nat := 0
  matched : Nat := 0
  warming : Nat := 0
  reset : Nat := 0

def KeyedRates.step (previous : Keyed IoTotals) (elapsedSeconds : Float) (r : KeyedRates)
    (entry : String × IoTotals) : KeyedRates :=
  match previous.get? entry.1 with
  | none => { r with warming := r.warming+1 }
  | some before =>
    if before.reset entry.2 then { r with reset := r.reset+1 }
    else
      { r with
        matched := r.matched+1
        readBps := satAdd r.readBps
          (byteRate entry.2.readTotalBytes before.readTotalBytes elapsedSeconds)
        writeBps := satAdd r.writeBps
          (byteRate entry.2.writeTotalBytes before.writeTotalBytes elapsedSeconds) }

def native : MetricQualityInfo := .new .native .procfs

/-- A metric that still waits for the counters to measure against. -/
def pending (quality : MetricQuality) (message : String) : MetricQualityInfo :=
  (MetricQualityInfo.new quality .procfs).withLimitation .pendingBaseline message

def failed (quality : MetricQuality) (error : String) : MetricQualityInfo :=
  (MetricQualityInfo.new quality .procfs).withLimitation .collectorFailure error

/-- `keyed_io_rates` -/
def keyedIoRates (current previous : Keyed IoTotals) (elapsedSeconds : Float) :
    Nat × Nat × MetricQualityInfo :=
  let rates := current.entries.foldl (KeyedRates.step previous elapsedSeconds) {}
  let quality :=
    if rates.matched=0 ∧ (current.entries≠[] ∨ previous.entries≠[]) then
      pending .held
        "Linux counter identities changed or reset; waiting for stable per-device baselines."
    else if 0 < rates.warming ∨ 0 < rates.reset then
      pending .partialQuality
        "New or reset Linux counter identities are warming up; stable identities remain native."
    else native
  (rates.readBps,rates.writeBps,quality)

/-- `resolve_io_sample`, with the counters it leaves for the next sample. -/
def resolveIoSample (current : Except String (Keyed IoTotals)) (previous : Option TimedIoCounters)
    (sampledAt : Nat) (initialMessage : String) :
    (IoTotals × Nat × Nat × MetricQualityInfo) × Option TimedIoCounters :=
  match current with
  | .ok counters =>
    let rates : Nat × Nat × MetricQualityInfo :=
      match previous with
      | none => (0,0,pending .held initialMessage)
      | some previous =>
        keyedIoRates counters previous.counters (secondsSince sampledAt previous.sampledAt)
    ((sumIoTotals counters.values,rates),some ⟨counters,sampledAt⟩)
  | .error error =>
    match previous with
    | none => (({},0,0,failed .unavailable error),previous)
    | some before => ((sumIoTotals before.counters.values,0,0,failed .held error),previous)

structure LinuxSystemCollector where
  previousCpu : Option (Keyed CpuTimes) := none
  previousDisk : Option TimedIoCounters := none
  previousNetwork : Option TimedIoCounters := none

/-- What one sample reads of the machine. -/
structure Readings where
  cpuTimes : Keyed CpuTimes
  memory : MemoryTotals
  disk : Except String (Keyed IoTotals)
  network : Except String (Keyed IoTotals)
  sampledAt : Nat
  processCount : Nat

/-- The number after `cpu` in a label, the largest `u32` where there is none. -/
def cpuOrder (label : String) : Nat :=
  if "cpu".toList.isPrefixOf label.toList then
    (parseU32 (String.ofList (label.toList.drop 3))).getD (2^32-1)
  else 2^32-1

/-- The logical processors in the order of their numbers. -/
def logicalCpuTimes (cpuTimes : Keyed CpuTimes) : List (String × CpuTimes) :=
  (cpuTimes.entries.filter (fun entry => entry.1 != "cpu")).mergeSort
    (fun a b => cpuOrder a.1 ≤ cpuOrder b.1)

inductive LogicalLoad where
  | warming | reset | load (percent : Float)

def logicalLoad (previous : Option (Keyed CpuTimes)) (entry : String × CpuTimes) : LogicalLoad :=
  match previous.bind (fun previous => previous.get? entry.1) with
  | none => .warming
  | some before =>
    match cpuLoad before entry.2 with
    | some load => .load load.1
    | none => .reset

def LogicalLoad.percent : LogicalLoad → Float
  | .load percent => percent
  | _ => 0.0

def LogicalLoad.stable : LogicalLoad → Bool
  | .load _ => true
  | _ => false

def aggregateCpu (previous : Option (Keyed CpuTimes)) (aggregate : CpuTimes) :
    Float × Float × MetricQualityInfo :=
  match previous.bind (fun previous => previous.get? "cpu") with
  | none => (0.0,0.0,pending .held "Linux CPU counters need a second /proc/stat sample.")
  | some before =>
    match cpuLoad before aggregate with
    | some (cpu,kernel) => (cpu,kernel,native)
    | none => (0.0,0.0,pending .held
        "Linux aggregate CPU counters reset; waiting for a fresh baseline.")

def logicalCpuQuality (previous : Option (Keyed CpuTimes)) (loads : List LogicalLoad) :
    MetricQualityInfo :=
  if previous.isNone then
    pending .held "Linux logical CPU counters need a second keyed /proc/stat sample."
  else if loads.any (fun load => !load.stable) then
    pending .partialQuality
      "New or reset logical CPUs are warming up; stable CPU identities remain native."
  else native

/-- `LinuxSystemCollector::sample_from`. Without an aggregate the sample fails after the
disk and network counters were taken over. -/
def sampleFrom (c : LinuxSystemCollector) (readings : Readings) :
    Except String SystemMetricsSnapshot × LinuxSystemCollector :=
  let ((disk,diskReadBps,diskWriteBps,diskQuality),previousDisk) :=
    resolveIoSample readings.disk c.previousDisk readings.sampledAt
      "Linux disk counters need a second /sys/block sample."
  let ((network,networkReceivedBps,networkTransmittedBps,networkQuality),previousNetwork) :=
    resolveIoSample readings.network c.previousNetwork readings.sampledAt
      "Linux network counters need a second /proc/net/dev sample."
  let c := { c with previousDisk := previousDisk, previousNetwork := previousNetwork }
  match readings.cpuTimes.get? "cpu" with
  | none => (.error "linux_proc_stat_missing_aggregate_cpu",c)
  | some aggregate =>
    let (cpuPercent,kernelCpuPercent,cpuQuality) := aggregateCpu c.previousCpu aggregate
    let loads := (logicalCpuTimes readings.cpuTimes).map (logicalLoad c.previousCpu)
    (.ok {
      cpuPercent := cpuPercent
      kernelCpuPercent := kernelCpuPercent
      logicalCpuPercent := loads.map LogicalLoad.percent
      memoryUsedBytes := readings.memory.usedBytes
      memoryTotalBytes := readings.memory.totalBytes
      memoryAvailableBytes := some readings.memory.availableBytes
      swapUsedBytes := some readings.memory.swapUsedBytes
      swapTotalBytes := some readings.memory.swapTotalBytes
      processCount := readings.processCount
      diskReadTotalBytes := disk.readTotalBytes
      diskWriteTotalBytes := disk.writeTotalBytes
      diskReadBps := diskReadBps
      diskWriteBps := diskWriteBps
      networkReceivedTotalBytes := network.readTotalBytes
      networkTransmittedTotalBytes := network.writeTotalBytes
      networkReceivedBps := networkReceivedBps
      networkTransmittedBps := networkTransmittedBps
      memoryAccounting := none
      quality := some {
        cpu := some cpuQuality
        kernelCpu := some cpuQuality
        logicalCpu := some (logicalCpuQuality c.previousCpu loads)
        memory := some native
        swap := some native
        disk := some diskQuality
        network := some networkQuality } },
      { c with previousCpu := some readings.cpuTimes })

end BatCave.LinuxSystem
