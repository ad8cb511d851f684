import BatCave.ProcessView.Overview

/-! What the store does to a sample before it keeps it: rates from counters that go on,
memory accounting, and the marks of values that are only held. -/
namespace BatCave.RuntimeStore
open BatCave.Contracts BatCave.ProcessView BatCave.Lib BatCave.Lib.Word

section Holding

/-- `hold_metric_after_collector_failure` -/
def holdMetric (sampledAtMs heldAtMs : Nat) (quality : MetricQualityInfo) : MetricQualityInfo :=
  if quality.quality=.unavailable then quality
  else
    let updatedAtMs := quality.updatedAtMs.getD sampledAtMs
    { quality with
      quality := .held
      updatedAtMs := some updatedAtMs
      ageMs := some (heldAtMs-updatedAtMs)
      limitationCode := some .heldValue
      message := some collectorHeldMessage }

/-- `hold_process_after_collector_failure` -/
def holdProcess (sampledAtMs heldAtMs : Nat) (process : ProcessSample) : ProcessSample :=
  { process with
    quality := process.quality.map (fun quality =>
      let hold := Option.map (holdMetric sampledAtMs heldAtMs)
      { cpu := hold quality.cpu
        memory := hold quality.memory
        io := hold quality.io
        otherIo := hold quality.otherIo
        network := hold quality.network
        threads := hold quality.threads
        handles := hold quality.handles }) }

/-- `hold_system_after_collector_failure` -/
def holdSystem (sampledAtMs heldAtMs : Nat) (system : SystemMetricsSnapshot) :
    SystemMetricsSnapshot :=
  { system with
    quality := system.quality.map (fun quality =>
      let hold := Option.map (holdMetric sampledAtMs heldAtMs)
      { cpu := hold quality.cpu
        kernelCpu := hold quality.kernelCpu
        logicalCpu := hold quality.logicalCpu
        memory := hold quality.memory
        swap := hold quality.swap
        disk := hold quality.disk
        network := hold quality.network }) }

def holdGroupQuality (sampledAtMs heldAtMs : Nat) (quality : GroupMetricQuality) :
    GroupMetricQuality :=
  let hold := holdMetric sampledAtMs heldAtMs
  { cpu := hold quality.cpu
    memory := hold quality.memory
    io := hold quality.io
    otherIo := hold quality.otherIo
    network := hold quality.network
    threads := hold quality.threads }

def holdRow (sampledAtMs heldAtMs : Nat) : ProcessViewRow → ProcessViewRow
  | .process detail groupKey groupLabel groupCategory groupCount iconKind isChild isGrouped label =>
    .process { detail with process := holdProcess sampledAtMs heldAtMs detail.process }
      groupKey groupLabel groupCategory groupCount iconKind isChild isGrouped label
  | .group detail iconKind iconSource exampleLabel label =>
    .group { detail with quality := holdGroupQuality sampledAtMs heldAtMs detail.quality }
      iconKind iconSource exampleLabel label

def holdContributor (sampledAtMs heldAtMs : Nat) (contributor : ProcessContributor) :
    ProcessContributor :=
  { contributor with quality := contributor.quality.map (holdMetric sampledAtMs heldAtMs) }

def holdContributors (sampledAtMs heldAtMs : Nat) (summary : ProcessContributorSummary) :
    ProcessContributorSummary where
  cpu := holdContributor sampledAtMs heldAtMs summary.cpu
  memory := holdContributor sampledAtMs heldAtMs summary.memory
  io := holdContributor sampledAtMs heldAtMs summary.io
  network := holdContributor sampledAtMs heldAtMs summary.network

/-- `hold_snapshot_after_collector_failure`. The overview rows are left as they are. -/
def holdSnapshot (heldAtMs : Nat) (snapshot : RuntimeSnapshot) : RuntimeSnapshot :=
  match snapshot.sampledAtMs with
  | none => snapshot
  | some sampledAtMs =>
    { snapshot with
      system := holdSystem sampledAtMs heldAtMs snapshot.system
      processes := snapshot.processes.map (holdProcess sampledAtMs heldAtMs)
      processViewRows := snapshot.processViewRows.map (holdRow sampledAtMs heldAtMs)
      processContributors := holdContributors sampledAtMs heldAtMs snapshot.processContributors }

end Holding

section Rates

/-- `cumulative_sample_is_valid` -/
def cumulativeSampleIsValid (quality : Option MetricQualityInfo) : Bool := quality.any liveQuality

/-- `metric_is_pending_baseline` -/
def metricIsPendingBaseline (quality : MetricQualityInfo) : Bool :=
  quality.quality==.held && quality.limitationCode==some .pendingBaseline

/-- `cumulative_baseline_is_compatible` -/
def cumulativeBaselineIsCompatible (current previous : Option MetricQualityInfo) : Bool :=
  match current,previous with
  | some current,some previous =>
    cumulativeSampleIsValid current &&
      (cumulativeSampleIsValid previous || metricIsPendingBaseline previous) &&
      (match current.source,previous.source with
        | some current,some previous => current==previous
        | _,_ => false)
  | _,_ => false

def byteRate (current previous : Nat) (elapsedSeconds : Float) : Nat :=
  if current < previous then 0
  else Binary64.toU64 (Binary64.round
    (Binary64.ofUnsigned (current-previous)/Binary64.max elapsedSeconds 0.001))

/-- A valid quality becomes one that waits for its baseline. -/
def pendQuality (message : String) (quality : MetricQualityInfo) : MetricQualityInfo :=
  if liveQuality quality then
    { quality with
      quality := .held
      limitationCode := some .pendingBaseline
      message := some message }
  else quality

def holdProcessIoRateQuality (process : ProcessSample) : ProcessSample :=
  { process with
    quality := process.quality.map (fun quality =>
      { quality with
        io := quality.io.map (pendQuality
          "Process read/write I/O rates need a fresh prior sample.") }) }

def holdProcessOtherIoRateQuality (process : ProcessSample) : ProcessSample :=
  { process with
    quality := process.quality.map (fun quality =>
      { quality with
        otherIo := quality.otherIo.map (pendQuality
          "Process Other I/O rates need a fresh prior sample.") }) }

/-- `hold_process_rates`: what a warm cache kept has no rates. -/
def holdProcessRates (process : ProcessSample) : ProcessSample :=
  let held := holdProcessIoRateQuality
    { process with ioReadBps := 0, ioWriteBps := 0, otherIoBps := none }
  if process.otherIoTotalBytes.isSome then holdProcessOtherIoRateQuality held else held

def otherIoQuality (process : ProcessSample) : Option MetricQualityInfo :=
  process.quality.bind ProcessMetricQuality.otherIo

/-- The read and write rates of `add_process_rates`. -/
def addIoRates (previous : Option ProcessSample) (elapsedSeconds : Float)
    (process : ProcessSample) : ProcessSample :=
  match previous.filter (fun previous =>
      cumulativeBaselineIsCompatible (ioQuality process) (ioQuality previous) &&
        previous.ioReadTotalBytes ≤ process.ioReadTotalBytes &&
        previous.ioWriteTotalBytes ≤ process.ioWriteTotalBytes) with
  | some previous =>
    { process with
      ioReadBps := byteRate process.ioReadTotalBytes previous.ioReadTotalBytes elapsedSeconds
      ioWriteBps := byteRate process.ioWriteTotalBytes previous.ioWriteTotalBytes elapsedSeconds }
  | none =>
    let cleared := { process with ioReadBps := 0, ioWriteBps := 0 }
    if cumulativeSampleIsValid (ioQuality process) then holdProcessIoRateQuality cleared
    else cleared

/-- The other rate of `add_process_rates`; `current` is the process before its rates. -/
def addOtherIoRate (previous : Option ProcessSample) (elapsedSeconds : Float)
    (current process : ProcessSample) : ProcessSample :=
  match current.otherIoTotalBytes,previous.bind ProcessSample.otherIoTotalBytes with
  | some total,some before =>
    if before ≤ total ∧ cumulativeBaselineIsCompatible (otherIoQuality current)
        (previous.bind otherIoQuality)=true then
      { process with otherIoBps := some (byteRate total before elapsedSeconds) }
    else if cumulativeSampleIsValid (otherIoQuality current) then
      holdProcessOtherIoRateQuality { process with otherIoBps := none }
    else { process with otherIoBps := none }
  | some _,none =>
    if cumulativeSampleIsValid (otherIoQuality current) then
      holdProcessOtherIoRateQuality { process with otherIoBps := none }
    else { process with otherIoBps := none }
  | none,_ => { process with otherIoBps := none }

/-- The row of the earlier sample that a process continues. A later row of the same
generation takes the place of an earlier one. -/
def previousGeneration (previousProcesses : List ProcessSample) (baselineIsLive : Bool)
    (process : ProcessSample) : Option ProcessSample :=
  if baselineIsLive ∧ process.startTimeMs≠0 then
    previousProcesses.reverse.find? (fun previous =>
      previous.startTimeMs != 0 && generation previous==generation process)
  else none

/-- `add_process_rates` -/
def addProcessRates (processes previousProcesses : List ProcessSample) (elapsedSeconds : Float)
    (baselineIsLive : Bool) : List ProcessSample :=
  processes.map (fun process =>
    let previous := previousGeneration previousProcesses baselineIsLive process
    addOtherIoRate previous elapsedSeconds process (addIoRates previous elapsedSeconds process))

end Rates

section System

structure TelemetryTotals where
  tsMs : Nat
  diskReadTotalBytes : Nat
  diskWriteTotalBytes : Nat
  diskQuality : Option MetricQualityInfo
  networkReceivedTotalBytes : Nat
  networkTransmittedTotalBytes : Nat

def systemDiskQuality (system : SystemMetricsSnapshot) : Option MetricQualityInfo :=
  system.quality.bind SystemMetricQuality.disk

/-- `TelemetryTotals::from_system` -/
def TelemetryTotals.fromSystem (system : SystemMetricsSnapshot) (tsMs : Nat) : TelemetryTotals where
  tsMs := tsMs
  diskReadTotalBytes := system.diskReadTotalBytes
  diskWriteTotalBytes := system.diskWriteTotalBytes
  diskQuality := systemDiskQuality system
  networkReceivedTotalBytes := system.networkReceivedTotalBytes
  networkTransmittedTotalBytes := system.networkTransmittedTotalBytes

/-- The disk rates between the earlier totals and these. -/
def deriveDiskRates (previous : TelemetryTotals) (elapsedSeconds : Float)
    (system : SystemMetricsSnapshot) : SystemMetricsSnapshot :=
  { system with
    diskReadBps := byteRate system.diskReadTotalBytes previous.diskReadTotalBytes elapsedSeconds
    diskWriteBps := byteRate system.diskWriteTotalBytes previous.diskWriteTotalBytes
      elapsedSeconds }

/-- `derive_iokit_disk_rates` -/
def deriveIokitDiskRates (previous : Option TelemetryTotals) (elapsedSeconds : Float)
    (system : SystemMetricsSnapshot) : SystemMetricsSnapshot :=
  match previous.filter (fun previous =>
      cumulativeBaselineIsCompatible (systemDiskQuality system) previous.diskQuality &&
        previous.diskReadTotalBytes ≤ system.diskReadTotalBytes &&
        previous.diskWriteTotalBytes ≤ system.diskWriteTotalBytes) with
  | some previous => deriveDiskRates previous elapsedSeconds system
  | none =>
    { system with
      diskReadBps := 0
      diskWriteBps := 0
      quality := system.quality.map (fun quality =>
        { quality with
          disk := quality.disk.map (pendQuality
            ("Waiting for a stable IOKit physical-device counter baseline "++
              "before deriving disk rates.")) }) }

/-- The rates that the store derives for the machine. -/
def deriveSystemRates (previous : Option TelemetryTotals) (elapsedSeconds : Float)
    (system : SystemMetricsSnapshot) : SystemMetricsSnapshot :=
  let diskSource := (systemDiskQuality system).bind MetricQualityInfo.source
  let system :=
    if diskSource=some .iokit then deriveIokitDiskRates previous elapsedSeconds system
    else match previous with
      | none => system
      | some previous =>
        if diskSource≠some .procfs ∧ system.diskReadBps=0 ∧ system.diskWriteBps=0 then
          deriveDiskRates previous elapsedSeconds system
        else system
  match previous with
  | none => system
  | some previous =>
    let source := (system.quality.bind SystemMetricQuality.network).bind MetricQualityInfo.source
    if source=some .procfs ∨ source=some .interfaceAggregate then system
    else
      { system with
        networkReceivedBps := byteRate system.networkReceivedTotalBytes
          previous.networkReceivedTotalBytes elapsedSeconds
        networkTransmittedBps := byteRate system.networkTransmittedTotalBytes
          previous.networkTransmittedTotalBytes elapsedSeconds }

def processMemoryIsReported (process : ProcessSample) : Bool :=
  (memoryQuality process).all (fun memory => memory.quality != .unavailable)

def emptyAccounting : SystemMemoryAccounting :=
  ⟨0,0,0,0,none,none,none,none,none,none,[]⟩

/-- `add_process_memory_accounting` -/
def addProcessMemoryAccounting (processes : List ProcessSample) (system : SystemMetricsSnapshot) :
    SystemMetricsSnapshot :=
  let reported := processes.filter processMemoryIsReported
  { system with
    memoryAccounting := some { system.memoryAccounting.getD emptyAccounting with
      processWorkingSetBytes := reported.foldl
        (fun total process => satAdd total process.memoryBytes) 0
      processPrivateBytes := reported.foldl
        (fun total process => satAdd total process.privateBytes) 0
      deniedProcessCount := processes.countP (fun process => process.accessState==.denied)
      partialProcessCount := processes.countP
        (fun process => process.accessState==.partialAccess) } }

/-- `empty_system` -/
def emptySystem : SystemMetricsSnapshot where
  cpuPercent := 0.0
  kernelCpuPercent := 0.0
  logicalCpuPercent := []
  memoryUsedBytes := 0
  memoryTotalBytes := 0
  memoryAvailableBytes := none
  swapUsedBytes := none
  swapTotalBytes := none
  processCount := 0
  diskReadTotalBytes := 0
  diskWriteTotalBytes := 0
  diskReadBps := 0
  diskWriteBps := 0
  networkReceivedTotalBytes := 0
  networkTransmittedTotalBytes := 0
  networkReceivedBps := 0
  networkTransmittedBps := 0
  memoryAccounting := none
  quality := none

end System
end BatCave.RuntimeStore
