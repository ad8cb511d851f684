import BatCave.LinuxProcess.Stat
import BatCave.ProcessView.Rows

/-! The rows that the collector makes of `/proc`: each process is read between two looks at its
`stat`, and its share of the processor is measured against the collection before. What the other
files of a process say is given. -/
namespace BatCave.LinuxProcess
open BatCave.Contracts BatCave.Lib BatCave.Lib.Result BatCave.Lib.Text BatCave.Lib.Word
open BatCave.ProcessView (round1)

structure ProcessIo where
  readBytes : Nat := 0
  writeBytes : Nat := 0
  deriving DecidableEq, Repr

structure ProcessTicks where
  user : Nat
  kernel : Nat
  deriving DecidableEq, Repr

def ProcessTicks.total (t : ProcessTicks) : Nat := satAdd t.user t.kernel

structure ProcessKey where
  pid : Nat
  startTimeTicks : Nat
  deriving DecidableEq, Repr

structure ProcessCpuTicks where
  processTicks : ProcessTicks
  cpuTotalTicks : Nat
  deriving DecidableEq, Repr

structure RawLinuxProcess where
  sample : ProcessSample
  cpuTicks : ProcessTicks
  startTimeTicks : Nat
  deriving DecidableEq, Repr

structure CpuSnapshot where
  totalTicks : Nat
  logicalCpuCount : Nat
  deriving DecidableEq, Repr

/-- What is found in the directory of a process besides its `stat`. -/
structure ProcessFiles where
  io : Except String ProcessIo
  exe : Option String
  privateBytes : Option Nat
  /-- The entries of `fd`. -/
  fd : Option Nat

/-- What a process shows while it is read: its `stat` twice, and the rest in between. -/
structure ProcessReadings extends ProcessFiles where
  stat : Except String String
  confirmed : Except String String

/-- The settings of the machine that a collector was made with. -/
structure Machine where
  ticksPerSecond : Nat := 100
  pageSize : Nat := 4096
  bootTimeMs : Nat := 0

def saturatingMul (a b : Nat) : Nat := min (a*b) u64Max

def rssBytes (pages : Int) (pageSize : Nat) : Nat := saturatingMul pages.toNat pageSize

section Quality
variable (accessState : AccessState)

def procfs (quality : MetricQuality) : MetricQualityInfo := .new quality .procfs

/-- `direct` -/
def directQuality : MetricQualityInfo :=
  match accessState with
  | .full => procfs .native
  | .partialAccess => (procfs .partialQuality).withLimitation .partialCoverage
      "Some /proc files were unavailable for this process."
  | .denied => (procfs .unavailable).withLimitation .accessDenied
      "Process telemetry was denied by /proc permissions."

def linuxProcessQuality (hasIo hasPrivateMemory : Bool) : ProcessMetricQuality where
  cpu := some ((procfs .held).withLimitation .pendingBaseline
    "Linux process CPU needs a second /proc sample.")
  memory := some (if hasPrivateMemory then directQuality accessState
    else (procfs .estimated).withLimitation .unsupportedMetric
      "RssAnon is unavailable; private memory uses RSS as an estimate.")
  io := some (if hasIo then directQuality accessState
    else (procfs .unavailable).withLimitation
      (if accessState=.denied then .accessDenied else .unsupportedMetric)
      "Linux process I/O requires /proc/<pid>/io access.")
  otherIo := some ((procfs .unavailable).withLimitation .unsupportedMetric
    "Linux /proc does not expose Windows-style other I/O totals.")
  network := some ((procfs .unavailable).withLimitation .unsupportedMetric
    "Linux per-process network attribution is not exposed by /proc.")
  threads := some (directQuality accessState)
  handles := some (directQuality accessState)

end Quality

section Read
variable (m : Machine) (pid : Nat)

def startTimeMs (stat : ProcessStat) : Nat :=
  if m.bootTimeMs=0 then 0
  else satAdd m.bootTimeMs (saturatingMul stat.startTimeTicks 1000/max m.ticksPerSecond 1)

/-- The row of a process whose second `stat` names the same generation. -/
def rawProcess (files : ProcessFiles) (stat : ProcessStat) : RawLinuxProcess :=
  let hasIo := files.io.isOk
  let io := files.io.toOption.getD {}
  let exe := files.exe.getD ""
  let accessState := if exe≠"" ∧ hasIo ∧ files.fd.isSome then .full else .partialAccess
  { cpuTicks := ⟨stat.userTicks,stat.kernelTicks⟩
    startTimeTicks := stat.startTimeTicks
    sample :=
      { pid := Nat.repr stat.pid
        parentPid := stat.parentPid
        startTimeMs := startTimeMs m stat
        name := stat.name
        exe := exe
        status := stat.status
        cpuPercent := 0.0
        kernelCpuPercent := none
        memoryBytes := rssBytes stat.rssPages m.pageSize
        privateBytes := files.privateBytes.getD (rssBytes stat.rssPages m.pageSize)
        virtualMemoryBytes := some stat.virtualMemoryBytes
        ioReadTotalBytes := io.readBytes
        ioWriteTotalBytes := io.writeBytes
        otherIoTotalBytes := none
        ioReadBps := 0
        ioWriteBps := 0
        otherIoBps := none
        networkReceivedBps := none
        networkTransmittedBps := none
        threads := stat.threads
        handles := (files.fd.map (min (2^32-1))).getD 0
        accessState := accessState
        quality := some (linuxProcessQuality accessState hasIo files.privateBytes.isSome) } }

def readProcessWithStatReader (files : ProcessFiles) (first second : Except String ProcessStat) :
    Except String RawLinuxProcess := do
  let stat ← first
  reject (stat.pid != pid) ("linux_proc_process_identity_changed:"++Nat.repr pid)
  let confirmed ← second
  reject (confirmed.pid != stat.pid || confirmed.startTimeTicks != stat.startTimeTicks ||
    confirmed.parentPid != stat.parentPid) ("linux_proc_process_identity_changed:"++Nat.repr pid)
  .ok (rawProcess m files stat)

def readProcess (readings : ProcessReadings) : Except String RawLinuxProcess :=
  readProcessWithStatReader m pid readings.toProcessFiles
    (readings.stat.bind parseProcessStat) (readings.confirmed.bind parseProcessStat)

end Read

structure LinuxProcessCollector extends Machine where
  previous : AList (fun _ : ProcessKey => ProcessCpuTicks) := ∅

/-- The share of the processor that a process had since the collection before. -/
def measured (previous : Option ProcessCpuTicks) (cpu : CpuSnapshot) (raw : RawLinuxProcess) :
    ProcessSample :=
  match previous with
  | none => raw.sample
  | some previous =>
    let totalDelta := cpu.totalTicks-previous.cpuTotalTicks
    let processDelta := raw.cpuTicks.total-previous.processTicks.total
    let kernelDelta := raw.cpuTicks.kernel-previous.processTicks.kernel
    if 0 < totalDelta then
      let factor := Binary64.ofUnsigned (max cpu.logicalCpuCount 1)
      let share := fun delta : Nat =>
        round1 (Binary64.ofUnsigned delta/Binary64.ofUnsigned totalDelta*factor*100.0)
      { raw.sample with
        cpuPercent := share processDelta
        kernelCpuPercent := some (share kernelDelta)
        quality := some { raw.sample.quality.getD {} with cpu := some (procfs .native) } }
    else raw.sample

namespace LinuxProcessCollector
variable (c : LinuxProcessCollector) (cpu : CpuSnapshot)

/-- One entry of `/proc`, as the loop of `collect` takes it: no process, or one that cannot be
read, is passed over. -/
def collectEntry (entry : String × ProcessReadings) :
    Option (ProcessKey × ProcessCpuTicks × ProcessSample) := do
  let pid ← parseU32 entry.1
  let raw ← (readProcess c.toMachine pid entry.2).toOption
  let key := ⟨pid,raw.startTimeTicks⟩
  some (key,⟨raw.cpuTicks,cpu.totalTicks⟩,measured (c.previous.lookup key) cpu raw)

/-- `collect`: the boot time is asked for again while it is not known. -/
def collect (bootTime : Option Nat) (cpuSnapshot : Except String CpuSnapshot)
    (entries : Except String (List (String × ProcessReadings))) :
    Except String (List ProcessSample) × LinuxProcessCollector :=
  let c := if c.bootTimeMs=0 then { c with bootTimeMs := bootTime.getD 0 } else c
  match cpuSnapshot,entries with
  | .error error,_ => (.error error,c)
  | .ok _,.error error => (.error error,c)
  | .ok cpu,.ok entries =>
    let collected := entries.filterMap (c.collectEntry cpu)
    (.ok (collected.map (fun p => p.2.2)),
      { c with previous := collected.foldl (fun ticks p => ticks.insert p.1 p.2.1) ∅ })

end LinuxProcessCollector

/-- A row that the collector makes of a process with this `stat`. -/
def Collected (stat : ProcessStat) (row : ProcessSample) : Prop :=
  ∃ m pid files second raw previous cpu,
    readProcessWithStatReader m pid files (.ok stat) second=.ok raw ∧ row=measured previous cpu raw

section Rows
variable {m : Machine} {pid : Nat} {files : ProcessFiles} {stat : ProcessStat}
  {raw : RawLinuxProcess}

theorem readProcessWithStatReader_ok {first second : Except String ProcessStat} :
    readProcessWithStatReader m pid files first second=.ok raw ↔
      ∃ stat confirmed, first=.ok stat ∧ second=.ok confirmed ∧ stat.pid=pid ∧
        confirmed.pid=stat.pid ∧ confirmed.startTimeTicks=stat.startTimeTicks ∧
        confirmed.parentPid=stat.parentPid ∧ rawProcess m files stat=raw := by
  simp only [readProcessWithStatReader,bind_ok,exists_unit,reject_ok,Bool.or_eq_false_iff,
    bne_eq_false_iff_eq,Except.ok.injEq]
  constructor
  · intro ⟨stat,hfirst,hpid,confirmed,hsecond,⟨⟨hsame,hstart⟩,hparent⟩,hraw⟩
    exact ⟨stat,confirmed,hfirst,hsecond,hpid,hsame,hstart,hparent,hraw⟩
  · intro ⟨stat,confirmed,hfirst,hsecond,hpid,hsame,hstart,hparent,hraw⟩
    exact ⟨stat,hfirst,hpid,confirmed,hsecond,⟨⟨hsame,hstart⟩,hparent⟩,hraw⟩

/-- What is measured of a process leaves alone who it is. -/
theorem measured_identity (previous : Option ProcessCpuTicks) (cpu : CpuSnapshot) :
    (measured previous cpu raw).name=raw.sample.name ∧
      (measured previous cpu raw).status=raw.sample.status ∧
      (measured previous cpu raw).pid=raw.sample.pid ∧
      (measured previous cpu raw).parentPid=raw.sample.parentPid ∧
      (measured previous cpu raw).startTimeMs=raw.sample.startTimeMs := by
  unfold measured
  split
  · exact ⟨rfl,rfl,rfl,rfl,rfl⟩
  · dsimp only
    split <;> exact ⟨rfl,rfl,rfl,rfl,rfl⟩

/-- Every row is collected from a text that was accepted. -/
theorem collected_of_collect {c c' : LinuxProcessCollector} {bootTime : Option Nat}
    {cpuSnapshot : Except String CpuSnapshot}
    {entries : Except String (List (String × ProcessReadings))} {rows : List ProcessSample}
    (h : c.collect bootTime cpuSnapshot entries=(.ok rows,c')) :
    ∀ row∈rows, ∃ content stat, parseProcessStat content=.ok stat ∧ Collected stat row := by
  intro row hrow
  unfold LinuxProcessCollector.collect at h
  generalize (if c.bootTimeMs=0 then { c with bootTimeMs := bootTime.getD 0 } else c)=c₁ at h
  cases cpuSnapshot with
  | error error => cases congrArg Prod.fst h
  | ok cpu =>
    cases entries with
    | error error => cases congrArg Prod.fst h
    | ok entries =>
      have hrows := Except.ok.inj (congrArg Prod.fst h)
      rw [← hrows] at hrow
      obtain ⟨p,hp,rfl⟩ := List.mem_map.mp hrow
      obtain ⟨entry,_,hentry⟩ := List.mem_filterMap.mp hp
      simp only [LinuxProcessCollector.collectEntry,Option.bind_eq_bind,Option.bind_eq_some_iff,
        Option.some.injEq] at hentry
      obtain ⟨pid,_,raw,hraw,hmade⟩ := hentry
      have hread : readProcess c₁.toMachine pid entry.2=.ok raw := by
        cases hresult : readProcess c₁.toMachine pid entry.2 with
        | error e =>
          rw [hresult] at hraw
          cases hraw
        | ok own =>
          rw [hresult] at hraw
          rw [Option.some.inj hraw]
      obtain ⟨stat,confirmed,hfirst,_⟩ := readProcessWithStatReader_ok.mp hread
      obtain ⟨content,_,hcontent⟩ := bind_ok.mp hfirst
      unfold readProcess at hread
      rw [hfirst] at hread
      exact ⟨content,stat,hcontent,c₁.toMachine,pid,_,_,raw,_,cpu,hread,by rw [← hmade]⟩

end Rows
end BatCave.LinuxProcess
