import BatCave.Network.Attribution
import BatCave.Network.LinuxProtocol

/-! The Linux monitor: a reader thread that turns probe output into intervals, a
sampler that drains them, and the state they share under one lock. Every lock
acquisition is one step, so the steps may interleave in any order. -/
namespace BatCave.LinuxNetwork
open BatCave.Lib.Text BatCave.Lib.Word BatCave.Lib.Table BatCave.NetworkAttribution

def u128Max : Nat := 2^128-1
def bpftraceIntervalMs : Nat := 1000

/-- Instants and durations are in nanoseconds. -/
def startupLivenessTimeout : Nat := 10*10^9
def intervalLivenessTimeout : Nat := 3*10^9
def maxReaderErrorChars : Nat := 2048

structure CompletedIntervalAccumulator where
  intervalCount : Nat := 0
  receivedByPid : BytesByPid := ∅
  transmittedByPid : BytesByPid := ∅

abbrev RatesByPid := AList (fun _ : Nat => ProcessNetworkRates)

structure CompletedRates where
  intervalCount : Nat
  ratesByPid : RatesByPid

def averageBytesPerSecond (bytes intervalCount : Nat) : Nat :=
  let intervalMs := min (bpftraceIntervalMs*intervalCount) u128Max
  let rate := min (bytes*1000) u128Max/max intervalMs 1
  if rate ≤ u64Max then rate else u64Max

/-- `drain` one map into the totals of another. -/
def addDrained (totals drained : BytesByPid) : BytesByPid :=
  drained.entries.foldl
    (fun t e => t.insert e.1 (satAdd ((t.lookup e.1).getD 0) e.2)) totals

/-- `drain` one map of totals into the rates, through the field `set`. -/
def setRates (set : ProcessNetworkRates → Nat → ProcessNetworkRates) (intervalCount : Nat)
    (rates : RatesByPid) (drained : BytesByPid) : RatesByPid :=
  drained.entries.foldl (fun t e =>
    t.insert e.1 (set ((t.lookup e.1).getD {}) (averageBytesPerSecond e.2 intervalCount))) rates

namespace CompletedIntervalAccumulator

def push (c : CompletedIntervalAccumulator) (pending : PendingRates) :
    CompletedIntervalAccumulator where
  intervalCount := satAdd c.intervalCount 1
  receivedByPid := addDrained c.receivedByPid pending.receivedByPid
  transmittedByPid := addDrained c.transmittedByPid pending.transmittedByPid

/-- An accumulator without intervals keeps its maps; otherwise both are drained. -/
def takeRates (c : CompletedIntervalAccumulator) :
    Option CompletedRates × CompletedIntervalAccumulator :=
  if c.intervalCount=0 then (none,{c with intervalCount := 0})
  else
    let rates := setRates (fun r v => {r with receivedBps := v}) c.intervalCount ∅ c.receivedByPid
    let rates :=
      setRates (fun r v => {r with transmittedBps := v}) c.intervalCount rates c.transmittedByPid
    (some ⟨c.intervalCount,rates⟩,{})

def bytesByPid (c : CompletedIntervalAccumulator) : Direction → BytesByPid
  | .rx => c.receivedByPid
  | .tx => c.transmittedByPid

end CompletedIntervalAccumulator

inductive ReaderState where
  | starting | running | closed | failed (message : String)
  deriving DecidableEq, Repr

structure LinuxNetworkShared where
  startedAt : Nat
  lastIntervalAt : Option Nat := none
  completed : CompletedIntervalAccumulator := {}
  quarantined : Option PendingRates := none
  outputState : ReaderState := .starting
  lastError : Option String := none

namespace LinuxNetworkShared

def acceptInterval (s : LinuxNetworkShared) (pending : PendingRates) (completedAt : Nat) :
    LinuxNetworkShared :=
  {s with
    completed := s.quarantined.elim s.completed s.completed.push
    quarantined := some pending
    lastIntervalAt := some completedAt}

def markReaderRunning (s : LinuxNetworkShared) : LinuxNetworkShared :=
  {s with outputState := .running}

def markReaderClosed (s : LinuxNetworkShared) : LinuxNetworkShared :=
  match s.outputState with
  | .failed _ => s
  | _ => {s with outputState := .closed}

def markReaderFailed (s : LinuxNetworkShared) (message : String) : LinuxNetworkShared :=
  let message := match s.outputState with
    | .failed existing => s!"{existing}; {message}"
    | _ => message
  let message := String.ofList (message.toList.take maxReaderErrorChars)
  {s with
    lastError := some message
    outputState := .failed message}

def readerFailure (s : LinuxNetworkShared) (now : Nat) (outputFinished : Bool) : Option String :=
  match s.outputState with
  | .failed message => some message
  | .closed => some "linux_network_ebpf_output_closed"
  | .starting | .running =>
    if outputFinished then some "linux_network_ebpf_output_thread_stopped"
    else
      match s.lastIntervalAt with
      | some last =>
        if now-last>intervalLivenessTimeout then some "linux_network_ebpf_output_stalled"
        else none
      | none =>
        if now-s.startedAt>startupLivenessTimeout then
          some "linux_network_ebpf_output_startup_stalled"
        else none

end LinuxNetworkShared

def isProtocolLine (line : String) : Bool :=
  match splitWhitespace line with
  | [] => false
  | kind::_ => decide (kind∈[protocolHeader,Direction.rx.beginKind,Direction.rx.entryKind,
      Direction.rx.endKind,Direction.tx.beginKind,Direction.tx.entryKind,Direction.tx.endKind,
      intervalMarker])

/-- `read_bpftrace_output`, between two reads. -/
inductive ReaderThread where
  | spawned
  | reading (protocol : ProtocolAssembler) (acceptingProtocol : Bool)
  | returned

/-- What `read_line` gave. -/
inductive ReadOutcome where
  | endOfOutput
  | line (text : String)
  | error (message : String)

/-- What `try_wait` gave. -/
inductive ChildStatus where
  | exited (status : String)
  | running
  | error (message : String)

structure LinuxNetworkAttributionMonitor where
  shared : LinuxNetworkShared
  reader : ReaderThread := .spawned
  stopped : Bool := false
  /-- A holder of the lock has panicked. -/
  poisoned : Bool := false

inductive Event where
  | accepted (interval : PendingRates)
  | sampled (sample : NetworkAttributionSample)

namespace LinuxNetworkAttributionMonitor

def spawn (startedAt : Nat) : LinuxNetworkAttributionMonitor := {shared := {startedAt := startedAt}}

/-- Work on the shared state that is skipped when the lock is poisoned. -/
def withLock (m : LinuxNetworkAttributionMonitor) (f : LinuxNetworkShared → LinuxNetworkShared) :
    LinuxNetworkAttributionMonitor :=
  if m.poisoned then m else {m with shared := f m.shared}

def ingestBpftraceOutputLine (m : LinuxNetworkAttributionMonitor) (protocol : ProtocolAssembler)
    (now : Nat) (text : String) : LinuxNetworkAttributionMonitor × List Event :=
  match protocol.ingest (trim text) with
  | .error message =>
    ({m.withLock (·.markReaderFailed message) with reader := .reading protocol false},[])
  | .ok (none,protocol) => ({m with reader := .reading protocol true},[])
  | .ok (some completed,protocol) =>
    if m.poisoned then
      ({m.withLock (·.markReaderFailed "linux_network_ebpf_state_lock_poisoned") with
        reader := .reading protocol false},[])
    else
      ({m with
        shared := m.shared.acceptInterval completed now
        reader := .reading protocol true},[.accepted completed])

/-- One turn of the reader's loop. -/
def read (m : LinuxNetworkAttributionMonitor) (now : Nat) (outcome : ReadOutcome) :
    LinuxNetworkAttributionMonitor × List Event :=
  match m.reader with
  | .spawned | .returned => (m,[])
  | .reading protocol acceptingProtocol =>
    match outcome with
    | .endOfOutput => ({m.withLock (·.markReaderClosed) with reader := .returned},[])
    | .error message =>
      ({m.withLock (·.markReaderFailed s!"linux_network_ebpf_output_read_failed:{message}") with
        reader := .returned},[])
    | .line text =>
      if acceptingProtocol then m.ingestBpftraceOutputLine protocol now text
      else
        let message := trim text
        if message≠"" ∧ isProtocolLine message=false then
          (m.withLock (·.markReaderFailed s!"linux_network_ebpf_diagnostic:{message}"),[])
        else (m,[])

def ratesByProcess (rates : RatesByPid) : RatesByProcess :=
  ofList (rates.entries.map (fun e => ⟨.pidOnly e.1,e.2⟩))

def sample (m : LinuxNetworkAttributionMonitor) (child : ChildStatus) (now : Nat)
    (outputFinished : Bool) : NetworkAttributionSample × LinuxNetworkAttributionMonitor :=
  if m.stopped then (.failed "linux_network_ebpf_monitor_stopped",m)
  else
    match child with
    | .exited status =>
      let message := (if m.poisoned then none else m.shared.lastError).getD
        "bpftrace exited without stderr output"
      (.failed s!"linux_network_ebpf_exited:{status}; {message}",m)
    | .error message => (.failed s!"linux_network_ebpf_status_failed:{message}",m)
    | .running =>
      if m.poisoned then (.failed "linux_network_ebpf_state_lock_poisoned",m)
      else
        match m.shared.readerFailure now outputFinished with
        | some message => (.failed message,m)
        | none =>
          let m' := {m with shared := {m.shared with completed := m.shared.completed.takeRates.2}}
          match m.shared.completed.takeRates.1 with
          | some completed => (.ready (ratesByProcess completed.ratesByPid),m')
          | none =>
            if m.shared.lastIntervalAt.isNone then
              (.held "Linux eBPF network attribution is warming up.",m')
            else
              (.held "Linux eBPF network attribution is waiting for a completed interval.",m')

end LinuxNetworkAttributionMonitor

/-- The steps of the reader thread, of the sampler, and of what surrounds them.
`outputFinished` is read before the lock is taken and may lag behind the thread,
so it is not tied to the reader's state. -/
inductive Action where
  | readerStart
  | read (now : Nat) (outcome : ReadOutcome)
  | sample (child : ChildStatus) (now : Nat) (outputFinished : Bool)
  | shutdown
  | poison

open LinuxNetworkAttributionMonitor in
def step (m : LinuxNetworkAttributionMonitor) : Action → LinuxNetworkAttributionMonitor × List Event
  | .readerStart =>
    match m.reader with
    | .spawned => ({m.withLock (·.markReaderRunning) with reader := .reading {} true},[])
    | _ => (m,[])
  | .read now outcome => m.read now outcome
  | .sample child now outputFinished =>
    let r := m.sample child now outputFinished
    (r.2,[.sampled r.1])
  | .shutdown => ({m with stopped := true},[])
  | .poison => ({m with poisoned := true},[])

def run (m : LinuxNetworkAttributionMonitor) : List Action →
    LinuxNetworkAttributionMonitor × List Event
  | [] => (m,[])
  | a::actions =>
    let r := step m a
    let rest := run r.1 actions
    (rest.1,r.2++rest.2)

end BatCave.LinuxNetwork
