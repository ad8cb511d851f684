import BatCave.Lib.Text
import BatCave.Lib.Word
import BatCave.Lib.Table
import Mathlib.Data.Finset.Card

/-! The line protocol that the bpftrace probe prints and `ProtocolAssembler`
reads. `ingest` is the source's reader on raw lines, error texts included. -/
namespace BatCave.LinuxNetwork
open BatCave.Lib.Text BatCave.Lib.Word

/-- `HashMap<u32, u64>`. -/
abbrev BytesByPid := AList (fun _ : Nat => Nat)

inductive Direction where
  | rx | tx
  deriving DecidableEq, Repr

def Direction.label : Direction → String
  | .rx => "rx"
  | .tx => "tx"

structure PendingRates where
  receivedByPid : BytesByPid := ∅
  transmittedByPid : BytesByPid := ∅
  deriving DecidableEq

def PendingRates.bytesByPid (p : PendingRates) : Direction → BytesByPid
  | .rx => p.receivedByPid
  | .tx => p.transmittedByPid

def PendingRates.insert (p : PendingRates) (dir : Direction) (pid bytes : Nat) : PendingRates :=
  match dir with
  | .rx => {p with receivedByPid := p.receivedByPid.insert pid bytes}
  | .tx => {p with transmittedByPid := p.transmittedByPid.insert pid bytes}

inductive ProtocolStage where
  | awaitingHeader | awaitingRxBegin | readingRx | awaitingTxBegin | readingTx | awaitingMarker
  deriving DecidableEq, Repr

def ProtocolStage.label : ProtocolStage → String
  | .awaitingHeader => "awaiting_header"
  | .awaitingRxBegin => "awaiting_rx_begin"
  | .readingRx => "reading_rx"
  | .awaitingTxBegin => "awaiting_tx_begin"
  | .readingTx => "reading_tx"
  | .awaitingMarker => "awaiting_marker"

/-- The stages inside and after a section, by direction. -/
def Direction.reading : Direction → ProtocolStage
  | .rx => .readingRx
  | .tx => .readingTx

def Direction.done : Direction → ProtocolStage
  | .rx => .awaitingTxBegin
  | .tx => .awaitingMarker

def protocolVersion : Nat := 2
def protocolHeader : String := "BATCAVE_NETWORK_PROTOCOL"
def intervalMarker : String := "BATCAVE_NETWORK_INTERVAL"
def Direction.beginKind : Direction → String
  | .rx => "BATCAVE_NETWORK_RX_BEGIN"
  | .tx => "BATCAVE_NETWORK_TX_BEGIN"

def Direction.entryKind : Direction → String
  | .rx => "BATCAVE_NETWORK_RX"
  | .tx => "BATCAVE_NETWORK_TX"

def Direction.endKind : Direction → String
  | .rx => "BATCAVE_NETWORK_RX_END"
  | .tx => "BATCAVE_NETWORK_TX_END"

structure ProtocolAssembler where
  expectedEpoch : Nat := 1
  stage : ProtocolStage := .awaitingHeader
  sectionCount : Nat := 0
  sectionTotal : Nat := 0
  pending : PendingRates := {}
  deriving DecidableEq

namespace ProtocolAssembler

/-- What a line that is not refused produces: perhaps a complete interval, and the
next state. After a refusal the reader never uses the assembler again, so the
error carries no state. -/
abbrev Outcome := Except String (Option PendingRates × ProtocolAssembler)

def error (a : ProtocolAssembler) (detail : String) : String :=
  s!"linux_network_ebpf_output_protocol:{detail}:expected_epoch={a.expectedEpoch}"++
    s!":stage={a.stage.label}"

def requireFieldCount (a : ProtocolAssembler) (fields : List String) (expected : Nat) :
    Except String Unit :=
  if fields.length=expected then .ok ()
  else .error (a.error s!"invalid_field_count:actual={fields.length}:expected={expected}")

/-- `value.parse().map_err(..)`, the shape of `parse_epoch` and `parse_summary_value`. -/
def parseOr (a : ProtocolAssembler) (value : Option Nat) (detail : String) : Except String Nat :=
  match value with
  | some n => .ok n
  | none => .error (a.error detail)

def parseEpoch (a : ProtocolAssembler) (value : String) : Except String Nat :=
  a.parseOr (parseU64 value) "invalid_epoch"

def parseSummaryValue (a : ProtocolAssembler) (value detail : String) : Except String Nat :=
  a.parseOr (parseU64 value) detail

def requireStage (a : ProtocolAssembler) (expected : ProtocolStage) (component : String) :
    Except String Unit :=
  if a.stage=expected then .ok ()
  else .error (a.error s!"unexpected_component:{component}:required_stage={expected.label}")

def requireEpoch (a : ProtocolAssembler) (epoch : Nat) : Except String Unit :=
  if epoch=a.expectedEpoch then .ok () else .error (a.error s!"unexpected_epoch:{epoch}")

def addSectionEntry (a : ProtocolAssembler) (bytes : Nat) : Except String ProtocolAssembler :=
  match checkedAdd a.sectionCount 1 with
  | none => .error (a.error "section_count_overflow")
  | some count =>
    match checkedAdd a.sectionTotal bytes with
    | none => .error (a.error "section_total_overflow")
    | some total => .ok {a with sectionCount := count, sectionTotal := total}

def requireSectionSummary (a : ProtocolAssembler) (count total : Nat) (direction : String) :
    Except String Unit :=
  if count=a.sectionCount ∧ total=a.sectionTotal then .ok ()
  else .error (a.error
    (s!"{direction}_summary_mismatch:received_count={a.sectionCount}:expected_count={count}"++
      s!":received_total={a.sectionTotal}:expected_total={total}"))

def requireNoStaleEntries (a : ProtocolAssembler) (stale : Nat) (direction : String) :
    Except String Unit :=
  if stale=0 then .ok () else .error (a.error s!"late_{direction}_epoch_entries:{stale}")

def requireNoOverflow (a : ProtocolAssembler) (overflow : Nat) (direction : String) :
    Except String Unit :=
  if overflow=0 then .ok ()
  else .error (a.error s!"{direction}_map_capacity_exceeded:{overflow}")

def resetSection (a : ProtocolAssembler) : ProtocolAssembler :=
  {a with sectionCount := 0, sectionTotal := 0}

def ingestHeader (a : ProtocolAssembler) (kind : String) (fields : List String) : Outcome := do
  a.requireFieldCount fields 2
  a.requireStage .awaitingHeader kind
  let version ← a.parseOr (parseU64 (fields.getD 1 "")) "invalid_protocol_version"
  if version=protocolVersion then
    return (none,{a with stage := .awaitingRxBegin})
  else throw (a.error s!"unsupported_protocol_version:{version}")

/-- Only the RX marker resets the section counters; for TX the RX summary did. -/
def ingestRxBegin (a : ProtocolAssembler) (kind : String) (fields : List String) : Outcome := do
  a.requireFieldCount fields 2
  let epoch ← a.parseEpoch (fields.getD 1 "")
  a.requireStage .awaitingRxBegin kind
  a.requireEpoch epoch
  return (none,resetSection {a with stage := .readingRx})

def ingestTxBegin (a : ProtocolAssembler) (kind : String) (fields : List String) : Outcome := do
  a.requireFieldCount fields 2
  let epoch ← a.parseEpoch (fields.getD 1 "")
  a.requireStage .awaitingTxBegin kind
  a.requireEpoch epoch
  return (none,{a with stage := .readingTx})

def ingestEntry (a : ProtocolAssembler) (dir : Direction) (kind : String)
    (fields : List String) : Outcome := do
  a.requireFieldCount fields 4
  let epoch ← a.parseEpoch (fields.getD 1 "")
  let pid ← a.parseOr (parseU32 (fields.getD 2 "")) s!"invalid_{dir.label}_pid"
  let bytes ← a.parseOr (parseU64 (fields.getD 3 "")) s!"invalid_{dir.label}_bytes"
  a.requireStage dir.reading kind
  a.requireEpoch epoch
  if ((a.pending.bytesByPid dir).lookup pid).isSome then
    throw (a.error s!"duplicate_{dir.label}_pid:{pid}")
  else
    let a ← addSectionEntry {a with pending := a.pending.insert dir pid bytes} bytes
    return (none,a)

def ingestEnd (a : ProtocolAssembler) (dir : Direction) (kind : String)
    (fields : List String) : Outcome := do
  a.requireFieldCount fields 6
  let epoch ← a.parseEpoch (fields.getD 1 "")
  let count ← a.parseSummaryValue (fields.getD 2 "") s!"invalid_{dir.label}_count"
  let total ← a.parseSummaryValue (fields.getD 3 "") s!"invalid_{dir.label}_total"
  let stale ← a.parseSummaryValue (fields.getD 4 "") s!"invalid_{dir.label}_stale_count"
  let overflow ← a.parseSummaryValue (fields.getD 5 "") s!"invalid_{dir.label}_overflow_count"
  a.requireStage dir.reading kind
  a.requireEpoch epoch
  a.requireSectionSummary count total dir.label
  a.requireNoStaleEntries stale dir.label
  a.requireNoOverflow overflow dir.label
  return (none,resetSection {a with stage := dir.done})

def ingestInterval (a : ProtocolAssembler) (kind : String) (fields : List String) : Outcome := do
  a.requireFieldCount fields 2
  let epoch ← a.parseEpoch (fields.getD 1 "")
  a.requireStage .awaitingMarker kind
  a.requireEpoch epoch
  match checkedAdd a.expectedEpoch 1 with
  | none => throw (a.error "epoch_overflow")
  | some next =>
    return (some a.pending,{a with expectedEpoch := next, stage := .awaitingRxBegin, pending := {}})

def ingest (a : ProtocolAssembler) (line : String) : Outcome :=
  let fields := splitWhitespace line
  match fields with
  | [] => .error (a.error "empty_line")
  | kind::_ =>
    if kind=protocolHeader then a.ingestHeader kind fields
    else if kind=Direction.rx.beginKind then a.ingestRxBegin kind fields
    else if kind=Direction.rx.entryKind then a.ingestEntry .rx kind fields
    else if kind=Direction.rx.endKind then a.ingestEnd .rx kind fields
    else if kind=Direction.tx.beginKind then a.ingestTxBegin kind fields
    else if kind=Direction.tx.entryKind then a.ingestEntry .tx kind fields
    else if kind=Direction.tx.endKind then a.ingestEnd .tx kind fields
    else if kind=intervalMarker then a.ingestInterval kind fields
    else .error (a.error s!"malformed:{String.ofList (line.toList.take 160)}")

end ProtocolAssembler
end BatCave.LinuxNetwork
