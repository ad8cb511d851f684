import BatCave.Network.LinuxProtocol
import BatCave.Lib.Result

/-! The grammar of the probe's line protocol, and that the reader accepts exactly
its prefixes. The reader is cut into a lexical reading of a line, which knows no
state, and a step on what was read; the grammar is stated on its own and NOT read
off the reader's stages. -/
namespace BatCave.LinuxNetwork
open BatCave.Lib.Text BatCave.Lib.Word BatCave.Lib.Table BatCave.Lib.Result

inductive Line where
  | header (version : Nat)
  | sectionBegin (dir : Direction) (epoch : Nat)
  | sectionEntry (dir : Direction) (epoch pid bytes : Nat)
  | sectionEnd (dir : Direction) (epoch count total stale overflow : Nat)
  | interval (epoch : Nat)
  deriving DecidableEq, Repr

def readBegin (dir : Direction) : List String → Option Line
  | [epoch] => (parseU64 epoch).map (Line.sectionBegin dir)
  | _ => none

def readEntry (dir : Direction) : List String → Option Line
  | [epoch,pid,bytes] => do
    let epoch ← parseU64 epoch
    let pid ← parseU32 pid
    let bytes ← parseU64 bytes
    some (.sectionEntry dir epoch pid bytes)
  | _ => none

def readEnd (dir : Direction) : List String → Option Line
  | [epoch,count,total,stale,overflow] => do
    let epoch ← parseU64 epoch
    let count ← parseU64 count
    let total ← parseU64 total
    let stale ← parseU64 stale
    let overflow ← parseU64 overflow
    some (.sectionEnd dir epoch count total stale overflow)
  | _ => none

def readHeader : List String → Option Line
  | [version] => (parseU64 version).map Line.header
  | _ => none

def readInterval : List String → Option Line
  | [epoch] => (parseU64 epoch).map Line.interval
  | _ => none

/-- The lexical reading of a raw line: its first word and the numbers after it. -/
def readLine (line : String) : Option Line :=
  match splitWhitespace line with
  | [] => none
  | kind::args =>
    if kind=protocolHeader then readHeader args
    else if kind=Direction.rx.beginKind then readBegin .rx args
    else if kind=Direction.rx.entryKind then readEntry .rx args
    else if kind=Direction.rx.endKind then readEnd .rx args
    else if kind=Direction.tx.beginKind then readBegin .tx args
    else if kind=Direction.tx.entryKind then readEntry .tx args
    else if kind=Direction.tx.endKind then readEnd .tx args
    else if kind=intervalMarker then readInterval args
    else none

namespace ProtocolAssembler

/-- The reader on a line already read: every check of `ingest` except the lexical
ones. -/
def step (a : ProtocolAssembler) : Line → Option (Option PendingRates × ProtocolAssembler)
  | .header version =>
    if a.stage=.awaitingHeader ∧ version=protocolVersion then
      some (none,{a with stage := .awaitingRxBegin})
    else none
  | .sectionBegin .rx epoch =>
    if a.stage=.awaitingRxBegin ∧ epoch=a.expectedEpoch then
      some (none,resetSection {a with stage := .readingRx})
    else none
  | .sectionBegin .tx epoch =>
    if a.stage=.awaitingTxBegin ∧ epoch=a.expectedEpoch then
      some (none,{a with stage := .readingTx})
    else none
  | .sectionEntry dir epoch pid bytes =>
    if a.stage=dir.reading ∧ epoch=a.expectedEpoch ∧
        (a.pending.bytesByPid dir).lookup pid=none ∧
        a.sectionCount+1 ≤ u64Max ∧ a.sectionTotal+bytes ≤ u64Max then
      some (none,{a with
        pending := a.pending.insert dir pid bytes
        sectionCount := a.sectionCount+1
        sectionTotal := a.sectionTotal+bytes})
    else none
  | .sectionEnd dir epoch count total stale overflow =>
    if a.stage=dir.reading ∧ epoch=a.expectedEpoch ∧
        (count=a.sectionCount ∧ total=a.sectionTotal) ∧ stale=0 ∧ overflow=0 then
      some (none,resetSection {a with stage := dir.done})
    else none
  | .interval epoch =>
    if a.stage=.awaitingMarker ∧ epoch=a.expectedEpoch ∧ a.expectedEpoch+1 ≤ u64Max then
      some (some a.pending,{a with
        expectedEpoch := a.expectedEpoch+1
        stage := .awaitingRxBegin
        pending := {}})
    else none

section Checks
variable (a : ProtocolAssembler)

theorem requireFieldCount_ok (fields : List String) (n : Nat) (u : Unit) :
    a.requireFieldCount fields n=.ok u ↔ fields.length=n := by
  simp [requireFieldCount]

theorem parseOr_ok (v : Option Nat) (detail : String) (n : Nat) :
    a.parseOr v detail=.ok n ↔ v=some n := by
  cases v <;> simp [parseOr]

theorem parseEpoch_ok (s : String) (n : Nat) : a.parseEpoch s=.ok n ↔ parseU64 s=some n :=
  parseOr_ok a _ _ n

theorem parseSummaryValue_ok (s detail : String) (n : Nat) :
    a.parseSummaryValue s detail=.ok n ↔ parseU64 s=some n :=
  parseOr_ok a _ _ n

theorem requireStage_ok (stage : ProtocolStage) (component : String) (u : Unit) :
    a.requireStage stage component=.ok u ↔ a.stage=stage := by
  simp [requireStage]

theorem requireEpoch_ok (epoch : Nat) (u : Unit) :
    a.requireEpoch epoch=.ok u ↔ epoch=a.expectedEpoch := by
  simp [requireEpoch]

theorem requireSectionSummary_ok (count total : Nat) (dir : String) (u : Unit) :
    a.requireSectionSummary count total dir=.ok u ↔
      count=a.sectionCount ∧ total=a.sectionTotal := by
  simp [requireSectionSummary]

theorem requireNoStaleEntries_ok (stale : Nat) (dir : String) (u : Unit) :
    a.requireNoStaleEntries stale dir=.ok u ↔ stale=0 := by
  simp [requireNoStaleEntries]

theorem requireNoOverflow_ok (overflow : Nat) (dir : String) (u : Unit) :
    a.requireNoOverflow overflow dir=.ok u ↔ overflow=0 := by
  simp [requireNoOverflow]

theorem addSectionEntry_ok (bytes : Nat) (b : ProtocolAssembler) :
    a.addSectionEntry bytes=.ok b ↔
      (a.sectionCount+1 ≤ u64Max ∧ a.sectionTotal+bytes ≤ u64Max) ∧
      {a with sectionCount := a.sectionCount+1, sectionTotal := a.sectionTotal+bytes}=b := by
  unfold addSectionEntry checkedAdd
  by_cases hc : a.sectionCount+1 ≤ u64Max
  · by_cases ht : a.sectionTotal+bytes ≤ u64Max <;> simp [hc,ht]
  · simp [hc]

theorem ingestHeader_ok (kind : String) (args : List String)
    (r : Option PendingRates × ProtocolAssembler) :
    a.ingestHeader kind (kind::args)=.ok r ↔
      ∃ l, readHeader args=some l ∧ a.step l=some r := by
  by_cases hl : args.length=1
  · obtain ⟨v,rfl⟩ := List.length_eq_one_iff.mp hl
    cases hv : parseU64 v with
    | none => simp [ingestHeader,bind_ok,parseOr_ok,readHeader,hv]
    | some n =>
      by_cases hn : n=protocolVersion <;> by_cases hs : a.stage=.awaitingHeader <;>
        simp [ingestHeader,bind_ok,pure_ok,throw_ok,requireFieldCount_ok,requireStage_ok,
          parseOr_ok,readHeader,hv,step,hn,hs]
  · have hr : readHeader args=none := by
      unfold readHeader
      split
      · simp at hl
      · rfl
    simp [ingestHeader,bind_ok,requireFieldCount_ok,hr,hl]

theorem ingestRxBegin_ok (kind : String) (args : List String)
    (r : Option PendingRates × ProtocolAssembler) :
    a.ingestRxBegin kind (kind::args)=.ok r ↔
      ∃ l, readBegin .rx args=some l ∧ a.step l=some r := by
  by_cases hl : args.length=1
  · obtain ⟨e,rfl⟩ := List.length_eq_one_iff.mp hl
    cases he : parseU64 e with
    | none => simp [ingestRxBegin,bind_ok,parseEpoch_ok,readBegin,he]
    | some n =>
      by_cases hn : n=a.expectedEpoch <;> by_cases hs : a.stage=.awaitingRxBegin <;>
        simp [ingestRxBegin,bind_ok,map_ok,requireFieldCount_ok,requireStage_ok,
          parseEpoch_ok,requireEpoch_ok,readBegin,he,step,hn,hs]
  · have hr : readBegin .rx args=none := by
      unfold readBegin
      split
      · simp at hl
      · rfl
    simp [ingestRxBegin,bind_ok,requireFieldCount_ok,hr,hl]

theorem ingestTxBegin_ok (kind : String) (args : List String)
    (r : Option PendingRates × ProtocolAssembler) :
    a.ingestTxBegin kind (kind::args)=.ok r ↔
      ∃ l, readBegin .tx args=some l ∧ a.step l=some r := by
  by_cases hl : args.length=1
  · obtain ⟨e,rfl⟩ := List.length_eq_one_iff.mp hl
    cases he : parseU64 e with
    | none => simp [ingestTxBegin,bind_ok,parseEpoch_ok,readBegin,he]
    | some n =>
      by_cases hn : n=a.expectedEpoch <;> by_cases hs : a.stage=.awaitingTxBegin <;>
        simp [ingestTxBegin,bind_ok,map_ok,requireFieldCount_ok,requireStage_ok,
          parseEpoch_ok,requireEpoch_ok,readBegin,he,step,hn,hs]
  · have hr : readBegin .tx args=none := by
      unfold readBegin
      split
      · simp at hl
      · rfl
    simp [ingestTxBegin,bind_ok,requireFieldCount_ok,hr,hl]

theorem ingestEntry_ok (dir : Direction) (kind : String) (args : List String)
    (r : Option PendingRates × ProtocolAssembler) :
    a.ingestEntry dir kind (kind::args)=.ok r ↔
      ∃ l, readEntry dir args=some l ∧ a.step l=some r := by
  by_cases hl : args.length=3
  · obtain ⟨e,p,b,rfl⟩ := List.length_eq_three.mp hl
    cases he : parseU64 e with
    | none => simp [ingestEntry,bind_ok,parseEpoch_ok,readEntry,he]
    | some epoch =>
    cases hp : parseU32 p with
    | none => simp [ingestEntry,bind_ok,parseEpoch_ok,parseOr_ok,readEntry,he,hp]
    | some pid =>
    cases hb : parseU64 b with
    | none => simp [ingestEntry,bind_ok,parseEpoch_ok,parseOr_ok,readEntry,he,hp,hb]
    | some bytes =>
      by_cases hs : a.stage=dir.reading <;> by_cases hn : epoch=a.expectedEpoch <;>
        cases hd : (a.pending.bytesByPid dir).lookup pid <;>
        simp [ingestEntry,bind_ok,map_ok,throw_ok,requireFieldCount_ok,requireStage_ok,
          parseEpoch_ok,parseOr_ok,requireEpoch_ok,addSectionEntry_ok,readEntry,
          he,hp,hb,step,hn,hs,hd,and_assoc]
  · have hr : readEntry dir args=none := by
      unfold readEntry
      split
      · simp at hl
      · rfl
    simp [ingestEntry,bind_ok,requireFieldCount_ok,hr,hl]

theorem ingestEnd_ok (dir : Direction) (kind : String) (args : List String)
    (r : Option PendingRates × ProtocolAssembler) :
    a.ingestEnd dir kind (kind::args)=.ok r ↔
      ∃ l, readEnd dir args=some l ∧ a.step l=some r := by
  rcases args with _ | ⟨e,_ | ⟨c,_ | ⟨t,_ | ⟨st,_ | ⟨ov,_ | ⟨x,rest⟩⟩⟩⟩⟩⟩
  case cons.cons.cons.cons.cons.nil =>
    cases he : parseU64 e with
    | none => simp [ingestEnd,bind_ok,parseEpoch_ok,readEnd,he]
    | some epoch =>
    cases hc : parseU64 c with
    | none => simp [ingestEnd,bind_ok,parseEpoch_ok,parseSummaryValue_ok,readEnd,he,hc]
    | some count =>
    cases ht : parseU64 t with
    | none => simp [ingestEnd,bind_ok,parseEpoch_ok,parseSummaryValue_ok,readEnd,he,hc,ht]
    | some total =>
    cases hst : parseU64 st with
    | none => simp [ingestEnd,bind_ok,parseEpoch_ok,parseSummaryValue_ok,readEnd,he,hc,ht,hst]
    | some stale =>
    cases hov : parseU64 ov with
    | none =>
      simp [ingestEnd,bind_ok,parseEpoch_ok,parseSummaryValue_ok,readEnd,he,hc,ht,hst,hov]
    | some overflow =>
      simp [ingestEnd,bind_ok,map_ok,requireFieldCount_ok,requireStage_ok,parseEpoch_ok,
        parseSummaryValue_ok,requireEpoch_ok,requireSectionSummary_ok,requireNoStaleEntries_ok,
        requireNoOverflow_ok,readEnd,he,hc,ht,hst,hov,step,and_assoc]
  all_goals simp [ingestEnd,bind_ok,requireFieldCount_ok,readEnd]

theorem ingestInterval_ok (kind : String) (args : List String)
    (r : Option PendingRates × ProtocolAssembler) :
    a.ingestInterval kind (kind::args)=.ok r ↔
      ∃ l, readInterval args=some l ∧ a.step l=some r := by
  by_cases hl : args.length=1
  · obtain ⟨e,rfl⟩ := List.length_eq_one_iff.mp hl
    cases he : parseU64 e with
    | none => simp [ingestInterval,bind_ok,parseEpoch_ok,readInterval,he]
    | some n =>
      by_cases hn : n=a.expectedEpoch <;> by_cases hs : a.stage=.awaitingMarker <;>
        by_cases hm : a.expectedEpoch+1 ≤ u64Max <;>
        simp [ingestInterval,bind_ok,map_ok,throw_ok,requireFieldCount_ok,requireStage_ok,
          parseEpoch_ok,requireEpoch_ok,checkedAdd,readInterval,he,step,hn,hs,hm]
  · have hr : readInterval args=none := by
      unfold readInterval
      split
      · simp at hl
      · rfl
    simp [ingestInterval,bind_ok,requireFieldCount_ok,hr,hl]

/-- `ingest` is the lexical reading followed by the step. -/
theorem ingest_ok_iff (line : String) (r : Option PendingRates × ProtocolAssembler) :
    a.ingest line=.ok r ↔ ∃ l, readLine line=some l ∧ a.step l=some r := by
  unfold ingest readLine
  cases splitWhitespace line with
  | nil => simp
  | cons kind args =>
    simp only
    split
    · exact ingestHeader_ok a kind args r
    split
    · exact ingestRxBegin_ok a kind args r
    split
    · exact ingestEntry_ok a .rx kind args r
    split
    · exact ingestEnd_ok a .rx kind args r
    split
    · exact ingestTxBegin_ok a kind args r
    split
    · exact ingestEntry_ok a .tx kind args r
    split
    · exact ingestEnd_ok a .tx kind args r
    split
    · exact ingestInterval_ok a kind args r
    · simp

end Checks

/-- Ingest the lines in order, stopping at the first refusal. -/
def ingestAll (a : ProtocolAssembler) (lines : List String) : Except String ProtocolAssembler :=
  lines.foldlM (fun a line => Prod.snd <$> a.ingest line) a

theorem ingestAll_append (a : ProtocolAssembler) (xs ys : List String) :
    a.ingestAll (xs++ys)=(a.ingestAll xs >>= fun b => b.ingestAll ys) :=
  List.foldlM_append

theorem ingestAll_snoc_ok (a b : ProtocolAssembler) (xs : List String) (line : String) :
    a.ingestAll (xs++[line])=.ok b ↔
      ∃ a' out, a.ingestAll xs=.ok a' ∧ a'.ingest line=.ok (out,b) := by
  rw [ingestAll_append,bind_ok]
  simp only [ingestAll,List.foldlM_cons,List.foldlM_nil,bind_pure,map_ok]
  constructor
  · rintro ⟨a',ha,⟨out,b'⟩,hi,rfl⟩
    exact ⟨a',out,ha,hi⟩
  · rintro ⟨a',out,ha,hi⟩
    exact ⟨a',ha,(out,b),hi,rfl⟩

end ProtocolAssembler

/-- The entries of one interval, in the order they were printed. -/
structure Block where
  rx : List (Nat × Nat)
  tx : List (Nat × Nat)

def total (xs : List (Nat × Nat)) : Nat := (xs.map Prod.snd).sum

/-- Entries a section may carry: distinct `u32` pids and a `u64` byte sum. -/
structure SectionValid (xs : List (Nat × Nat)) : Prop where
  distinct : (xs.map Prod.fst).Nodup
  pids : ∀ x∈xs, x.1 < 2^32
  fits : total xs ≤ u64Max

structure Block.Valid (b : Block) : Prop where
  rx : SectionValid b.rx
  tx : SectionValid b.tx

def entryLines (dir : Direction) (e : Nat) (xs : List (Nat × Nat)) : List Line :=
  xs.map (fun x => Line.sectionEntry dir e x.1 x.2)

def sectionLines (dir : Direction) (e : Nat) (xs : List (Nat × Nat)) : List Line :=
  Line.sectionBegin dir e::entryLines dir e xs++[Line.sectionEnd dir e xs.length (total xs) 0 0]

def blockLines (e : Nat) (b : Block) : List Line :=
  sectionLines .rx e b.rx++sectionLines .tx e b.tx++[Line.interval e]

def blocksFrom : Nat → List Block → List Line
  | _, [] => []
  | e, b::bs => blockLines e b++blocksFrom (e+1) bs

/-- The header, then the blocks of epochs 1, 2, 3, and so on. -/
def stream (bs : List Block) : List Line := Line.header protocolVersion::blocksFrom 1 bs

theorem blocksFrom_append (e : Nat) (bs cs : List Block) :
    blocksFrom e (bs++cs)=blocksFrom e bs++blocksFrom (e+bs.length) cs := by
  induction bs generalizing e with
  | nil => simp [blocksFrom]
  | cons b bs ih =>
    have he : e+1+bs.length=e+(bs.length+1) := by omega
    simp [blocksFrom,ih,he]

theorem stream_snoc (bs : List Block) (b : Block) :
    stream (bs++[b])=stream bs++blockLines (bs.length+1) b := by
  simp [stream,blocksFrom_append,blocksFrom,Nat.add_comm]

/-- The map a section's entries build, one `insert` after another. -/
def ofEntries (xs : List (Nat × Nat)) : BytesByPid := ofList (xs.map (fun x => ⟨x.1,x.2⟩))

theorem ofEntries_snoc (xs : List (Nat × Nat)) (p b : Nat) :
    ofEntries (xs++[(p,b)])=(ofEntries xs).insert p b := by
  rw [ofEntries,ofEntries,List.map_append,List.map_singleton,ofList_snoc]

theorem mem_ofEntries (xs : List (Nat × Nat)) (p : Nat) :
    p∈ofEntries xs ↔ p∈xs.map Prod.fst := by
  rw [ofEntries,mem_ofList,List.keys,List.map_map]
  rfl

/-- With distinct pids the map holds exactly the entries. -/
theorem lookup_ofEntries (xs : List (Nat × Nat)) (h : (xs.map Prod.fst).Nodup) (p b : Nat) :
    (ofEntries xs).lookup p=some b ↔ (p,b)∈xs := by
  have hn : (xs.map (fun x => (⟨x.1,x.2⟩ : Sigma (fun _ : Nat => Nat)))).NodupKeys := by
    rw [List.NodupKeys,List.keys,List.map_map]
    exact h
  rw [ofEntries,lookup_ofList hn,List.mem_map]
  constructor
  · rintro ⟨⟨q,c⟩,hm,he⟩
    cases he
    exact hm
  · intro hm
    exact ⟨(p,b),hm,rfl⟩

/-- How far into a stream the reader is: the blocks closed so far and the entries
of the open sections. -/
inductive Cursor where
  | start
  | between (bs : List Block)
  | readingRx (bs : List Block) (xs : List (Nat × Nat))
  | awaitingTx (bs : List Block) (xs : List (Nat × Nat))
  | readingTx (bs : List Block) (xs ys : List (Nat × Nat))
  | awaitingMarker (bs : List Block) (xs ys : List (Nat × Nat))

namespace Cursor
open ProtocolAssembler

/-- The lines that lead here. -/
def lines : Cursor → List Line
  | .start => []
  | .between bs => stream bs
  | .readingRx bs xs =>
    stream bs++Line.sectionBegin .rx (bs.length+1)::entryLines .rx (bs.length+1) xs
  | .awaitingTx bs xs => stream bs++sectionLines .rx (bs.length+1) xs
  | .readingTx bs xs ys => stream bs++sectionLines .rx (bs.length+1) xs++
    Line.sectionBegin .tx (bs.length+1)::entryLines .tx (bs.length+1) ys
  | .awaitingMarker bs xs ys => stream bs++sectionLines .rx (bs.length+1) xs++
    sectionLines .tx (bs.length+1) ys

/-- The state the assembler is in here. Nothing of a closed block is left in it. -/
def assembler : Cursor → ProtocolAssembler
  | .start => {}
  | .between bs => ⟨bs.length+1,.awaitingRxBegin,0,0,{}⟩
  | .readingRx bs xs => ⟨bs.length+1,.readingRx,xs.length,total xs,⟨ofEntries xs,∅⟩⟩
  | .awaitingTx bs xs => ⟨bs.length+1,.awaitingTxBegin,0,0,⟨ofEntries xs,∅⟩⟩
  | .readingTx bs xs ys =>
    ⟨bs.length+1,.readingTx,ys.length,total ys,⟨ofEntries xs,ofEntries ys⟩⟩
  | .awaitingMarker bs xs ys => ⟨bs.length+1,.awaitingMarker,0,0,⟨ofEntries xs,ofEntries ys⟩⟩

def BlocksValid (bs : List Block) : Prop := bs.length < u64Max ∧ ∀ b∈bs, b.Valid

def Valid : Cursor → Prop
  | .start => True
  | .between bs => BlocksValid bs
  | .readingRx bs xs => BlocksValid bs ∧ SectionValid xs
  | .awaitingTx bs xs => BlocksValid bs ∧ SectionValid xs
  | .readingTx bs xs ys => BlocksValid bs ∧ SectionValid xs ∧ SectionValid ys
  | .awaitingMarker bs xs ys => BlocksValid bs ∧ SectionValid xs ∧ SectionValid ys

/-- The grammar one line at a time, with what the line yields. -/
inductive Next : Cursor → Line → Option PendingRates → Cursor → Prop where
  | header : Next .start (.header protocolVersion) none (.between [])
  | rxBegin (bs) : Next (.between bs) (.sectionBegin .rx (bs.length+1)) none (.readingRx bs [])
  | rxEntry (bs xs p b) : Next (.readingRx bs xs) (.sectionEntry .rx (bs.length+1) p b) none
      (.readingRx bs (xs++[(p,b)]))
  | rxEnd (bs xs) : Next (.readingRx bs xs)
      (.sectionEnd .rx (bs.length+1) xs.length (total xs) 0 0) none (.awaitingTx bs xs)
  | txBegin (bs xs) : Next (.awaitingTx bs xs) (.sectionBegin .tx (bs.length+1)) none
      (.readingTx bs xs [])
  | txEntry (bs xs ys p b) : Next (.readingTx bs xs ys)
      (.sectionEntry .tx (bs.length+1) p b) none (.readingTx bs xs (ys++[(p,b)]))
  | txEnd (bs xs ys) : Next (.readingTx bs xs ys)
      (.sectionEnd .tx (bs.length+1) ys.length (total ys) 0 0) none (.awaitingMarker bs xs ys)
  | interval (bs xs ys) : Next (.awaitingMarker bs xs ys) (.interval (bs.length+1))
      (some ⟨ofEntries xs,ofEntries ys⟩) (.between (bs++[⟨xs,ys⟩]))

theorem next_lines {c c' : Cursor} {l : Line} {out : Option PendingRates}
    (h : Next c l out c') : c'.lines=c.lines++[l] := by
  cases h with
  | interval bs xs ys => simp [lines,stream_snoc,blockLines]
  | _ => simp [lines,stream,blocksFrom,entryLines,sectionLines]

theorem total_snoc (xs : List (Nat × Nat)) (p b : Nat) : total (xs++[(p,b)])=total xs+b := by
  simp [total]

theorem section_length {xs : List (Nat × Nat)} (h : SectionValid xs) : xs.length ≤ 2^32 := by
  have hsub : (xs.map Prod.fst).toFinset⊆Finset.range (2^32) := by
    intro p hp
    obtain ⟨x,hx,rfl⟩ := List.mem_map.mp (List.mem_toFinset.mp hp)
    exact Finset.mem_range.mpr (h.pids x hx)
  have hcard := Finset.card_le_card hsub
  rw [List.toFinset_card_of_nodup h.distinct] at hcard
  simpa using hcard

/-- Appending one entry keeps a section valid exactly when the reader's checks on
the entry pass. -/
theorem section_snoc {xs : List (Nat × Nat)} {p b : Nat} (h : SectionValid xs) (hp : p < 2^32) :
    SectionValid (xs++[(p,b)]) ↔
      (ofEntries xs).lookup p=none ∧ xs.length+1 ≤ u64Max ∧ total xs+b ≤ u64Max := by
  have hlen : xs.length+1 ≤ u64Max := by
    have := section_length h
    simp only [u64Max]
    omega
  rw [AList.lookup_eq_none,mem_ofEntries]
  constructor
  · intro hv
    have hd := hv.distinct
    rw [List.map_append,List.nodup_append] at hd
    exact ⟨fun hm => hd.2.2 p hm p (by simp) rfl,hlen,by rw [← total_snoc]; exact hv.fits⟩
  · rintro ⟨hm,_,ht⟩
    refine ⟨?_,?_,by rw [total_snoc]; exact ht⟩
    · rw [List.map_append,List.nodup_append]
      refine ⟨h.distinct,by simp,?_⟩
      intro q hq r hr
      have hr' : r=p := by simpa using hr
      rw [hr']
      exact fun he => hm (he ▸ hq)
    · intro x hx
      rcases List.mem_append.mp hx with hx | hx
      · exact h.pids x hx
      · have hx' : x=(p,b) := by simpa using hx
        rw [hx']
        exact hp

theorem section_initial {xs ys : List (Nat × Nat)} (h : SectionValid (xs++ys)) :
    SectionValid xs := by
  refine ⟨?_,fun x hx => h.pids x (List.mem_append_left _ hx),?_⟩
  · have hd := h.distinct
    rw [List.map_append,List.nodup_append] at hd
    exact hd.1
  · have hf := h.fits
    simp only [total,List.map_append,List.sum_append] at hf ⊢
    omega

theorem step_next {c c' : Cursor} {l : Line} {out : Option PendingRates}
    (hc : c.Valid) (hc' : c'.Valid) (h : Next c l out c') :
    c.assembler.step l=some (out,c'.assembler) := by
  cases h with
  | header => simp [step,assembler]
  | rxBegin bs => simp [step,assembler,resetSection,ofEntries,total]
  | rxEntry bs xs p b =>
    obtain ⟨hd,hn,ht⟩ := (section_snoc hc.2 (hc'.2.pids (p,b) (by simp))).mp hc'.2
    simp [step,assembler,Direction.reading,PendingRates.bytesByPid,PendingRates.insert,
      ofEntries_snoc,total_snoc,hd,hn,ht]
  | rxEnd bs xs => simp [step,assembler,Direction.reading,Direction.done,resetSection]
  | txBegin bs xs => simp [step,assembler,ofEntries,total]
  | txEntry bs xs ys p b =>
    obtain ⟨hd,hn,ht⟩ := (section_snoc hc.2.2 (hc'.2.2.pids (p,b) (by simp))).mp hc'.2.2
    simp [step,assembler,Direction.reading,PendingRates.bytesByPid,PendingRates.insert,
      ofEntries_snoc,total_snoc,hd,hn,ht]
  | txEnd bs xs ys => simp [step,assembler,Direction.reading,Direction.done,resetSection]
  | interval bs xs ys =>
    have hb : (bs++[(⟨xs,ys⟩ : Block)]).length < u64Max := hc'.1
    rw [List.length_append,List.length_singleton] at hb
    have hn : bs.length+1+1 ≤ u64Max := by omega
    simp [step,assembler,hn]

/-- A line that can be read carries a `u32` pid. -/
def Readable : Line → Prop
  | .sectionEntry _ _ p _ => p < 2^32
  | _ => True

theorem next_of_step {c : Cursor} {l : Line} {out : Option PendingRates}
    {a : ProtocolAssembler} (hc : c.Valid) (hl : Readable l)
    (h : c.assembler.step l=some (out,a)) :
    ∃ c', Next c l out c' ∧ c'.Valid ∧ a=c'.assembler := by
  cases l with
  | header v =>
    cases c <;> simp [assembler,step] at h
    obtain ⟨rfl,rfl,rfl⟩ := h
    exact ⟨.between [],.header,⟨by decide,by simp⟩,rfl⟩
  | sectionBegin dir e =>
    cases dir with
    | rx =>
      cases c <;> simp [assembler,step,resetSection] at h
      obtain ⟨rfl,rfl,rfl⟩ := h
      exact ⟨.readingRx _ [],.rxBegin _,⟨hc,⟨by simp,by simp,by decide⟩⟩,rfl⟩
    | tx =>
      cases c <;> simp [assembler,step] at h
      obtain ⟨rfl,rfl,rfl⟩ := h
      exact ⟨.readingTx _ _ [],.txBegin _ _,⟨hc.1,hc.2,⟨by simp,by simp,by decide⟩⟩,rfl⟩
  | sectionEntry dir e p b =>
    cases dir with
    | rx =>
      cases c <;> simp [assembler,step,Direction.reading,PendingRates.bytesByPid,
        PendingRates.insert] at h
      case readingRx bs xs =>
      obtain ⟨⟨rfl,hd,hn,ht⟩,rfl,rfl⟩ := h
      have hv := (section_snoc hc.2 hl).mpr ⟨hd,hn,ht⟩
      refine ⟨.readingRx bs (xs++[(p,b)]),.rxEntry bs xs p b,⟨hc.1,hv⟩,?_⟩
      simp [assembler,ofEntries_snoc,total_snoc]
    | tx =>
      cases c <;> simp [assembler,step,Direction.reading,PendingRates.bytesByPid,
        PendingRates.insert] at h
      case readingTx bs xs ys =>
      obtain ⟨⟨rfl,hd,hn,ht⟩,rfl,rfl⟩ := h
      have hv := (section_snoc hc.2.2 hl).mpr ⟨hd,hn,ht⟩
      refine ⟨.readingTx bs xs (ys++[(p,b)]),.txEntry bs xs ys p b,⟨hc.1,hc.2.1,hv⟩,?_⟩
      simp [assembler,ofEntries_snoc,total_snoc]
  | sectionEnd dir e n t st ov =>
    cases dir with
    | rx =>
      cases c <;> simp [assembler,step,Direction.reading,Direction.done,resetSection] at h
      obtain ⟨⟨rfl,⟨rfl,rfl⟩,rfl,rfl⟩,rfl,rfl⟩ := h
      exact ⟨.awaitingTx _ _,.rxEnd _ _,hc,rfl⟩
    | tx =>
      cases c <;> simp [assembler,step,Direction.reading,Direction.done,resetSection] at h
      obtain ⟨⟨rfl,⟨rfl,rfl⟩,rfl,rfl⟩,rfl,rfl⟩ := h
      exact ⟨.awaitingMarker _ _ _,.txEnd _ _ _,hc,rfl⟩
  | interval e =>
    cases c <;> simp [assembler,step] at h
    case awaitingMarker bs xs ys =>
    obtain ⟨⟨rfl,hn⟩,rfl,rfl⟩ := h
    refine ⟨.between (bs++[⟨xs,ys⟩]),.interval bs xs ys,⟨?_,?_⟩,?_⟩
    · rw [List.length_append,List.length_singleton]
      omega
    · intro b hb
      rcases List.mem_append.mp hb with hb | hb
      · exact hc.1.2 b hb
      · have hb' : b=⟨xs,ys⟩ := by simpa using hb
        rw [hb']
        exact ⟨hc.2.1,hc.2.2⟩
    · simp [assembler]

/-- Every valid cursor but the first is one line past another valid cursor. -/
theorem exists_pred (c : Cursor) (hc : c.Valid) :
    c=.start ∨ ∃ c₀ l out, Next c₀ l out c ∧ c₀.Valid := by
  cases c with
  | start => exact Or.inl rfl
  | between bs =>
    right
    induction bs using List.reverseRecOn with
    | nil => exact ⟨.start,_,_,.header,trivial⟩
    | append_singleton bs b _ =>
      have hlen : (bs++[b]).length < u64Max := hc.1
      rw [List.length_append,List.length_singleton] at hlen
      have hb : b.Valid := hc.2 b (by simp)
      exact ⟨.awaitingMarker bs b.rx b.tx,_,_,.interval bs b.rx b.tx,
        ⟨⟨by omega,fun x hx => hc.2 x (List.mem_append_left _ hx)⟩,hb.rx,hb.tx⟩⟩
  | readingRx bs xs =>
    right
    induction xs using List.reverseRecOn with
    | nil => exact ⟨.between bs,_,_,.rxBegin bs,hc.1⟩
    | append_singleton xs x _ =>
      exact ⟨.readingRx bs xs,_,_,.rxEntry bs xs x.1 x.2,hc.1,section_initial hc.2⟩
  | awaitingTx bs xs => exact Or.inr ⟨.readingRx bs xs,_,_,.rxEnd bs xs,hc⟩
  | readingTx bs xs ys =>
    right
    induction ys using List.reverseRecOn with
    | nil => exact ⟨.awaitingTx bs xs,_,_,.txBegin bs xs,hc.1,hc.2.1⟩
    | append_singleton ys y _ =>
      exact ⟨.readingTx bs xs ys,_,_,.txEntry bs xs ys y.1 y.2,hc.1,hc.2.1,
        section_initial hc.2.2⟩
  | awaitingMarker bs xs ys => exact Or.inr ⟨.readingTx bs xs ys,_,_,.txEnd bs xs ys,hc⟩

theorem readable_of_readLine {line : String} {l : Line} (h : readLine line=some l) :
    Readable l := by
  cases l with
  | sectionEntry dir e p b =>
    -- only `readEntry` makes entries, and it parses the pid as a `u32`
    have hentry : ∀ d args, readEntry d args=some (.sectionEntry dir e p b) → p < 2^32 := by
      intro d args ha
      unfold readEntry at ha
      split at ha
      · simp only [Option.bind_eq_bind,Option.bind_eq_some_iff,Option.some.injEq,
          Line.sectionEntry.injEq] at ha
        obtain ⟨_,_,q,hq,_,_,_,_,rfl,_⟩ := ha
        exact parseUnsigned_lt hq
      · simp at ha
    have hbegin : ∀ d args, readBegin d args≠some (.sectionEntry dir e p b) := by
      intro d args
      unfold readBegin
      split <;> simp
    have hend : ∀ d args, readEnd d args≠some (.sectionEntry dir e p b) := by
      intro d args
      unfold readEnd
      split <;> simp [Option.bind_eq_some_iff]
    have hhead : ∀ args, readHeader args≠some (.sectionEntry dir e p b) := by
      intro args
      unfold readHeader
      split <;> simp
    have hint : ∀ args, readInterval args≠some (.sectionEntry dir e p b) := by
      intro args
      unfold readInterval
      split <;> simp
    unfold readLine at h
    split at h
    · simp at h
    split at h
    · exact absurd h (hhead _)
    split at h
    · exact absurd h (hbegin _ _)
    split at h
    · exact hentry _ _ h
    split at h
    · exact absurd h (hend _ _)
    split at h
    · exact absurd h (hbegin _ _)
    split at h
    · exact hentry _ _ h
    split at h
    · exact absurd h (hend _ _)
    split at h
    · exact absurd h (hint _)
    · simp at h
  | _ => trivial

/-- Soundness of a run: the reader is always at a cursor whose lines are the ones
it was given. -/
theorem cursor_of_ingestAll (raw : List String) (a : ProtocolAssembler)
    (h : ingestAll {} raw=.ok a) :
    ∃ c : Cursor, c.Valid ∧ a=c.assembler ∧ raw.map readLine=c.lines.map some := by
  induction raw using List.reverseRecOn generalizing a with
  | nil =>
    have ha : {}=a := by simpa [ingestAll,pure_ok] using h
    exact ⟨.start,trivial,ha.symm,rfl⟩
  | append_singleton raw line ih =>
    obtain ⟨a₀,out,h₀,hi⟩ := (ingestAll_snoc_ok _ _ _ _).mp h
    obtain ⟨c,hc,rfl,hraw⟩ := ih a₀ h₀
    obtain ⟨l,hl,hs⟩ := (ingest_ok_iff _ _ _).mp hi
    obtain ⟨c',hn,hc',rfl⟩ := next_of_step hc (readable_of_readLine hl) hs
    refine ⟨c',hc',rfl,?_⟩
    rw [List.map_append,hraw,next_lines hn,List.map_append]
    simp [hl]

/-- Completeness of a run: the lines of a valid cursor lead to it. -/
theorem ingestAll_cursor (raw : List String) (c : Cursor) (hc : c.Valid)
    (hraw : raw.map readLine=c.lines.map some) : ingestAll {} raw=.ok c.assembler := by
  induction raw using List.reverseRecOn generalizing c with
  | nil =>
    rcases exists_pred c hc with rfl | ⟨c₀,l,out,hn,_⟩
    · rfl
    · rw [next_lines hn] at hraw
      simp at hraw
  | append_singleton raw line ih =>
    rcases exists_pred c hc with rfl | ⟨c₀,l,out,hn,hc₀⟩
    · simp [lines] at hraw
    · rw [next_lines hn,List.map_append,List.map_append] at hraw
      obtain ⟨hinit,hlast⟩ := List.append_inj' hraw rfl
      have hl : readLine line=some l := by simpa using hlast
      refine (ingestAll_snoc_ok _ _ _ _).mpr ⟨c₀.assembler,out,ih c₀ hc₀ hinit,?_⟩
      exact (ingest_ok_iff _ _ _).mpr ⟨l,hl,step_next hc₀ hc hn⟩

/-- The lines that lead to valid cursors are closed under prefixes. -/
theorem exists_of_prefix (n : Nat) (c : Cursor) (hn : c.lines.length=n) (hc : c.Valid)
    (ls : List Line) (h : ls <+: c.lines) : ∃ c' : Cursor, c'.Valid ∧ c'.lines=ls := by
  induction n generalizing c with
  | zero =>
    have hz : c.lines=[] := List.length_eq_zero_iff.mp hn
    rw [hz,List.prefix_nil] at h
    exact ⟨c,hc,hz.trans h.symm⟩
  | succ n ih =>
    rcases exists_pred c hc with rfl | ⟨c₀,l,out,hs,hc₀⟩
    · simp [lines] at hn
    · have hlen : c₀.lines.length=n := by
        rw [next_lines hs,List.length_append,List.length_singleton] at hn
        omega
      rw [next_lines hs,List.prefix_concat_iff] at h
      rcases h with h | h
      · exact ⟨c,hc,(next_lines hs).trans (by simpa using h.symm)⟩
      · exact ih c₀ hlen hc₀ h

end Cursor

def Line.epoch : Line → Option Nat
  | .header _ => none
  | .sectionBegin _ e | .sectionEntry _ e _ _ | .sectionEnd _ e _ _ _ _ | .interval e => some e

theorem epoch_sectionLines {dir : Direction} {e : Nat} {xs : List (Nat × Nat)} {l : Line}
    (h : l∈sectionLines dir e xs) : l.epoch=some e := by
  simp only [sectionLines,entryLines,List.mem_append,List.mem_cons,List.mem_map,
    List.not_mem_nil,or_false] at h
  rcases h with (rfl | ⟨x,_,rfl⟩) | rfl <;> rfl

theorem epoch_blockLines {e : Nat} {b : Block} {l : Line} (h : l∈blockLines e b) :
    l.epoch=some e := by
  simp only [blockLines,List.mem_append,List.mem_singleton] at h
  rcases h with (h | h) | rfl
  · exact epoch_sectionLines h
  · exact epoch_sectionLines h
  · rfl

/-- The epochs of a stream are those of its blocks. -/
theorem epoch_stream {bs : List Block} {l : Line} {e : Nat} (h : l∈stream bs)
    (he : l.epoch=some e) : e ≤ bs.length := by
  induction bs using List.reverseRecOn with
  | nil =>
    have hl : l=Line.header protocolVersion := by simpa [stream,blocksFrom] using h
    rw [hl] at he
    simp [Line.epoch] at he
  | append_singleton bs b ih =>
    rw [stream_snoc] at h
    rw [List.length_append,List.length_singleton]
    rcases List.mem_append.mp h with h | h
    · have := ih h
      omega
    · rw [epoch_blockLines h] at he
      simp only [Option.some.injEq] at he
      omega

/-- A prefix of a stream whose blocks carry the epochs up to `u64::MAX`, the last
of which is never closed. -/
def Accepted (ls : List Line) : Prop :=
  ∃ bs : List Block, (∀ b∈bs, b.Valid) ∧ bs.length ≤ u64Max ∧ ls <+: stream bs ∧
    Line.interval u64Max∉ls

theorem accepted_iff_cursor (ls : List Line) :
    Accepted ls ↔ ∃ c : Cursor, c.Valid ∧ c.lines=ls := by
  constructor
  · rintro ⟨bs,hv,hlen,hp,hi⟩
    by_cases hlt : bs.length < u64Max
    · exact Cursor.exists_of_prefix _ (.between bs) rfl ⟨hlt,hv⟩ ls hp
    · -- the block of the last epoch: everything before its `INTERVAL` line
      induction bs using List.reverseRecOn with
      | nil => exact absurd (by decide : 0 < u64Max) hlt
      | append_singleton bs b _ =>
        rw [List.length_append,List.length_singleton] at hlen hlt
        have hb : b.Valid := hv b (by simp)
        have hc : (Cursor.awaitingMarker bs b.rx b.tx).Valid :=
          ⟨⟨by omega,fun x hx => hv x (List.mem_append_left _ hx)⟩,hb.rx,hb.tx⟩
        have hs : stream (bs++[b])=
            (Cursor.awaitingMarker bs b.rx b.tx).lines++[Line.interval (bs.length+1)] :=
          Cursor.next_lines (.interval bs b.rx b.tx)
        have he : bs.length+1=u64Max := by omega
        rw [hs,he,List.prefix_concat_iff] at hp
        rcases hp with rfl | hp
        · simp at hi
        · exact Cursor.exists_of_prefix _ _ rfl hc ls hp
  · rintro ⟨c,hc,rfl⟩
    have hempty : SectionValid [] := ⟨by simp,by simp,by decide⟩
    -- the open block is closed with the entries it has
    have hopen : ∀ bs xs ys, Cursor.BlocksValid bs → SectionValid xs → SectionValid ys →
        (∀ b∈bs++[(⟨xs,ys⟩ : Block)], b.Valid) ∧ (bs++[(⟨xs,ys⟩ : Block)]).length ≤ u64Max := by
      intro bs xs ys hb hx hy
      refine ⟨?_,by have := hb.1; simp; omega⟩
      intro b hm
      rcases List.mem_append.mp hm with hm | hm
      · exact hb.2 b hm
      · have hb' : b=⟨xs,ys⟩ := by simpa using hm
        rw [hb']
        exact ⟨hx,hy⟩
    have hclosed : ∀ bs, Cursor.BlocksValid bs → Line.interval u64Max∉stream bs := by
      intro bs hb hm
      have := epoch_stream hm rfl
      have := hb.1
      omega
    have hsec : ∀ dir e xs, Line.interval u64Max∉sectionLines dir e xs := by
      intro dir e xs
      simp [sectionLines,entryLines]
    cases c with
    | start => exact ⟨[],by simp,by decide,List.nil_prefix,by simp [Cursor.lines]⟩
    | between bs => exact ⟨bs,hc.2,hc.1.le,List.prefix_rfl,hclosed bs hc⟩
    | readingRx bs xs =>
      refine ⟨_,(hopen bs xs [] hc.1 hc.2 hempty).1,(hopen bs xs [] hc.1 hc.2 hempty).2,?_,?_⟩
      · rw [stream_snoc,Cursor.lines,List.prefix_append_right_inj]
        exact ⟨Line.sectionEnd .rx (bs.length+1) xs.length (total xs) 0 0::
          (sectionLines .tx (bs.length+1) []++[Line.interval (bs.length+1)]),by
            simp [blockLines,sectionLines]⟩
      · simp [Cursor.lines,entryLines,hclosed bs hc.1]
    | awaitingTx bs xs =>
      refine ⟨_,(hopen bs xs [] hc.1 hc.2 hempty).1,(hopen bs xs [] hc.1 hc.2 hempty).2,?_,?_⟩
      · rw [stream_snoc,Cursor.lines,List.prefix_append_right_inj]
        exact ⟨sectionLines .tx (bs.length+1) []++[Line.interval (bs.length+1)],by
          simp [blockLines]⟩
      · simp [Cursor.lines,hsec,hclosed bs hc.1]
    | readingTx bs xs ys =>
      refine ⟨_,(hopen bs xs ys hc.1 hc.2.1 hc.2.2).1,(hopen bs xs ys hc.1 hc.2.1 hc.2.2).2,?_,?_⟩
      · rw [stream_snoc,Cursor.lines,List.append_assoc,List.prefix_append_right_inj]
        exact ⟨[Line.sectionEnd .tx (bs.length+1) ys.length (total ys) 0 0,
          Line.interval (bs.length+1)],by simp [blockLines,sectionLines]⟩
      · simp [Cursor.lines,entryLines,hsec,hclosed bs hc.1]
    | awaitingMarker bs xs ys =>
      refine ⟨_,(hopen bs xs ys hc.1 hc.2.1 hc.2.2).1,(hopen bs xs ys hc.1 hc.2.1 hc.2.2).2,?_,?_⟩
      · rw [stream_snoc,Cursor.lines,List.append_assoc,List.prefix_append_right_inj]
        exact ⟨[Line.interval (bs.length+1)],by simp [blockLines]⟩
      · simp [Cursor.lines,hsec,hclosed bs hc.1]

theorem entry_mem_awaitingMarker (bs : List Block) (xs ys : List (Nat × Nat))
    (dir : Direction) (p b : Nat) :
    Line.sectionEntry dir (bs.length+1) p b∈(Cursor.awaitingMarker bs xs ys).lines ↔
      (p,b)∈(match dir with | .rx => xs | .tx => ys) := by
  have hold : Line.sectionEntry dir (bs.length+1) p b∉stream bs := by
    intro hm
    have := epoch_stream hm rfl
    omega
  cases dir <;> simp [Cursor.lines,sectionLines,entryLines,hold]

/-- The reader accepts exactly the prefixes of the grammar, and the maps an
`INTERVAL` line yields hold exactly the entries printed with its epoch: nothing
of another block, nothing lost. -/
theorem ingest_grammar (raw : List String) :
    ((∃ a, ProtocolAssembler.ingestAll {} raw=.ok a) ↔
      ∃ ls, raw.map readLine=ls.map some ∧ Accepted ls) ∧
    (∀ a line out a', ProtocolAssembler.ingestAll {} raw=.ok a → a.ingest line=.ok (out,a') →
      (∀ e, readLine line=some (.interval e) → ∃ rates, out=some rates ∧
        ∀ dir pid bytes, (rates.bytesByPid dir).lookup pid=some bytes ↔
          some (Line.sectionEntry dir e pid bytes)∈raw.map readLine) ∧
      ((∀ e, readLine line≠some (.interval e)) → out=none)) := by
  refine ⟨⟨?_,?_⟩,?_⟩
  · rintro ⟨a,ha⟩
    obtain ⟨c,hc,_,hraw⟩ := Cursor.cursor_of_ingestAll raw a ha
    exact ⟨c.lines,hraw,(accepted_iff_cursor _).mpr ⟨c,hc,rfl⟩⟩
  · rintro ⟨ls,hraw,hacc⟩
    obtain ⟨c,hc,rfl⟩ := (accepted_iff_cursor ls).mp hacc
    exact ⟨c.assembler,Cursor.ingestAll_cursor raw c hc hraw⟩
  · intro a line out a' ha hi
    obtain ⟨c,hc,rfl,hraw⟩ := Cursor.cursor_of_ingestAll raw a ha
    obtain ⟨l,hl,hs⟩ := (ProtocolAssembler.ingest_ok_iff _ _ _).mp hi
    obtain ⟨c',hn,_,_⟩ := Cursor.next_of_step hc (Cursor.readable_of_readLine hl) hs
    rw [hl,hraw]
    cases hn with
    | interval bs xs ys =>
      refine ⟨?_,fun hne => absurd rfl (hne _)⟩
      intro e he
      obtain rfl : bs.length+1=e := by simpa using he
      refine ⟨_,rfl,?_⟩
      intro dir pid bytes
      have hmem := entry_mem_awaitingMarker bs xs ys dir pid bytes
      simp only [List.mem_map,Option.some.injEq,exists_eq_right]
      rw [hmem]
      cases dir with
      | rx => exact lookup_ofEntries xs hc.2.1.distinct pid bytes
      | tx => exact lookup_ofEntries ys hc.2.2.distinct pid bytes
    | _ => exact ⟨fun e he => by simp at he,fun _ => rfl⟩

/-- One complete interval: the marker of epoch 1 hands out its single entry. -/
theorem ingest_grammar_first_interval :
    ∃ a out a', ProtocolAssembler.ingestAll {} ["BATCAVE_NETWORK_PROTOCOL 2",
        "BATCAVE_NETWORK_RX_BEGIN 1","BATCAVE_NETWORK_RX 1 42 1024",
        "BATCAVE_NETWORK_RX_END 1 1 1024 0 0","BATCAVE_NETWORK_TX_BEGIN 1",
        "BATCAVE_NETWORK_TX_END 1 0 0 0 0"]=.ok a ∧
      a.ingest "BATCAVE_NETWORK_INTERVAL 1"=.ok (out,a') ∧
      ∃ rates, out=some rates ∧ (rates.bytesByPid .rx).lookup 42=some 1024 := by
  have hx : SectionValid [(42,1024)] := ⟨by decide,by decide,by decide⟩
  have hy : SectionValid [] := ⟨by decide,by decide,by decide⟩
  have hc : (Cursor.awaitingMarker [] [(42,1024)] []).Valid := ⟨⟨by decide,by simp⟩,hx,hy⟩
  have hc' : (Cursor.between [⟨[(42,1024)],[]⟩]).Valid :=
    ⟨by decide,fun b hb => by rw [List.mem_singleton.mp hb]; exact ⟨hx,hy⟩⟩
  have ha := Cursor.ingestAll_cursor ["BATCAVE_NETWORK_PROTOCOL 2",
    "BATCAVE_NETWORK_RX_BEGIN 1","BATCAVE_NETWORK_RX 1 42 1024",
    "BATCAVE_NETWORK_RX_END 1 1 1024 0 0","BATCAVE_NETWORK_TX_BEGIN 1",
    "BATCAVE_NETWORK_TX_END 1 0 0 0 0"] _ hc (by decide)
  have hl : readLine "BATCAVE_NETWORK_INTERVAL 1"=some (.interval 1) := by decide
  have hi := (ProtocolAssembler.ingest_ok_iff _ _ _).mpr
    ⟨_,hl,Cursor.step_next hc hc' (.interval [] [(42,1024)] [])⟩
  obtain ⟨rates,ho,hr⟩ := ((ingest_grammar _).2 _ _ _ _ ha hi).1 1 hl
  exact ⟨_,_,_,ha,hi,rates,ho,(hr .rx 42 1024).mpr (by decide)⟩

/-- The words of a line as the probe prints it. -/
def Line.words : Line → List String
  | .header v => [protocolHeader,Nat.repr v]
  | .sectionBegin dir e => [dir.beginKind,Nat.repr e]
  | .sectionEntry dir e p b => [dir.entryKind,Nat.repr e,Nat.repr p,Nat.repr b]
  | .sectionEnd dir e n t st ov =>
    [dir.endKind,Nat.repr e,Nat.repr n,Nat.repr t,Nat.repr st,Nat.repr ov]
  | .interval e => [intervalMarker,Nat.repr e]

def Line.render (l : Line) : String := " ".intercalate l.words

/-- Lines whose numbers fit the types they are parsed into. -/
def Line.Fits : Line → Prop
  | .header v => v < 2^64
  | .sectionBegin _ e | .interval e => e < 2^64
  | .sectionEntry _ e p b => e < 2^64 ∧ p < 2^32 ∧ b < 2^64
  | .sectionEnd _ e n t st ov => e < 2^64 ∧ n < 2^64 ∧ t < 2^64 ∧ st < 2^64 ∧ ov < 2^64

theorem word_kind : Word protocolHeader ∧ Word intervalMarker ∧
    ∀ dir : Direction, Word dir.beginKind ∧ Word dir.entryKind ∧ Word dir.endKind := by
  refine ⟨by decide,by decide,fun dir => ?_⟩
  cases dir <;> decide

theorem splitWhitespace_render (l : Line) : splitWhitespace l.render=l.words := by
  obtain ⟨hh,hi,hk⟩ := word_kind
  apply splitWhitespace_join
  cases l with
  | header v => simp [Line.words,hh,word_repr]
  | interval e => simp [Line.words,hi,word_repr]
  | _ => simp [Line.words,hk,word_repr]

/-- What the probe prints is read back. -/
theorem readLine_render (l : Line) (h : l.Fits) : readLine l.render=some l := by
  rw [readLine,splitWhitespace_render]
  cases l with
  | header v => simp [Line.words,readHeader,parseU64_repr h]
  | sectionBegin dir e =>
    cases dir <;> simp [Line.words,protocolHeader,Direction.beginKind,Direction.entryKind,
      Direction.endKind,readBegin,parseU64_repr h]
  | sectionEntry dir e p b =>
    obtain ⟨he,hp,hb⟩ := h
    cases dir <;> simp [Line.words,protocolHeader,Direction.beginKind,Direction.entryKind,
      Direction.endKind,readEntry,parseU64_repr he,parseU32_repr hp,parseU64_repr hb]
  | sectionEnd dir e n t st ov =>
    obtain ⟨he,hn,ht,hst,hov⟩ := h
    cases dir <;> simp [Line.words,protocolHeader,Direction.beginKind,Direction.entryKind,
      Direction.endKind,readEnd,parseU64_repr he,parseU64_repr hn,
      parseU64_repr ht,parseU64_repr hst,parseU64_repr hov]
  | interval e =>
    simp [Line.words,protocolHeader,Direction.beginKind,Direction.entryKind,Direction.endKind,
      intervalMarker,readInterval,parseU64_repr h]

/-- Empty intervals up to the last epoch that can be closed, then the opening line
of the block of epoch `u64::MAX`. -/
def epochLimitLines : List String :=
  (Cursor.readingRx (List.replicate (u64Max-1) ⟨[],[]⟩) []).lines.map Line.render

theorem fits_emptyBlocks (n : Nat) (hn : n < u64Max) (l : Line)
    (h : l∈(Cursor.readingRx (List.replicate n ⟨[],[]⟩) []).lines) : l.Fits := by
  have hsec : ∀ dir e, e ≤ u64Max → ∀ l∈sectionLines dir e [], l.Fits := by
    intro dir e he l hl
    have hlt : e < 2^64 := by
      simp only [u64Max] at he
      omega
    simp only [sectionLines,entryLines,List.map_nil,List.cons_append,List.nil_append,
      List.mem_cons,List.not_mem_nil,or_false] at hl
    rcases hl with rfl | rfl
    · exact hlt
    · exact ⟨hlt,by decide,by decide,by decide,by decide⟩
  have hstream : ∀ k, k < u64Max → ∀ l∈stream (List.replicate k ⟨[],[]⟩), l.Fits := by
    intro k
    induction k with
    | zero =>
      intro _ l hl
      have hl' : l=Line.header protocolVersion := by simpa [stream,blocksFrom] using hl
      rw [hl']
      simp [Line.Fits,protocolVersion]
    | succ k ih =>
      intro hk l hl
      rw [List.replicate_succ',stream_snoc,List.length_replicate] at hl
      rcases List.mem_append.mp hl with hl | hl
      · exact ih (by omega) l hl
      · simp only [blockLines,List.mem_append,List.mem_singleton] at hl
        rcases hl with (hl | hl) | rfl
        · exact hsec _ _ hk.le l hl
        · exact hsec _ _ hk.le l hl
        · show k+1 < 2^64
          simp only [u64Max] at hk
          omega
  simp only [Cursor.lines,entryLines,List.map_nil,List.mem_append,List.mem_singleton,
    List.length_replicate] at h
  rcases h with h | rfl
  · exact hstream n hn l h
  · show n+1 < 2^64
    simp only [u64Max] at hn
    omega

/-- The reader takes the opening line of the block of epoch `u64::MAX`, which no
stream of blocks with smaller epochs has. -/
theorem ingest_opens_last_epoch :
    (∃ a, ProtocolAssembler.ingestAll {} epochLimitLines=.ok a) ∧
    ¬∃ ls bs, epochLimitLines.map readLine=ls.map some ∧ (∀ b∈bs, Block.Valid b) ∧
      bs.length < u64Max ∧ ls <+: stream bs := by
  have hempty : SectionValid [] := ⟨by decide,by decide,by decide⟩
  have hpos : u64Max-1 < u64Max := by decide
  have hlen : (List.replicate (u64Max-1) (⟨[],[]⟩ : Block)).length+1=u64Max := by
    rw [List.length_replicate]
    omega
  have hc : (Cursor.readingRx (List.replicate (u64Max-1) ⟨[],[]⟩) []).Valid := by
    refine ⟨⟨by omega,?_⟩,hempty⟩
    intro b hb
    rw [List.eq_of_mem_replicate hb]
    exact ⟨hempty,hempty⟩
  have hread : epochLimitLines.map readLine=
      (Cursor.readingRx (List.replicate (u64Max-1) ⟨[],[]⟩) []).lines.map some := by
    rw [epochLimitLines,List.map_map]
    exact List.map_congr_left fun l hl => readLine_render l (fits_emptyBlocks _ hpos l hl)
  refine ⟨⟨_,Cursor.ingestAll_cursor _ _ hc hread⟩,?_⟩
  rintro ⟨ls,bs,hls,_,hlt,hp⟩
  rw [hread] at hls
  have he : (Cursor.readingRx (List.replicate (u64Max-1) ⟨[],[]⟩) []).lines=ls :=
    List.map_injective_iff.mpr (Option.some_injective _) hls
  have hm : Line.sectionBegin .rx u64Max∈ls := by
    rw [← he,Cursor.lines,hlen]
    simp
  have := epoch_stream (hp.subset hm) rfl
  omega

end BatCave.LinuxNetwork
