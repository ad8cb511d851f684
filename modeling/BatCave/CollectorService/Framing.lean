import BatCave.Lib.Bytes
import BatCave.CollectorService.Protocol

/-! The length-prefixed frame codec of the collector service. `FrameDecoder.push`
is the resumable loop of the source, one chunk at a time; the results speak about
the raw bytes a decoder holds back, NOT about a fresh parse of a whole stream. -/
namespace BatCave.CollectorService
open BatCave.Lib.Bytes

def frameHeaderBytes : Nat := 4
def maxFramesPerBatch : Nat := 64

/-- `u32` little-endian length followed by the payload. -/
def frame (payload : List UInt8) : List UInt8 :=
  toLe frameHeaderBytes payload.length++payload

def frames (payloads : List (List UInt8)) : List UInt8 := payloads.flatMap frame

/-- The checks `encode_json_frame` makes on the bytes serde hands it. -/
def encodePayload (payload : List UInt8) : Except ContractFailure (List UInt8) :=
  if payload.isEmpty then .error (malformed "collector_service_frame_empty")
  else if payload.length>maxFrameBytes then
    .error (oversized "collector_service_frame_too_large")
  else if payload.length≥2^32 then
    .error (oversized "collector_service_frame_length_out_of_range")
  else .ok (frame payload)

/-- `toVec` stands for `serde_json::to_vec`, which is not part of the repository. -/
def encodeJsonFrame {T : Type*} (toVec : T → Option (List UInt8)) (value : T) :
    Except ContractFailure (List UInt8) :=
  match toVec value with
  | none => .error (malformed "collector_service_frame_serialize_failed")
  | some payload => encodePayload payload

structure FrameDecoder where
  header : List UInt8 := [0,0,0,0]
  headerLen : Nat := 0
  expectedPayloadLen : Option Nat := none
  payload : List UInt8 := []
  deriving DecidableEq, Repr

namespace FrameDecoder

def bufferedBytes (d : FrameDecoder) : Nat := d.headerLen+d.payload.length

def reset (_ : FrameDecoder) : FrameDecoder := {}

/-- Outcome of one pass through the body of the `while` loop of `push`. -/
inductive Pass where
  | failed (failure : ContractFailure)
  | more (d : FrameDecoder) (bytes : List UInt8)
  | completed (payload : List UInt8) (bytes : List UInt8)
  deriving DecidableEq, Repr

/-- The payload half of the loop body: `expected` is known. -/
def readPayload (d : FrameDecoder) (expected : Nat) (bytes : List UInt8) : Pass :=
  let remaining := expected-d.payload.length
  let copied := min remaining bytes.length
  let payload := d.payload++bytes.take copied
  let bytes := bytes.drop copied
  if payload.length=expected then .completed payload bytes
  else .more {d with payload := payload} bytes

/-- The loop body. The header half runs only while the length is unknown. -/
def pass (d : FrameDecoder) (bytes : List UInt8) : Pass :=
  match d.expectedPayloadLen with
  | some expected => d.readPayload expected bytes
  | none =>
    let copied := min (frameHeaderBytes-d.headerLen) bytes.length
    let header := d.header.take d.headerLen++bytes.take copied
      ++d.header.drop (d.headerLen+copied)
    let d := {d with header := header, headerLen := d.headerLen+copied}
    let bytes := bytes.drop copied
    if d.headerLen < frameHeaderBytes then .more d bytes
    else
      let expected := fromLe d.header
      if expected=0 then .failed (malformed "collector_service_frame_empty")
      else if expected>maxFrameBytes then
        .failed (oversized "collector_service_frame_too_large")
      else
        readPayload {d with expectedPayloadLen := some expected, payload := []} expected bytes

/-- The `while` loop. Every pass consumes a byte, so `fuel = bytes.length` is
enough (`loop_spec`); a failed pass resets the decoder. -/
def loop : Nat → FrameDecoder → List UInt8 → List (List UInt8) →
    Except ContractFailure (List (List UInt8)) × FrameDecoder
  | 0, d, _, out => (.ok out,d)
  | fuel+1, d, bytes, out =>
    if bytes.isEmpty then (.ok out,d) else
    match d.pass bytes with
    | .failed failure => (.error failure,d.reset)
    | .more d bytes => loop fuel d bytes out
    | .completed payload bytes =>
      let out := out++[payload]
      if out.length=maxFramesPerBatch ∧ ¬bytes.isEmpty then
        (.error (oversized "collector_service_frame_batch_too_large"),d.reset)
      else loop fuel {} bytes out

def push (d : FrameDecoder) (bytes : List UInt8) :
    Except ContractFailure (List (List UInt8)) × FrameDecoder :=
  d.loop bytes.length bytes []

/-- The raw stream bytes the decoder has taken in but not yet delivered. -/
def raw (d : FrameDecoder) : List UInt8 := d.header.take d.headerLen++d.payload

/-- What every reachable decoder satisfies: it holds a proper prefix of one frame
whose length field, once read, was accepted. -/
structure Wf (d : FrameDecoder) : Prop where
  header_length : d.header.length=frameHeaderBytes
  reading_header : d.expectedPayloadLen=none →
    d.headerLen < frameHeaderBytes ∧ d.payload=[]
  reading_payload : ∀ n, d.expectedPayloadLen=some n →
    d.headerLen=frameHeaderBytes ∧ fromLe d.header=n ∧ 0 < n ∧ n ≤ maxFrameBytes ∧
      d.payload.length < n

/-- A payload the codec carries: nonempty and within the frame budget. -/
def Payload (p : List UInt8) : Prop := 0 < p.length ∧ p.length ≤ maxFrameBytes

/-- A complete length field that `push` refuses. -/
def BadHeader (s : List UInt8) : Prop :=
  frameHeaderBytes ≤ s.length ∧
    (fromLe (s.take frameHeaderBytes)=0 ∨ fromLe (s.take frameHeaderBytes)>maxFrameBytes)

theorem wf_default : Wf {} := by
  refine ⟨rfl,?_,?_⟩
  · intro _
    exact ⟨by decide,rfl⟩
  · intro n h
    simp at h

@[simp] theorem raw_default : raw {}=[] := rfl

theorem readPayload_cases (d : FrameDecoder) (n : Nat) (bytes : List UInt8)
    (hd : d.Wf) (he : d.expectedPayloadLen=some n) :
    (∃ d', d.readPayload n bytes=.more d' [] ∧ d'.Wf ∧ d'.raw=d.raw++bytes) ∨
    (∃ p rest, d.readPayload n bytes=.completed p rest ∧ Payload p ∧
      d.raw++bytes=frame p++rest ∧ rest.length < bytes.length) := by
  obtain ⟨hl,hh,hpos,hmax,hp⟩ := hd.reading_payload n he
  by_cases hc : n-d.payload.length ≤ bytes.length
  · right
    have hm : min (n-d.payload.length) bytes.length=n-d.payload.length := by omega
    have hlen : (d.payload++bytes.take (n-d.payload.length)).length=n := by
      simp only [List.length_append,List.length_take]
      omega
    have hr : d.header.take d.headerLen=d.header :=
      List.take_of_length_le (by rw [hl,hd.header_length])
    have hw : toLe frameHeaderBytes n=d.header := by
      have h := toLe_fromLe d.header
      rwa [hd.header_length,hh] at h
    refine ⟨d.payload++bytes.take (n-d.payload.length),bytes.drop (n-d.payload.length),
      ?_,⟨?_,?_⟩,?_,?_⟩
    · simp only [readPayload,hm]
      exact if_pos hlen
    · omega
    · omega
    · rw [frame,hlen,hw,raw,hr]
      simp only [List.append_assoc,List.take_append_drop]
    · simp only [List.length_drop]
      omega
  · left
    have hm : min (n-d.payload.length) bytes.length=bytes.length := by omega
    have hlt : d.payload.length+bytes.length < n := by omega
    refine ⟨{d with payload := d.payload++bytes},?_,⟨hd.header_length,?_,?_⟩,?_⟩
    · have hne : d.payload.length+bytes.length≠n := by omega
      simp [readPayload,hm,hne]
    · intro h
      simp [he] at h
    · intro m h
      have hmn : n=m := by simpa [he] using h
      subst m
      exact ⟨hl,hh,hpos,hmax,by simpa using hlt⟩
    · simp [raw]

/-- Everything one pass through the loop body can do with a nonempty chunk. -/
theorem pass_cases (d : FrameDecoder) (bytes : List UInt8) (hd : d.Wf) (hb : bytes≠[]) :
    (∃ f, d.pass bytes=.failed f ∧ BadHeader (d.raw++bytes)) ∨
    (∃ d', d.pass bytes=.more d' [] ∧ d'.Wf ∧ d'.raw=d.raw++bytes) ∨
    (∃ p rest, d.pass bytes=.completed p rest ∧ Payload p ∧
      d.raw++bytes=frame p++rest ∧ rest.length < bytes.length) := by
  have hpos : 0 < bytes.length := List.length_pos_iff.mpr hb
  cases he : d.expectedPayloadLen with
  | some n =>
    have hp : d.pass bytes=d.readPayload n bytes := by simp [pass,he]
    rw [hp]
    exact Or.inr (readPayload_cases d n bytes hd he)
  | none =>
    obtain ⟨hl,hpay⟩ := hd.reading_header he
    have hh := hd.header_length
    have hraw : d.raw=d.header.take d.headerLen := by simp [raw,hpay]
    by_cases hc : frameHeaderBytes-d.headerLen ≤ bytes.length
    · -- the length field is completed by this chunk
      have hm : min (frameHeaderBytes-d.headerLen) bytes.length=frameHeaderBytes-d.headerLen := by
        omega
      have hsum : d.headerLen+(frameHeaderBytes-d.headerLen)=frameHeaderBytes := by omega
      let header := d.header.take d.headerLen++bytes.take (frameHeaderBytes-d.headerLen)
      have hlen : header.length=frameHeaderBytes := by
        simp only [header,List.length_append,List.length_take]
        omega
      have hdrop : d.header.drop frameHeaderBytes=[] := by simp [← hh]
      have htake : (d.raw++bytes).take frameHeaderBytes=header := by
        rw [hraw,List.take_append,List.take_of_length_le (by simp only [List.length_take]; omega)]
        simp only [header,List.length_take,hh]
        congr 2
        omega
      have hge : frameHeaderBytes ≤ (d.raw++bytes).length := by
        rw [hraw]
        simp only [List.length_append,List.length_take]
        omega
      by_cases hz : fromLe header=0
      · left
        refine ⟨malformed "collector_service_frame_empty",?_,hge,Or.inl (by rw [htake,hz])⟩
        simp [pass,he,hm,hsum,hdrop,header] at hz ⊢
        simp [hz]
      by_cases hbig : fromLe header>maxFrameBytes
      · left
        refine ⟨oversized "collector_service_frame_too_large",?_,hge,Or.inr (by rwa [htake])⟩
        simp [pass,he,hm,hsum,hdrop,header] at hz hbig ⊢
        simp [hz,hbig]
      right
      let d' : FrameDecoder := ⟨header,frameHeaderBytes,some (fromLe header),[]⟩
      have hd' : d'.Wf := by
        refine ⟨hlen,by simp [d'],?_⟩
        intro n hn
        have hn' : fromLe header=n := by simpa [d'] using hn
        subst n
        exact ⟨rfl,rfl,by omega,by omega,by simp [d']; omega⟩
      have hpass : d.pass bytes=
          d'.readPayload (fromLe header) (bytes.drop (frameHeaderBytes-d.headerLen)) := by
        simp [pass,he,hm,hsum,hdrop,header,d'] at hz hbig ⊢
        simp [hz,hbig]
      have hjoin : d'.raw++bytes.drop (frameHeaderBytes-d.headerLen)=d.raw++bytes := by
        have ht : header.take frameHeaderBytes=header := List.take_of_length_le (by omega)
        simp only [raw,d',ht,List.append_nil,hpay]
        simp only [header,List.append_assoc,List.take_append_drop]
      obtain ⟨d₂,h₂,hw₂,hr₂⟩ | ⟨p,rest,h₂,hp,hs,hlt⟩ := readPayload_cases d' (fromLe header)
        (bytes.drop (frameHeaderBytes-d.headerLen)) hd' rfl
      · exact Or.inl ⟨d₂,hpass.trans h₂,hw₂,hr₂.trans hjoin⟩
      · refine Or.inr ⟨p,rest,hpass.trans h₂,hp,hjoin.symm.trans hs,?_⟩
        simp only [List.length_drop] at hlt
        omega
    · -- the chunk ends inside the length field
      right
      left
      have hm : min (frameHeaderBytes-d.headerLen) bytes.length=bytes.length := by omega
      have hlt : d.headerLen+bytes.length < frameHeaderBytes := by omega
      have hkept : (d.header.take d.headerLen++bytes).length=d.headerLen+bytes.length := by
        simp only [List.length_append,List.length_take]
        omega
      refine ⟨⟨d.header.take d.headerLen++bytes++d.header.drop (d.headerLen+bytes.length),
        d.headerLen+bytes.length,none,[]⟩,?_,⟨?_,?_,by simp⟩,?_⟩
      · simp [pass,he,hm,hlt,hpay]
      · simp only [List.length_append,List.length_take,List.length_drop]
        omega
      · intro _
        exact ⟨hlt,rfl⟩
      · simp only [raw,hpay,List.append_nil]
        exact List.take_left' hkept

/-- A chunk that was refused: after some whole frames the stream shows a bad
length field, or the batch is full and bytes are left. -/
def Refused (done : Nat) (s : List UInt8) : Prop :=
  ∃ ps rest, (∀ p∈ps, Payload p) ∧ s=frames ps++rest ∧
    ((done+ps.length < maxFramesPerBatch ∧ BadHeader rest) ∨
     (done+ps.length=maxFramesPerBatch ∧ rest≠[]))

/-- A chunk that was taken: whole frames, and a remainder the decoder keeps. -/
structure Taken (done : Nat) (s : List UInt8) (ps : List (List UInt8))
    (d : FrameDecoder) : Prop where
  wf : d.Wf
  payloads : ∀ p∈ps, Payload p
  split : s=frames ps++d.raw
  bounded : done+ps.length < maxFramesPerBatch ∨
    done+ps.length=maxFramesPerBatch ∧ d.raw=[]

theorem loop_spec (fuel : Nat) (d : FrameDecoder) (bytes : List UInt8)
    (out : List (List UInt8)) (hf : bytes.length ≤ fuel) (hd : d.Wf)
    (ho : out.length < maxFramesPerBatch ∨
      out.length=maxFramesPerBatch ∧ bytes=[] ∧ d.raw=[]) :
    (∃ ps d', d.loop fuel bytes out=(.ok (out++ps),d') ∧
      Taken out.length (d.raw++bytes) ps d') ∨
    (∃ f, d.loop fuel bytes out=(.error f,{}) ∧ Refused out.length (d.raw++bytes)) := by
  induction fuel generalizing d bytes out with
  | zero =>
    have hb : bytes=[] := List.length_eq_zero_iff.mp (by omega)
    subst bytes
    refine Or.inl ⟨[],d,by simp [loop],hd,by simp,by simp [frames],?_⟩
    exact ho.imp id (fun h => ⟨h.1,h.2.2⟩)
  | succ fuel ih =>
    by_cases hb : bytes=[]
    · subst bytes
      refine Or.inl ⟨[],d,by simp [loop],hd,by simp,by simp [frames],?_⟩
      exact ho.imp id (fun h => ⟨h.1,h.2.2⟩)
    have ho' : out.length < maxFramesPerBatch := by
      rcases ho with h | h
      · exact h
      · exact absurd h.2.1 hb
    have hne : bytes.isEmpty=false := by simpa using hb
    obtain ⟨f,hp,hbad⟩ | ⟨d',hp,hw,hr⟩ | ⟨p,rest,hp,hpay,hs,hlt⟩ := pass_cases d bytes hd hb
    · refine Or.inr ⟨f,by simp [loop,hne,hp,reset],[],d.raw++bytes,by simp,by simp [frames],?_⟩
      exact Or.inl ⟨by simpa using ho',hbad⟩
    · have hstep : d.loop (fuel+1) bytes out=d'.loop fuel [] out := by simp [loop,hne,hp]
      have h := ih d' [] out (by simp) hw (Or.inl ho')
      rw [hstep]
      simpa only [hr,List.append_nil] using h
    · by_cases hfull : out.length+1=maxFramesPerBatch ∧ rest≠[]
      · refine Or.inr ⟨oversized "collector_service_frame_batch_too_large",?_,[p],rest,
          by simpa using hpay,by simpa [frames] using hs,Or.inr ⟨by simpa using hfull.1,hfull.2⟩⟩
        simp [loop,hne,hp,hfull,reset]
      · have hstep : d.loop (fuel+1) bytes out=loop fuel {} rest (out++[p]) := by
          have hn : ¬((out++[p]).length=maxFramesPerBatch ∧ ¬rest.isEmpty) := by
            simpa using hfull
          simp only [loop,hne,hp,if_neg hn,Bool.false_eq_true,if_false]
        have hnext : (out++[p]).length < maxFramesPerBatch ∨
            (out++[p]).length=maxFramesPerBatch ∧ rest=[] ∧ raw {}=[] := by
          have hlen : (out++[p]).length=out.length+1 := by simp
          by_cases hr : rest=[]
          · subst rest
            rw [hlen]
            by_cases h64 : out.length+1=maxFramesPerBatch
            · exact Or.inr ⟨h64,rfl,rfl⟩
            · exact Or.inl (by omega)
          · left
            have : out.length+1≠maxFramesPerBatch := fun h => hfull ⟨h,hr⟩
            omega
        rw [hstep]
        obtain ⟨ps,d',hl,ht⟩ | ⟨f,hl,qs,tail,hq,hsplit,hend⟩ :=
          ih {} rest (out++[p]) (by omega) wf_default hnext
        · refine Or.inl ⟨p::ps,d',by simpa using hl,ht.wf,?_,?_,?_⟩
          · intro q hq
            rcases List.mem_cons.mp hq with rfl | hq
            · exact hpay
            · exact ht.payloads q hq
          · have hrest : rest=frames ps++d'.raw := by simpa using ht.split
            rw [hs,hrest]
            simp [frames]
          · have hcount : (out++[p]).length+ps.length=out.length+(p::ps).length := by
              simp only [List.length_append,List.length_cons,List.length_nil]
              omega
            rw [← hcount]
            exact ht.bounded
        · refine Or.inr ⟨f,hl,p::qs,tail,?_,?_,?_⟩
          · intro q hq'
            rcases List.mem_cons.mp hq' with rfl | hq'
            · exact hpay
            · exact hq q hq'
          · have hrest : rest=frames qs++tail := by simpa using hsplit
            rw [hs,hrest]
            simp [frames]
          · have hcount : (out++[p]).length+qs.length=out.length+(p::qs).length := by
              simp only [List.length_append,List.length_cons,List.length_nil]
              omega
            rw [← hcount]
            exact hend

/-- `push` on any decoder that satisfies its invariant: it takes the chunk, or it
refuses it and starts over. -/
theorem push_spec (d : FrameDecoder) (bytes : List UInt8) (hd : d.Wf) :
    (∃ ps d', d.push bytes=(.ok ps,d') ∧ Taken 0 (d.raw++bytes) ps d') ∨
    (∃ f, d.push bytes=(.error f,{}) ∧ Refused 0 (d.raw++bytes)) := by
  have h := loop_spec bytes.length d bytes [] le_rfl hd (Or.inl (by decide))
  simpa [push] using h

theorem frame_length (p : List UInt8) : (frame p).length=frameHeaderBytes+p.length := by
  simp [frame]

theorem fromLe_header {p : List UInt8} (hp : Payload p) (s : List UInt8) :
    fromLe ((frame p++s).take frameHeaderBytes)=p.length := by
  have ht : (frame p++s).take frameHeaderBytes=toLe frameHeaderBytes p.length := by
    rw [frame,List.append_assoc]
    exact List.take_left' (toLe_length _ _)
  have hlt : p.length < 256^frameHeaderBytes := lt_of_le_of_lt hp.2 (by decide)
  rw [ht,fromLe_toLe _ _ hlt]

theorem frame_append_inj {p q s t : List UInt8} (hp : Payload p) (hq : Payload q)
    (h : frame p++s=frame q++t) : p=q ∧ s=t := by
  have hl : p.length=q.length := by
    rw [← fromLe_header hp s,h,fromLe_header hq t]
  have hf : (frame p).length=(frame q).length := by simp [frame_length,hl]
  obtain ⟨hpq,hst⟩ := List.append_inj h hf
  rw [frame,frame,hl] at hpq
  exact ⟨List.append_cancel_left hpq,hst⟩

theorem not_badHeader {p s : List UInt8} (hp : Payload p) : ¬BadHeader (frame p++s) := by
  rintro ⟨_,h | h⟩
  · rw [fromLe_header hp] at h
    exact absurd h (by have := hp.1; omega)
  · rw [fromLe_header hp] at h
    exact absurd h (by have := hp.2; omega)

theorem badHeader_append {s t : List UInt8} (h : BadHeader s) : BadHeader (s++t) := by
  have ht : (s++t).take frameHeaderBytes=s.take frameHeaderBytes :=
    List.take_append_of_le_length h.1
  refine ⟨by have := h.1; simp only [List.length_append]; omega,?_⟩
  rw [ht]
  exact h.2

/-- Two readings of one stream as whole frames and a remainder agree as far as
both go. -/
theorem frames_split (ps qs : List (List UInt8)) (s t : List UInt8)
    (hp : ∀ p∈ps, Payload p) (hq : ∀ q∈qs, Payload q) (h : frames ps++s=frames qs++t) :
    (∃ qs', qs=ps++qs' ∧ s=frames qs'++t) ∨ (∃ ps', ps=qs++ps' ∧ t=frames ps'++s) := by
  induction ps generalizing qs with
  | nil => exact Or.inl ⟨qs,rfl,by simpa [frames] using h⟩
  | cons p ps ih =>
    cases qs with
    | nil => exact Or.inr ⟨p::ps,rfl,by simpa [frames] using h.symm⟩
    | cons q qs =>
      have h' : frame p++(frames ps++s)=frame q++(frames qs++t) := by
        simpa [frames,List.append_assoc] using h
      obtain ⟨rfl,hrest⟩ := frame_append_inj (hp p (by simp)) (hq q (by simp)) h'
      obtain ⟨qs',he,hs⟩ | ⟨ps',he,ht⟩ := ih qs
        (fun r hr => hp r (List.mem_cons_of_mem p hr))
        (fun r hr => hq r (List.mem_cons_of_mem p hr)) hrest
      · exact Or.inl ⟨qs',by simp [he],hs⟩
      · exact Or.inr ⟨ps',by simp [he],ht⟩

/-- Whole frames at the front of a stream of whole frames are its first ones. -/
theorem frames_prefix (ps qs : List (List UInt8)) (s : List UInt8)
    (hp : ∀ p∈ps, Payload p) (hq : ∀ q∈qs, Payload q) (h : frames qs++s=frames ps) :
    ∃ ps', ps=qs++ps' ∧ s=frames ps' := by
  obtain ⟨ps',he,hs⟩ | ⟨qs',he,hnil⟩ := frames_split qs ps s [] hq hp (by simpa using h)
  · exact ⟨ps',he,by simpa using hs⟩
  · have hlen := congrArg List.length hnil
    cases qs' with
    | nil =>
      have hs : s=[] := by simpa [frames] using hnil.symm
      exact ⟨[],by simpa using he.symm,by simpa [frames] using hs⟩
    | cons q qs' =>
      simp only [frames,List.flatMap_cons,List.length_append,frame_length,List.length_nil,
        frameHeaderBytes] at hlen
      omega

theorem raw_length {d : FrameDecoder} (hd : d.Wf) : d.raw.length=d.bufferedBytes := by
  have hh := hd.header_length
  have hl : d.headerLen ≤ frameHeaderBytes := by
    cases he : d.expectedPayloadLen with
    | none => exact (hd.reading_header he).1.le
    | some n => exact (hd.reading_payload n he).1.le
  simp only [raw,bufferedBytes,List.length_append,List.length_take]
  omega

theorem buffered_le {d : FrameDecoder} (hd : d.Wf) :
    d.bufferedBytes ≤ frameHeaderBytes+maxFrameBytes := by
  cases he : d.expectedPayloadLen with
  | none =>
    obtain ⟨hl,hp⟩ := hd.reading_header he
    simp only [bufferedBytes,hp,List.length_nil]
    omega
  | some n =>
    obtain ⟨hl,_,_,hmax,hp⟩ := hd.reading_payload n he
    simp only [bufferedBytes]
    omega

/-- The held bytes never show a length field that would be refused. -/
theorem raw_not_badHeader {d : FrameDecoder} (hd : d.Wf) : ¬BadHeader d.raw := by
  rintro ⟨hlen,hbad⟩
  cases he : d.expectedPayloadLen with
  | none =>
    obtain ⟨hl,_⟩ := hd.reading_header he
    rw [raw_length hd] at hlen
    have hb : d.bufferedBytes=d.headerLen := by simp [bufferedBytes,(hd.reading_header he).2]
    omega
  | some n =>
    obtain ⟨hl,hn,hpos,hmax,_⟩ := hd.reading_payload n he
    have ht : d.raw.take frameHeaderBytes=d.header := by
      rw [raw,hl,List.take_of_length_le hd.header_length.le]
      exact List.take_left' hd.header_length
    rw [ht,hn] at hbad
    omega

/-- The held bytes are always short of the frame they belong to. -/
theorem raw_short {d : FrameDecoder} (hd : d.Wf) {p s t : List UInt8} (hp : Payload p)
    (h : d.raw++s=frame p++t) : d.raw.length < (frame p).length := by
  cases he : d.expectedPayloadLen with
  | none =>
    have hb : d.bufferedBytes=d.headerLen := by simp [bufferedBytes,(hd.reading_header he).2]
    have hl := (hd.reading_header he).1
    rw [raw_length hd,hb,frame_length]
    omega
  | some n =>
    obtain ⟨hl,hn,_,_,hlt⟩ := hd.reading_payload n he
    have ht : (d.raw++s).take frameHeaderBytes=d.header := by
      rw [raw,hl,List.take_of_length_le hd.header_length.le,List.append_assoc]
      exact List.take_left' hd.header_length
    have hnp : n=p.length := by
      rw [← hn,← ht,h,fromLe_header hp]
    rw [raw_length hd,frame_length,bufferedBytes]
    omega

/-- Taking a chunk and refusing it exclude each other, whatever the decoder is. -/
theorem taken_not_refused {done : Nat} {s : List UInt8} {ps : List (List UInt8)}
    {d : FrameDecoder} (ht : Taken done s ps d) : ¬Refused done s := by
  rintro ⟨qs,rest,hq,hs,hend⟩
  have hb := ht.bounded
  obtain ⟨qs',he,hraw⟩ | ⟨ps',he,hrest⟩ :=
    frames_split ps qs d.raw rest ht.payloads hq (ht.split.symm.trans hs)
  · cases qs' with
    | nil =>
      have hr : d.raw=rest := by simpa [frames] using hraw
      have hqp : qs=ps := by simpa using he
      subst hqp
      rcases hend with ⟨_,hbad⟩ | ⟨hfull,hne⟩
      · exact raw_not_badHeader ht.wf (hr ▸ hbad)
      · rcases hb with hb | hb
        · omega
        · exact hne (hr ▸ hb.2)
    | cons q qs' =>
      have hq' : Payload q := hq q (by rw [he]; simp)
      have h' : d.raw++[]=frame q++(frames qs'++rest) := by
        simpa [frames,List.append_assoc] using hraw
      have hlt := raw_short ht.wf hq' h'
      have hlen := congrArg List.length h'
      simp only [List.length_append,List.length_nil] at hlen
      omega
  · cases ps' with
    | nil =>
      have hr : rest=d.raw := by simpa [frames] using hrest
      have hpq : ps=qs := by simpa using he
      subst hpq
      rcases hend with ⟨_,hbad⟩ | ⟨hfull,hne⟩
      · exact raw_not_badHeader ht.wf (hr ▸ hbad)
      · rcases hb with hb | hb
        · omega
        · exact hne (hr.trans hb.2)
    | cons p ps' =>
      have hp' : Payload p := ht.payloads p (by rw [he]; simp)
      have hlen : ps.length=qs.length+(ps'.length+1) := by simp [he]
      rcases hend with ⟨_,hbad⟩ | ⟨hfull,_⟩
      · rw [hrest] at hbad
        have hb' : BadHeader (frame p++(frames ps'++d.raw)) := by
          simpa [frames,List.append_assoc] using hbad
        exact not_badHeader hp' hb'
      · rcases hb with hb | hb <;> omega

/-- Decoders a caller can hold: a fresh one, and the state after any push,
accepted or not. -/
inductive Reachable : FrameDecoder → Prop where
  | fresh : Reachable {}
  | push {d : FrameDecoder} (h : Reachable d) (bytes : List UInt8) : Reachable (d.push bytes).2

theorem reachable_wf {d : FrameDecoder} (h : Reachable d) : d.Wf := by
  induction h with
  | fresh => exact wf_default
  | push h bytes ih =>
    obtain ⟨ps,d',he,ht⟩ | ⟨f,he,_⟩ := push_spec _ bytes ih
    · rw [he]
      exact ht.wf
    · rw [he]
      exact wf_default

/-- Push the chunks in order, stopping at the first refusal. -/
def pushAll : FrameDecoder → List (List UInt8) →
    Except ContractFailure (List (List (List UInt8))) × FrameDecoder
  | d, [] => (.ok [],d)
  | d, c::cs =>
    match d.push c with
    | (.error f,d) => (.error f,d)
    | (.ok out,d) =>
      match d.pushAll cs with
      | (.error f,d) => (.error f,d)
      | (.ok outs,d) => (.ok (out::outs),d)

/-- How many of the frames end within the first `n` bytes of the stream. -/
def completed : List (List UInt8) → Nat → Nat
  | [], _ => 0
  | p::ps, n => if (frame p).length ≤ n then completed ps (n-(frame p).length)+1 else 0

/-- No chunk has bytes beyond the 64th frame it completes: while any byte of a
chunk is still to come, the chunk has completed fewer than 64 frames. The chunks
start at offset `n` of the stream. -/
def BatchBounded (ps : List (List UInt8)) : Nat → List (List UInt8) → Prop
  | _, [] => True
  | n, c::cs => (∀ k < c.length, completed ps (n+k) < completed ps n+maxFramesPerBatch) ∧
      BatchBounded ps (n+c.length) cs

theorem completed_frames_append (qs ps : List (List UInt8)) (n : Nat) :
    completed (qs++ps) ((frames qs).length+n)=qs.length+completed ps n := by
  induction qs with
  | nil => simp [frames]
  | cons q qs ih =>
    have hlen : (frames (q::qs)).length=(frame q).length+(frames qs).length := by
      simp [frames]
    have hsub : (frame q).length+(frames qs).length+n-(frame q).length=(frames qs).length+n := by
      omega
    rw [hlen,List.cons_append,completed,if_pos (by omega),hsub,ih]
    simp only [List.length_cons]
    omega

theorem batchBounded_frames_append (qs ps : List (List UInt8)) (n : Nat)
    (cs : List (List UInt8)) (h : BatchBounded (qs++ps) ((frames qs).length+n) cs) :
    BatchBounded ps n cs := by
  induction cs generalizing n with
  | nil => trivial
  | cons c cs ih =>
    refine ⟨?_,ih (n+c.length) (by rw [← Nat.add_assoc]; exact h.2)⟩
    intro k hk
    have hc := h.1 k hk
    rw [Nat.add_assoc,completed_frames_append,completed_frames_append] at hc
    omega

/-- Nothing is completed by the bytes a decoder still holds. -/
theorem completed_raw {d : FrameDecoder} (hd : d.Wf) {ps : List (List UInt8)}
    (hp : ∀ p∈ps, Payload p) {s : List UInt8} (h : d.raw++s=frames ps) :
    completed ps d.raw.length=0 := by
  cases ps with
  | nil => rfl
  | cons p ps =>
    have h' : d.raw++s=frame p++frames ps := by simpa [frames] using h
    have hlt := raw_short hd (hp p (by simp)) h'
    rw [completed,if_neg (by omega)]

/-- The run of pushes from any decoder state. The invariant carried through the
chunks is that the held bytes and the chunks to come spell the frames to come. -/
theorem pushAll_frames (chunks ps : List (List UInt8)) (d : FrameDecoder) (hd : d.Wf)
    (hp : ∀ p∈ps, Payload p) (hs : d.raw++chunks.flatten=frames ps)
    (hb : BatchBounded ps d.raw.length chunks) :
    ∃ outs d', d.pushAll chunks=(.ok outs,d') ∧ outs.flatten=ps ∧ d'.bufferedBytes=0 := by
  induction chunks generalizing d ps with
  | nil =>
    have hraw : d.raw=frames ps := by simpa using hs
    cases ps with
    | nil =>
      refine ⟨[],d,rfl,rfl,?_⟩
      rw [← raw_length hd,hraw]
      rfl
    | cons p ps =>
      have h' : d.raw++[]=frame p++frames ps := by simpa [frames] using hraw
      have hlt := raw_short hd (hp p (by simp)) h'
      have hlen := congrArg List.length h'
      simp only [List.length_append,List.length_nil] at hlen
      omega
  | cons c cs ih =>
    have hs' : d.raw++c++cs.flatten=frames ps := by simpa using hs
    obtain ⟨qs,d',he,ht⟩ | ⟨f,he,qs,rest,hq,hsplit,hend⟩ := push_spec d c hd
    · have hjoin : frames qs++(d'.raw++cs.flatten)=frames ps := by
        rw [← List.append_assoc,← ht.split,hs']
      have hlen : d.raw.length+c.length=(frames qs).length+d'.raw.length := by
        have h := congrArg List.length ht.split
        simpa only [List.length_append] using h
      obtain ⟨ps',hps,hrest⟩ := frames_prefix ps qs _ hp ht.payloads hjoin
      have hb' : BatchBounded ps' d'.raw.length cs := by
        apply batchBounded_frames_append qs
        rw [← hps,← hlen]
        exact hb.2
      obtain ⟨outs,d₂,hrun,hout,hbuf⟩ := ih ps' d' ht.wf
        (fun p hpp => hp p (by rw [hps]; exact List.mem_append_right _ hpp)) hrest hb'
      refine ⟨qs::outs,d₂,by simp [pushAll,he,hrun],?_,hbuf⟩
      rw [List.flatten_cons,hout,hps]
    · exfalso
      have hjoin : frames qs++(rest++cs.flatten)=frames ps := by
        rw [← List.append_assoc,← hsplit,hs']
      obtain ⟨ps',hps,hrest⟩ := frames_prefix ps qs _ hp hq hjoin
      rcases hend with ⟨_,hbad⟩ | ⟨hfull,hne⟩
      · have hbad' : BadHeader (frames ps') := hrest ▸ badHeader_append hbad
        cases ps' with
        | nil => exact absurd hbad'.1 (by decide)
        | cons p ps' =>
          have hpp : Payload p := hp p (by rw [hps]; simp)
          exact not_badHeader (s := frames ps') hpp (by simpa [frames] using hbad')
      · -- the batch is full while a byte of this chunk is left
        have hpos : 0 < rest.length := List.length_pos_iff.mpr hne
        have hlen := congrArg List.length hsplit
        simp only [List.length_append] at hlen
        cases qs with
        | nil => simp [maxFramesPerBatch] at hfull
        | cons q qs =>
          have h' : d.raw++c=frame q++(frames qs++rest) := by
            simpa [frames,List.append_assoc] using hsplit
          have hshort := raw_short hd (hq q (by simp)) h'
          have hlong : (frame q).length ≤ (frames (q::qs)).length := by simp [frames]
          have hk := hb.1 ((frames (q::qs)).length-d.raw.length) (by omega)
          have hidx : d.raw.length+((frames (q::qs)).length-d.raw.length)=
              (frames (q::qs)).length+0 := by omega
          have hz := completed_raw hd hp (by simpa using hs)
          rw [hidx,hps,completed_frames_append,← hps,hz] at hk
          omega

theorem encodePayload_frame {p : List UInt8} (hp : Payload p) :
    encodePayload p=.ok (frame p) := by
  have hne : p.isEmpty=false := by
    simpa using List.ne_nil_of_length_pos hp.1
  have hmax := hp.2
  have hu32 : maxFrameBytes < 2^32 := by decide
  rw [encodePayload,if_neg (by simp [hne]),if_neg (by omega),if_neg (by omega)]

/-- The codec under arbitrary fragmentation. A stream of frames as the encoder
writes them, cut anywhere, is read back exactly and leaves nothing buffered; the
buffer of a reachable decoder is bounded; and a push fails exactly on a refused
length field or an overfull batch, leaving a fresh decoder. -/
theorem frame_codec_roundtrip :
    (∀ (T : Type) (toVec : T → Option (List UInt8)) (value : T) (p : List UInt8),
      toVec value=some p → Payload p → encodeJsonFrame toVec value=.ok (frame p)) ∧
    (∀ ps chunks, (∀ p∈ps, Payload p) → chunks.flatten=frames ps → BatchBounded ps 0 chunks →
      ∃ outs d, pushAll {} chunks=(.ok outs,d) ∧ outs.flatten=ps ∧ d.bufferedBytes=0) ∧
    (∀ d, Reachable d → d.bufferedBytes ≤ frameHeaderBytes+maxFrameBytes) ∧
    (∀ d bytes, Reachable d →
      ((∃ f, (d.push bytes).1=.error f) ↔ Refused 0 (d.raw++bytes)) ∧
      ((∃ f, (d.push bytes).1=.error f) → (d.push bytes).2={})) := by
  refine ⟨?_,?_,fun d hd => buffered_le (reachable_wf hd),?_⟩
  · intro T toVec value p hv hp
    simp only [encodeJsonFrame,hv]
    exact encodePayload_frame hp
  · intro ps chunks hp hs hb
    exact pushAll_frames chunks ps {} wf_default hp (by simpa using hs) (by simpa using hb)
  · intro d bytes hd
    obtain ⟨ps,d',he,ht⟩ | ⟨f,he,hr⟩ := push_spec d bytes (reachable_wf hd)
    · have hok : ¬∃ f, (d.push bytes).1=.error f := by simp [he]
      exact ⟨⟨fun h => absurd h hok,fun h => absurd h (taken_not_refused ht)⟩,
        fun h => absurd h hok⟩
    · exact ⟨⟨fun _ => hr,fun _ => ⟨f,by rw [he]⟩⟩,fun _ => by rw [he]⟩

/-- Two one-frame payloads cut inside the first length field and inside the
second frame. -/
theorem frame_codec_roundtrip_two_frames :
    ∃ outs d, pushAll {} [[2,0],[0,0,7,8,1],[0,0,0,9]]=(.ok outs,d) ∧
      outs.flatten=[[7,8],[9]] ∧ d.bufferedBytes=0 := by
  refine frame_codec_roundtrip.2.1 [[7,8],[9]] _ ?_ (by decide) ?_
  · intro p hp
    simp only [List.mem_cons,List.not_mem_nil,or_false] at hp
    rcases hp with rfl | rfl <;> exact ⟨by decide,by decide⟩
  · refine ⟨?_,?_,?_,trivial⟩ <;> decide

end FrameDecoder
end BatCave.CollectorService
