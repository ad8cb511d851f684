import BatCave.CollectorService.Link

/-! One exchange between the desktop and the service. In whatever pieces the bytes arrive, the
service serves the request that was sent once and whole, and the desktop reads the reply that
was written or loses the connection. -/
namespace BatCave.CollectorService
open BatCave.Lib.Result BatCave.Lib.Word FrameDecoder
open WireParts (latestOf)

section Frames
variable {p : List UInt8}

/-- Nothing of a frame is held back. -/
structure FrameDecoder.AtRest (d : FrameDecoder) : Prop where
  wf : d.Wf
  raw : d.raw=[]

theorem atRest_default : AtRest {} := ⟨wf_default,rfl⟩

/-- Reading on inside of a frame completes it or holds all of it back. -/
theorem push_within {d : FrameDecoder} {bytes more : List UInt8} (hd : d.Wf) (hp : Payload p)
    (h : d.raw++bytes++more=frame p) :
    (∃ d', d.push bytes=(.ok [],d') ∧ d'.Wf ∧ d'.raw++more=frame p) ∨
    (∃ d', d.push bytes=(.ok [p],d') ∧ d'.AtRest ∧ more=[]) := by
  have hone : ∀ q∈[p], Payload q := by simpa using hp
  have hframes : frames [p]=frame p := by simp [frames]
  obtain ⟨ps,d',hpush,htaken⟩ | ⟨failure,_,qs,rest,hqs,hsplit,hend⟩ := push_spec d bytes hd
  · have hjoin : frames ps++(d'.raw++more)=frames [p] := by
      rw [← List.append_assoc,← htaken.split,hframes,h]
    obtain ⟨ps',hps,hrest⟩ := frames_prefix [p] ps _ hone htaken.payloads hjoin
    cases ps with
    | nil =>
      left
      have hheld : d'.raw++more=frame p := by
        rw [← hframes,← hjoin]
        rfl
      exact ⟨d',hpush,htaken.wf,hheld⟩
    | cons q ps =>
      right
      rw [List.cons_append,List.cons.injEq,eq_comm (a := []),List.append_eq_nil_iff] at hps
      obtain ⟨rfl,rfl,rfl⟩ := hps
      obtain ⟨hraw,hmore⟩ := List.append_eq_nil_iff.mp hrest
      exact ⟨d',hpush,⟨htaken.wf,hraw⟩,hmore⟩
  · exfalso
    have hjoin : frames qs++(rest++more)=frames [p] := by
      rw [← List.append_assoc,← hsplit,hframes,h]
    obtain ⟨ps',hps,hrest⟩ := frames_prefix [p] qs _ hone hqs hjoin
    obtain ⟨_,hbad⟩ | ⟨hfull,_⟩ := hend
    · have hbad' : BadHeader (frames ps') := hrest ▸ badHeader_append hbad
      cases ps' with
      | nil => exact absurd hbad'.1 (by decide)
      | cons q ps' =>
        have hq : Payload q := hone q (by rw [hps]; simp)
        exact not_badHeader (s := frames ps') hq (by simpa [frames] using hbad')
    · have hlen := congrArg List.length hps
      simp only [List.length_singleton,List.length_append] at hlen
      simp only [maxFramesPerBatch] at hfull
      omega

theorem push_nil (d : FrameDecoder) : d.push []=(.ok [],d) := rfl

theorem cut_flatten (ns : List Nat) (bytes : List UInt8) : (cut ns bytes).flatten=bytes := by
  induction ns generalizing bytes with
  | nil => simp [cut]
  | cons n ns ih => rw [cut,List.flatten_cons,ih,List.take_append_drop]

end Frames

section Serving
variable {σ μ : Type} {wire : WireParts σ μ} {process : ServiceProcess}
  {published : Option (CollectorPublication σ)} {peer : VerifiedPeer} {p : List UInt8}
  {worker : ClientWorker} {state : SnapshotState μ}

/-- What comes of serving one payload of a read. -/
def servedOne (answer : Except String SessionReply × ClientWorker × SnapshotState μ) : Served μ :=
  match answer with
  | (.error _,worker,state) => ⟨[],worker,state,false⟩
  | (.ok reply,worker,state) => ⟨reply.frame,worker,state,!reply.close⟩

theorem servePayloads_one : wire.servePayloads process published peer [p] worker state=
    servedOne (wire.servePayload process published peer p worker state) := by
  rw [WireParts.servePayloads]
  obtain ⟨result,after,kept⟩ := wire.servePayload process published peer p worker state
  cases result with
  | error failure => rfl
  | ok reply =>
    cases hclose : reply.close with
    | true => simp [servedOne,hclose]
    | false => simp [servedOne,WireParts.servePayloads,hclose]

/-- Reads without bytes change nothing. -/
theorem serveReads_silent {reads : List (List UInt8)} (h : reads.flatten=[]) :
    wire.serveReads process published peer reads worker state=⟨[],worker,state,true⟩ := by
  induction reads with
  | nil => rfl
  | cons bytes reads ih =>
    obtain ⟨rfl,hrest⟩ := List.append_eq_nil_iff.mp (List.flatten_cons ▸ h)
    rw [WireParts.serveReads,WireParts.serveBytes,push_nil]
    simp only [WireParts.servePayloads,if_true,ih hrest,List.append_nil]

variable (wire process published peer state) in
/-- Reads of a part of a frame: nothing is served as long as it is not whole. -/
theorem serveReads_within {reads : List (List UInt8)} {more : List UInt8} (hp : Payload p)
    (hd : worker.decoder.Wf) (h : worker.decoder.raw++reads.flatten++more=frame p) :
    (∃ decoder, wire.serveReads process published peer reads worker state=
      ⟨[],{ worker with decoder := decoder },state,true⟩) ∨
    (∃ decoder : FrameDecoder, decoder.AtRest ∧ more=[] ∧
      wire.serveReads process published peer reads worker state=
        servedOne (wire.servePayload process published peer p
          { worker with decoder := decoder } state)) := by
  induction reads generalizing worker with
  | nil => exact .inl ⟨worker.decoder,rfl⟩
  | cons bytes reads ih =>
    rw [List.flatten_cons,← List.append_assoc,List.append_assoc _ _ more] at h
    rw [WireParts.serveReads,WireParts.serveBytes]
    obtain ⟨decoder,hpush,hwf,hheld⟩ | ⟨decoder,hpush,hrest,hmore⟩ := push_within hd hp h
    · rw [hpush]
      simp only [WireParts.servePayloads,if_true,List.nil_append]
      rw [← List.append_assoc] at hheld
      exact @ih { worker with decoder := decoder } hwf hheld
    · right
      obtain ⟨hsilent,hmore⟩ := List.append_eq_nil_iff.mp hmore
      refine ⟨decoder,hrest,hmore,?_⟩
      rw [hpush]
      simp only [servePayloads_one]
      generalize hone : wire.servePayload process published peer p
        { worker with decoder := decoder } state=answer
      obtain ⟨result,after,kept⟩ := answer
      cases result with
      | error failure => rfl
      | ok reply =>
        cases hclose : reply.close with
        | true => simp [servedOne,hclose]
        | false => simp [servedOne,hclose,serveReads_silent hsilent]

end Serving

section Answers
variable {σ μ : Type} {wire : WireParts σ μ} {process : ServiceProcess}
  {published : Option (CollectorPublication σ)} {peer : VerifiedPeer} {p : List UInt8}
  {worker : ClientWorker} {state : SnapshotState μ}

/-- A payload that holds this request. -/
structure WireParts.Holds (wire : WireParts σ μ) (request : ClientRequestV1) (p : List UInt8) :
    Prop where
  payload : Payload p
  read : wire.requestFromSlice p=some request
  id : wire.requestId p=some request.requestId

theorem decodeRequest_holds {request : ClientRequestV1} (h : wire.Holds request p)
    (hvalid : validateRequest request=.ok ()) :
    (wire.session process published).decodeRequest p=.ok request := by
  have hnonempty : p.isEmpty=false := by simpa using List.ne_nil_of_length_pos h.payload.1
  have hread : (wire.session process published).fromSlice p=some request := h.read
  rw [SessionParts.decodeRequest,if_neg (by simp [hnonempty]),if_neg (Nat.not_lt.2 h.payload.2),
    hread]
  simp only [hvalid]
  rfl

/-- A fresh connection is greeted. -/
theorem handlePayload_greets {request : ClientRequestV1} {hello : NegotiateRequestV1}
    (h : wire.Holds request p) (hvalid : validateRequest request=.ok ())
    (hoperation : request.operation=.negotiate hello)
    (hclient : peer.authorization=.collectorClient)
    (hrelease : hello.desktopRelease=peer.executableRelease)
    (hversion : negotiateProtocol hello=.ok collectorServiceProtocolVersion) :
    (wire.session process published).handlePayload ⟨process.identity,state,{}⟩ ⟨peer,p⟩=
      (wire.checks.encodeResponse ⟨collectorServiceProtocolVersion,request.requestId,
          .negotiated ⟨collectorServiceProtocolVersion,process.identity⟩⟩ false,
        ⟨process.identity,state,⟨.active peer.binding⟩⟩) := by
  have hauthorized : ({} : AuthorizationSession).authorize (some peer) request=
      (.ok (.negotiated request.requestId collectorServiceProtocolVersion),
        ⟨.active peer.binding⟩) := by
    rw [AuthorizationSession.authorize,hvalid]
    simp only [hclient,ne_eq,not_true,if_false,AuthorizationSession.authorizeClient,hoperation,
      hrelease,hversion]
  rw [SessionParts.handlePayload,SessionParts.respond,decodeRequest_holds h hvalid]
  simp only [hauthorized]
  rfl

/-- An active connection is answered from what was published. -/
theorem handlePayload_answers {requestId : Nat} {afterSampleSeq : Option Nat}
    (h : wire.Holds ⟨collectorServiceProtocolVersion,requestId,.latestSnapshot afterSampleSeq⟩ p)
    (hid : requestId≠0) (hafter : afterSampleSeq≠some u64Max)
    (hclient : peer.authorization=.collectorClient) :
    (wire.session process published).handlePayload
        ⟨process.identity,state,⟨.active peer.binding⟩⟩ ⟨peer,p⟩=
      ((latestOf afterSampleSeq (wire.refreshState process published state).availability).bind
          (fun latest => wire.checks.encodeResponse
            ⟨collectorServiceProtocolVersion,requestId,.latestSnapshot latest⟩ false),
        ⟨process.identity,wire.refreshState process published state,⟨.active peer.binding⟩⟩) := by
  have hvalid : validateRequest
      ⟨collectorServiceProtocolVersion,requestId,.latestSnapshot afterSampleSeq⟩=.ok () := by
    simp [validateRequest,hid,hafter]
  have hauthorized : (⟨.active peer.binding⟩ : AuthorizationSession).authorize (some peer)
      ⟨collectorServiceProtocolVersion,requestId,.latestSnapshot afterSampleSeq⟩=
      (.ok (.latestSnapshot requestId afterSampleSeq),⟨.active peer.binding⟩) := by
    rw [AuthorizationSession.authorize,hvalid]
    simp [hclient,AuthorizationSession.authorizeClient]
  rw [SessionParts.handlePayload,SessionParts.respond,decodeRequest_holds h hvalid]
  simp only [hauthorized,SessionParts.outcome,WireParts.session]
  cases WireParts.latestOf afterSampleSeq (wire.refreshState process published state).availability
  <;> rfl

/-- The first payload of a connection, when the greeting can be framed. -/
theorem servePayload_greets {request : ClientRequestV1} {hello : NegotiateRequestV1}
    {reply : SessionReply} (h : wire.Holds request p) (hvalid : validateRequest request=.ok ())
    (hoperation : request.operation=.negotiate hello)
    (hclient : peer.authorization=.collectorClient)
    (hrelease : hello.desktopRelease=peer.executableRelease)
    (hversion : negotiateProtocol hello=.ok collectorServiceProtocolVersion)
    (hgreeting : wire.checks.encodeResponse ⟨collectorServiceProtocolVersion,request.requestId,
      .negotiated ⟨collectorServiceProtocolVersion,process.identity⟩⟩ false=.ok reply)
    {decoder : FrameDecoder} :
    wire.servePayload process published peer p { decoder := decoder } state=
      (.ok reply,⟨⟨.active peer.binding⟩,decoder,1⟩,state) := by
  have hcount : ¬sessionMaxRequests < satAdd 0 1 := by decide
  rw [WireParts.servePayload]
  simp only [if_neg hcount,handlePayload_greets h hvalid hoperation hclient hrelease hversion,
    hgreeting]
  rfl

variable (wire process published peer worker state) in
/-- A payload of an active connection: it is answered or refused with a reply that closes the
connection, or the connection ends without one. -/
theorem servePayload_answers {requestId count : Nat} {afterSampleSeq : Option Nat}
    (h : wire.Holds ⟨collectorServiceProtocolVersion,requestId,.latestSnapshot afterSampleSeq⟩ p)
    (hid : requestId≠0) (hafter : afterSampleSeq≠some u64Max)
    (hclient : peer.authorization=.collectorClient)
    (hactive : worker.authorization=⟨.active peer.binding⟩) (hcount : worker.requestCount=count) :
    let next := wire.refreshState process published state
    (∃ error worker', (wire.servePayload process published peer p worker state=
        (.error error,worker',state) ∨
      wire.servePayload process published peer p worker state=(.error error,worker',next))) ∨
    (∃ failure reply worker', wire.servePayload process published peer p worker state=
        (.ok reply,worker',next) ∧
      (latestOf afterSampleSeq next.availability).bind (fun latest => wire.checks.encodeResponse
        ⟨collectorServiceProtocolVersion,requestId,.latestSnapshot latest⟩ false)=
          .error failure ∧
      wire.checks.encodeResponse ⟨collectorServiceProtocolVersion,requestId,
        .error (WireParts.failureResponse failure)⟩ true=.ok reply) ∨
    ∃ latest reply, wire.servePayload process published peer p worker state=
        (.ok reply,⟨worker.authorization,worker.decoder,count+1⟩,next) ∧
      count+1 ≤ sessionMaxRequests ∧
      latestOf afterSampleSeq next.availability=.ok latest ∧
      wire.checks.encodeResponse
        ⟨collectorServiceProtocolVersion,requestId,.latestSnapshot latest⟩ false=.ok reply := by
  intro next
  have hextract : wire.extractRequestId p=some requestId := by
    rw [WireParts.extractRequestId,h.id]
    simp [Nat.pos_of_ne_zero hid]
  rw [WireParts.servePayload]
  simp only [hactive,hcount]
  by_cases hlimit : sessionMaxRequests < satAdd count 1
  · left
    exact ⟨_,_,.inl (by rw [if_pos hlimit])⟩
  · have hle : count+1 ≤ sessionMaxRequests := by
      simp only [satAdd,u64Max,sessionMaxRequests] at hlimit ⊢
      omega
    have hsum : satAdd count 1=count+1 := by
      simp only [satAdd,u64Max,sessionMaxRequests] at hlimit ⊢
      omega
    simp only [if_neg hlimit,handlePayload_answers h hid hafter hclient]
    cases hlatest : latestOf afterSampleSeq next.availability with
    | error failure =>
      simp only [Except.bind,hextract,WireParts.failureReply,if_neg hid]
      cases hreply : wire.checks.encodeResponse ⟨collectorServiceProtocolVersion,requestId,
          .error (WireParts.failureResponse failure)⟩ true with
      | error _ => exact .inl ⟨_,_,.inr rfl⟩
      | ok reply => exact .inr (.inl ⟨failure,reply,_,rfl,rfl,hreply⟩)
    | ok latest =>
      simp only [Except.bind]
      cases hframed : wire.checks.encodeResponse
          ⟨collectorServiceProtocolVersion,requestId,.latestSnapshot latest⟩ false with
      | ok reply => exact .inr (.inr ⟨latest,reply,by rw [hsum],hle,rfl,hframed⟩)
      | error failure =>
        simp only [hextract,WireParts.failureReply,if_neg hid]
        cases hreply : wire.checks.encodeResponse ⟨collectorServiceProtocolVersion,requestId,
            .error (WireParts.failureResponse failure)⟩ true with
        | error _ => exact .inl ⟨_,_,.inr rfl⟩
        | ok reply => exact .inr (.inl ⟨failure,reply,_,rfl,rfl,hreply⟩)

end Answers

/-- The request that opens a session. -/
def Deployment.hello {σ μ : Type} (d : Deployment σ μ) : ClientRequestV1 :=
  ⟨collectorServiceProtocolVersion,1,.negotiate ⟨collectorServiceProtocolVersion,
    collectorServiceProtocolVersion,d.desktopRelease⟩⟩

/-- Both ends are of one release, the processes of the service differ, and serde keeps what it
writes: requests and greetings fit a frame, and a response is read as it was written. -/
structure Deployed {σ μ : Type} (d : Deployment σ μ) : Prop where
  identity : ∀ n, validateServiceIdentity (d.process n).identity=.ok ()
  release : ∀ n, (d.process n).identity.release=d.desktopRelease
  peerRelease : ∀ n, (d.servicePeer n).executableRelease=d.desktopRelease
  peers : Function.Injective d.servicePeer
  client : d.desktopPeer.authorization=.collectorClient
  clientRelease : d.desktopPeer.executableRelease=d.desktopRelease
  hello : ∃ p, d.wire.requestToVec d.hello=some p ∧ d.wire.Holds d.hello p
  request : ∀ requestId afterSampleSeq, requestId ≤ sessionMaxRequests+1 →
    (∀ after, afterSampleSeq=some after → after < u64Max) →
    ∃ p, d.wire.requestToVec
        ⟨collectorServiceProtocolVersion,requestId,.latestSnapshot afterSampleSeq⟩=some p ∧
      d.wire.Holds ⟨collectorServiceProtocolVersion,requestId,.latestSnapshot afterSampleSeq⟩ p
  greeting : ∀ n, ∃ reply, d.wire.checks.encodeResponse ⟨collectorServiceProtocolVersion,1,
    .negotiated ⟨collectorServiceProtocolVersion,(d.process n).identity⟩⟩ false=.ok reply
  response : ∀ response p, d.wire.responseToVec response=some p →
    d.wire.checks.validateResponse response=.ok () → d.wire.responseFromSlice p=some response

section Reading
variable {σ μ : Type} {d : Deployment σ μ} {p : List UInt8} {decoder : FrameDecoder}
open Link

/-- A reply that the desktop reads as this response. -/
def Replies (d : Deployment σ μ) (reply : SessionReply) (response : ServiceResponseV1 μ) : Prop :=
  ∃ p, Payload p ∧ reply.frame=frame p ∧ decodeResponse d p=.ok response

theorem encodePayload_ok {bytes : List UInt8} (h : encodePayload p=.ok bytes) :
    Payload p ∧ bytes=frame p := by
  rw [encodePayload] at h
  split at h
  · cases h
  · next hnonempty =>
    split at h
    · cases h
    · next hfits =>
      split at h
      · cases h
      · cases h
        exact ⟨⟨List.length_pos_iff.2 (by simpa using hnonempty),Nat.not_lt.1 hfits⟩,rfl⟩

theorem replies_of_encoded (hd : Deployed d) {response : ServiceResponseV1 μ} {close : Bool}
    {reply : SessionReply} (h : d.wire.checks.encodeResponse response close=.ok reply) :
    Replies d reply response ∧ reply.close=close := by
  rw [SessionParts.encodeResponse,unit_bind_ok] at h
  obtain ⟨hvalid,h⟩ := h
  rw [bind_ok] at h
  obtain ⟨bytes,hencoded,h⟩ := h
  cases h
  rw [encodeJsonFrame] at hencoded
  cases hwritten : d.wire.checks.toVec response with
  | none =>
    rw [hwritten] at hencoded
    cases hencoded
  | some p =>
    rw [hwritten] at hencoded
    obtain ⟨hp,rfl⟩ := encodePayload_ok hencoded
    refine ⟨⟨p,hp,rfl,?_⟩,rfl⟩
    have hnonempty : p.isEmpty=false := by simpa using List.ne_nil_of_length_pos hp.1
    rw [decodeResponse,if_neg (by simp [hnonempty]),if_neg (Nat.not_lt.2 hp.2),
      hd.response response p hwritten hvalid]
    simp only [hvalid]
    rfl

theorem readResponse_silent {reads : List (List UInt8)} (h : reads.flatten=[]) :
    readResponse d reads decoder=(none,decoder,[]) := by
  induction reads with
  | nil => rfl
  | cons bytes reads ih =>
    obtain ⟨rfl,hrest⟩ := List.append_eq_nil_iff.mp (List.flatten_cons ▸ h)
    rw [readResponse,push_nil]
    exact ih hrest

/-- Reads of a part of a frame: there is no response before it is whole. -/
theorem readResponse_within {reads : List (List UInt8)} {more : List UInt8} (hp : Payload p)
    (hwf : decoder.Wf) (h : decoder.raw++reads.flatten++more=frame p) :
    (∃ decoder', readResponse d reads decoder=(none,decoder',[])) ∨
    ∃ decoder' : FrameDecoder, ∃ rest, decoder'.AtRest ∧ rest.flatten=[] ∧ more=[] ∧
      readResponse d reads decoder=(some ((decodeResponse d p).mapError (fun failure =>
        .new .incompatible failure.detail)),decoder',rest) := by
  induction reads generalizing decoder with
  | nil => exact .inl ⟨decoder,rfl⟩
  | cons bytes reads ih =>
    rw [List.flatten_cons,← List.append_assoc,List.append_assoc _ _ more] at h
    rw [readResponse]
    obtain ⟨decoder',hpush,hwf',hheld⟩ | ⟨decoder',hpush,hrest,hmore⟩ := push_within hwf hp h
    · rw [hpush]
      rw [← List.append_assoc] at hheld
      exact ih hwf' hheld
    · right
      obtain ⟨hsilent,hmore⟩ := List.append_eq_nil_iff.mp hmore
      have hempty : decoder'.bufferedBytes=0 := by
        rw [← raw_length hrest.wf,hrest.raw]
        rfl
      refine ⟨decoder',reads,hrest,hsilent,hmore,?_⟩
      rw [hpush]
      simp [hempty]

/-- The failures by which a connection is lost. -/
inductive Lost (now : Weather σ) : ClientFailure → Prop where
  | disconnected : Lost now disconnected
  | silent : Lost now readTimeout
  | request {lost : Nat × String} (h : now.lostRequest=some lost) : Lost now (.new .failed lost.2)
  | reply {lost : Nat × String} (h : now.lostReply=some lost) : Lost now (.new .failed lost.2)

theorem Lost.kind {now : Weather σ} {failure : ClientFailure} (h : Lost now failure) :
    failure.kind=.failed := by cases h <;> rfl

theorem lost_unanswered (now : Weather σ) (isOpen : Bool) :
    Lost now (if isOpen=true then readTimeout else disconnected) := by
  cases isOpen
  · exact .disconnected
  · exact .silent

/-- The desktop reads the reply, or the connection is lost. -/
theorem receive_reply (now : Weather σ) {c : Connection} {response : ServiceResponseV1 μ}
    {reply : SessionReply} (hreply : Replies d reply response) (hunread : c.unread=reply.frame)
    (hrest : c.decoder.AtRest) :
    (∃ failure c', receive d now c=(.error failure,c') ∧ Lost now failure ∧
      c'.process=c.process) ∨
    ∃ decoder : FrameDecoder, decoder.AtRest ∧
      receive d now c=(.ok response,{ c with decoder := decoder, unread := [] }) := by
  obtain ⟨p,hp,hframe,hdecoded⟩ := hreply
  rw [receive]
  generalize harriving : now.lostReply.elim c.unread (fun lost => c.unread.take lost.1)=arriving
  have hfront : arriving++c.unread.drop arriving.length=c.unread := by
    rw [← harriving]
    cases now.lostReply with
    | none => simp
    | some lost =>
      simp only [Option.elim,List.length_take]
      rw [← List.drop_eq_drop_min,List.take_append_drop]
  have hwhole : c.decoder.raw++(cut now.replyCuts arriving).flatten++
      c.unread.drop arriving.length=frame p := by
    rw [hrest.raw,cut_flatten,List.nil_append,hfront,hunread,hframe]
  obtain ⟨decoder,hnone⟩ | ⟨decoder,rest,hdecoder,hsilent,hmore,hread⟩ :=
    readResponse_within (d := d) hp hrest.wf hwhole
  · left
    simp only [hnone]
    cases hlost : now.lostReply with
    | some lost => exact ⟨_,_,rfl,.reply hlost,rfl⟩
    | none => exact ⟨_,_,rfl,lost_unanswered now c.isOpen,rfl⟩
  · right
    refine ⟨decoder,hdecoder,?_⟩
    simp only [hread,hdecoded,Except.mapError,hsilent,hmore,List.append_nil]

/-- Without a reply the connection is lost. -/
theorem receive_silence (now : Weather σ) {c : Connection} (hunread : c.unread=[]) :
    ∃ failure c', receive d now c=(.error failure,c') ∧ Lost now failure ∧
      c'.process=c.process := by
  rw [receive]
  have harriving : now.lostReply.elim c.unread (fun lost => c.unread.take lost.1)=[] := by
    cases now.lostReply <;> simp [hunread]
  rw [harriving]
  simp only [readResponse_silent (cut_flatten now.replyCuts [])]
  cases hlost : now.lostReply with
  | some lost => exact ⟨_,_,rfl,.reply hlost,rfl⟩
  | none => exact ⟨_,_,rfl,lost_unanswered now c.isOpen,rfl⟩

end Reading

section Invariant
variable {σ μ : Type} {d : Deployment σ μ} {link : Link σ μ}

/-- What the service has to offer of what was published last. -/
def Link.current (d : Deployment σ μ) (link : Link σ μ) : SnapshotAvailability μ :=
  link.published.elim .pending (d.wire.availability (d.process link.running))

/-- What holds between any two happenings: the service looked at nothing newer than what was
published, and only connections of the process that runs are open. -/
structure Link.Wf (d : Deployment σ μ) (link : Link σ μ) : Prop where
  numbered : ∀ publication, link.published=some publication →
    0 < publication.revision ∧ (link.running,publication)∈link.history
  counted : link.revision ≤ link.history.length
  observed : link.state.observedPublicationRevision ≤ link.revision
  available : link.state.observedPublicationRevision=link.revision →
    link.state.availability=link.current d
  running : ∀ c∈link.connections, c.isOpen=true → c.process=link.running

/-- A look at what was published shows the last of it. -/
theorem refreshState_current (hwf : link.Wf d) :
    d.wire.refreshState (d.process link.running) link.published link.state=
      ⟨link.revision,link.current d⟩ := by
  have hstate : link.state.observedPublicationRevision=link.revision →
      link.state=⟨link.revision,link.current d⟩ := by
    intro h
    have havailable := hwf.available h
    cases hs : link.state with
    | mk observed availability =>
      rw [hs] at h havailable
      rw [← h,← havailable]
  cases hpublished : link.published with
  | none =>
    have hzero : link.revision=0 := by rw [Link.revision,hpublished]; rfl
    have hobserved := hwf.observed
    exact hstate (by omega)
  | some publication =>
    have hrevision : link.revision=publication.revision := by rw [Link.revision,hpublished]; rfl
    rw [WireParts.refreshState]
    split
    · next hle =>
      have hobserved := hwf.observed
      exact hstate (by omega)
    · rw [hrevision,Link.current,hpublished]
      rfl

/-- One connection and what the service looked at may have changed. -/
structure Touched (d : Deployment σ μ) (handle : Nat) (link link' : Link σ μ) : Prop where
  eq : ∃ state c', link'={ link with
      state := state, connections := link.connections.set handle c' } ∧
    (state=link.state ∨ state=⟨link.revision,link.current d⟩) ∧
    ∀ c, link.connections[handle]?=some c → c'.process=c.process

theorem Touched.wf {handle : Nat} {link' : Link σ μ} {c : Connection}
    (h : Touched d handle link link') (hwf : link.Wf d)
    (hc : link.connections[handle]?=some c) (hopen : c.isOpen=true) : link'.Wf d := by
  obtain ⟨state,c',rfl,hstate,hprocess⟩ := h.eq
  refine ⟨hwf.numbered,hwf.counted,?_,?_,?_⟩
  · obtain rfl | rfl := hstate
    · exact hwf.observed
    · exact Nat.le_refl _
  · obtain rfl | rfl := hstate
    · exact hwf.available
    · exact fun _ => rfl
  · intro other hmem hother
    obtain hmem | rfl := List.mem_or_eq_of_mem_set hmem
    · exact hwf.running other hmem hother
    · rw [hprocess c hc]
      exact hwf.running c (List.mem_of_getElem? hc) hopen

theorem Touched.of_set {handle : Nat} {c c' : Connection} {state : SnapshotState μ}
    (hc : link.connections[handle]?=some c) (hprocess : c'.process=c.process)
    (hstate : state=link.state ∨ state=⟨link.revision,link.current d⟩) :
    Touched d handle link { link with
      state := state, connections := link.connections.set handle c' } := by
  refine ⟨state,c',rfl,hstate,fun other hother => ?_⟩
  rw [hc] at hother
  cases hother
  exact hprocess

/-- A connection at rest after so many requests. -/
structure Clean (d : Deployment σ μ) (count : Nat) (c : Connection) : Prop where
  authorization : c.worker.authorization=⟨.active d.desktopPeer.binding⟩
  requestCount : c.worker.requestCount=count
  worker : c.worker.decoder.AtRest
  unread : c.unread=[]
  decoder : c.decoder.AtRest

end Invariant

section Exchanges
variable {σ μ : Type} {d : Deployment σ μ} {link : Link σ μ} {now : Weather σ} {handle : Nat}
  {c : Connection} {request : ClientRequestV1} {p : List UInt8}
open Link

theorem encodeJsonFrame_holds (hwritten : d.wire.requestToVec request=some p)
    (hp : d.wire.Holds request p) :
    encodeJsonFrame d.wire.requestToVec request=.ok (frame p) := by
  rw [encodeJsonFrame,hwritten]
  exact encodePayload_frame hp.payload

variable (link now handle) in
/-- An exchange on a connection at rest: the request is served once and whole and the desktop
reads what was written, or the connection is lost. -/
theorem exchangeOn_cases (hwritten : d.wire.requestToVec request=some p)
    (hp : d.wire.Holds request p) (hworker : c.worker.decoder.AtRest) (hunread : c.unread=[]) :
    (∃ failure c' state, exchangeOn d now handle c request link=(.error failure,
        { link with state := state, connections := link.connections.set handle c' }) ∧
      Lost now failure ∧ c'.process=c.process ∧ (state=link.state ∨ ∃ decoder,
        state=(d.wire.servePayload (d.process link.running) link.published d.desktopPeer p
          { c.worker with decoder := decoder } link.state).2.2)) ∨
    ∃ decoder : FrameDecoder, ∃ reply worker state, decoder.AtRest ∧
      d.wire.servePayload (d.process link.running) link.published d.desktopPeer p
        { c.worker with decoder := decoder } link.state=(.ok reply,worker,state) ∧
      exchangeOn d now handle c request link=
        ((receive d now { c with
            worker := worker, unread := reply.frame, isOpen := !reply.close }).1,
          { link with
            state := state
            connections := link.connections.set handle (receive d now { c with
              worker := worker, unread := reply.frame, isOpen := !reply.close }).2 }) := by
  rw [exchangeOn,encodeJsonFrame_holds hwritten hp]
  generalize hsent : now.lostRequest.elim (frame p) (fun lost => (frame p).take lost.1)=sent
  have hwhole : c.worker.decoder.raw++(cut now.requestCuts sent).flatten++
      (frame p).drop sent.length=frame p := by
    rw [hworker.raw,cut_flatten,List.nil_append,← hsent]
    cases now.lostRequest with
    | none => simp
    | some lost =>
      simp only [Option.elim,List.length_take]
      rw [← List.drop_eq_drop_min,List.take_append_drop]
  have hserved := serveReads_within d.wire (d.process link.running) link.published d.desktopPeer
    link.state hp.payload hworker.wf hwhole
  dsimp only
  rw [hsent]
  cases hlost : now.lostRequest with
  | some lost =>
    left
    refine ⟨_,_,_,rfl,.request hlost,rfl,?_⟩
    obtain ⟨decoder,hserved⟩ | ⟨decoder,_,_,hserved⟩ := hserved
    · exact .inl (by rw [hserved])
    · refine .inr ⟨decoder,?_⟩
      rw [hserved]
      generalize d.wire.servePayload (d.process link.running) link.published d.desktopPeer p
        { c.worker with decoder := decoder } link.state=answer
      obtain ⟨result,worker,state⟩ := answer
      cases result <;> rfl
  | none =>
    obtain ⟨decoder,hserved⟩ | ⟨decoder,hrest,_,hserved⟩ := hserved
    · left
      rw [hserved]
      dsimp only
      obtain ⟨failure,c',hreceived,hkind,hprocess⟩ := receive_silence (d := d) now
        (c := { c with
          worker := { c.worker with decoder := decoder }
          unread := c.unread++[], isOpen := true }) (by simp [hunread])
      rw [hreceived]
      exact ⟨failure,c',link.state,rfl,hkind,hprocess,.inl rfl⟩
    · rw [hserved]
      generalize hone : d.wire.servePayload (d.process link.running) link.published d.desktopPeer p
        { c.worker with decoder := decoder } link.state=answer
      obtain ⟨result,worker,state⟩ := answer
      cases result with
      | error error =>
        left
        dsimp only [servedOne]
        obtain ⟨failure,c',hreceived,hkind,hprocess⟩ := receive_silence (d := d) now
          (c := { c with worker := worker, unread := c.unread++[], isOpen := false })
          (by simp [hunread])
        rw [hreceived]
        exact ⟨failure,c',state,rfl,hkind,hprocess,.inr ⟨decoder,by rw [hone]⟩⟩
      | ok reply =>
        right
        refine ⟨decoder,reply,worker,state,hrest,hone,?_⟩
        dsimp only [servedOne]
        rw [hunread,List.nil_append]

variable (link now handle) in
/-- The same with the reply read: the desktop has the response that was framed, or the connection
is lost. -/
theorem exchangeOn_replies (hwritten : d.wire.requestToVec request=some p)
    (hp : d.wire.Holds request p) (hworker : c.worker.decoder.AtRest) (hunread : c.unread=[])
    (hdecoder : c.decoder.AtRest) (hreplies : ∀ decoder reply worker state,
      d.wire.servePayload (d.process link.running) link.published d.desktopPeer p
        { c.worker with decoder := decoder } link.state=(.ok reply,worker,state) →
      ∃ response, Replies d reply response) :
    (∃ failure c' state, exchangeOn d now handle c request link=(.error failure,
        { link with state := state, connections := link.connections.set handle c' }) ∧
      Lost now failure ∧ c'.process=c.process ∧ (state=link.state ∨ ∃ decoder,
        state=(d.wire.servePayload (d.process link.running) link.published d.desktopPeer p
          { c.worker with decoder := decoder } link.state).2.2)) ∨
    ∃ decoder decoder' : FrameDecoder, ∃ reply worker state response,
      decoder.AtRest ∧ decoder'.AtRest ∧
      d.wire.servePayload (d.process link.running) link.published d.desktopPeer p
        { c.worker with decoder := decoder } link.state=(.ok reply,worker,state) ∧
      Replies d reply response ∧
      exchangeOn d now handle c request link=(.ok response,{ link with
        state := state
        connections := link.connections.set handle { c with
          worker := worker, unread := [], decoder := decoder', isOpen := !reply.close } }) := by
  obtain hlost | ⟨decoder,reply,worker,state,hrest,hanswer,hresult⟩ := exchangeOn_cases
    link now handle hwritten hp hworker hunread
  · exact .inl hlost
  · obtain ⟨response,hread⟩ := hreplies decoder reply worker state hanswer
    obtain ⟨failure,c',hreceived,hkind,hprocess⟩ | ⟨decoder',hrest',hreceived⟩ :=
      receive_reply now (c := { c with
        worker := worker, unread := reply.frame, isOpen := !reply.close }) hread rfl hdecoder
    · refine .inl ⟨failure,c',state,?_,hkind,hprocess,.inr ⟨decoder,?_⟩⟩
      · rw [hresult,hreceived]
      · rw [hanswer]
    · refine .inr ⟨decoder,decoder',reply,worker,state,response,hrest,hrest',hanswer,hread,?_⟩
      rw [hresult,hreceived]

theorem Replies.unique {reply : SessionReply} {response response' : ServiceResponseV1 μ}
    (h : Replies d reply response) (h' : Replies d reply response') : response=response' := by
  obtain ⟨p,hp,hframe,hdecoded⟩ := h
  obtain ⟨p',hp',hframe',hdecoded'⟩ := h'
  have hsame : p=p' := (frame_append_inj (s := []) (t := []) hp hp' (by rw [← hframe,hframe'])).1
  subst hsame
  rw [hdecoded] at hdecoded'
  cases hdecoded'
  rfl

theorem hello_valid (hd : Deployed d) : validateRequest d.hello=.ok () := by
  have hidentity := hd.identity 0
  rw [validateServiceIdentity] at hidentity
  split at hidentity
  · cases hidentity
  · simp only [unit_bind_ok] at hidentity
    obtain ⟨_,_,_,hrelease,_⟩ := hidentity
    rw [hd.release 0] at hrelease
    exact hrelease

variable (now) in
/-- A fresh connection is greeted, or lost. -/
theorem exchangeOn_greets (hd : Deployed d) (hc : link.connections[handle]?=some c)
    (hfresh : c={ process := c.process }) :
    ∃ result link', exchangeOn d now handle c d.hello link=(result,link') ∧
      Touched d handle link link' ∧
      ((∃ failure, result=.error failure ∧ Lost now failure) ∨
        result=.ok ⟨collectorServiceProtocolVersion,1,
            .negotiated ⟨collectorServiceProtocolVersion,(d.process link.running).identity⟩⟩ ∧
          ∃ c', link'.connections[handle]?=some c' ∧ Clean d 1 c') := by
  obtain ⟨p,hwritten,hp⟩ := hd.hello
  obtain ⟨reply,hgreeting⟩ := hd.greeting link.running
  obtain ⟨hreplies,hclose⟩ := replies_of_encoded hd hgreeting
  have hworker : c.worker={} := by rw [hfresh]
  have hunread : c.unread=[] := by rw [hfresh]
  have hdecoder : c.decoder={} := by rw [hfresh]
  have hserved (decoder : FrameDecoder) : d.wire.servePayload (d.process link.running)
      link.published d.desktopPeer p { c.worker with decoder := decoder } link.state=
        (.ok reply,⟨⟨.active d.desktopPeer.binding⟩,decoder,1⟩,link.state) := by
    rw [hworker]
    exact servePayload_greets hp (hello_valid hd) rfl hd.client hd.clientRelease.symm rfl hgreeting
  obtain ⟨failure,c',state,hresult,hkind,hprocess,hstate⟩ |
      ⟨decoder,decoder',reply',worker,state,response,hrest,hrest',hanswer,hread,hresult⟩ :=
    exchangeOn_replies link now handle hwritten hp
      (by rw [hworker]; exact atRest_default) hunread (by rw [hdecoder]; exact atRest_default) (by
        intro decoder reply' worker state hanswer
        rw [hserved decoder] at hanswer
        cases hanswer
        exact ⟨_,hreplies⟩)
  · refine ⟨_,_,hresult,.of_set hc hprocess (.inl ?_),.inl ⟨failure,rfl,hkind⟩⟩
    obtain rfl | ⟨decoder,rfl⟩ := hstate
    · rfl
    · rw [hserved decoder]
  · rw [hserved decoder] at hanswer
    cases hanswer
    obtain rfl := hread.unique hreplies
    refine ⟨_,_,hresult,.of_set hc rfl (.inl rfl),.inr ⟨rfl,_,
      List.getElem?_set_self (List.getElem?_eq_some_iff.1 hc).1,rfl,rfl,hrest,rfl,hrest'⟩⟩

variable (now) in
/-- A connection at rest is answered from what was published last, refused, or lost. -/
theorem exchangeOn_asks (hd : Deployed d) (hwf : link.Wf d)
    (hc : link.connections[handle]?=some c) {count : Nat} (hclean : Clean d count c)
    {requestId : Nat} {afterSampleSeq : Option Nat} (hid : requestId≠0)
    (hle : requestId ≤ sessionMaxRequests+1)
    (hafter : ∀ after, afterSampleSeq=some after → after < u64Max) :
    ∃ result link', exchangeOn d now handle c
        ⟨collectorServiceProtocolVersion,requestId,.latestSnapshot afterSampleSeq⟩ link=
          (result,link') ∧ Touched d handle link link' ∧
      ((∃ failure, result=.error failure ∧ Lost now failure) ∨
        (∃ failure, result=.ok ⟨collectorServiceProtocolVersion,requestId,
            .error (WireParts.failureResponse failure)⟩ ∧
          (latestOf afterSampleSeq (link.current d)).bind (fun latest =>
            d.wire.checks.encodeResponse ⟨collectorServiceProtocolVersion,requestId,
              .latestSnapshot latest⟩ false)=.error failure) ∨
        ∃ latest, result=.ok ⟨collectorServiceProtocolVersion,requestId,.latestSnapshot latest⟩ ∧
          latestOf afterSampleSeq (link.current d)=.ok latest ∧
          count+1 ≤ sessionMaxRequests ∧
          ∃ c', link'.connections[handle]?=some c' ∧ Clean d (count+1) c') := by
  obtain ⟨p,hwritten,hp⟩ := hd.request requestId afterSampleSeq hle hafter
  have hlast : afterSampleSeq≠some u64Max := fun h => Nat.lt_irrefl _ (hafter _ h)
  have hserved (decoder : FrameDecoder) := servePayload_answers d.wire (d.process link.running)
    link.published d.desktopPeer { c.worker with decoder := decoder } link.state hp hid hlast
    hd.client hclean.authorization hclean.requestCount
  rw [refreshState_current hwf] at hserved
  obtain ⟨failure,c',state,hresult,hkind,hprocess,hstate⟩ |
      ⟨decoder,decoder',reply,worker,state,response,hrest,hrest',hanswer,hread,hresult⟩ :=
    exchangeOn_replies link now handle hwritten hp hclean.worker
      hclean.unread hclean.decoder (by
        intro decoder reply worker state hanswer
        obtain ⟨_,_,h | h⟩ | ⟨_,_,_,h,_,hframed⟩ | ⟨_,_,h,_,_,hframed⟩ := hserved decoder <;>
          rw [hanswer] at h <;> cases h
        · exact ⟨_,(replies_of_encoded hd hframed).1⟩
        · exact ⟨_,(replies_of_encoded hd hframed).1⟩)
  · refine ⟨_,_,hresult,.of_set hc hprocess ?_,.inl ⟨failure,rfl,hkind⟩⟩
    obtain rfl | ⟨decoder,rfl⟩ := hstate
    · exact .inl rfl
    · obtain ⟨_,_,h | h⟩ | ⟨_,_,_,h,_⟩ | ⟨_,_,h,_⟩ := hserved decoder
      · exact .inl (by rw [h])
      · exact .inr (by rw [h])
      · exact .inr (by rw [h])
      · exact .inr (by rw [h])
  · obtain ⟨_,_,h | h⟩ | ⟨failure,reply',worker',h,hfailed,hframed⟩ |
        ⟨latest,reply',h,hcount,hlatest,hframed⟩ := hserved decoder <;>
      rw [hanswer] at h <;> cases h
    · obtain rfl := hread.unique (replies_of_encoded hd hframed).1
      exact ⟨_,_,hresult,.of_set hc rfl (.inr rfl),.inr (.inl ⟨failure,rfl,hfailed⟩)⟩
    · obtain ⟨hreplies,hclose⟩ := replies_of_encoded hd hframed
      obtain rfl := hread.unique hreplies
      exact ⟨_,_,hresult,.of_set hc rfl (.inr rfl),.inr (.inr ⟨latest,rfl,hlatest,hcount,_,
        List.getElem?_set_self (List.getElem?_eq_some_iff.1 hc).1,hclean.authorization,rfl,hrest,
        rfl,hrest'⟩)⟩

end Exchanges
end BatCave.CollectorService
