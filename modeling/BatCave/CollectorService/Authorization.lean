import Mathlib.Data.List.Induction
import BatCave.Lib.Word
import BatCave.CollectorService.Framing

/-! One client's session with the collector service. What it answers is bound to the peer that
it negotiated with, over every sequence of calls. JSON and the snapshots themselves are
parameters: NOT a statement about the texts of requests. -/
namespace BatCave.CollectorService
open BatCave.Lib.Text BatCave.Lib.Word

def collectorSnapshotSchemaVersion : Nat := 1

inductive VerifiedPeerAuthorization where
  | collectorClient | denied
  deriving DecidableEq, Repr

/-- What the transport verified about a client. -/
structure VerifiedPeer where
  processId : Nat
  processStartedAt : Nat
  sessionId : Nat
  principalIdentity : Vector UInt8 32
  executableFileIdentity : Vector UInt8 32
  executableRelease : ReleaseIdentityV1
  authorization : VerifiedPeerAuthorization
  deriving DecidableEq, Repr

structure PeerBinding where
  processId : Nat
  processStartedAt : Nat
  sessionId : Nat
  principalIdentity : Vector UInt8 32
  executableFileIdentity : Vector UInt8 32
  executableRelease : ReleaseIdentityV1
  deriving DecidableEq, Repr

/-- `impl From<&VerifiedPeer> for PeerBinding` -/
def VerifiedPeer.binding (peer : VerifiedPeer) : PeerBinding where
  processId := peer.processId
  processStartedAt := peer.processStartedAt
  sessionId := peer.sessionId
  principalIdentity := peer.principalIdentity
  executableFileIdentity := peer.executableFileIdentity
  executableRelease := peer.executableRelease

inductive AuthorizationState where
  | awaitingNegotiation
  | active (binding : PeerBinding)
  | disconnected
  deriving DecidableEq, Repr

inductive AuthorizedOperationV1 where
  | negotiated (requestId protocolVersion : Nat)
  | serviceIdentity (requestId : Nat)
  | latestSnapshot (requestId : Nat) (afterSampleSeq : Option Nat)
  | ping (requestId nonce : Nat)
  | disconnect (requestId : Nat)
  deriving DecidableEq, Repr

structure AuthorizationSession where
  state : AuthorizationState := .awaitingNegotiation
  deriving DecidableEq, Repr

def validateRequest (request : ClientRequestV1) : Except ContractFailure Unit :=
  if request.requestId=0 then .error (malformed "collector_service_request_id_zero")
  else
    match request.operation with
    | .negotiate hello =>
      if hello.minimumProtocolVersion=0 ∨
          hello.minimumProtocolVersion>hello.maximumProtocolVersion then
        .error (malformed "collector_service_protocol_range_invalid")
      else if request.protocolVersion < hello.minimumProtocolVersion ∨
          request.protocolVersion>hello.maximumProtocolVersion then
        .error (malformed "collector_service_writer_version_outside_range")
      else validateReleaseIdentity hello.desktopRelease
    | operation =>
      if request.protocolVersion≠collectorServiceProtocolVersion then
        .error (incompatible "collector_service_protocol_incompatible")
      else
        match operation with
        | .latestSnapshot afterSampleSeq =>
          if afterSampleSeq=some u64Max then
            .error (malformed "collector_service_sample_sequence_exhausted")
          else .ok ()
        | _ => .ok ()

def negotiateProtocol (hello : NegotiateRequestV1) : Except ContractFailure Nat :=
  if hello.minimumProtocolVersion ≤ collectorServiceProtocolVersion ∧
      collectorServiceProtocolVersion ≤ hello.maximumProtocolVersion then
    .ok collectorServiceProtocolVersion
  else .error (incompatible "collector_service_protocol_incompatible")

namespace AuthorizationSession

/-- The `match` of `authorize`, for a peer that may be a client. -/
def authorizeClient (s : AuthorizationSession) (peer : VerifiedPeer) (request : ClientRequestV1) :
    Except ContractFailure AuthorizedOperationV1 × AuthorizationSession :=
  match s.state,request.operation with
  | .awaitingNegotiation,.negotiate hello =>
    if hello.desktopRelease≠peer.executableRelease then
      (.error (unauthorized "collector_service_claimed_release_not_transport_verified"),s)
    else
      match negotiateProtocol hello with
      | .error failure => (.error failure,s)
      | .ok protocolVersion =>
        (.ok (.negotiated request.requestId protocolVersion),⟨.active peer.binding⟩)
  | .awaitingNegotiation,_ => (.error (incompatible "collector_service_negotiation_required"),s)
  | .active _,.negotiate _ => (.error (malformed "collector_service_already_negotiated"),s)
  | .active binding,operation =>
    if binding≠peer.binding then
      (.error (unauthorized "collector_service_peer_binding_changed"),s)
    else
      match operation with
      | .serviceIdentity => (.ok (.serviceIdentity request.requestId),s)
      | .latestSnapshot afterSampleSeq =>
        (.ok (.latestSnapshot request.requestId afterSampleSeq),s)
      | .ping nonce => (.ok (.ping request.requestId nonce),s)
      | .disconnect => (.ok (.disconnect request.requestId),⟨.disconnected⟩)
      -- unreachable: an active session refuses to negotiate above
      | .negotiate _ => (.error (malformed "collector_service_already_negotiated"),s)
  | .disconnected,_ => (.error (unauthorized "collector_service_session_disconnected"),s)

def authorize (s : AuthorizationSession) (peer : Option VerifiedPeer) (request : ClientRequestV1) :
    Except ContractFailure AuthorizedOperationV1 × AuthorizationSession :=
  match validateRequest request with
  | .error failure => (.error failure,s)
  | .ok _ =>
    match peer with
    | none => (.error (unauthorized "collector_service_peer_unverified"),s)
    | some peer =>
      if peer.authorization≠.collectorClient then
        (.error (unauthorized "collector_service_peer_unauthorized"),s)
      else s.authorizeClient peer request

end AuthorizationSession

/-- The operations that an active session serves without leaving that state. -/
def AuthorizedOperationV1.isServed : AuthorizedOperationV1 → Bool
  | .serviceIdentity _ | .latestSnapshot _ _ | .ping _ _ => true
  | .negotiated _ _ | .disconnect _ => false

/-- All that an authorization can do: its answer and the session after it. -/
inductive Authorized (s : AuthorizationSession) (peer : Option VerifiedPeer)
    (request : ClientRequestV1) :
    Except ContractFailure AuthorizedOperationV1 × AuthorizationSession → Prop where
  | refused (failure : ContractFailure) : Authorized s peer request (.error failure,s)
  | negotiated {client : VerifiedPeer} {hello : NegotiateRequestV1} (version : Nat)
    (hstate : s.state=.awaitingNegotiation) (hpeer : peer=some client)
    (hclient : client.authorization=.collectorClient)
    (hrequest : request.operation=.negotiate hello)
    (hrelease : hello.desktopRelease=client.executableRelease)
    (hversion : version=collectorServiceProtocolVersion) (hid : request.requestId≠0) :
    Authorized s peer request
      (.ok (.negotiated request.requestId version),⟨.active client.binding⟩)
  | served {client : VerifiedPeer} (operation : AuthorizedOperationV1)
    (hstate : s.state=.active client.binding) (hpeer : peer=some client)
    (hclient : client.authorization=.collectorClient) (hserved : operation.isServed=true) :
    Authorized s peer request (.ok operation,s)
  | disconnected {client : VerifiedPeer} (hstate : s.state=.active client.binding)
    (hpeer : peer=some client) (hclient : client.authorization=.collectorClient) :
    Authorized s peer request (.ok (.disconnect request.requestId),⟨.disconnected⟩)

section Authorization
variable {s : AuthorizationSession} {request : ClientRequestV1}

theorem negotiateProtocol_ok {hello : NegotiateRequestV1} {version : Nat}
    (h : negotiateProtocol hello=.ok version) : version=collectorServiceProtocolVersion := by
  rw [negotiateProtocol] at h
  split at h
  · cases h
    rfl
  · cases h

theorem validateRequest_id (h : validateRequest request=.ok ()) : request.requestId≠0 := by
  intro hid
  rw [validateRequest,if_pos hid] at h
  cases h

theorem authorizeClient_cases {client : VerifiedPeer} (hid : request.requestId≠0)
    (hclient : client.authorization=.collectorClient) :
    Authorized s (some client) request (s.authorizeClient client request) := by
  rw [AuthorizationSession.authorizeClient]
  split
  · next hello hstate hrequest =>
    split
    · exact .refused _
    · next hrelease =>
      split
      · exact .refused _
      · next version hversion =>
        exact .negotiated version hstate rfl hclient hrequest (Decidable.not_not.mp hrelease)
          (negotiateProtocol_ok hversion) hid
  · exact .refused _
  · exact .refused _
  · next binding hstate _ =>
    split
    · exact .refused _
    · next hbinding =>
      rw [Decidable.not_not.mp hbinding] at hstate
      split
      · exact .served _ hstate rfl hclient rfl
      · exact .served _ hstate rfl hclient rfl
      · exact .served _ hstate rfl hclient rfl
      · exact .disconnected hstate rfl hclient
      · exact .refused _
  · exact .refused _

theorem authorize_cases (s : AuthorizationSession) (peer : Option VerifiedPeer)
    (request : ClientRequestV1) : Authorized s peer request (s.authorize peer request) := by
  unfold AuthorizationSession.authorize
  split
  · exact .refused _
  · next hrequest =>
    split
    · exact .refused _
    · split
      · exact .refused _
      · next hclient =>
        exact authorizeClient_cases (validateRequest_id hrequest) (Decidable.not_not.mp hclient)

end Authorization

/-- What lies outside of the repository: serde's reader and writer. The provider of snapshots
and the check of what a snapshot measures are parameters too. -/
structure SessionParts (μ ω : Type) where
  fromSlice : List UInt8 → Option ClientRequestV1
  toVec : ServiceResponseV1 μ → Option (List UInt8)
  latest : Option Nat → ω → Except ContractFailure (LatestSnapshotV1 μ) × ω
  validateMetrics : μ → Except ContractFailure Unit

structure SessionReply where
  frame : List UInt8
  close : Bool
  deriving DecidableEq, Repr

structure ServiceSession (ω : Type) where
  identity : ServiceIdentityV1
  snapshots : ω
  authorization : AuthorizationSession

def ServiceSession.new {ω : Type} (identity : ServiceIdentityV1) (snapshots : ω) :
    ServiceSession ω := ⟨identity,snapshots,{}⟩

/-- One call of `handle_payload`. -/
structure SessionCall where
  peer : VerifiedPeer
  payload : List UInt8
  deriving DecidableEq, Repr

namespace SessionParts
variable {μ ω : Type} (parts : SessionParts μ ω)

def decodeRequest (payload : List UInt8) : Except ContractFailure ClientRequestV1 :=
  if payload.isEmpty then .error (malformed "collector_service_request_empty")
  else if payload.length>maxFrameBytes then
    .error (oversized "collector_service_request_frame_too_large")
  else
    match parts.fromSlice payload with
    | none => .error (malformed "collector_service_request_malformed")
    | some request => do
      validateRequest request
      .ok request

def validateSnapshot (snapshot : CollectorSnapshotV1 μ) : Except ContractFailure Unit :=
  if snapshot.snapshotSchemaVersion≠collectorSnapshotSchemaVersion then
    .error (incompatible "collector_service_snapshot_schema_incompatible")
  else do
    validateNonemptyString snapshot.serviceInstanceId "collector_service_snapshot_instance_id"
    if snapshot.sampleSeq=0 then .error (malformed "collector_service_sample_sequence_zero")
    else parts.validateMetrics snapshot.metrics

def validateLatestSnapshot : LatestSnapshotV1 μ → Except ContractFailure Unit
  | .snapshot snapshot => parts.validateSnapshot snapshot
  | .unchanged snapshot => do
    validateNonemptyString snapshot.serviceInstanceId "collector_service_snapshot_instance_id"
    if snapshot.sampleSeq=0 then .error (malformed "collector_service_sample_sequence_zero")
    else .ok ()

def validateResponse (response : ServiceResponseV1 μ) : Except ContractFailure Unit :=
  if response.protocolVersion≠collectorServiceProtocolVersion then
    .error (incompatible "collector_service_response_protocol_incompatible")
  else if response.requestId=0 then
    .error (malformed "collector_service_response_request_id_zero")
  else
    match response.outcome with
    | .negotiated negotiated =>
      if negotiated.negotiatedProtocolVersion≠collectorServiceProtocolVersion then
        .error (incompatible "collector_service_negotiated_version_invalid")
      else validateServiceIdentity negotiated.service
    | .serviceIdentity identity => validateServiceIdentity identity
    | .latestSnapshot latest => parts.validateLatestSnapshot latest
    | .pong _ | .disconnected => .ok ()
    | .error failure => do
      validateString failure.detail "collector_service_failure_detail"
      if trim failure.detail="" then .error (malformed "collector_service_failure_detail_empty")
      else .ok ()

def encodeResponse (response : ServiceResponseV1 μ) (close : Bool) :
    Except ContractFailure SessionReply := do
  parts.validateResponse response
  .ok ⟨← encodeJsonFrame parts.toVec response,close⟩

/-- The outcome of an operation that was authorized, and whether it ends the connection. -/
def outcome (s : ServiceSession ω) :
    AuthorizedOperationV1 → Except ContractFailure (ServiceOutcomeV1 μ × Bool) × ServiceSession ω
  | .negotiated _ protocolVersion => (.ok (.negotiated ⟨protocolVersion,s.identity⟩,false),s)
  | .serviceIdentity _ => (.ok (.serviceIdentity s.identity,false),s)
  | .latestSnapshot _ afterSampleSeq =>
    let (latest,snapshots) := parts.latest afterSampleSeq s.snapshots
    (latest.map (fun latest => (.latestSnapshot latest,false)),{s with snapshots := snapshots})
  | .ping _ nonce => (.ok (.pong nonce,false),s)
  | .disconnect _ => (.ok (.disconnected,true),s)

/-- `handle_payload` up to its encoder: the response and whether it ends the connection. -/
def respond (s : ServiceSession ω) (call : SessionCall) :
    Except ContractFailure (ServiceResponseV1 μ × Bool) × ServiceSession ω :=
  match parts.decodeRequest call.payload with
  | .error failure => (.error failure,s)
  | .ok request =>
    match s.authorization.authorize (some call.peer) request with
    | (.error failure,authorization) => (.error failure,{s with authorization := authorization})
    | (.ok operation,authorization) =>
      let (outcome,s) := parts.outcome {s with authorization := authorization} operation
      (outcome.map (fun (outcome,close) =>
        (⟨collectorServiceProtocolVersion,request.requestId,outcome⟩,close)),s)

def handlePayload (s : ServiceSession ω) (call : SessionCall) :
    Except ContractFailure SessionReply × ServiceSession ω :=
  let (answer,s) := parts.respond s call
  (answer.bind (fun (response,close) => parts.encodeResponse response close),s)

/-- The session after calls in the order they are made. -/
def after (s : ServiceSession ω) (calls : List SessionCall) : ServiceSession ω :=
  calls.foldl (fun s call => (parts.handlePayload s call).2) s

/-- The peer and the hello of a call that negotiates. -/
def negotiation (s : ServiceSession ω) (call : SessionCall) :
    Option (VerifiedPeer × NegotiateRequestV1) :=
  match parts.decodeRequest call.payload with
  | .error _ => none
  | .ok request =>
    match (s.authorization.authorize (some call.peer) request).1,request.operation with
    | .ok (.negotiated _ _),.negotiate hello => some (call.peer,hello)
    | _,_ => none

/-- What was negotiated in a run of calls, in order. -/
def negotiations (s : ServiceSession ω) : List SessionCall →
    List (VerifiedPeer × NegotiateRequestV1)
  | [] => []
  | call::calls =>
    (parts.negotiation s call).toList++negotiations (parts.handlePayload s call).2 calls

end SessionParts

/-- The outcomes that only a bound peer may see. -/
def ServiceOutcomeV1.isBound {μ : Type} : ServiceOutcomeV1 μ → Bool
  | .serviceIdentity _ | .latestSnapshot _ | .pong _ | .disconnected => true
  | .negotiated _ | .error _ => false

/-- A peer that may negotiate with this hello. -/
structure Admitted (peer : VerifiedPeer) (hello : NegotiateRequestV1) : Prop where
  client : peer.authorization=.collectorClient
  release : hello.desktopRelease=peer.executableRelease

section Session
variable {μ ω : Type} {parts : SessionParts μ ω} {s : ServiceSession ω} {call : SessionCall}

/-- All that a call can do: what it negotiates, its response and the session after it. -/
inductive Answered (s : ServiceSession ω) (call : SessionCall) :
    Option (VerifiedPeer × NegotiateRequestV1) →
      Except ContractFailure (ServiceResponseV1 μ × Bool) × ServiceSession ω → Prop where
  | failed (failure : ContractFailure) (snapshots : ω) :
    Answered s call none (.error failure,{s with snapshots := snapshots})
  | negotiated {hello : NegotiateRequestV1} {requestId : Nat}
    (hstate : s.authorization.state=.awaitingNegotiation) (hpeer : Admitted call.peer hello)
    (hid : requestId≠0) :
    Answered s call (some (call.peer,hello))
      (.ok (⟨collectorServiceProtocolVersion,requestId,
          .negotiated ⟨collectorServiceProtocolVersion,s.identity⟩⟩,false),
        {s with authorization := ⟨.active call.peer.binding⟩})
  | served (response : ServiceResponseV1 μ) (snapshots : ω)
    (hstate : s.authorization.state=.active call.peer.binding)
    (hclient : call.peer.authorization=.collectorClient)
    (hkind : response.outcome≠.disconnected) :
    Answered s call none (.ok (response,false),{s with snapshots := snapshots})
  | disconnected (requestId : Nat) (hstate : s.authorization.state=.active call.peer.binding)
    (hclient : call.peer.authorization=.collectorClient) :
    Answered s call none
      (.ok (⟨collectorServiceProtocolVersion,requestId,.disconnected⟩,true),
        {s with authorization := ⟨.disconnected⟩})

theorem answered (parts : SessionParts μ ω) (s : ServiceSession ω) (call : SessionCall) :
    Answered s call (parts.negotiation s call) (parts.respond s call) := by
  rw [SessionParts.negotiation,SessionParts.respond]
  cases parts.decodeRequest call.payload with
  | error failure => exact .failed failure s.snapshots
  | ok request =>
    have hcases := authorize_cases s.authorization (some call.peer) request
    dsimp only
    generalize s.authorization.authorize (some call.peer) request=answer at hcases ⊢
    cases hcases with
    | refused failure => exact .failed failure s.snapshots
    | negotiated version hstate hpeer hclient hrequest hrelease hversion hid =>
      cases hpeer
      subst hversion
      simp only [hrequest]
      exact .negotiated hstate ⟨hclient,hrelease⟩ hid
    | served operation hstate hpeer hclient hserved =>
      cases hpeer
      cases operation with
      | serviceIdentity id => exact .served _ s.snapshots hstate hclient (by simp)
      | ping id nonce => exact .served _ s.snapshots hstate hclient (by simp)
      | latestSnapshot id afterSampleSeq =>
        simp only [SessionParts.outcome]
        cases (parts.latest afterSampleSeq s.snapshots).1 with
        | error failure => exact .failed failure _
        | ok latest => exact .served _ _ hstate hclient (by simp)
      | negotiated id version => cases hserved
      | disconnect id => cases hserved
    | disconnected hstate hpeer hclient =>
      cases hpeer
      exact .disconnected _ hstate hclient

/-- A reply is the frame of a response that was formed. -/
theorem handlePayload_ok {reply : SessionReply} (h : (parts.handlePayload s call).1=.ok reply) :
    ∃ response close, (parts.respond s call).1=.ok (response,close) ∧
      parts.encodeResponse response close=.ok reply := by
  rw [SessionParts.handlePayload] at h
  cases hanswer : (parts.respond s call).1 with
  | error failure => simp [hanswer,Except.bind] at h
  | ok answer => exact ⟨answer.1,answer.2,rfl,by simpa [hanswer,Except.bind] using h⟩

theorem handlePayload_error {failure : ContractFailure}
    (h : (parts.respond s call).1=.error failure) :
    (parts.handlePayload s call).1=.error failure := by
  simp only [SessionParts.handlePayload,h]
  rfl

theorem respond_identity : (parts.respond s call).2.identity=s.identity := by
  have hcases := answered parts s call
  generalize parts.negotiation s call=seen at hcases
  generalize parts.respond s call=result at hcases ⊢
  cases hcases <;> rfl

/-- Only the state of a bound peer lets a response through, and nothing does after the end. -/
theorem respond_disconnected (hstate : s.authorization.state=.disconnected) :
    (∃ failure, (parts.respond s call).1=.error failure) ∧
      (parts.respond s call).2.authorization.state=.disconnected := by
  have hcases := answered parts s call
  generalize parts.negotiation s call=seen at hcases
  generalize parts.respond s call=result at hcases ⊢
  cases hcases with
  | failed failure snapshots => exact ⟨⟨failure,rfl⟩,hstate⟩
  | negotiated hother => simp [hstate] at hother
  | served response snapshots hother => simp [hstate] at hother
  | disconnected requestId hother => simp [hstate] at hother

theorem respond_ends {response : ServiceResponseV1 μ} {close : Bool}
    (h : (parts.respond s call).1=.ok (response,close))
    (hkind : response.outcome=.disconnected) :
    (parts.respond s call).2.authorization.state=.disconnected := by
  have hcases := answered parts s call
  generalize parts.negotiation s call=seen at hcases
  generalize parts.respond s call=result at h hcases ⊢
  cases hcases with
  | failed failure snapshots => cases h
  | negotiated hstate hpeer hid =>
    cases h
    cases hkind
  | served response' snapshots hstate hclient hother =>
    cases h
    exact absurd hkind hother
  | disconnected requestId hstate hclient => rfl

/-- What the state of a session remembers of the negotiations before it. -/
def Bound (negotiated : List (VerifiedPeer × NegotiateRequestV1)) : AuthorizationState → Prop
  | .awaitingNegotiation => negotiated=[]
  | .active binding => ∃ peer hello, negotiated=[(peer,hello)] ∧ Admitted peer hello ∧
    binding=peer.binding
  | .disconnected => ∃ peer hello, negotiated=[(peer,hello)] ∧ Admitted peer hello

theorem Bound.respond {negotiated : List (VerifiedPeer × NegotiateRequestV1)}
    (h : Bound negotiated s.authorization.state) :
    Bound (negotiated++(parts.negotiation s call).toList)
      (parts.respond s call).2.authorization.state := by
  have hcases := answered parts s call
  generalize parts.negotiation s call=seen at hcases ⊢
  generalize parts.respond s call=result at hcases ⊢
  cases hcases with
  | failed failure snapshots => simpa using h
  | negotiated hstate hpeer hid =>
    rw [hstate] at h
    have hnone : negotiated=[] := h
    exact ⟨_,_,by simp [hnone],hpeer,rfl⟩
  | served response snapshots hstate hclient hkind => simpa using h
  | disconnected requestId hstate hclient =>
    rw [hstate] at h
    obtain ⟨peer,hello,hone,hpeer,_⟩ := h
    exact ⟨peer,hello,by simpa using hone,hpeer⟩

theorem after_snoc (parts : SessionParts μ ω) (s : ServiceSession ω) (calls : List SessionCall)
    (call : SessionCall) :
    parts.after s (calls++[call])=(parts.respond (parts.after s calls) call).2 := by
  rw [SessionParts.after,List.foldl_append]
  rfl

theorem after_append (parts : SessionParts μ ω) (s : ServiceSession ω)
    (past since : List SessionCall) :
    parts.after s (past++since)=parts.after (parts.after s past) since := List.foldl_append

theorem negotiations_snoc (parts : SessionParts μ ω) (s : ServiceSession ω)
    (calls : List SessionCall) (call : SessionCall) :
    parts.negotiations s (calls++[call])=
      parts.negotiations s calls++(parts.negotiation (parts.after s calls) call).toList := by
  induction calls generalizing s with
  | nil => simp [SessionParts.negotiations,SessionParts.after]
  | cons first calls ih =>
    rw [List.cons_append,SessionParts.negotiations,ih,SessionParts.negotiations,List.append_assoc]
    rfl

theorem bound_after (parts : SessionParts μ ω) (identity : ServiceIdentityV1) (snapshots : ω)
    (calls : List SessionCall) :
    Bound (parts.negotiations (.new identity snapshots) calls)
      (parts.after (.new identity snapshots) calls).authorization.state := by
  induction calls using List.reverseRecOn with
  | nil => rfl
  | append_singleton calls call ih =>
    rw [negotiations_snoc,after_snoc]
    exact ih.respond

theorem after_identity (calls : List SessionCall) :
    (parts.after s calls).identity=s.identity := by
  induction calls using List.reverseRecOn with
  | nil => rfl
  | append_singleton calls call ih => rw [after_snoc,respond_identity,ih]

theorem after_disconnected (hstate : s.authorization.state=.disconnected)
    (calls : List SessionCall) :
    (parts.after s calls).authorization.state=.disconnected := by
  induction calls using List.reverseRecOn with
  | nil => exact hstate
  | append_singleton calls call ih =>
    rw [after_snoc]
    exact (respond_disconnected ih).2

theorem Bound.length_le {negotiated : List (VerifiedPeer × NegotiateRequestV1)}
    {state : AuthorizationState} (h : Bound negotiated state) : negotiated.length ≤ 1 := by
  cases state with
  | awaitingNegotiation =>
    have hnone : negotiated=[] := h
    simp [hnone]
  | active binding =>
    obtain ⟨peer,hello,hone,_⟩ := h
    simp [hone]
  | disconnected =>
    obtain ⟨peer,hello,hone,_⟩ := h
    simp [hone]

theorem respond_bound {negotiated : List (VerifiedPeer × NegotiateRequestV1)}
    {response : ServiceResponseV1 μ} {close : Bool}
    (h : Bound negotiated s.authorization.state)
    (hanswer : (parts.respond s call).1=.ok (response,close))
    (hkind : response.outcome.isBound=true) :
    ∃ peer hello, negotiated=[(peer,hello)] ∧ Admitted peer hello ∧
      call.peer.authorization=.collectorClient ∧ call.peer.binding=peer.binding := by
  have hcases := answered parts s call
  generalize parts.negotiation s call=seen at hcases
  generalize parts.respond s call=result at hanswer hcases
  cases hcases with
  | failed failure snapshots => cases hanswer
  | negotiated hstate hpeer hid =>
    cases hanswer
    cases hkind
  | served response' snapshots hstate hclient hother =>
    rw [hstate] at h
    obtain ⟨peer,hello,hone,hpeer,hbinding⟩ := h
    exact ⟨peer,hello,hone,hpeer,hclient,hbinding⟩
  | disconnected requestId hstate hclient =>
    rw [hstate] at h
    obtain ⟨peer,hello,hone,hpeer,hbinding⟩ := h
    exact ⟨peer,hello,hone,hpeer,hclient,hbinding⟩

/-- A service that can frame its own greeting answers the call that negotiates. -/
theorem handlePayload_negotiates {seen : VerifiedPeer × NegotiateRequestV1}
    (hgreets : ∀ requestId, requestId≠0 → ∃ reply, parts.encodeResponse
      ⟨collectorServiceProtocolVersion,requestId,
        .negotiated ⟨collectorServiceProtocolVersion,s.identity⟩⟩ false=.ok reply)
    (h : parts.negotiation s call=some seen) :
    ∃ reply, (parts.handlePayload s call).1=.ok reply := by
  rw [SessionParts.handlePayload]
  have hcases := answered parts s call
  rw [h] at hcases
  generalize parts.respond s call=result at hcases ⊢
  cases hcases with
  | negotiated hstate hpeer hid => exact hgreets _ hid

end Session

theorem authorize_error {s : AuthorizationSession} {peer : Option VerifiedPeer}
    {request : ClientRequestV1} {failure : ContractFailure}
    (h : (s.authorize peer request).1=.error failure) : (s.authorize peer request).2=s := by
  have hcases := authorize_cases s peer request
  generalize s.authorize peer request=answer at h hcases ⊢
  cases hcases with
  | refused failure => rfl
  | negotiated => cases h
  | served => cases h
  | disconnected => cases h

/-- After any calls, a response for a bound peer is formed for the one peer that negotiated, a
refusal leaves the state alone, and nothing succeeds behind a disconnect. -/
theorem session_bound_to_peer {μ ω : Type} (parts : SessionParts μ ω) (identity : ServiceIdentityV1)
    (snapshots : ω) (before : List SessionCall) (call : SessionCall) :
    let start := ServiceSession.new identity snapshots
    let s := parts.after start before
    let negotiated := parts.negotiations start before
    (∀ response close, (parts.respond s call).1=.ok (response,close) →
      response.outcome.isBound=true →
      ∃ peer hello, negotiated=[(peer,hello)] ∧ Admitted peer hello ∧
        call.peer.authorization=.collectorClient ∧ call.peer.binding=peer.binding) ∧
    (∀ reply, (parts.handlePayload s call).1=.ok reply → ∃ response close,
      (parts.respond s call).1=.ok (response,close) ∧
        parts.encodeResponse response close=.ok reply) ∧
    (∀ peer request failure, (s.authorization.authorize peer request).1=.error failure →
      (s.authorization.authorize peer request).2=s.authorization) ∧
    negotiated.length ≤ 1 ∧
    (∀ past since last response close, before=past++last::since →
      (parts.respond (parts.after start past) last).1=.ok (response,close) →
      response.outcome=.disconnected →
      ∃ failure, (parts.handlePayload s call).1=.error failure) ∧
    ((∀ requestId, requestId≠0 → ∃ reply, parts.encodeResponse
        ⟨collectorServiceProtocolVersion,requestId,
          .negotiated ⟨collectorServiceProtocolVersion,identity⟩⟩ false=.ok reply) →
      ∀ seen, parts.negotiation s call=some seen →
        ∃ reply, (parts.handlePayload s call).1=.ok reply) := by
  intro start s negotiated
  have hbound : Bound negotiated s.authorization.state :=
    bound_after parts identity snapshots before
  refine ⟨?_,fun reply h => handlePayload_ok h,fun peer request failure h => authorize_error h,
    hbound.length_le,?_,?_⟩
  · intro response close hanswer hkind
    exact respond_bound hbound hanswer hkind
  · intro past since last response close hbefore hanswer hkind
    have hend : s.authorization.state=.disconnected := by
      have hs : s=parts.after (parts.after start (past++[last])) since := by
        rw [← after_append,List.append_assoc,List.singleton_append,← hbefore]
      rw [hs,after_snoc]
      exact after_disconnected (respond_ends hanswer hkind) since
    have hclosed : ∃ failure, (parts.respond s call).1=.error failure :=
      (respond_disconnected hend).1
    exact hclosed.imp (fun failure hfailure => handlePayload_error hfailure)
  · intro hgreets seen hseen
    refine handlePayload_negotiates ?_ hseen
    have hidentity : s.identity=identity := after_identity before
    rw [hidentity]
    exact hgreets

/-- A desktop that negotiates and then pings, each request one byte. -/
def pingParts : SessionParts Unit Unit where
  fromSlice
    | [1] => some ⟨1,1,.negotiate ⟨1,1,⟨"0.2.0",none⟩⟩⟩
    | [2] => some ⟨1,2,.ping 5⟩
    | _ => none
  toVec := fun _ => some [0]
  latest := fun _ snapshots => (.error (incompatible "collector_service_snapshot_not_ready"),
    snapshots)
  validateMetrics := fun _ => .ok ()

def desktopPeer : VerifiedPeer where
  processId := 7
  processStartedAt := 9
  sessionId := 1
  principalIdentity := Vector.replicate 32 1
  executableFileIdentity := Vector.replicate 32 2
  executableRelease := ⟨"0.2.0",none⟩
  authorization := .collectorClient

def desktopService : ServiceIdentityV1 :=
  ⟨collectorServiceName,"0.2.0",⟨"0.2.0",none⟩,"1",1,"0.2.0",.contract⟩

theorem ping_is_bound : ∃ peer hello,
    pingParts.negotiations (.new desktopService ()) [⟨desktopPeer,[1]⟩]=[(peer,hello)] ∧
      Admitted peer hello ∧ desktopPeer.authorization=.collectorClient ∧
      desktopPeer.binding=peer.binding :=
  (session_bound_to_peer pingParts desktopService () [⟨desktopPeer,[1]⟩] ⟨desktopPeer,[2]⟩).1
    ⟨1,2,.pong 5⟩ false (by rfl) rfl

end BatCave.CollectorService
