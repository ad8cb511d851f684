import BatCave.CollectorService.Client
import Mathlib.Data.List.Pairwise

/-! What a client session keeps against a transport that answers anything: the
snapshot it holds, the service it is bound to, and the price of one call. Each
piece of a call has one specification; a run of calls only composes them. -/
namespace BatCave.CollectorService
variable {μ τ ω : Type}

namespace TransportCall

/-- The peer of a snapshot exchange. -/
def snapshotPeer? : TransportCall μ → Option VerifiedServicePeer
  | .exchange peer ⟨_,_,.latestSnapshot _⟩ _ => some peer
  | _ => none

def isReconnect : TransportCall μ → Bool
  | .reconnect => true
  | .exchange .. => false

end TransportCall

def snapshotExchanges (calls : List (TransportCall μ)) : Nat :=
  calls.countP (·.snapshotPeer?.isSome)

def reconnects (calls : List (TransportCall μ)) : Nat := calls.countP (·.isReconnect)

/-- The peer answered a snapshot exchange with this snapshot. -/
def Received (peer : VerifiedServicePeer) (snapshot : CollectorSnapshotV1 μ)
    (calls : List (TransportCall μ)) : Prop :=
  ∃ request response, .exchange peer request (.ok response)∈calls ∧
    response.outcome=.latestSnapshot (.snapshot snapshot)

theorem Received.append {peer : VerifiedServicePeer} {snapshot : CollectorSnapshotV1 μ}
    {calls : List (TransportCall μ)} (h : Received peer snapshot calls)
    (more : List (TransportCall μ)) : Received peer snapshot (calls++more) := by
  obtain ⟨request,response,hmem,hout⟩ := h
  exact ⟨request,response,List.mem_append_left _ hmem,hout⟩

/-- Calls made from a session: at most `r` reconnects and `x` snapshot exchanges,
the latter all with the peer. -/
structure Priced (r x : Nat) (peer : VerifiedServicePeer) (made : List (TransportCall μ)) :
    Prop where
  reconnects_le : reconnects made ≤ r
  exchanges_le : snapshotExchanges made ≤ x
  peer_eq : ∀ c∈made, ∀ p∈c.snapshotPeer?, p=peer

namespace Priced
variable {r r' x x' : Nat} {peer : VerifiedServicePeer} {made made' : List (TransportCall μ)}

theorem nil : Priced 0 0 peer ([] : List (TransportCall μ)) :=
  ⟨Nat.le_refl 0,Nat.le_refl 0,by simp⟩

theorem mono (h : Priced r x peer made) (hr : r ≤ r') (hx : x ≤ x') : Priced r' x' peer made :=
  ⟨h.reconnects_le.trans hr,h.exchanges_le.trans hx,h.peer_eq⟩

theorem append (h : Priced r x peer made) (h' : Priced r' x' peer made') :
    Priced (r+r') (x+x') peer (made++made') := by
  refine ⟨?_,?_,?_⟩
  · simpa [reconnects] using Nat.add_le_add h.reconnects_le h'.reconnects_le
  · simpa [snapshotExchanges] using Nat.add_le_add h.exchanges_le h'.exchanges_le
  · intro c hc
    obtain hc | hc := List.mem_append.mp hc
    · exact h.peer_eq c hc
    · exact h'.peer_eq c hc

end Priced

namespace ServiceClientSession

/-- One session follows another on the same service, for a price in calls. -/
structure Follows (r x : Nat) (s : ServiceClientSession μ τ) (w : World μ ω)
    (s' : ServiceClientSession μ τ) (w' : World μ ω) : Prop where
  instance_eq : s'.identity.instanceId=s.identity.instanceId
  peer_eq : s'.transport.verifiedPeer=s.transport.verifiedPeer
  calls_eq : ∃ made, w'.calls=w.calls++made ∧ Priced r x s.transport.verifiedPeer made

namespace Follows
variable {r r' x x' : Nat} {s s₁ s₂ : ServiceClientSession μ τ} {w w₁ w₂ : World μ ω}

theorem mono (h : Follows r x s w s₁ w₁) (hr : r ≤ r') (hx : x ≤ x') : Follows r' x' s w s₁ w₁ := by
  obtain ⟨made,hw,hp⟩ := h.calls_eq
  exact ⟨h.instance_eq,h.peer_eq,made,hw,hp.mono hr hx⟩

theorem trans (h : Follows r x s w s₁ w₁) (h' : Follows r' x' s₁ w₁ s₂ w₂) :
    Follows (r+r') (x+x') s w s₂ w₂ := by
  obtain ⟨made,hw,hp⟩ := h.calls_eq
  obtain ⟨made',hw',hp'⟩ := h'.calls_eq
  rw [h.peer_eq] at hp'
  refine ⟨h'.instance_eq.trans h.instance_eq,h'.peer_eq.trans h.peer_eq,made++made',?_,
    hp.append hp'⟩
  rw [hw',hw,List.append_assoc]

end Follows

/-- Neither the retained snapshot nor its sequence number moved. -/
structure Kept (s s' : ServiceClientSession μ τ) : Prop where
  seq_eq : s'.lastSampleSeq=s.lastSampleSeq
  snapshot_eq : s'.lastSnapshot=s.lastSnapshot

theorem Kept.trans {s s₁ s₂ : ServiceClientSession μ τ} (h : Kept s s₁) (h' : Kept s₁ s₂) :
    Kept s s₂ := ⟨h'.seq_eq.trans h.seq_eq,h'.snapshot_eq.trans h.snapshot_eq⟩

/-- A snapshot newer than the retained one took its place. -/
structure Advanced (s s' : ServiceClientSession μ τ) (calls : List (TransportCall μ))
    (snapshot : CollectorSnapshotV1 μ) : Prop where
  seq_eq : s'.lastSampleSeq=some snapshot.sampleSeq
  snapshot_eq : s'.lastSnapshot=some snapshot
  instance_eq : snapshot.serviceInstanceId=s.identity.instanceId
  newer : ∀ last∈s.lastSampleSeq, last < snapshot.sampleSeq
  received : Received s.transport.verifiedPeer snapshot calls

/-- The sample shows the snapshot, whatever the status beside it. -/
def Carries (sample : TelemetrySample μ) (snapshot : CollectorSnapshotV1 μ) : Prop :=
  ∃ status, sample=sampleFromSnapshot snapshot status

/-- What a request returns: a failure keeps the retained snapshot, a sample shows
the retained one or a newer one. -/
inductive Answers (s s' : ServiceClientSession μ τ) (calls : List (TransportCall μ)) :
    Except ClientFailure (TelemetrySample μ) → Prop where
  | failed {failure} (hk : Kept s s') : Answers s s' calls (.error failure)
  | unchanged {sample snapshot} (hk : Kept s s') (hold : s.lastSnapshot=some snapshot)
      (hc : Carries sample snapshot) : Answers s s' calls (.ok sample)
  | advanced {sample snapshot} (ha : Advanced s s' calls snapshot)
      (hc : Carries sample snapshot) : Answers s s' calls (.ok sample)

/-- A request from a session that kept what it retained answers for the earlier one. -/
theorem Answers.of_kept {r x : Nat} {s s₁ s₂ : ServiceClientSession μ τ} {w w₁ : World μ ω}
    {calls : List (TransportCall μ)} {result : Except ClientFailure (TelemetrySample μ)}
    (hf : Follows r x s w s₁ w₁) (hk : Kept s s₁) (h : Answers s₁ s₂ calls result) :
    Answers s s₂ calls result := by
  cases h with
  | failed hk' => exact .failed (hk.trans hk')
  | unchanged hk' hold hc => exact .unchanged (hk.trans hk') (hk.snapshot_eq ▸ hold) hc
  | advanced ha hc =>
    refine .advanced ⟨ha.seq_eq,ha.snapshot_eq,ha.instance_eq.trans hf.instance_eq,?_,?_⟩ hc
    · exact hk.seq_eq ▸ ha.newer
    · exact hf.peer_eq ▸ ha.received

/-- A request's result, with the session and the world it leaves. -/
structure Serves (r x : Nat) (s : ServiceClientSession μ τ) (w : World μ ω)
    (result : Except ClientFailure (TelemetrySample μ) × ServiceClientSession μ τ × World μ ω) :
    Prop where
  follows : Follows r x s w result.2.1 result.2.2
  answers : Answers s result.2.1 result.2.2.calls result.1

/-- A request served after a stretch that kept the snapshot. -/
theorem Serves.after {r r' x x' : Nat} {s s₁ : ServiceClientSession μ τ} {w w₁ : World μ ω}
    {result : Except ClientFailure (TelemetrySample μ) × ServiceClientSession μ τ × World μ ω}
    (hf : Follows r x s w s₁ w₁) (hk : Kept s s₁) (h : Serves r' x' s₁ w₁ result) :
    Serves (r+r') (x+x') s w result := ⟨hf.trans h.follows,h.answers.of_kept hf hk⟩

theorem Serves.mono {r r' x x' : Nat} {s : ServiceClientSession μ τ} {w : World μ ω}
    {result : Except ClientFailure (TelemetrySample μ) × ServiceClientSession μ τ × World μ ω}
    (h : Serves r x s w result) (hr : r ≤ r') (hx : x ≤ x') : Serves r' x' s w result :=
  ⟨h.follows.mono hr hx,h.answers⟩

variable (out : Outside μ τ ω)

theorem connect_calls (t : Transport τ) (w : World μ ω) :
    ∃ made, (connect out t w).2.calls=w.calls++made ∧ ∀ peer, Priced 0 0 peer made := by
  have hone (response : Except ClientFailure (ServiceResponseV1 μ)) (peer : VerifiedServicePeer) :
      Priced 0 0 peer [.exchange t.verifiedPeer (negotiateRequest out) response] :=
    ⟨Nat.le_refl 0,Nat.le_refl 0,by simp [negotiateRequest,TransportCall.snapshotPeer?]⟩
  simp only [connect,Outside.exchangeIn,Outside.nowIn]
  split
  · exact ⟨[],by simp,fun _ => Priced.nil⟩
  · refine ⟨_,?_,hone (out.exchange t (negotiateRequest out) w.env).1⟩
    repeat' split
    all_goals rfl

theorem connect_ok {t : Transport τ} {w w' : World μ ω} {s : ServiceClientSession μ τ}
    (h : connect out t w=(.ok s,w')) :
    s.transport=t ∧ s.lastSampleSeq=none ∧ s.lastSnapshot=none := by
  simp only [connect,Outside.exchangeIn,Outside.nowIn] at h
  repeat' split at h
  all_goals simp only [Prod.mk.injEq,reduceCtorEq,false_and,Except.ok.injEq] at h
  obtain ⟨rfl,-⟩ := h
  exact ⟨rfl,rfl,rfl⟩

theorem takeRequestId_kept {s s' : ServiceClientSession μ τ} {requestId : Nat}
    (h : s.takeRequestId=.ok (requestId,s')) : ∃ next, s'={s with nextRequestId := next} := by
  unfold takeRequestId at h
  split at h
  · cases h
  · cases h
    exact ⟨_,rfl⟩

/-- Both checks on an answer: the snapshot it delivers is retained or newer. -/
theorem acceptLatest_spec {s s' : ServiceClientSession μ τ} {latest : LatestSnapshotV1 μ}
    {snapshot : CollectorSnapshotV1 μ} (h : s.acceptLatest latest=.ok (snapshot,s')) :
    (s'=s ∧ s.lastSnapshot=some snapshot) ∨
    (latest=.snapshot snapshot ∧
      s'={s with lastSampleSeq := some snapshot.sampleSeq, lastSnapshot := some snapshot} ∧
      snapshot.serviceInstanceId=s.identity.instanceId ∧
      ∀ last∈s.lastSampleSeq, last < snapshot.sampleSeq) := by
  cases latest with
  | snapshot new =>
    simp only [acceptLatest] at h
    split at h
    · cases h
    · rename_i hbad
      cases h
      simp only [not_or,not_not] at hbad
      refine Or.inr ⟨rfl,rfl,hbad.1,?_⟩
      intro last hlast
      have hlast : s.lastSampleSeq=some last := hlast
      simpa [hlast] using hbad.2
  | unchanged unchanged =>
    simp only [acceptLatest] at h
    split at h
    · cases h
    · split at h
      · rename_i hold
        cases h
        exact Or.inl ⟨rfl,hold⟩
      · cases h

theorem responseOutcome_ok {response : ServiceResponseV1 μ} {requestId : Nat}
    {outcome : ServiceOutcomeV1 μ} (h : responseOutcome response requestId=.ok outcome) :
    response.outcome=outcome := by
  unfold responseOutcome at h
  split at h
  · cases h
  · split at h
    · cases h
    · cases h
      rfl

theorem latestSampleOnce_serves (s : ServiceClientSession μ τ) (w : World μ ω) :
    Serves 0 1 s w (latestSampleOnce out s w) := by
  have hone (request : ClientRequestV1) (response : Except ClientFailure (ServiceResponseV1 μ)) :
      Priced 0 1 s.transport.verifiedPeer
        [.exchange s.transport.verifiedPeer request response] := by
    refine ⟨Nat.le_refl 0,List.countP_le_length,?_⟩
    intro c hc p hp
    obtain rfl := List.mem_singleton.mp hc
    unfold TransportCall.snapshotPeer? at hp
    split at hp <;> simp_all
  unfold latestSampleOnce
  split
  · exact ⟨⟨rfl,rfl,[],by simp,Priced.nil.mono (Nat.le_refl 0) (Nat.zero_le 1)⟩,
      .failed ⟨rfl,rfl⟩⟩
  · rename_i requestId s₁ htake
    obtain ⟨next,rfl⟩ := takeRequestId_kept htake
    simp only [Outside.exchangeIn,Outside.nowIn,Outside.wireNowIn]
    split
    · exact ⟨⟨rfl,rfl,_,rfl,hone _ _⟩,.failed ⟨rfl,rfl⟩⟩
    · rename_i response hresponse
      split
      · exact ⟨⟨rfl,rfl,_,rfl,hone _ _⟩,.failed ⟨rfl,rfl⟩⟩
      · rename_i latest hlatest
        split
        · exact ⟨⟨rfl,rfl,_,rfl,hone _ _⟩,.failed ⟨rfl,rfl⟩⟩
        · rename_i snapshot s₂ haccept
          obtain ⟨rfl,hold⟩ | ⟨rfl,rfl,hinst,hnewer⟩ := acceptLatest_spec haccept
          · exact ⟨⟨rfl,rfl,_,rfl,hone _ _⟩,.unchanged ⟨rfl,rfl⟩ hold ⟨_,rfl⟩⟩
          · refine ⟨⟨rfl,rfl,_,rfl,hone _ _⟩,.advanced ⟨rfl,rfl,hinst,hnewer,?_⟩ ⟨_,rfl⟩⟩
            refine ⟨⟨collectorServiceProtocolVersion,requestId,.latestSnapshot s.lastSampleSeq⟩,
              response,List.mem_append_right _ (List.mem_singleton.mpr ?_),
              responseOutcome_ok hlatest⟩
            rw [hresponse]
      · exact ⟨⟨rfl,rfl,_,rfl,hone _ _⟩,.failed ⟨rfl,rfl⟩⟩

theorem renewConnection_spec (s : ServiceClientSession μ τ) (w : World μ ω) :
    Follows 1 0 s w (renewConnection out s w).2.1 (renewConnection out s w).2.2 ∧
    Kept s (renewConnection out s w).2.1 := by
  have hone : Priced 1 0 s.transport.verifiedPeer [(.reconnect : TransportCall μ)] := by
    refine ⟨List.countP_le_length,Nat.le_refl 0,?_⟩
    simp [TransportCall.snapshotPeer?]
  unfold renewConnection
  simp only [Outside.reconnectIn]
  split
  · exact ⟨⟨rfl,rfl,_,rfl,hone⟩,rfl,rfl⟩
  · rename_i replacement hreplacement
    obtain ⟨made,hmade,hprice⟩ := connect_calls out replacement
      ⟨(out.reconnect s.transport w.env).2,w.calls++[.reconnect]⟩
    have hcalls : ∃ made', (connect out replacement
        ⟨(out.reconnect s.transport w.env).2,w.calls++[.reconnect]⟩).2.calls=w.calls++made' ∧
        Priced 1 0 s.transport.verifiedPeer made' :=
      ⟨.reconnect::made,by rw [hmade,List.append_assoc,List.singleton_append],
        hone.append (hprice _)⟩
    split
    · exact ⟨⟨rfl,rfl,hcalls⟩,rfl,rfl⟩
    · split
      · exact ⟨⟨rfl,rfl,hcalls⟩,rfl,rfl⟩
      · rename_i hsame
        simp only [not_or,not_not] at hsame
        exact ⟨⟨hsame.1,hsame.2,hcalls⟩,rfl,rfl⟩

theorem latestSampleRetrying_serves (s : ServiceClientSession μ τ) (w : World μ ω)
    {attempted : Bool} {r : Nat} (hr : attempted=false → 1 ≤ r) :
    Serves r 2 s w (latestSampleRetrying out s w attempted) := by
  have honce := latestSampleOnce_serves out s w
  unfold latestSampleRetrying
  split
  · rename_i sample s₁ w₁ heq
    rw [heq] at honce
    exact honce.mono (Nat.zero_le r) (by omega)
  · rename_i failure s₁ w₁ heq
    rw [heq] at honce
    obtain ⟨hf,⟨hk⟩⟩ := honce
    split
    · rename_i hretry
      obtain ⟨hrf,hrk⟩ := renewConnection_spec out s₁ w₁
      split
      · rename_i failure₂ s₂ w₂ hrenew
        rw [hrenew] at hrf hrk
        exact ⟨(hf.trans hrf).mono (hr hretry.2) (by omega),.failed (hk.trans hrk)⟩
      · rename_i u s₂ w₂ hrenew
        rw [hrenew] at hrf hrk
        have htwice := Serves.after (hf.trans hrf) (hk.trans hrk)
          (latestSampleOnce_serves out s₂ w₂)
        exact htwice.mono (hr hretry.2) (Nat.le_refl 2)
    · exact ⟨hf.mono (Nat.zero_le r) (by omega),.failed hk⟩

/-- A renewal that came first is the only one. -/
theorem latestSampleRenewing_serves (s : ServiceClientSession μ τ) (w : World μ ω) :
    Serves 1 2 s w (latestSampleRenewing out s w) := by
  obtain ⟨hrf,hrk⟩ := renewConnection_spec out s w
  unfold latestSampleRenewing
  split
  · rename_i failure s₁ w₁ hrenew
    rw [hrenew] at hrf hrk
    split
    · exact ⟨hrf.mono (Nat.le_refl 1) (Nat.zero_le 2),.failed hrk⟩
    · exact Serves.after hrf hrk (latestSampleRetrying_serves out s₁ w₁ (r := 0) (by simp))
  · rename_i u s₁ w₁ hrenew
    rw [hrenew] at hrf hrk
    exact Serves.after hrf hrk (latestSampleRetrying_serves out s₁ w₁ (r := 0) (by simp))

theorem latestSampleInner_serves (s : ServiceClientSession μ τ) (w : World μ ω) :
    Serves 1 2 s w (latestSampleInner out s w) := by
  -- reading the clock makes no call
  have hclock {result} (h : Serves 1 2 s (out.nowIn w).2 result) : Serves 1 2 s w result :=
    ⟨⟨h.follows.instance_eq,h.follows.peer_eq,h.follows.calls_eq⟩,h.answers⟩
  apply hclock
  by_cases hdue : shouldRenewSession ((out.nowIn w).1-s.lastActivity) s.requestCount
  · simp only [latestSampleInner,if_pos hdue]
    exact latestSampleRenewing_serves out s (out.nowIn w).2
  · simp only [latestSampleInner,if_neg hdue]
    exact latestSampleRetrying_serves out s (out.nowIn w).2 (fun _ => Nat.le_refl 1)

/-- Every call: at most one reconnect and two snapshot exchanges, all with the peer
of the session, and the result answers for the snapshot it retains. -/
theorem latestSample_serves (s : ServiceClientSession μ τ) (w : World μ ω) :
    Serves 1 2 s w (latestSample out s w) := by
  have hinner := latestSampleInner_serves out s w
  unfold latestSample
  split
  · rename_i sample s₁ w₁ heq
    rwa [heq] at hinner
  · rename_i failure s₁ w₁ heq
    rw [heq] at hinner
    obtain ⟨hf,⟨hk⟩⟩ := hinner
    split <;> exact ⟨hf,.failed hk⟩

/-- The retained snapshot and its number agree, and the bound service sent it. -/
structure Coherent (instanceId : String) (peer : VerifiedServicePeer)
    (s : ServiceClientSession μ τ) (w : World μ ω) : Prop where
  instance_eq : s.identity.instanceId=instanceId
  peer_eq : s.transport.verifiedPeer=peer
  seq_eq : s.lastSampleSeq=s.lastSnapshot.map (·.sampleSeq)
  snapshot_instance : ∀ snapshot∈s.lastSnapshot, snapshot.serviceInstanceId=instanceId
  received : ∀ snapshot∈s.lastSnapshot, Received peer snapshot w.calls

theorem connect_coherent {t : Transport τ} {w w₀ : World μ ω} {s₀ : ServiceClientSession μ τ}
    (h : connect out t w=(.ok s₀,w₀)) :
    Coherent s₀.identity.instanceId t.verifiedPeer s₀ w₀ := by
  obtain ⟨ht,hseq,hsnap⟩ := connect_ok out h
  exact ⟨rfl,by rw [ht],by rw [hseq,hsnap]; rfl,by simp [hsnap],by simp [hsnap]⟩

namespace Serves
variable {out} {r x : Nat} {instanceId : String} {peer : VerifiedServicePeer}
  {s : ServiceClientSession μ τ} {w : World μ ω}
  {result : Except ClientFailure (TelemetrySample μ) × ServiceClientSession μ τ × World μ ω}

theorem coherent_of_kept (h : Serves r x s w result) (hk : Kept s result.2.1)
    (hc : Coherent instanceId peer s w) : Coherent instanceId peer result.2.1 result.2.2 := by
  obtain ⟨made,hmade,-⟩ := h.follows.calls_eq
  refine ⟨h.follows.instance_eq.trans hc.instance_eq,h.follows.peer_eq.trans hc.peer_eq,?_,?_,?_⟩
  · rw [hk.seq_eq,hk.snapshot_eq,hc.seq_eq]
  · rw [hk.snapshot_eq]
    exact hc.snapshot_instance
  · rw [hk.snapshot_eq,hmade]
    exact fun snapshot hmem => (hc.received snapshot hmem).append made

theorem coherent (h : Serves r x s w result) (hc : Coherent instanceId peer s w) :
    Coherent instanceId peer result.2.1 result.2.2 := by
  obtain ⟨result,s',w'⟩ := result
  cases h.answers with
  | failed hk => exact h.coherent_of_kept hk hc
  | unchanged hk hold hcarry => exact h.coherent_of_kept hk hc
  | @advanced _ snapshot ha hcarry =>
    refine ⟨h.follows.instance_eq.trans hc.instance_eq,h.follows.peer_eq.trans hc.peer_eq,?_,?_,?_⟩
    · rw [ha.seq_eq,ha.snapshot_eq]
      rfl
    · intro other hother
      obtain rfl := Option.some.inj (ha.snapshot_eq.symm.trans hother)
      exact ha.instance_eq.trans hc.instance_eq
    · intro other hother
      obtain rfl := Option.some.inj (ha.snapshot_eq.symm.trans hother)
      exact hc.peer_eq ▸ ha.received

/-- A sample shows the snapshot retained after the call, and the one retained
before it is that one or an older one. -/
theorem delivered {sample : TelemetrySample μ} (h : Serves r x s w result)
    (hc : Coherent instanceId peer s w) (hok : result.1=.ok sample) :
    ∃ snapshot, Carries sample snapshot ∧ result.2.1.lastSnapshot=some snapshot ∧
      ∀ old∈s.lastSnapshot, old=snapshot ∨ old.sampleSeq < snapshot.sampleSeq := by
  obtain ⟨result,s',w'⟩ := result
  obtain rfl : result=.ok sample := hok
  cases h.answers with
  | @unchanged _ snapshot hk hold hcarry =>
    refine ⟨snapshot,hcarry,hk.snapshot_eq.trans hold,?_⟩
    intro old hmem
    exact Or.inl (Option.some.inj (hmem.symm.trans hold))
  | @advanced _ snapshot ha hcarry =>
    refine ⟨snapshot,hcarry,ha.snapshot_eq,?_⟩
    intro old hmem
    refine Or.inr (ha.newer old.sampleSeq ?_)
    rw [hc.seq_eq,show s.lastSnapshot=some old from hmem]
    rfl

end Serves

/-- One call of a run, with what stood before and after it. -/
structure Call (μ τ ω : Type) where
  before : ServiceClientSession μ τ
  worldBefore : World μ ω
  result : Except ClientFailure (TelemetrySample μ)
  after : ServiceClientSession μ τ
  worldAfter : World μ ω

def latestSampleRun : Nat → ServiceClientSession μ τ → World μ ω → List (Call μ τ ω)
  | 0,_,_ => []
  | n+1,s,w =>
    let (result,s',w') := latestSample out s w
    ⟨s,w,result,s',w'⟩::latestSampleRun n s' w'

/-- The samples a run delivered, in order. -/
def delivered (calls : List (Call μ τ ω)) : List (TelemetrySample μ) :=
  calls.filterMap (·.result.toOption)

/-- Each call of a run serves a session that is still coherent. -/
theorem latestSampleRun_serves {instanceId : String} {peer : VerifiedServicePeer} (n : Nat)
    {s : ServiceClientSession μ τ} {w : World μ ω} (hc : Coherent instanceId peer s w) :
    ∀ c∈latestSampleRun out n s w, Coherent instanceId peer c.before c.worldBefore ∧
      Serves 1 2 c.before c.worldBefore (c.result,c.after,c.worldAfter) := by
  induction n generalizing s w with
  | zero => simp [latestSampleRun]
  | succ n ih =>
    have hserves := latestSample_serves out s w
    intro c hmem
    obtain rfl | hmem := List.mem_cons.mp hmem
    · exact ⟨hc,hserves⟩
    · exact ih (hserves.coherent hc) c hmem

/-- The later sample is of a newer snapshot, or of the same one. -/
def Succeeds (a b : TelemetrySample μ) : Prop :=
  a.sourceProvenance.sourceSampleSeq < b.sourceProvenance.sourceSampleSeq ∨
    ∃ snapshot, Carries a snapshot ∧ Carries b snapshot

theorem Carries.seq_eq {sample : TelemetrySample μ} {snapshot : CollectorSnapshotV1 μ}
    (h : Carries sample snapshot) :
    sample.sourceProvenance.sourceSampleSeq=snapshot.sampleSeq := by
  obtain ⟨status,rfl⟩ := h
  rfl

/-- One number, one snapshot. -/
def Agree (a b : TelemetrySample μ) : Prop :=
  a.sourceProvenance.sourceSampleSeq=b.sourceProvenance.sourceSampleSeq →
    ∃ snapshot, Carries a snapshot ∧ Carries b snapshot

instance : Std.Symm (Agree (μ := μ)) where
  symm a b hab heq := by
    obtain ⟨snapshot,ha,hb⟩ := hab heq.symm
    exact ⟨snapshot,hb,ha⟩

theorem Succeeds.agree {a b : TelemetrySample μ} (h : Succeeds a b) : Agree a b := by
  rintro heq
  obtain hlt | hsame := h
  · exact absurd heq hlt.ne
  · exact hsame

/-- Nothing delivered in a run is older than what was retained before it. -/
theorem latestSampleRun_newer {instanceId : String} {peer : VerifiedServicePeer} (n : Nat)
    {s : ServiceClientSession μ τ} {w : World μ ω} (hc : Coherent instanceId peer s w)
    {old : CollectorSnapshotV1 μ} (hold : s.lastSnapshot=some old) :
    ∀ b∈delivered (latestSampleRun out n s w),
      old.sampleSeq < b.sourceProvenance.sourceSampleSeq ∨ Carries b old := by
  induction n generalizing s w old with
  | zero => simp [latestSampleRun,delivered]
  | succ n ih =>
    have hserves := latestSample_serves out s w
    have hc' := hserves.coherent hc
    intro b hmem
    rw [delivered,latestSampleRun,List.filterMap_cons] at hmem
    cases hresult : (latestSample out s w).1 with
    | error failure =>
      simp only [hresult,Except.toOption] at hmem
      obtain ⟨hk⟩ := hresult ▸ hserves.answers
      exact ih hc' (hk.snapshot_eq.trans hold) b hmem
    | ok sample =>
      simp only [hresult,Except.toOption,List.mem_cons] at hmem
      obtain ⟨snapshot,hcarry,hnow,hrel⟩ := hserves.delivered hc hresult
      have hrel := hrel old hold
      obtain rfl | hmem := hmem
      · obtain rfl | hlt := hrel
        · exact Or.inr hcarry
        · exact Or.inl (hcarry.seq_eq ▸ hlt)
      · obtain hlt | hb := ih hc' hnow b hmem
        · obtain rfl | hlt' := hrel
          · exact Or.inl hlt
          · exact Or.inl (hlt'.trans hlt)
        · obtain rfl | hlt' := hrel
          · exact Or.inr hb
          · exact Or.inl (hb.seq_eq ▸ hlt')

theorem latestSampleRun_succeeds {instanceId : String} {peer : VerifiedServicePeer} (n : Nat)
    {s : ServiceClientSession μ τ} {w : World μ ω} (hc : Coherent instanceId peer s w) :
    (delivered (latestSampleRun out n s w)).Pairwise Succeeds := by
  induction n generalizing s w with
  | zero => exact List.Pairwise.nil
  | succ n ih =>
    have hserves := latestSample_serves out s w
    have hc' := hserves.coherent hc
    rw [delivered,latestSampleRun,List.filterMap_cons]
    cases hresult : (latestSample out s w).1 with
    | error failure =>
      simp only [Except.toOption]
      exact ih hc'
    | ok sample =>
      simp only [Except.toOption]
      refine List.Pairwise.cons ?_ (ih hc')
      intro b hmem
      obtain ⟨snapshot,hcarry,hnow,-⟩ := hserves.delivered hc hresult
      obtain hlt | hb := latestSampleRun_newer out n hc' hnow b hmem
      · exact Or.inl (hcarry.seq_eq ▸ hlt)
      · exact Or.inr ⟨snapshot,hcarry,hb⟩

theorem delivered_result {calls : List (Call μ τ ω)} {a : TelemetrySample μ}
    (h : a∈delivered calls) : ∃ c∈calls, c.result=.ok a := by
  obtain ⟨c,hmem,hc⟩ := List.mem_filterMap.mp h
  refine ⟨c,hmem,?_⟩
  cases hresult : c.result with
  | error failure => simp [hresult,Except.toOption] at hc
  | ok sample =>
    rw [hresult] at hc
    exact congrArg _ (Option.some.inj hc)

/-- Whatever the transport answers: every session reached holds a snapshot of the
service bound at connect time under its own number, samples never step back and a
number always shows one snapshot, a failed call changes nothing retained, and no
call reconnects twice or asks a third time. -/
theorem session_safe {t : Transport τ} {w w₀ : World μ ω} {s₀ : ServiceClientSession μ τ}
    (h : connect out t w=(.ok s₀,w₀)) (n : Nat) :
    Coherent s₀.identity.instanceId t.verifiedPeer s₀ w₀ ∧
    (∀ c∈latestSampleRun out n s₀ w₀,
      Coherent s₀.identity.instanceId t.verifiedPeer c.after c.worldAfter ∧
      (∀ sample, c.result=.ok sample →
        sample.sourceProvenance.sourceInstanceId=s₀.identity.instanceId ∧
        ∃ snapshot, Carries sample snapshot ∧
          Received t.verifiedPeer snapshot c.worldAfter.calls) ∧
      (∀ failure, c.result=.error failure → Kept c.before c.after) ∧
      ∃ made, c.worldAfter.calls=c.worldBefore.calls++made ∧ Priced 1 2 t.verifiedPeer made) ∧
    (delivered (latestSampleRun out n s₀ w₀)).Pairwise (fun a b =>
      a.sourceProvenance.sourceSampleSeq ≤ b.sourceProvenance.sourceSampleSeq) ∧
    ∀ a∈delivered (latestSampleRun out n s₀ w₀),
      ∀ b∈delivered (latestSampleRun out n s₀ w₀), Agree a b := by
  have hc := connect_coherent out h
  have hsucc := latestSampleRun_succeeds out n hc
  refine ⟨hc,?_,hsucc.imp ?_,?_⟩
  · intro c hmem
    obtain ⟨hbefore,hserves⟩ := latestSampleRun_serves out n hc c hmem
    have hafter := hserves.coherent hbefore
    refine ⟨hafter,?_,?_,?_⟩
    · intro sample hok
      obtain ⟨snapshot,hcarry,hnow,-⟩ := hserves.delivered hbefore hok
      refine ⟨?_,snapshot,hcarry,hafter.received snapshot hnow⟩
      obtain ⟨status,rfl⟩ := hcarry
      exact hafter.snapshot_instance snapshot hnow
    · intro failure herr
      obtain ⟨hk⟩ := herr ▸ hserves.answers
      exact hk
    · obtain ⟨made,hmade,hpriced⟩ := hserves.follows.calls_eq
      exact ⟨made,hmade,hbefore.peer_eq ▸ hpriced⟩
  · rintro a b (hlt | ⟨snapshot,ha,hb⟩)
    · exact hlt.le
    · rw [ha.seq_eq,hb.seq_eq]
  · refine (hsucc.imp Succeeds.agree).forall_of_forall ?_
    intro a hmem _
    obtain ⟨c,hcall,hok⟩ := delivered_result hmem
    obtain ⟨hbefore,hserves⟩ := latestSampleRun_serves out n hc c hcall
    obtain ⟨snapshot,hcarry,-⟩ := hserves.delivered hbefore hok
    exact ⟨snapshot,hcarry,hcarry⟩

/-- A service that delivers one snapshot, confirms it, drops the connection and
then steps back. -/
def faltering : Outside Unit Unit Nat where
  desktopRelease := ⟨"0.2.1",none⟩
  exchange _ request n :=
    let reply (outcome : ServiceOutcomeV1 Unit) : ServiceResponseV1 Unit :=
      ⟨collectorServiceProtocolVersion,request.requestId,outcome⟩
    match request.operation,n with
    | .negotiate _,n =>
      (.ok (reply (.negotiated ⟨collectorServiceProtocolVersion,{
        serviceName := collectorServiceName
        serviceVersion := "0.2.1"
        release := ⟨"0.2.1",none⟩
        instanceId := "instance-a"
        protocolVersion := collectorServiceProtocolVersion
        minimumDesktopVersion := "0.2.0"
        limits := .contract}⟩)),n)
    | _,0 => (.ok (reply (.latestSnapshot (.snapshot ⟨1,"instance-a",5,1000,2,()⟩))),1)
    | _,1 => (.ok (reply (.latestSnapshot (.unchanged ⟨"instance-a",5⟩))),2)
    | _,2 => (.error (.new .failed "collector_service_pipe_closed"),3)
    | _,n => (.ok (reply (.latestSnapshot (.snapshot ⟨1,"instance-a",4,2000,2,()⟩))),n+1)
  reconnect t n := (.ok t,n)
  now n := (0,n)
  wireNowMs n := (1000,n)

def falteringTransport : Transport Unit :=
  ⟨{processId := 410, processStartedAt := 7, principalIdentity := [], executableFileIdentity := [],
    executableRelease := ⟨"0.2.1",none⟩},()⟩

theorem session_safe_faltering :
    ∃ s₀ w₀, connect faltering falteringTransport ⟨0,[]⟩=(.ok s₀,w₀) ∧
      (delivered (latestSampleRun faltering 3 s₀ w₀)).map
        (·.sourceProvenance.sourceSampleSeq)=[5,5] ∧
      (∀ c∈latestSampleRun faltering 3 s₀ w₀,
        Coherent "instance-a" falteringTransport.verifiedPeer c.after c.worldAfter) ∧
      ∀ a∈delivered (latestSampleRun faltering 3 s₀ w₀),
        ∀ b∈delivered (latestSampleRun faltering 3 s₀ w₀), Agree a b := by
  have hsafe {s₀ : ServiceClientSession Unit Unit} {w₀ : World Unit Nat}
      (h : connect faltering falteringTransport ⟨0,[]⟩=(.ok s₀,w₀)) := session_safe faltering h 3
  refine ⟨_,_,rfl,by decide,?_,(hsafe rfl).2.2.2⟩
  exact fun c hmem => ((hsafe rfl).2.1 c hmem).1

end ServiceClientSession

end BatCave.CollectorService
