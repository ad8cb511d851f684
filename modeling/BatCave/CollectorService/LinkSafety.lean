import BatCave.CollectorService.LinkRuns

/-! The desktop and the service together, over every run. A sample that the desktop shows is
one that the service published, no older than the last that was published when the desktop
began to ask; and a failure that it notes is the weather's or what the service had to say,
never a quarrel of the protocol with itself. -/
namespace BatCave.CollectorService
open BatCave.Lib.Result BatCave.Lib.Word Link FrameDecoder
open WireParts (latestOf failureResponse)
variable {σ μ φ : Type} {d : Deployment σ μ} {weather : Nat → Weather σ}
  {fallback : Link σ μ → Except String φ} {link link' start : Link σ μ} {n : Nat}
  {s : ServiceClientSession μ Nat}

section Exchanges
variable {handle : Nat} {c c' : Connection}

theorem Touched.later (h : Touched d handle link link') : Later link link' ∧
    link'.current d=link.current d ∧ link'.running=link.running ∧ link'.history=link.history ∧
    link'.tick=link.tick ∧ ∀ other, other≠handle → Kept other link link' := by
  obtain ⟨state,c',rfl,_,_⟩ := h.eq
  refine ⟨⟨Nat.le_refl _,List.prefix_refl _,fun _ => Nat.le_refl _,Nat.le_refl _,
    List.length_set.ge⟩,rfl,rfl,rfl,rfl,
    fun other hne hlt => ⟨lt_of_lt_of_eq hlt List.length_set.symm,fun c hc _ => ?_⟩⟩
  rwa [List.getElem?_set_ne (Ne.symm hne)] at hc

theorem Touched.connection (h : Touched d handle link link')
    (hc : link.connections[handle]?=some c) (hc' : link'.connections[handle]?=some c') :
    c'.process=c.process := by
  obtain ⟨state,other,rfl,_,hprocess⟩ := h.eq
  rw [List.getElem?_set_self (List.getElem?_eq_some_iff.1 hc).1] at hc'
  cases hc'
  exact hprocess c hc

theorem Touched.sound (h : Touched d handle link link') (hw : Sound d weather link)
    (hc : link.connections[handle]?=some c) (hopen : c.isOpen=true) : Sound d weather link' := by
  obtain ⟨_,_,_,hhistory,htick,_⟩ := h.later
  exact ⟨h.wf hw.toWf hc hopen,by rw [hhistory,htick]; exact hw.published⟩

variable (hnumbers : ∀ k, publishedBefore weather k < u64Max)
include hnumbers

/-- A request is too late, or reaches the process that runs. -/
theorem exchange_cases (hw : Sound d weather link) (t : Transport Nat)
    (request : ClientRequestV1) (hlt : t.handle < link.connections.length) :
    ∃ mid, Later link mid ∧ Sound d weather mid ∧ mid.tick=link.tick+1 ∧
      (∀ other, Kept other link mid) ∧
      (exchange d weather t request link=(.error disconnected,mid) ∨
        ∃ c, link.connections[t.handle]?=some c ∧ mid.connections[t.handle]?=some c ∧
          c.isOpen=true ∧ c.process=mid.running ∧ exchange d weather t request link=
            exchangeOn d (weather link.tick) t.handle c request mid) := by
  obtain ⟨hnow,hlater,hsound,htick,_,hkept⟩ := pass_sound hnumbers hw
  rw [exchange]
  generalize link.pass d weather=passed at hnow hlater hsound htick hkept
  obtain ⟨now,mid⟩ := passed
  obtain rfl := hnow
  dsimp only at hlater hsound htick hkept ⊢
  refine ⟨mid,hlater,hsound,htick,hkept,?_⟩
  cases hc : mid.connections[t.handle]? with
  | none => exact .inl rfl
  | some c =>
    cases hopen : c.isOpen with
    | false => exact .inl (by simp [hopen])
    | true =>
      right
      exact ⟨c,(hkept t.handle hlt).2 c hc hopen,rfl,hopen,
        hsound.running c (List.mem_of_getElem? hc) hopen,by simp [hopen]⟩

/-- A new connection is greeted by the process that it was opened to, or lost. -/
theorem exchange_greets (hd : Deployed d) (hw : Sound d weather link)
    (hc : link.connections[handle]?=some { process := n }) :
    ∃ result link', exchange d weather ⟨d.servicePeer n,handle⟩ d.hello link=(result,link') ∧
      Later link link' ∧ Sound d weather link' ∧ link.tick < link'.tick ∧
      (∀ other, other≠handle → Kept other link link') ∧
      ((∃ failure, result=.error failure ∧ Lost (weather link.tick) failure) ∨
        result=.ok ⟨collectorServiceProtocolVersion,1,
            .negotiated ⟨collectorServiceProtocolVersion,(d.process n).identity⟩⟩ ∧
          link'.running=n ∧ ∃ c, link'.connections[handle]?=some c ∧ c.process=n ∧
            Clean d 1 c) := by
  obtain ⟨mid,hlater,hsound,htick,hkept,hlate | ⟨c,hbefore,hmid,hopen,hprocess,hresult⟩⟩ :=
    exchange_cases hnumbers hw ⟨d.servicePeer n,handle⟩ d.hello (List.getElem?_eq_some_iff.1 hc).1
  · exact ⟨_,_,hlate,hlater,hsound,by omega,fun other _ => hkept other,
      .inl ⟨_,rfl,.disconnected⟩⟩
  · rw [hc,Option.some.injEq] at hbefore
    subst hbefore
    dsimp only at hprocess hresult hmid
    obtain ⟨result,link',hone,htouched,hcases⟩ := exchangeOn_greets
      (weather link.tick) hd hmid rfl
    obtain ⟨hlater',_,hrunning,_,htick',hkept'⟩ := htouched.later
    refine ⟨result,link',hresult.trans hone,hlater.trans hlater',htouched.sound hsound hmid hopen,
      by omega,fun other hne => (hkept other).trans (hkept' other hne),?_⟩
    obtain hlost | ⟨hok,c',hc',hclean⟩ := hcases
    · exact .inl hlost
    · rw [← hprocess] at hok
      exact .inr ⟨hok,by rw [hrunning,← hprocess],c',hc',htouched.connection hmid hc',hclean⟩

/-- A session that is ready is answered by its process, or its connection is lost. -/
theorem exchange_asks (hd : Deployed d) (hw : Sound d weather link) (hready : Ready d n s link) :
    ∃ result link', exchange d weather s.transport ⟨collectorServiceProtocolVersion,
        s.nextRequestId,.latestSnapshot s.lastSampleSeq⟩ link=(result,link') ∧
      Later link link' ∧ Sound d weather link' ∧ link.tick < link'.tick ∧
      ((∃ failure, result=.error failure ∧ Lost (weather link.tick) failure) ∨
        link'.running=n ∧
          ((∃ failure, result=.ok ⟨collectorServiceProtocolVersion,s.nextRequestId,
              .error (failureResponse failure)⟩ ∧
            (latestOf s.lastSampleSeq (link'.current d)).bind (fun latest =>
              d.wire.checks.encodeResponse ⟨collectorServiceProtocolVersion,s.nextRequestId,
                .latestSnapshot latest⟩ false)=.error failure) ∨
          ∃ latest, result=.ok ⟨collectorServiceProtocolVersion,s.nextRequestId,
              .latestSnapshot latest⟩ ∧
            latestOf s.lastSampleSeq (link'.current d)=.ok latest ∧
            s.requestCount+1 ≤ sessionMaxRequests ∧
            ∃ c, link'.connections[s.transport.handle]?=some c ∧ c.process=n ∧
              Clean d (s.requestCount+1) c)) := by
  obtain ⟨mid,hlater,hsound,htick,hkept,hlate | ⟨c,hbefore,hmid,hopen,hprocess,hresult⟩⟩ :=
    exchange_cases hnumbers hw s.transport ⟨collectorServiceProtocolVersion,s.nextRequestId,
      .latestSnapshot s.lastSampleSeq⟩ hready.exists_connection
  · exact ⟨_,_,hlate,hlater,hsound,by omega,.inl ⟨_,rfl,.disconnected⟩⟩
  · obtain ⟨hbound,hclean⟩ := hready.clean c hbefore hopen
    have hnumbered := hready.numbered
    have hcount := hready.counted
    have hid : s.nextRequestId≠0 := by omega
    have hle : s.nextRequestId ≤ sessionMaxRequests+1 := by omega
    have hafter : ∀ after, s.lastSampleSeq=some after → after < u64Max := by
      intro after hlast
      have hretained := hready.retained.later hready.past hlater
      rw [hretained.seq,Option.map_eq_some_iff] at hlast
      obtain ⟨snapshot,hsnapshot,rfl⟩ := hlast
      obtain ⟨p,_,havailable,hle⟩ := hretained.known snapshot hsnapshot
      rw [(availability_ready havailable).1]
      have hrevision := hle (hprocess.symm.trans hbound)
      have hcounted := hsound.counted
      have hpublished := hsound.published
      have hsmall := hnumbers mid.tick
      omega
    obtain ⟨result,link',hone,htouched,hcases⟩ := exchangeOn_asks (weather link.tick) hd
      hsound.toWf hmid hclean hid hle hafter
    obtain ⟨hlater',hcurrent,hrunning,_,htick',_⟩ := htouched.later
    refine ⟨result,link',hresult.trans hone,hlater.trans hlater',htouched.sound hsound hmid hopen,
      by omega,?_⟩
    rw [hcurrent]
    have hsame : link'.running=n := hrunning.trans (hprocess.symm.trans hbound)
    obtain hlost | hrefused | ⟨latest,hok,hlatest,hle,c',hc',hclean'⟩ := hcases
    · exact .inl hlost
    · exact .inr ⟨hsame,.inl hrefused⟩
    · exact .inr ⟨hsame,.inr ⟨latest,hok,hlatest,hle,c',hc',
        (htouched.connection hmid hc').trans hbound,hclean'⟩⟩

end Exchanges

section Sessions
variable {handle : Nat} {w : World μ (Link σ μ)}

theorem lost_excused {k : Nat} {failure : ClientFailure} (hs : Later start link)
    (hk : link.tick=k) (hlt : k < link'.tick) (h : Lost (weather k) failure) :
    Excused d weather start link' failure :=
  .lost (hk ▸ hs.tick) hlt h ⟨rfl,rfl⟩

theorem identity_authorized (hd : Deployed d) (n : Nat) :
    authorizeServiceIdentity (some (d.servicePeer n)) (d.process n).identity=.ok () := by
  have hrelease : (d.servicePeer n).executableRelease=(d.process n).identity.release :=
    (hd.peerRelease n).trans (hd.release n).symm
  rw [authorizeServiceIdentity,hd.identity n]
  simp [hrelease]
  rfl

variable (fallback) in
theorem exchangeIn_eq {t : Transport Nat} {request : ClientRequestV1}
    {result : Except ClientFailure (ServiceResponseV1 μ)}
    (h : exchange d weather t request w.env=(result,link')) :
    (around d weather fallback).toOutside.exchangeIn t request w=
      (result,⟨link',w.calls++[.exchange t.verifiedPeer request result]⟩) := by
  have hasked : (around d weather fallback).toOutside.exchange t request w.env=
      (result,link') := h
  simp only [Outside.exchangeIn,hasked]

variable (fallback) in
theorem nowIn_sound (hw : Sound d weather w.env) :
    ∃ now w', (around d weather fallback).toOutside.nowIn w=(now,w') ∧ Later w.env w'.env ∧
      Sound d weather w'.env ∧ (∀ handle, Kept handle w.env w'.env) ∧
      w'.env.running=w.env.running := ⟨_,_,rfl,clock_sound hw⟩

variable (fallback) in
theorem wireNowIn_sound (hw : Sound d weather w.env) :
    ∃ nowMs w', (around d weather fallback).toOutside.wireNowIn w=(nowMs,w') ∧
      Later w.env w'.env ∧ Sound d weather w'.env ∧ (∀ handle, Kept handle w.env w'.env) ∧
      w'.env.running=w.env.running := ⟨_,_,rfl,clock_sound hw⟩

/-- A session that was just opened. -/
structure Opened (d : Deployment σ μ) (n handle : Nat) (s : ServiceClientSession μ Nat)
    (link : Link σ μ) : Prop extends Ready d n s link where
  transport : s.transport=⟨d.servicePeer n,handle⟩
  seqless : s.lastSampleSeq=none
  running : link.running=n

variable (hnumbers : ∀ k, publishedBefore weather k < u64Max)
include hnumbers

variable (fallback w) in
/-- A session is opened with the process that greets, or there is an excuse. -/
theorem session_connects (hd : Deployed d) (hw : Sound d weather w.env)
    (hc : w.env.connections[handle]?=some { process := n }) (hs : Later start w.env) :
    ∃ result w', ServiceClientSession.connect (around d weather fallback).toOutside
        ⟨d.servicePeer n,handle⟩ w=(result,w') ∧
      Later w.env w'.env ∧ Sound d weather w'.env ∧
      (∀ other, other≠handle → Kept other w.env w'.env) ∧
      ((∃ failure, result=.error failure ∧ Excused d weather start w'.env failure) ∨
        ∃ s, result=.ok s ∧ Opened d n handle s w'.env) := by
  obtain ⟨result,link',hresult,hlater,hsound,htick,hkept,hcases⟩ :=
    exchange_greets hnumbers hd hw hc
  have hrelease : ¬(d.servicePeer n).executableRelease≠
      (around d weather fallback).toOutside.desktopRelease := not_not_intro (hd.peerRelease n)
  have hasked := exchangeIn_eq fallback hresult
  have hhello : ServiceClientSession.negotiateRequest (around d weather fallback).toOutside=
      d.hello := rfl
  rw [ServiceClientSession.connect]
  simp only [if_neg hrelease,hhello,hasked]
  obtain ⟨failure,rfl,hlost⟩ | ⟨rfl,hrunning,c,hc',hprocess,hclean⟩ := hcases
  · refine ⟨_,_,rfl,hlater,hsound,hkept,.inl ⟨_,rfl,?_⟩⟩
    have hsame : connectFailure failure (d.servicePeer n).executableRelease=failure := by
      rw [connectFailure,if_neg (by rw [hlost.kind]; nofun)]
    rw [hsame]
    exact lost_excused hs rfl htick hlost
  · have hid : ¬1≠d.hello.requestId := not_not_intro rfl
    have hagreed : ¬(collectorServiceProtocolVersion≠collectorServiceProtocolVersion ∨
        (d.process n).identity.release≠(around d weather fallback).toOutside.desktopRelease) := by
      rintro (h | h)
      · exact h rfl
      · exact h (hd.release n)
    have hone : 1 ≤ sessionMaxRequests := by decide
    obtain ⟨hlater',hsound',hkept',_⟩ := clock_sound hsound
    simp only [responseOutcome,if_neg hid,identity_authorized hd n,if_neg hagreed]
    have hlt := (List.getElem?_eq_some_iff.1 hc').1
    refine ⟨_,_,rfl,hlater.trans hlater',hsound',fun other hne =>
      (hkept other hne).trans (hkept' other),.inr ⟨_,rfl,?_⟩⟩
    refine ⟨⟨⟨rfl,rfl,Nat.le_of_eq hrunning.symm,⟨rfl,nofun⟩⟩,rfl,⟨Nat.le_refl _,hone⟩,hlt,
      fun other hother _ => ?_⟩,rfl,rfl,hrunning⟩
    have hsame : link'.connections[handle]?=some other := hother
    rw [hc',Option.some.injEq] at hsame
    exact hsame ▸ ⟨hprocess,hclean⟩

variable (fallback) in
/-- A connection is opened anew with the process of the session, or there is an excuse; the
session is as it was then. -/
theorem renewConnection_sound (hd : Deployed d) (hw : Sound d weather w.env)
    (hs : Later start w.env) (hstart : start.running ≤ n) (hattached : Attached d n s w.env)
    (hlt : s.transport.handle < w.env.connections.length) :
    ∃ result s' w', s.renewConnection (around d weather fallback).toOutside w=(result,s',w') ∧
      Later w.env w'.env ∧ Sound d weather w'.env ∧
      ((∃ failure, result=.error failure ∧ Excused d weather start w'.env failure ∧ s'=s ∧
          Kept s.transport.handle w.env w'.env) ∨
        result=.ok () ∧ Ready d n s' w'.env) := by
  obtain ⟨result,link',hresult,hlater,hsound,htick,hkept,hcases⟩ := connect_sound hnumbers hw
  have hopened : (around d weather fallback).toOutside.reconnectIn s.transport w=
      (result,⟨link',w.calls++[.reconnect]⟩) := by
    have hasked : (around d weather fallback).toOutside.reconnect s.transport w.env=
        (result,link') := hresult
    simp only [Outside.reconnectIn,hasked]
  rw [ServiceClientSession.renewConnection]
  simp only [hopened]
  obtain ⟨failure,rfl,hrefused⟩ | ⟨rfl,hconnection⟩ := hcases
  · exact ⟨_,_,_,rfl,hlater,hsound,.inl ⟨failure,rfl,
      .refused hs.tick (by simp only; omega) hrefused ⟨rfl,rfl⟩,rfl,hkept _⟩⟩
  · obtain ⟨result,w',hgreeted,hlater',hsound',hkept',hcases⟩ := session_connects
      fallback ⟨link',w.calls++[.reconnect]⟩ hnumbers hd hsound hconnection (hs.trans hlater)
    simp only [hgreeted]
    have hunmoved : Kept s.transport.handle w.env w'.env :=
      (hkept _).trans (hkept' _ (Nat.ne_of_lt hlt))
    have honward : Later w.env w'.env := hlater.trans hlater'
    obtain ⟨failure,rfl,hexcused⟩ | ⟨renewed,rfl,hopened⟩ := hcases
    · exact ⟨_,_,_,rfl,honward,hsound',.inl ⟨failure,rfl,hexcused,rfl,hunmoved⟩⟩
    · have hpeer := hopened.peer
      have hidentity := hopened.identity
      by_cases hsame : link'.running=n
      · rw [hsame] at hopened hpeer hidentity
        have hagreed : ¬(renewed.identity.instanceId≠s.identity.instanceId ∨
            renewed.transport.verifiedPeer≠s.transport.verifiedPeer) := by
          rw [hidentity,hpeer,hattached.identity,hattached.peer]
          simp
        simp only [if_neg hagreed]
        exact ⟨_,_,_,rfl,honward,hsound',.inr ⟨rfl,⟨⟨hidentity,hpeer,hopened.past,
          hattached.retained.seq,(hattached.retained.later hattached.past honward).known⟩,
          hopened.numbered,hopened.counted,hopened.exists_connection,hopened.clean⟩⟩⟩
      · have hquarrel : renewed.identity.instanceId≠s.identity.instanceId ∨
            renewed.transport.verifiedPeer≠s.transport.verifiedPeer := by
          right
          rw [hpeer,hattached.peer]
          exact fun heq => hsame (hd.peers heq)
        simp only [if_pos hquarrel]
        have hpast := hattached.past
        have hrunning := hlater.running
        have hrunning' := hlater'.running
        exact ⟨_,_,_,rfl,honward,hsound',.inl ⟨_,rfl,.restarted (by simp only at *; omega) rfl,rfl,
          hunmoved⟩⟩

omit hnumbers in
/-- The answer to a session: a snapshot that it accepts, or what the service has to say. -/
theorem latest_accepted (hwf : link.Wf d) (hs : Later start link)
    (hattached : Attached d link.running s link) :
    (∃ failure, latestOf s.lastSampleSeq (link.current d)=.error failure ∧
      Told d start link failure) ∨
    ∃ latest snapshot s', latestOf s.lastSampleSeq (link.current d)=.ok latest ∧
      s.acceptLatest latest=.ok (snapshot,s') ∧
      (∀ requestId failure, d.wire.checks.encodeResponse ⟨collectorServiceProtocolVersion,
        requestId,.latestSnapshot latest⟩ false=.error failure → Told d start link failure) ∧
      (∀ nowMs, Shown d start link (sampleFromSnapshot snapshot
        (activeStatus (d.process link.running).identity nowMs))) ∧
      Retained d link.running s' link ∧
      s'={ s with lastSampleSeq := s'.lastSampleSeq, lastSnapshot := s'.lastSnapshot } := by
  obtain ⟨hzero,hpending⟩ | ⟨p,hp,hrevision,⟨failure,hlatest,hfailed⟩ |
      ⟨snapshot,hready,⟨hlatest,hnewer⟩ | ⟨hlatest,hlast⟩⟩⟩ :=
    latestOf_current hwf hattached.retained
  · refine .inl ⟨_,hpending,.notReady ?_⟩
    obtain hlt | heq := Nat.lt_or_eq_of_le hs.running
    · exact .inl hlt
    · have hle := hs.revision heq.symm
      exact .inr (by omega)
  · exact .inl ⟨failure,hlatest,.failed hp (fresh_of_later hs (Nat.le_of_eq hrevision.symm))
      hfailed⟩
  · right
    obtain ⟨hseq,hinstance⟩ := availability_ready hready
    have hfresh := fresh_of_later hs (Nat.le_of_eq hrevision.symm)
    have haccepted : s.acceptLatest (.snapshot snapshot)=.ok (snapshot,{ s with
        lastSampleSeq := some snapshot.sampleSeq, lastSnapshot := some snapshot }) := by
      rw [ServiceClientSession.acceptLatest]
      simp [hinstance,hattached.identity,hnewer]
    refine ⟨_,snapshot,_,hlatest,haccepted,fun _ _ h =>
      .unframed hp hfresh hready (.inl rfl) h,fun nowMs =>
      ⟨_,p,snapshot,nowMs,hp,hfresh,hready,rfl⟩,⟨rfl,fun seen hseen => ?_⟩,rfl⟩
    cases hseen
    exact ⟨p,hp,hready,fun _ => Nat.le_of_eq hrevision⟩
  · right
    obtain ⟨hseq,hinstance⟩ := availability_ready hready
    have hfresh := fresh_of_later hs (Nat.le_of_eq hrevision.symm)
    have hseen := hattached.retained.seq
    rw [hlast,eq_comm,Option.map_eq_some_iff] at hseen
    obtain ⟨seen,hseen,hequal⟩ := hseen
    obtain ⟨q,hq,hseenReady,_⟩ := hattached.retained.known seen hseen
    have hqrevision : q.revision=link.revision := by
      rw [← (availability_ready hseenReady).1,hequal,hseq,hrevision]
    have haccepted : s.acceptLatest (.unchanged ⟨snapshot.serviceInstanceId,snapshot.sampleSeq⟩)=
        .ok (seen,s) := by
      rw [ServiceClientSession.acceptLatest]
      simp [hinstance,hattached.identity,hlast,hseen]
    exact ⟨_,seen,_,hlatest,haccepted,fun _ _ h => .unframed hp hfresh hready (.inr rfl) h,
      fun nowMs => ⟨_,q,seen,nowMs,hq,fresh_of_later hs (Nat.le_of_eq hqrevision.symm),hseenReady,
        rfl⟩,hattached.retained,rfl⟩

variable (fallback) in
/-- One request of a session that is ready: a sample that was published, or an excuse. -/
theorem latestSampleOnce_sound (hd : Deployed d) (hw : Sound d weather w.env)
    (hs : Later start w.env) (hready : Ready d n s w.env) :
    ∃ result s' w', s.latestSampleOnce (around d weather fallback).toOutside w=(result,s',w') ∧
      Later w.env w'.env ∧ Sound d weather w'.env ∧
      ((∃ failure, result=.error failure ∧ Excused d weather start w'.env failure ∧
          Attached d n s' w'.env ∧ s'.transport=s.transport) ∨
        ∃ sample, result=.ok sample ∧ Shown d start w'.env sample ∧ Ready d n s' w'.env ∧
          w'.env.running=n) := by
  obtain ⟨result,link',hresult,hlater,hsound,htick,hcases⟩ := exchange_asks hnumbers hd hw hready
  have hnumbered := hready.numbered
  have hcount := hready.counted
  have hmax : sessionMaxRequests=4096 := rfl
  have hnext : checkedAdd s.nextRequestId 1=some (s.nextRequestId+1) := by
    rw [checkedAdd,if_pos (by simp only [u64Max]; omega)]
  have hsum : satAdd s.requestCount 1=s.requestCount+1 := by
    simp only [satAdd,u64Max]
    omega
  have hasked := exchangeIn_eq fallback hresult
  have hattached := hready.toAttached.later hlater
  rw [ServiceClientSession.latestSampleOnce,ServiceClientSession.takeRequestId]
  simp only [hnext,hsum,hasked]
  obtain ⟨failure,rfl,hlost⟩ | ⟨hrunning,hcases⟩ := hcases
  · exact ⟨_,_,_,rfl,hlater,hsound,.inl ⟨_,rfl,lost_excused hs rfl htick hlost,
      ⟨hattached.identity,hattached.peer,hattached.past,hattached.retained.seq,
        hattached.retained.known⟩,rfl⟩⟩
  · obtain ⟨now,w',hnow,hlater',hsound',hkept',hsame'⟩ := nowIn_sound fallback
      (w := ⟨link',w.calls++[.exchange s.transport.verifiedPeer ⟨collectorServiceProtocolVersion,
        s.nextRequestId,.latestSnapshot s.lastSampleSeq⟩ result]⟩) hsound
    simp only [hnow]
    have honward : Later w.env w'.env := hlater.trans hlater'
    have hbound : Attached d link'.running { s with
        nextRequestId := s.nextRequestId+1, requestCount := s.requestCount+1, lastActivity := now }
        link' := by
      rw [hrunning]
      exact ⟨hattached.identity,hattached.peer,hattached.past,hattached.retained.seq,
        hattached.retained.known⟩
    have haccepted := latest_accepted hsound.toWf (hs.trans hlater) hbound
    have hid : ¬s.nextRequestId≠s.nextRequestId := not_not_intro rfl
    obtain ⟨failure,rfl,hfailed⟩ | ⟨latest,rfl,hlatest,hle,c,hc,hprocess,hclean⟩ := hcases
    · have htold : Told d start link' failure := by
        obtain ⟨failure',hrefused,htold⟩ | ⟨latest,_,_,hlatest,_,hunframed,_⟩ := haccepted
        · rw [hrefused] at hfailed
          cases hfailed
          exact htold
        · rw [hlatest] at hfailed
          exact hunframed _ _ hfailed
      simp only [responseOutcome,if_neg hid]
      exact ⟨_,_,_,rfl,honward,hsound',.inl ⟨_,rfl,.told (htold.later hlater') ⟨rfl,rfl⟩,
        hrunning ▸ hbound.later hlater',rfl⟩⟩
    · obtain ⟨_,hrefused,_⟩ | ⟨latest',snapshot,s',hlatest',haccept,_,hshown,hretained,hs'⟩ :=
        haccepted
      · rw [hrefused] at hlatest
        cases hlatest
      · rw [hlatest'] at hlatest
        cases hlatest
        obtain ⟨nowMs,w'',hwire,hlater'',hsound'',hkept'',hsame''⟩ :=
          wireNowIn_sound fallback hsound'
        simp only [responseOutcome,if_neg hid,haccept,hwire]
        have hforth := hlater'.trans hlater''
        have hidentity : s'.identity=(d.process link'.running).identity := by
          rw [hs']
          exact hbound.identity
        rw [hidentity]
        refine ⟨_,_,_,rfl,honward.trans hlater'',hsound'',.inr ⟨_,rfl,(hshown nowMs).later hforth,
          ?_,?_⟩⟩
        · rw [hrunning] at hretained hidentity
          have hready' : Ready d n s' link' := by
            rw [hs'] at hidentity ⊢
            refine ⟨⟨hidentity,hattached.peer,hattached.past,hretained.seq,hretained.known⟩,
              by simp only; omega,⟨by simp only; omega,hle⟩,(List.getElem?_eq_some_iff.1 hc).1,
              fun other hother _ => ?_⟩
            rw [hc,Option.some.injEq] at hother
            exact hother ▸ ⟨hprocess,hclean⟩
          exact hready'.later hforth ((hkept' _).trans (hkept'' _))
        · exact hsame''.trans (hsame'.trans hrunning)

/-- What a session answers: a sample that was published, or a failure with an excuse. -/
def Faithful (d : Deployment σ μ) (weather : Nat → Weather σ) (start : Link σ μ) (n : Nat)
    (s : ServiceClientSession μ Nat) (link : Link σ μ) :
    Except ClientFailure (TelemetrySample μ) → Prop
  | .error failure => Excused d weather start link failure
  | .ok sample => Shown d start link sample ∧ Ready d n s link ∧ link.running=n

variable (fallback) in
theorem latestSampleRetrying_sound (hd : Deployed d) (hw : Sound d weather w.env)
    (hs : Later start w.env) (hstart : start.running ≤ n) (hready : Ready d n s w.env)
    (reconnectAttempted : Bool) :
    ∃ result s' w', s.latestSampleRetrying (around d weather fallback).toOutside w
        reconnectAttempted=(result,s',w') ∧ Later w.env w'.env ∧ Sound d weather w'.env ∧
      Faithful d weather start n s' w'.env result := by
  obtain ⟨result,s',w',hresult,hlater,hsound,hcases⟩ :=
    latestSampleOnce_sound fallback hnumbers hd hw hs hready
  rw [ServiceClientSession.latestSampleRetrying,hresult]
  obtain ⟨failure,rfl,hexcused,hattached,htransport⟩ | ⟨sample,rfl,hshown⟩ := hcases
  · dsimp only
    split
    · have hlt : s'.transport.handle < w'.env.connections.length := by
        rw [htransport]
        exact lt_of_lt_of_le hready.exists_connection hlater.connections
      obtain ⟨renewed,s'',w'',hrenewed,hlater',hsound',
          ⟨failure',rfl,hexcused',_⟩ | ⟨rfl,hready'⟩⟩ :=
            renewConnection_sound fallback hnumbers hd hsound (hs.trans hlater) hstart
          hattached hlt
      · rw [hrenewed]
        exact ⟨_,_,_,rfl,hlater.trans hlater',hsound',hexcused'⟩
      · rw [hrenewed]
        dsimp only
        obtain ⟨result,s₂,w₂,hresult,hlater₂,hsound₂,hcases⟩ := latestSampleOnce_sound
          fallback hnumbers hd hsound' ((hs.trans hlater).trans hlater') hready'
        refine ⟨result,s₂,w₂,hresult,(hlater.trans hlater').trans hlater₂,hsound₂,?_⟩
        obtain ⟨failure₂,rfl,hexcused₂,_⟩ | ⟨sample,rfl,hshown⟩ := hcases
        · exact hexcused₂
        · exact hshown
    · exact ⟨_,_,_,rfl,hlater,hsound,hexcused⟩
  · exact ⟨_,_,_,rfl,hlater,hsound,hshown⟩

variable (fallback) in
theorem latestSampleRenewing_sound (hd : Deployed d) (hw : Sound d weather w.env)
    (hs : Later start w.env) (hstart : start.running ≤ n) (hready : Ready d n s w.env) :
    ∃ result s' w', s.latestSampleRenewing (around d weather fallback).toOutside w=
        (result,s',w') ∧ Later w.env w'.env ∧ Sound d weather w'.env ∧
      Faithful d weather start n s' w'.env result := by
  obtain ⟨renewed,s',w',hrenewed,hlater,hsound,⟨failure,rfl,hexcused,rfl,hkept⟩ | ⟨rfl,hready'⟩⟩ :=
    renewConnection_sound fallback hnumbers hd hw hs hstart hready.toAttached
      hready.exists_connection
  · rw [ServiceClientSession.latestSampleRenewing,hrenewed]
    dsimp only
    split
    · exact ⟨_,_,_,rfl,hlater,hsound,hexcused⟩
    · obtain ⟨result,s',w₂,hresult,hlater₂,hsound₂,hanswered⟩ := latestSampleRetrying_sound
        fallback hnumbers hd hsound (hs.trans hlater) hstart
        (hready.later hlater hkept) true
      exact ⟨result,s',w₂,hresult,hlater.trans hlater₂,hsound₂,hanswered⟩
  · rw [ServiceClientSession.latestSampleRenewing,hrenewed]
    obtain ⟨result,s',w₂,hresult,hlater₂,hsound₂,hanswered⟩ := latestSampleRetrying_sound
      fallback hnumbers hd hsound (hs.trans hlater) hstart hready' true
    exact ⟨result,s',w₂,hresult,hlater.trans hlater₂,hsound₂,hanswered⟩

variable (fallback) in
/-- A session that is ready shows what was published, or has an excuse. -/
theorem latestSample_sound (hd : Deployed d) (hw : Sound d weather w.env)
    (hs : Later start w.env) (hstart : start.running ≤ n) (hready : Ready d n s w.env) :
    ∃ result s' w', s.latestSample (around d weather fallback).toOutside w=(result,s',w') ∧
      Later w.env w'.env ∧ Sound d weather w'.env ∧
      Faithful d weather start n s' w'.env result := by
  obtain ⟨now,w₁,hnow,hlater,hsound,hkept,_⟩ := nowIn_sound fallback hw
  have hinner : ∃ result s' w', s.latestSampleInner (around d weather fallback).toOutside w=
      (result,s',w') ∧ Later w₁.env w'.env ∧ Sound d weather w'.env ∧
        Faithful d weather start n s' w'.env result := by
    have hready₁ := hready.later hlater (hkept _)
    rw [ServiceClientSession.latestSampleInner]
    simp only [hnow]
    split
    · exact latestSampleRenewing_sound fallback hnumbers hd hsound (hs.trans hlater) hstart hready₁
    · exact latestSampleRetrying_sound fallback hnumbers hd hsound (hs.trans hlater) hstart hready₁
        false
  obtain ⟨result,s',w',hresult,hlater',hsound',hanswered⟩ := hinner
  rw [ServiceClientSession.latestSample,hresult]
  have honward := hlater.trans hlater'
  cases result with
  | ok sample => exact ⟨_,_,_,rfl,honward,hsound',hanswered⟩
  | error failure =>
    dsimp only
    split
    · exact ⟨_,_,_,rfl,honward,hsound',hanswered⟩
    · exact ⟨_,_,_,rfl,honward,hsound',Excused.of_says hanswered ⟨rfl,rfl⟩⟩

end Sessions

section Collecting
variable {α : Type} {w : World μ (Link σ μ)} {s : DesktopCollector μ Nat}

/-- What a step of the collector leaves, since a moment of the run. -/
structure Settled (d : Deployment σ μ) (weather : Nat → Weather σ) (start : Link σ μ)
    (turn : Turn α μ Nat (Link σ μ)) : Prop where
  later : Later start turn.world.env
  sound : Sound d weather turn.world.env
  held : ∀ session, turn.collector.service=some session →
    Ready d turn.world.env.running session turn.world.env
  excused : ∀ failure, turn.noted=some failure →
    Excused d weather start turn.world.env failure

variable (fallback) in
theorem noted_settled (hw : Sound d weather w.env) (hs : Later start w.env)
    (hservice : s.service=none) {failure : ClientFailure}
    (hexcused : Excused d weather start w.env failure) (result : α) :
    Settled d weather start (s.noted (around d weather fallback) result failure w) := by
  obtain ⟨nowMs,w₁,hwire,hlater₁,hsound₁,_⟩ := wireNowIn_sound fallback hw
  obtain ⟨now,w₂,hnow,hlater₂,hsound₂,_⟩ := nowIn_sound fallback hsound₁
  have honward := hlater₁.trans hlater₂
  rw [DesktopCollector.noted,DesktopCollector.noteFailure]
  simp only [hwire,hnow]
  refine ⟨hs.trans honward,hsound₂,fun session hsession => ?_,fun noted hnoted => ?_⟩
  · rw [hservice] at hsession
    cases hsession
  · cases hnoted
    exact hexcused.later honward

variable (hnumbers : ∀ k, publishedBefore weather k < u64Max)
include hnumbers

variable (fallback) in
theorem connectService_settled (hd : Deployed d) (hw : Sound d weather w.env)
    (hheld : ∀ session, s.service=some session → Ready d w.env.running session w.env) :
    Settled d weather w.env (s.connectService (around d weather fallback) w) := by
  rw [DesktopCollector.connectService]
  split
  · exact ⟨.refl _,hw,hheld,fun _ h => (by cases h)⟩
  · next hnone =>
    have hservice : s.service=none := by simpa using hnone
    obtain ⟨now,w₁,hnow,hlater₁,hsound₁,_⟩ := nowIn_sound fallback hw
    simp only [hnow]
    split
    · refine ⟨hlater₁,hsound₁,fun session hsession => ?_,fun _ h => (by cases h)⟩
      rw [hservice] at hsession
      cases hsession
    · obtain ⟨result,link',hresult,hlater₂,hsound₂,htick,_,hcases⟩ :=
        connect_sound hnumbers hsound₁
      have hopened : DesktopCollector.openTransport (around d weather fallback) w₁=
          (result,⟨link',w₁.calls++[.reconnect]⟩) := by
        have hasked : (around d weather fallback).connect w₁.env=(result,link') := hresult
        simp only [DesktopCollector.openTransport,hasked]
      have honward := hlater₁.trans hlater₂
      simp only [hopened]
      obtain ⟨failure,rfl,hrefused⟩ | ⟨rfl,hconnection⟩ := hcases
      · exact noted_settled fallback hsound₂ honward hservice
          (.refused hlater₁.tick (by simp only; omega) hrefused ⟨rfl,rfl⟩) ()
      · obtain ⟨result,w₃,hgreeted,hlater₃,hsound₃,_,hcases⟩ := session_connects fallback
          ⟨link',w₁.calls++[.reconnect]⟩ hnumbers hd hsound₂ hconnection honward
        simp only [hgreeted]
        obtain ⟨failure,rfl,hexcused⟩ | ⟨session,rfl,hopened⟩ := hcases
        · exact noted_settled fallback hsound₃ (honward.trans hlater₃) hservice hexcused ()
        · refine ⟨honward.trans hlater₃,hsound₃,fun other hother => ?_,fun _ h => (by cases h)⟩
          cases hother
          rw [hopened.running]
          exact hopened.toReady

variable (fallback) in
theorem readService_settled (hd : Deployed d) (hw : Sound d weather w.env)
    (hs : Later start w.env)
    (hheld : ∀ session, s.service=some session → Ready d w.env.running session w.env) :
    Settled d weather start (s.readService (around d weather fallback) w) ∧
      ∀ sample, (s.readService (around d weather fallback) w).result=some sample →
        Shown d start (s.readService (around d weather fallback) w).world.env sample := by
  rw [DesktopCollector.readService]
  cases hservice : s.service with
  | none =>
    refine ⟨⟨hs,hw,fun session hsession => ?_,fun _ h => (by cases h)⟩,fun _ h => (by cases h)⟩
    rw [hservice] at hsession
    cases hsession
  | some session =>
    obtain ⟨result,session',w',hresult,hlater,hsound,hfaithful⟩ :=
      latestSample_sound fallback hnumbers hd hw hs hs.running (hheld session hservice)
    simp only [hresult]
    cases result with
    | error failure =>
      exact ⟨noted_settled fallback hsound (hs.trans hlater) rfl hfaithful none,
        fun _ h => (by cases h)⟩
    | ok sample =>
      obtain ⟨hshown,hready,hrunning⟩ := hfaithful
      refine ⟨⟨hs.trans hlater,hsound,fun other hother => ?_,fun _ h => (by cases h)⟩,
        fun shown hsample => ?_⟩
      · cases hother
        rw [hrunning]
        exact hready
      · cases hsample
        exact hshown

omit hnumbers in
variable (fallback) in
theorem collectStandard_settled (hw : Sound d weather w.env) (hs : Later start w.env)
    (hheld : ∀ session, s.service=some session → Ready d w.env.running session w.env)
    {noted : Option ClientFailure}
    (hexcused : ∀ failure, noted=some failure → Excused d weather start w.env failure) :
    Settled d weather start (s.collectStandard (around d weather fallback) noted w) ∧
      ∀ sample, (s.collectStandard (around d weather fallback) noted w).result≠
        .ok (.service sample) := by
  have hasked : (around d weather fallback).fallback w.env=(fallback w.env,w.env) := rfl
  obtain ⟨nowMs,w₁,hwire,hlater,hsound,hkept,hrunning⟩ := wireNowIn_sound fallback hw
  rw [DesktopCollector.collectStandard]
  simp only [hasked,hwire]
  cases fallback w.env with
  | error failure => exact ⟨⟨hs,hw,hheld,hexcused⟩,fun _ h => (by cases h)⟩
  | ok sample =>
    refine ⟨⟨hs.trans hlater,hsound,fun session hsession => ?_,
      fun failure hnoted => (hexcused failure hnoted).later hlater⟩,fun _ h => (by cases h)⟩
    rw [hrunning]
    exact (hheld session hsession).later hlater (hkept _)

variable (fallback) in
/-- One collection. -/
theorem collect_settled (hd : Deployed d) (hw : Sound d weather w.env)
    (hheld : ∀ session, s.service=some session → Ready d w.env.running session w.env) :
    Settled d weather w.env (s.collect (around d weather fallback) w) ∧
      ∀ sample, (s.collect (around d weather fallback) w).result=.ok (.service sample) →
        Shown d w.env (s.collect (around d weather fallback) w).world.env sample := by
  have hconnected := connectService_settled fallback hnumbers hd hw hheld
  obtain ⟨hread,hshown⟩ := readService_settled fallback hnumbers hd hconnected.sound
    hconnected.later hconnected.held
  have honward := (readService_settled fallback hnumbers hd hconnected.sound (.refl _)
    hconnected.held).1.later
  rw [DesktopCollector.collect]
  generalize s.connectService (around d weather fallback) w=connected
    at hconnected hread hshown honward
  generalize connected.collector.readService (around d weather fallback) connected.world=read
    at hread hshown honward
  cases hresult : read.result with
  | some sample =>
    refine ⟨⟨hread.later,hread.sound,hread.held,fun _ h => (by cases h)⟩,fun shown hsample => ?_⟩
    cases hsample
    exact hshown sample hresult
  | none =>
    have hexcused : ∀ failure, connected.noted.or read.noted=some failure →
        Excused d weather w.env read.world.env failure := by
      intro failure hnoted
      obtain hnoted | ⟨_,hnoted⟩ := Option.or_eq_some_iff.1 hnoted
      · exact (hconnected.excused failure hnoted).later honward
      · exact hread.excused failure hnoted
    obtain ⟨hsettled,hstandard⟩ := collectStandard_settled fallback hread.sound hread.later
      hread.held hexcused
    exact ⟨hsettled,fun sample hsample => absurd hsample (hstandard sample)⟩

variable (fallback) in
/-- Every collection of a run. -/
theorem collections_settled (hd : Deployed d) (turns : Nat) (hw : Sound d weather w.env)
    (hheld : ∀ session, s.service=some session → Ready d w.env.running session w.env) :
    ∀ c∈DesktopCollector.collections (around d weather fallback) turns s w,
      Settled d weather c.world.env c.turn ∧
        ∀ sample, c.turn.result=.ok (.service sample) →
          Shown d c.world.env c.turn.world.env sample := by
  induction turns generalizing s w with
  | zero => simp [DesktopCollector.collections]
  | succ turns ih =>
    intro c hc
    have hone := collect_settled fallback hnumbers hd hw hheld
    simp only [DesktopCollector.collections,List.mem_cons] at hc
    obtain rfl | hc := hc
    · exact hone
    · exact ih hone.1.sound hone.1.held c hc

end Collecting

/-- Whatever the weather: a sample of the service that the desktop shows is one that the service
published, no older than the last that was published when the collection began, under the
identity of the process that published it; and a failure that a collection notes is a lost or a
refused connection, what the service had to say, or its restart. -/
theorem collections_show_what_was_published (hd : Deployed d)
    (hnumbers : ∀ k, publishedBefore weather k < u64Max) (now turns : Nat) :
    ∀ c∈DesktopCollector.collections (around d weather fallback) turns (.new now) ⟨{},[]⟩,
      (∀ sample, c.turn.result=.ok (.service sample) →
        Shown d c.world.env c.turn.world.env sample) ∧
      ∀ failure, c.turn.noted=some failure →
        Excused d weather c.world.env c.turn.world.env failure := by
  intro c hc
  have hstart : Sound d weather ({} : Link σ μ) :=
    ⟨⟨nofun,Nat.le_refl _,Nat.le_refl _,fun _ => rfl,nofun⟩,Nat.le_refl _⟩
  have hnone : ∀ session, (DesktopCollector.new now : DesktopCollector μ Nat).service=some session →
      Ready d ({} : Link σ μ).running session ({} : Link σ μ) := by simp [DesktopCollector.new]
  obtain ⟨hsettled,hshown⟩ := collections_settled fallback hnumbers hd turns hstart hnone c hc
  exact ⟨hshown,hsettled.excused⟩

section Station
open BatCave.Lib.Text

def stationRelease : ReleaseIdentityV1 := ⟨"1.4.0",none⟩

/-- The first run of the service's process is one instance, what comes after another. -/
def stationIdentity (n : Nat) : ServiceIdentityV1 :=
  ⟨collectorServiceName,"1.4.0",stationRelease,if n=0 then "instance-1" else "instance-2",
    collectorServiceProtocolVersion,"1.0.0",.contract⟩

/-- What is measured, besides what stays zero. -/
structure StationMetrics where
  cpuPercent : Nat
  memoryUsed : Nat
  deriving DecidableEq

section Requests

def decimal (n : Nat) : List UInt8 := (Nat.toDigits 10 n).map (fun c => c.toNat.toUInt8)

def helloJson : List UInt8 :=
  utf8 ("\x7b\"protocol_version\":1,\"request_id\":1,\"operation\":\x7b\"kind\":\"negotiate\","++
    "\"payload\":\x7b\"minimum_protocol_version\":1,\"maximum_protocol_version\":1,"++
    "\"desktop_release\":\x7b\"app_version\":\"1.4.0\",\"source_commit_sha\":null\x7d\x7d\x7d\x7d")

def messageHead : List UInt8 := utf8 "\x7b\"protocol_version\":1,\"request_id\":"

def latestMiddle : List UInt8 :=
  utf8 ",\"operation\":\x7b\"kind\":\"latest_snapshot\",\"payload\":\x7b\"after_sample_seq\":"

def latestTail : List UInt8 := utf8 "\x7d\x7d\x7d"

def latestJson (requestId : Nat) (afterSampleSeq : Option Nat) : List UInt8 :=
  messageHead++(decimal requestId++(latestMiddle++
    (afterSampleSeq.elim (utf8 "null") decimal++latestTail)))

/-- The JSON of the requests that a desktop makes. -/
def stationRequestToVec (request : ClientRequestV1) : Option (List UInt8) :=
  match request.operation with
  | .negotiate _ => some helloJson
  | .latestSnapshot afterSampleSeq => some (latestJson request.requestId afterSampleSeq)
  | _ => none

def isDigitByte (b : UInt8) : Bool := 48 ≤ b && b ≤ 57

/-- The number in front, and what follows it. -/
def readNumber (bytes : List UInt8) : Nat × List UInt8 :=
  (Nat.ofDigitChars 10 ((bytes.takeWhile isDigitByte).map (fun b => Char.ofNat b.toNat)) 0,
    bytes.dropWhile isDigitByte)

/-- What follows these bytes. -/
def readPast (front bytes : List UInt8) : Option (List UInt8) :=
  if bytes.take front.length=front then some (bytes.drop front.length) else none

def readLatest (bytes : List UInt8) : Option ClientRequestV1 := do
  let (requestId,rest) := readNumber (← readPast messageHead bytes)
  let rest ← readPast latestMiddle rest
  if rest=utf8 "null"++latestTail then
    some ⟨collectorServiceProtocolVersion,requestId,.latestSnapshot none⟩
  else
    let (after,rest) := readNumber rest
    if rest=latestTail then
      some ⟨collectorServiceProtocolVersion,requestId,.latestSnapshot (some after)⟩
    else none

def helloRequest : ClientRequestV1 :=
  ⟨collectorServiceProtocolVersion,1,.negotiate ⟨collectorServiceProtocolVersion,
    collectorServiceProtocolVersion,stationRelease⟩⟩

def stationRequestFromSlice (bytes : List UInt8) : Option ClientRequestV1 :=
  (readLatest bytes).or (if bytes=helloJson then some helloRequest else none)

theorem digit_byte {c : Char} (h : c.isDigit=true) : isDigitByte c.toNat.toUInt8=true ∧
    Char.ofNat c.toNat.toUInt8.toNat=c := by
  obtain ⟨hlow,hhigh⟩ := Char.isDigit_iff_toNat.mp h
  have hlow' : 48 ≤ c.toNat := hlow
  have hhigh' : c.toNat ≤ 57 := hhigh
  have hbyte : c.toNat.toUInt8.toNat=c.toNat := Nat.mod_eq_of_lt (by omega)
  refine ⟨?_,by rw [hbyte,Char.ofNat_toNat]⟩
  rw [isDigitByte,Bool.and_eq_true,decide_eq_true_eq,decide_eq_true_eq,UInt8.le_iff_toNat_le,
    UInt8.le_iff_toNat_le,hbyte]
  exact ⟨hlow',hhigh'⟩

/-- A number is read back up to what is no digit. -/
theorem readNumber_decimal (n : Nat) {b : UInt8} (rest : List UInt8) (h : isDigitByte b=false) :
    readNumber (decimal n++b::rest)=(n,b::rest) := by
  have hdigits : ∀ c∈Nat.toDigits 10 n, c.isDigit=true :=
    fun c hc => Nat.isDigit_of_mem_toDigits (by decide) (by decide) hc
  have hall : ∀ b∈decimal n, isDigitByte b=true := by
    intro b hb
    obtain ⟨c,hc,rfl⟩ := List.mem_map.mp hb
    exact (digit_byte (hdigits c hc)).1
  have hback : (decimal n).map (fun b => Char.ofNat b.toNat)=Nat.toDigits 10 n := by
    rw [decimal,List.map_map]
    exact (List.map_congr_left fun c hc => (digit_byte (hdigits c hc)).2).trans (List.map_id _)
  rw [readNumber,List.takeWhile_append_of_pos hall,List.dropWhile_append_of_pos hall,
    List.takeWhile_cons_of_neg (by simp [h]),List.dropWhile_cons_of_neg (by simp [h]),
    List.append_nil,hback,Nat.ofDigitChars_ten_toDigits]

theorem decimal_length {n : Nat} (h : n < u64Max) : (decimal n).length ≤ 20 := by
  rw [decimal,List.length_map]
  exact (Nat.length_toDigits_le_iff (by decide) (by decide)).mpr
    (Nat.lt_of_lt_of_le h (by decide))

@[simp] theorem readPast_append (front rest : List UInt8) :
    readPast front (front++rest)=some rest := by
  rw [readPast,if_pos List.take_left,List.drop_left]

/-- The fixed texts of a request for the latest snapshot. -/
theorem latest_texts : latestMiddle=44::latestMiddle.tail ∧ latestTail=[125,125,125] ∧
    0 < messageHead.length ∧ messageHead.length ≤ 40 ∧ latestMiddle.length ≤ 80 ∧
    (readNumber (utf8 "null"++latestTail)).2≠latestTail ∧ (utf8 "null").length ≤ 20 := by
  decide

theorem readLatest_latestJson (requestId : Nat) (afterSampleSeq : Option Nat) :
    readLatest (latestJson requestId afterSampleSeq)=
      some ⟨collectorServiceProtocolVersion,requestId,.latestSnapshot afterSampleSeq⟩ := by
  obtain ⟨hmiddle,htail,-,-,-,hnull,-⟩ := latest_texts
  have hid (rest : List UInt8) :
      readNumber (decimal requestId++(latestMiddle++rest))=(requestId,latestMiddle++rest) := by
    rw [hmiddle,List.cons_append]
    exact readNumber_decimal _ _ (by decide)
  rw [latestJson,readLatest,readPast_append,Option.bind_eq_bind,Option.bind_some,hid]
  simp only [readPast_append,Option.bind_some]
  cases afterSampleSeq with
  | none => exact if_pos rfl
  | some after =>
    have hafter : readNumber (decimal after++latestTail)=(after,latestTail) := by
      rw [htail]
      exact readNumber_decimal _ _ (by decide)
    have hdiffer : ¬decimal after++latestTail=utf8 "null"++latestTail := by
      intro heq
      rw [← heq,hafter] at hnull
      exact hnull rfl
    simp only [Option.elim_some,if_neg hdiffer,hafter,if_true]

theorem latestJson_payload {requestId : Nat} {afterSampleSeq : Option Nat}
    (hid : requestId < u64Max) (hafter : ∀ after, afterSampleSeq=some after → after < u64Max) :
    Payload (latestJson requestId afterSampleSeq) := by
  obtain ⟨-,htail,hpositive,hhead,hmiddle,-,hnull⟩ := latest_texts
  have htail' : latestTail.length=3 := congrArg List.length htail
  have hlast : (afterSampleSeq.elim (utf8 "null") decimal).length ≤ 20 := by
    cases afterSampleSeq with
    | none => exact hnull
    | some after => exact decimal_length (hafter after rfl)
  have hfirst := decimal_length hid
  have hmax : maxFrameBytes=8388608 := rfl
  rw [Payload,latestJson,List.length_append,List.length_append,List.length_append,
    List.length_append]
  omega

end Requests

section Responses

def instanceJson (n : Nat) : List UInt8 := utf8 (if n=0 then "\"instance-1\"" else "\"instance-2\"")

def greetingJson (n : Nat) : List UInt8 :=
  messageHead++(decimal 1++(utf8 (",\"outcome\":\x7b\"kind\":\"negotiated\",\"payload\":\x7b"++
    "\"negotiated_protocol_version\":1,\"service\":\x7b\"service_name\":\"BatCaveCollector\","++
    "\"service_version\":\"1.4.0\",\"release\":\x7b\"app_version\":\"1.4.0\","++
    "\"source_commit_sha\":null\x7d,\"instance_id\":")++(instanceJson n++
    utf8 (",\"protocol_version\":1,\"minimum_desktop_version\":\"1.0.0\",\"limits\":\x7b"++
    "\"maximum_frame_bytes\":8388608,\"maximum_process_count\":5000,"++
    "\"maximum_string_bytes\":32768,\"maximum_clients\":8\x7d\x7d\x7d\x7d\x7d"))))

def notReadyJson (requestId : Nat) : List UInt8 :=
  messageHead++(decimal requestId++utf8 (",\"outcome\":\x7b\"kind\":\"error\",\"payload\":\x7b"++
    "\"code\":\"incompatible\",\"detail\":\"collector_service_snapshot_not_ready\"\x7d\x7d\x7d"))

def snapshotMiddle (kind : String) : List UInt8 :=
  utf8 (",\"outcome\":\x7b\"kind\":\"latest_snapshot\",\"payload\":\x7b\"kind\":"++kind++
    ",\"payload\":\x7b")

def unchangedJson (requestId n sampleSeq : Nat) : List UInt8 :=
  messageHead++(decimal requestId++(snapshotMiddle "\"unchanged\""++
    (utf8 "\"service_instance_id\":"++(instanceJson n++(utf8 ",\"sample_seq\":"++
    (decimal sampleSeq++utf8 "\x7d\x7d\x7d\x7d"))))))

/-- A machine without a process that could be listed. -/
def snapshotJson (requestId n : Nat) (snapshot : CollectorSnapshotV1 StationMetrics) :
    List UInt8 :=
  messageHead++(decimal requestId++(snapshotMiddle "\"snapshot\""++
    (utf8 "\"snapshot_schema_version\":1,\"service_instance_id\":"++(instanceJson n++
    (utf8 ",\"sample_seq\":"++(decimal snapshot.sampleSeq++(utf8 ",\"sampled_at_ms\":"++
    (decimal snapshot.sampledAtMs++(utf8 ",\"collection_latency_ms\":"++
    (decimal snapshot.collectionLatencyMs++(utf8 (",\"collector_state\":\"healthy\","++
    "\"system\":\x7b\"cpu_percent\":")++(decimal snapshot.metrics.cpuPercent++
    (utf8 (".0,\"kernel_cpu_percent\":0.0,\"logical_cpu_percent\":[],"++
    "\"memory_used_bytes\":")++(decimal snapshot.metrics.memoryUsed++
    utf8 (",\"memory_total_bytes\":8589934592,\"process_count\":0,"++
    "\"disk_read_total_bytes\":0,\"disk_write_total_bytes\":0,\"disk_read_bps\":0,"++
    "\"disk_write_bps\":0,\"network_received_total_bytes\":0,"++
    "\"network_transmitted_total_bytes\":0,\"network_received_bps\":0,"++
    "\"network_transmitted_bps\":0\x7d,\"processes\":[],\"warnings\":[]"++
    "\x7d\x7d\x7d\x7d")))))))))))))))

def stationSnapshot (n sampleSeq sampledAtMs cpuPercent memoryUsed : Nat) :
    CollectorSnapshotV1 StationMetrics :=
  ⟨collectorSnapshotSchemaVersion,(stationIdentity n).instanceId,sampleSeq,sampledAtMs,40,
    ⟨cpuPercent,memoryUsed⟩⟩

def stationAnswer (requestId : Nat) (outcome : ServiceOutcomeV1 StationMetrics) :
    ServiceResponseV1 StationMetrics := ⟨collectorServiceProtocolVersion,requestId,outcome⟩

def greetingAnswer (n : Nat) : ServiceResponseV1 StationMetrics :=
  stationAnswer 1 (.negotiated ⟨collectorServiceProtocolVersion,stationIdentity n⟩)

/-- What the service answers in this run, with its JSON. -/
def stationAnswers : List (ServiceResponseV1 StationMetrics × List UInt8) :=
  [(greetingAnswer 0,greetingJson 0),(greetingAnswer 1,greetingJson 1),
    (stationAnswer 2 (.error (incompatible "collector_service_snapshot_not_ready")),
      notReadyJson 2),
    (stationAnswer 2 (.latestSnapshot (.snapshot (stationSnapshot 0 1 1000 12 1024))),
      snapshotJson 2 0 (stationSnapshot 0 1 1000 12 1024)),
    (stationAnswer 3 (.latestSnapshot (.unchanged ⟨"instance-1",1⟩)),unchangedJson 3 0 1),
    (stationAnswer 2 (.latestSnapshot (.snapshot (stationSnapshot 0 2 2000 13 2048))),
      snapshotJson 2 0 (stationSnapshot 0 2 2000 13 2048)),
    (stationAnswer 2 (.latestSnapshot (.snapshot (stationSnapshot 1 1 3000 14 4096))),
      snapshotJson 2 1 (stationSnapshot 1 1 3000 14 4096))]

def stationResponseToVec (response : ServiceResponseV1 StationMetrics) : Option (List UInt8) :=
  (stationAnswers.find? (fun answer => answer.1=response)).map Prod.snd

def stationResponseFromSlice (bytes : List UInt8) : Option (ServiceResponseV1 StationMetrics) :=
  (stationAnswers.find? (fun answer => answer.2=bytes)).map Prod.fst

end Responses

/-- A desktop and a service of one release. -/
def station : Deployment StationMetrics StationMetrics where
  wire :=
    { requestToVec := stationRequestToVec
      requestFromSlice := stationRequestFromSlice
      requestId := fun p => (stationRequestFromSlice p).map ClientRequestV1.requestId
      responseToVec := stationResponseToVec
      responseFromSlice := stationResponseFromSlice
      toWire := .ok
      validateMetrics := fun _ => .ok () }
  desktopRelease := stationRelease
  desktopPeer := ⟨3,5,1,.replicate 32 1,.replicate 32 2,stationRelease,.collectorClient⟩
  process := fun n => ⟨stationIdentity n,⟨0,0⟩⟩
  servicePeer := fun n => ⟨700+n,n,[1],[2],stationRelease⟩

theorem encodeResponse_written {response : ServiceResponseV1 StationMetrics} {close : Bool}
    {p : List UInt8} (hvalid : station.wire.checks.validateResponse response=.ok ())
    (hwritten : stationResponseToVec response=some p) (hp : Payload p) :
    station.wire.checks.encodeResponse response close=.ok ⟨frame p,close⟩ := by
  have hframe : encodeJsonFrame station.wire.checks.toVec response=.ok (frame p) := by
    rw [encodeJsonFrame,show station.wire.checks.toVec response=some p from hwritten]
    exact encodePayload_frame hp
  rw [SessionParts.encodeResponse,hvalid,hframe]
  rfl

set_option maxRecDepth 4000 in
theorem stationAnswers_read : ∀ answer∈stationAnswers,
    stationResponseFromSlice answer.2=some answer.1 := by decide

set_option maxRecDepth 2000 in
theorem station_deployed : Deployed station where
  identity := by
    intro n
    cases n with
    | zero => decide
    | succ n => exact (by decide : validateServiceIdentity (stationIdentity 1)=.ok ())
  release := fun _ => rfl
  peerRelease := fun _ => rfl
  peers := by
    intro n m h
    have hpids : 700+n=700+m := congrArg VerifiedServicePeer.processId h
    exact Nat.add_left_cancel hpids
  client := rfl
  clientRelease := rfl
  hello := ⟨helloJson,rfl,⟨by decide,by decide⟩,by decide,by decide⟩
  request := by
    intro requestId afterSampleSeq hid hafter
    have hread : stationRequestFromSlice (latestJson requestId afterSampleSeq)=
        some ⟨collectorServiceProtocolVersion,requestId,.latestSnapshot afterSampleSeq⟩ := by
      rw [stationRequestFromSlice,readLatest_latestJson,Option.some_or]
    refine ⟨_,rfl,latestJson_payload (Nat.lt_of_le_of_lt hid (by decide)) hafter,hread,?_⟩
    exact congrArg (Option.map ClientRequestV1.requestId) hread
  greeting := by
    intro n
    cases n with
    | zero => exact ⟨_,encodeResponse_written (by decide) rfl ⟨by decide,by decide⟩⟩
    | succ n => exact ⟨_,@encodeResponse_written (greetingAnswer 1) false _ (by decide) rfl
        ⟨by decide,by decide⟩⟩
  response := by
    intro response p h _
    obtain ⟨answer,hfound,rfl⟩ := Option.map_eq_some_iff.mp h
    have hmem := List.mem_of_find?_eq_some hfound
    have hresponse : answer.1=response := of_decide_eq_true (p := answer.1=response) <| by
      simpa using List.find?_some hfound
    rw [← hresponse]
    exact stationAnswers_read answer hmem

def sampleEvent (cpuPercent memoryUsed : Nat) : CollectorEvent StationMetrics :=
  .sample ⟨0,0,40,⟨cpuPercent,memoryUsed⟩⟩

/-- Bytes in pieces at the second collection, a reply that is cut short at the fourth, a new
process before the fifth, and three samples on the way. -/
def stationWeather (k : Nat) : Weather StationMetrics where
  happenings :=
    if k=11 then [.published (sampleEvent 12 1024) (1000*10^6) 40.0]
    else if k=23 then [.published (sampleEvent 13 2048) (2000*10^6) 40.0]
    else if k=31 then [.restarted]
    else if k=39 then [.published (sampleEvent 14 4096) (3000*10^6) 40.0]
    else []
  lostReply := if k=23 then some (100,"collector_service_client_read_failed") else none
  requestCuts := if k=15 then [3,50] else []
  replyCuts := if k=15 then [2,2,300] else []
  clock := k*6*10^9

theorem station_numbers (k : Nat) : publishedBefore stationWeather k < u64Max := by
  have hcount : publishedBefore stationWeather k ≤
      (if 11 < k then 1 else 0)+(if 23 < k then 1 else 0)+(if 39 < k then 1 else 0) := by
    induction k with
    | zero => exact Nat.zero_le _
    | succ k ih =>
      have hnow : (stationWeather k).happenings.countP Happening.publishes=
          if k=11 ∨ k=23 ∨ k=39 then 1 else 0 := by
        simp only [stationWeather]
        split_ifs <;> first | rfl | omega
      rw [publishedBefore,hnow]
      split_ifs at ih ⊢ <;> omega
  have hthree : (3 : Nat) < u64Max := by decide
  split_ifs at hcount <;> omega

/-- What a collection notes, and the sample of the service that it shows. -/
def seen {τ ω φ : Type} (c : DesktopCollector.Collection StationMetrics τ ω φ) :
    Option ClientFailureKind × Option (Option String × Option Nat) :=
  (c.turn.noted.map ClientFailure.kind,match c.turn.result with
    | .ok (.service sample) => some (sample.sourceProvenance.sourceInstanceId,
        sample.sourceProvenance.sourceSampleSeq)
    | _ => none)

set_option maxRecDepth 4000 in
/-- Nothing is published at the first collection; the second and the third show the first
sample, the fourth the second in spite of a lost reply; the fifth finds a new process. -/
theorem station_collections :
    let run := DesktopCollector.collections
      (around station stationWeather (fun _ => .ok ())) 6 (.new 0) ⟨{},[]⟩
    run.map seen=[(some .notReady,none),(none,some (some "instance-1",some 1)),
        (none,some (some "instance-1",some 1)),(none,some (some "instance-1",some 2)),
        (some .restarted,none),(none,some (some "instance-2",some 1))] ∧
      ∀ c∈run, (∀ sample, c.turn.result=.ok (.service sample) →
          Shown station c.world.env c.turn.world.env sample) ∧
        ∀ failure, c.turn.noted=some failure →
          Excused station stationWeather c.world.env c.turn.world.env failure :=
  ⟨by decide,collections_show_what_was_published station_deployed station_numbers 0 6⟩

end Station
end BatCave.CollectorService
