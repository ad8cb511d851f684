import BatCave.CollectorService.Exchange

/-! What holds along every run of the desktop and the service: time goes on, connections end
and a session remembers what its service published. With it what a sample is allowed to be, and
what a failure may come of. -/
namespace BatCave.CollectorService
open BatCave.Lib.Result BatCave.Lib.Word Link
open WireParts (latestOf failureResponse)

section Passing
variable {σ μ : Type} {d : Deployment σ μ} {weather : Nat → Weather σ}
  {link link' link'' : Link σ μ}

/-- What any stretch of a run keeps. -/
structure Later (link link' : Link σ μ) : Prop where
  running : link.running ≤ link'.running
  history : link.history<+:link'.history
  revision : link'.running=link.running → link.revision ≤ link'.revision
  tick : link.tick ≤ link'.tick
  connections : link.connections.length ≤ link'.connections.length

theorem Later.refl (link : Link σ μ) : Later link link :=
  ⟨Nat.le_refl _,List.prefix_refl _,fun _ => Nat.le_refl _,Nat.le_refl _,Nat.le_refl _⟩

theorem Later.trans (h : Later link link') (h' : Later link' link'') : Later link link'' := by
  refine ⟨h.running.trans h'.running,h.history.trans h'.history,fun hsame => ?_,
    h.tick.trans h'.tick,h.connections.trans h'.connections⟩
  have hfirst := h.running
  have hsecond := h'.running
  exact (h.revision (by omega)).trans (h'.revision (by omega))

/-- A connection is as it was, or closed. -/
def Kept (handle : Nat) (link link' : Link σ μ) : Prop :=
  handle < link.connections.length → handle < link'.connections.length ∧
    ∀ c, link'.connections[handle]?=some c → c.isOpen=true → link.connections[handle]?=some c

theorem Kept.refl (handle : Nat) (link : Link σ μ) : Kept handle link link :=
  fun h => ⟨h,fun _ hc _ => hc⟩

theorem Kept.trans {handle : Nat} (h : Kept handle link link') (h' : Kept handle link' link'') :
    Kept handle link link'' := by
  intro hlt
  obtain ⟨hlt',hkept⟩ := h hlt
  obtain ⟨hlt'',hkept'⟩ := h' hlt'
  exact ⟨hlt'',fun c hc hopen => hkept c (hkept' c hc hopen) hopen⟩

/-- What happenings do, when they publish at most so often. -/
structure Passed (d : Deployment σ μ) (count : Nat) (link link' : Link σ μ) : Prop
    extends Later link link' where
  wf : link'.Wf d
  grown : link'.history.length ≤ link.history.length+count
  still : link'.tick=link.tick
  length : link'.connections.length=link.connections.length
  kept : ∀ handle, Kept handle link link'

theorem publish_wf (hwf : link.Wf d) (hsmall : link.history.length < u64Max)
    (event : CollectorEvent σ) (completedAt : Nat) (collectionLatencyMs : Float) :
    (link.publish event completedAt collectionLatencyMs).revision=link.revision+1 ∧
      (link.publish event completedAt collectionLatencyMs).Wf d := by
  have hcounted := hwf.counted
  have hobserved := hwf.observed
  have hnext : satAdd link.revision 1=link.revision+1 := by
    simp only [satAdd]
    omega
  have hrevision : (link.publish event completedAt collectionLatencyMs).revision=
      link.revision+1 := hnext
  have hlength : (link.publish event completedAt collectionLatencyMs).history.length=
      link.history.length+1 := by simp [Link.publish]
  refine ⟨hrevision,?_,by omega,?_,?_,hwf.running⟩
  · intro publication hpublication
    cases hpublication
    exact ⟨by simp only [hnext]; omega,List.mem_append_right _ (List.mem_singleton_self _)⟩
  · rw [hrevision]
    exact hobserved.trans (Nat.le_succ _)
  · intro hequal
    rw [hrevision] at hequal
    exact absurd (hequal ▸ hobserved) (Nat.not_succ_le_self _)

theorem happen_passed (hwf : link.Wf d) (hsmall : link.history.length < u64Max)
    (happening : Happening σ) :
    Passed d (if happening.publishes then 1 else 0) link (link.happen d happening) := by
  cases happening with
  | published event completedAt collectionLatencyMs =>
    obtain ⟨hrevision,hwf'⟩ := publish_wf hwf hsmall event completedAt collectionLatencyMs
    refine ⟨⟨Nat.le_refl _,List.prefix_append _ _,fun _ => ?_,Nat.le_refl _,Nat.le_refl _⟩,hwf',
      ?_,rfl,rfl,fun _ hlt => ⟨hlt,fun _ hc _ => hc⟩⟩
    · have hle := Nat.le_succ link.revision
      rwa [← Nat.add_one,← hrevision] at hle
    · simp [Link.happen,Link.publish,Happening.publishes]
  | polled =>
    have hstate : (link.happen d .polled).state=⟨link.revision,link.current d⟩ :=
      refreshState_current hwf
    refine ⟨⟨Nat.le_refl _,List.prefix_refl _,fun _ => Nat.le_refl _,Nat.le_refl _,Nat.le_refl _⟩,
      ⟨hwf.numbered,hwf.counted,?_,fun _ => ?_,hwf.running⟩,Nat.le_refl _,rfl,rfl,
      fun _ hlt => ⟨hlt,fun _ hc _ => hc⟩⟩
    · rw [hstate]
      exact Nat.le_refl _
    · rw [hstate]
      rfl
  | closed handle =>
    have hclosed : ∀ (i : Nat) c, (link.happen d (.closed handle)).connections[i]?=some c →
        c.isOpen=true → link.connections[i]?=some c := by
      intro i c hc hopen
      have hmodified : (link.connections.modify handle Link.close)[i]?=some c := hc
      rw [List.getElem?_modify] at hmodified
      obtain ⟨before,hbefore,rfl⟩ := Option.map_eq_some_iff.1 hmodified
      split at hopen
      · cases hopen
      · rw [if_neg (by assumption)]
        exact hbefore
    have hlength := List.length_modify Link.close link.connections handle
    refine ⟨⟨Nat.le_refl _,List.prefix_refl _,fun _ => Nat.le_refl _,Nat.le_refl _,hlength.ge⟩,
      ⟨hwf.numbered,hwf.counted,hwf.observed,hwf.available,?_⟩,Nat.le_refl _,rfl,hlength,
      fun i hlt => ⟨?_,hclosed i⟩⟩
    · intro c hmem hopen
      obtain ⟨i,hi⟩ := List.mem_iff_getElem?.1 hmem
      exact hwf.running c (List.mem_of_getElem? (hclosed i c hi hopen)) hopen
    · exact lt_of_lt_of_eq hlt (List.length_modify _ _ _).symm
  | restarted =>
    have hnone : ∀ c∈link.connections.map Link.close, c.isOpen≠true := by
      intro c hmem
      obtain ⟨before,_,rfl⟩ := List.mem_map.1 hmem
      simp [Link.close]
    refine ⟨⟨Nat.le_succ _,List.prefix_refl _,fun hsame => absurd hsame (Nat.succ_ne_self _),
      Nat.le_refl _,(List.length_map _).ge⟩,⟨nofun,Nat.zero_le _,Nat.le_refl _,fun _ => rfl,
        fun c hmem hopen => absurd hopen (hnone c hmem)⟩,Nat.le_refl _,rfl,List.length_map _,
      fun i hlt => ⟨lt_of_lt_of_eq hlt (List.length_map _).symm,
        fun c hc hopen => absurd hopen (hnone c (List.mem_of_getElem? hc))⟩⟩

/-- A run that is well formed and published no more than the weather says. -/
structure Sound (d : Deployment σ μ) (weather : Nat → Weather σ) (link : Link σ μ) : Prop
    extends link.Wf d where
  published : link.history.length ≤ publishedBefore weather link.tick

theorem happens_passed (happenings : List (Happening σ)) (link : Link σ μ) (hwf : link.Wf d)
    (hsmall : link.history.length+happenings.countP Happening.publishes < u64Max) :
    Passed d (happenings.countP Happening.publishes) link
      (happenings.foldl (happen d) link) := by
  induction happenings generalizing link with
  | nil => exact ⟨.refl _,hwf,Nat.le_refl _,rfl,rfl,fun _ => .refl _ _⟩
  | cons happening happenings ih =>
    rw [List.countP_cons] at hsmall ⊢
    have hone := happen_passed hwf (by omega) happening
    have hgrown := hone.grown
    have hrest := ih _ hone.wf (by omega)
    have hgrown' := hrest.grown
    rw [List.foldl_cons]
    exact ⟨hone.toLater.trans hrest.toLater,hrest.wf,by omega,hrest.still.trans hone.still,
      hrest.length.trans hone.length,fun handle => (hone.kept handle).trans (hrest.kept handle)⟩

theorem clock_sound (hw : Sound d weather link) :
    Later link (clock weather link).2 ∧ Sound d weather (clock weather link).2 ∧
      (∀ handle, Kept handle link (clock weather link).2) ∧
      (clock weather link).2.running=link.running := by
  have hgrows : publishedBefore weather link.tick ≤ publishedBefore weather (link.tick+1) :=
    Nat.le_add_right _ _
  exact ⟨⟨Nat.le_refl _,List.prefix_refl _,fun _ => Nat.le_refl _,Nat.le_succ _,Nat.le_refl _⟩,
    ⟨⟨hw.numbered,hw.counted,hw.observed,hw.available,hw.running⟩,hw.published.trans hgrows⟩,
    fun _ hlt => ⟨hlt,fun _ hc _ => hc⟩,rfl⟩

variable (hnumbers : ∀ k, publishedBefore weather k < u64Max)
include hnumbers

/-- What happens before a call is heard: time goes on. -/
theorem pass_sound (hw : Sound d weather link) :
    (link.pass d weather).1=weather link.tick ∧ Later link (link.pass d weather).2 ∧
      Sound d weather (link.pass d weather).2 ∧ (link.pass d weather).2.tick=link.tick+1 ∧
      (link.pass d weather).2.connections.length=link.connections.length ∧
      ∀ handle, Kept handle link (link.pass d weather).2 := by
  have hpublished := hw.published
  have hnext : publishedBefore weather (link.tick+1)=publishedBefore weather link.tick+
      (weather link.tick).happenings.countP Happening.publishes := rfl
  have hsmall := hnumbers (link.tick+1)
  have hpassed := happens_passed (weather link.tick).happenings
    { link with tick := link.tick+1 } (d := d)
    ⟨hw.numbered,hw.counted,hw.observed,hw.available,hw.running⟩ (by simp only; omega)
  have hgrown := hpassed.grown
  have hstill := hpassed.still
  refine ⟨rfl,⟨hpassed.running,hpassed.history,hpassed.revision,
    (Nat.le_succ _).trans hpassed.tick,hpassed.connections⟩,⟨hpassed.wf,?_⟩,hstill,
    hpassed.length,hpassed.kept⟩
  simp only at hgrown hstill
  rw [Link.pass]
  dsimp only
  rw [hstill,hnext]
  omega

/-- A connection is refused, or opened to the process that runs. -/
theorem connect_sound (hw : Sound d weather link) :
    ∃ result link', link.connect d weather=(result,link') ∧ Later link link' ∧
      Sound d weather link' ∧ link'.tick=link.tick+1 ∧ (∀ handle, Kept handle link link') ∧
      ((∃ failure, result=.error failure ∧ (weather link.tick).refused=some failure) ∨
        result=.ok ⟨d.servicePeer link'.running,link.connections.length⟩ ∧
          link'.connections[link.connections.length]?=some { process := link'.running }) := by
  obtain ⟨hnow,hlater,hsound,htick,hlength,hkept⟩ := pass_sound hnumbers hw
  rw [connect]
  generalize link.pass d weather=passed at hnow hlater hsound htick hlength hkept
  obtain ⟨now,mid⟩ := passed
  obtain rfl := hnow
  dsimp only at hlater hsound htick hlength hkept ⊢
  cases hrefused : (weather link.tick).refused with
  | some failure =>
    exact ⟨_,_,rfl,hlater,hsound,htick,hkept,.inl ⟨failure,rfl,rfl⟩⟩
  | none =>
    refine ⟨_,_,rfl,⟨hlater.running,hlater.history,hlater.revision,hlater.tick,?_⟩,
      ⟨⟨hsound.numbered,hsound.counted,hsound.observed,hsound.available,?_⟩,hsound.published⟩,
      htick,?_,.inr ⟨by rw [hlength],by simp [← hlength]⟩⟩
    · exact hlater.connections.trans (List.length_append ▸ Nat.le_add_right _ _)
    · intro c hmem hopen
      obtain hmem | hmem := List.mem_append.1 hmem
      · exact hsound.running c hmem hopen
      · obtain rfl := List.mem_singleton.1 hmem
        rfl
    · intro handle hlt
      obtain ⟨hlt',hsame⟩ := hkept handle hlt
      refine ⟨by simp only [List.length_append]; omega,fun c hc hopen => hsame c ?_ hopen⟩
      rwa [List.getElem?_append_left hlt'] at hc

end Passing

section Session
variable {σ μ : Type} {d : Deployment σ μ} {weather : Nat → Weather σ}
  {link link' link'' start : Link σ μ} {n : Nat} {s : ServiceClientSession μ Nat}

theorem availability_ready {process : ServiceProcess} {p : CollectorPublication σ}
    {snapshot : CollectorSnapshotV1 μ} (h : d.wire.availability process p=.ready snapshot) :
    snapshot.sampleSeq=p.revision ∧ snapshot.serviceInstanceId=process.identity.instanceId := by
  rw [WireParts.availability] at h
  split at h
  · split at h
    · next sample snapshot' hmade =>
      cases h
      simp only [WireParts.snapshotFromPublication,bind_ok] at hmade
      obtain ⟨_,_,_,_,_,_,_,_,metrics,_,_,_,hmade⟩ := hmade
      cases hmade
      exact ⟨rfl,rfl⟩
    · cases h
  · cases h
  · cases h
  · cases h

/-- What a session remembers is what its process published, no later than the last of it. -/
structure Retained (d : Deployment σ μ) (n : Nat) (s : ServiceClientSession μ Nat)
    (link : Link σ μ) : Prop where
  seq : s.lastSampleSeq=s.lastSnapshot.map CollectorSnapshotV1.sampleSeq
  known : ∀ snapshot, s.lastSnapshot=some snapshot → ∃ p, (n,p)∈link.history ∧
    d.wire.availability (d.process n) p=.ready snapshot ∧
    (link.running=n → p.revision ≤ link.revision)

/-- A session with the process of this number, which may have come to an end. -/
structure Attached (d : Deployment σ μ) (n : Nat) (s : ServiceClientSession μ Nat)
    (link : Link σ μ) : Prop where
  identity : s.identity=(d.process n).identity
  peer : s.transport.verifiedPeer=d.servicePeer n
  past : n ≤ link.running
  retained : Retained d n s link

/-- A session whose connection is at rest, if it is still open. -/
structure Ready (d : Deployment σ μ) (n : Nat) (s : ServiceClientSession μ Nat)
    (link : Link σ μ) : Prop extends Attached d n s link where
  numbered : s.nextRequestId=s.requestCount+1
  counted : 1 ≤ s.requestCount ∧ s.requestCount ≤ sessionMaxRequests
  exists_connection : s.transport.handle < link.connections.length
  clean : ∀ c, link.connections[s.transport.handle]?=some c → c.isOpen=true →
    c.process=n ∧ Clean d s.requestCount c

theorem Retained.later (h : Retained d n s link) (hpast : n ≤ link.running)
    (hlater : Later link link') : Retained d n s link' := by
  refine ⟨h.seq,fun snapshot hsnapshot => ?_⟩
  obtain ⟨p,hp,havailable,hle⟩ := h.known snapshot hsnapshot
  refine ⟨p,hlater.history.subset hp,havailable,fun hsame => ?_⟩
  have hrunning := hlater.running
  exact (hle (by omega)).trans (hlater.revision (by omega))

theorem Attached.later (h : Attached d n s link) (hlater : Later link link') :
    Attached d n s link' :=
  ⟨h.identity,h.peer,h.past.trans hlater.running,h.retained.later h.past hlater⟩

theorem Ready.later (h : Ready d n s link) (hlater : Later link link')
    (hkept : Kept s.transport.handle link link') : Ready d n s link' := by
  obtain ⟨hlt,hsame⟩ := hkept h.exists_connection
  exact ⟨h.toAttached.later hlater,h.numbered,h.counted,hlt,
    fun c hc hopen => h.clean c (hsame c hc hopen) hopen⟩

/-- Published when the desktop had begun to ask, or last before. -/
def Fresh (start : Link σ μ) (n : Nat) (p : CollectorPublication σ) : Prop :=
  start.running < n ∨ start.running=n ∧ start.revision ≤ p.revision

/-- A sample is one that the service published. -/
def Shown (d : Deployment σ μ) (start after : Link σ μ) (sample : TelemetrySample μ) : Prop :=
  ∃ n p snapshot nowMs, (n,p)∈after.history ∧ Fresh start n p ∧
    d.wire.availability (d.process n) p=.ready snapshot ∧
    sample=sampleFromSnapshot snapshot (activeStatus (d.process n).identity nowMs)

/-- What the service has to say instead of a snapshot: it published nothing, or something that
is no snapshot, or a snapshot that fits no frame. -/
inductive Told (d : Deployment σ μ) (start after : Link σ μ) : ContractFailure → Prop where
  | notReady (h : start.running < after.running ∨ start.revision=0) :
    Told d start after (incompatible "collector_service_snapshot_not_ready")
  | failed {n : Nat} {p : CollectorPublication σ} {failure : ContractFailure}
    (hp : (n,p)∈after.history) (hfresh : Fresh start n p)
    (h : d.wire.availability (d.process n) p=.recoverableFailure failure ∨
      d.wire.availability (d.process n) p=.fatal failure) : Told d start after failure
  | unframed {n requestId : Nat} {p : CollectorPublication σ} {snapshot : CollectorSnapshotV1 μ}
    {latest : LatestSnapshotV1 μ} {failure : ContractFailure} (hp : (n,p)∈after.history)
    (hfresh : Fresh start n p) (hready : d.wire.availability (d.process n) p=.ready snapshot)
    (hlatest : latest=.snapshot snapshot ∨
      latest=.unchanged ⟨snapshot.serviceInstanceId,snapshot.sampleSeq⟩)
    (h : d.wire.checks.encodeResponse
      ⟨collectorServiceProtocolVersion,requestId,.latestSnapshot latest⟩ false=.error failure) :
    Told d start after failure

/-- One failure says what the other says. -/
def Says (failure noted : ClientFailure) : Prop :=
  noted.kind=failure.kind ∧ noted.detail=failure.detail

/-- What a failure between two moments of a run may come of. -/
inductive Excused (d : Deployment σ μ) (weather : Nat → Weather σ) (start after : Link σ μ)
    (noted : ClientFailure) : Prop where
  | lost {k : Nat} {failure : ClientFailure} (hstart : start.tick ≤ k) (hafter : k < after.tick)
    (h : Lost (weather k) failure) (hsaid : Says failure noted)
  | refused {k : Nat} {failure : ClientFailure} (hstart : start.tick ≤ k) (hafter : k < after.tick)
    (h : (weather k).refused=some failure) (hsaid : Says failure noted)
  | told {failure : ContractFailure} (h : Told d start after failure)
    (hsaid : Says (.new (failureKind (failureResponse failure)) (failureResponse failure).detail)
      noted)
  | restarted (hrunning : start.running < after.running) (hkind : noted.kind=.restarted)

theorem fresh_of_later (h : Later start link) {p : CollectorPublication σ}
    (hp : link.revision ≤ p.revision) : Fresh start link.running p := by
  obtain hlt | heq := Nat.lt_or_eq_of_le h.running
  · exact .inl hlt
  · exact .inr ⟨heq,(h.revision heq.symm).trans hp⟩

theorem Told.later {failure : ContractFailure} (h : Told d start link failure)
    (hlater : Later link link') : Told d start link' failure := by
  cases h with
  | notReady h => exact .notReady (h.imp_left fun hlt => lt_of_lt_of_le hlt hlater.running)
  | failed hp hfresh h => exact .failed (hlater.history.subset hp) hfresh h
  | unframed hp hfresh hready hlatest h =>
    exact .unframed (hlater.history.subset hp) hfresh hready hlatest h

theorem Excused.later {noted : ClientFailure} (h : Excused d weather start link noted)
    (hlater : Later link link') : Excused d weather start link' noted := by
  cases h with
  | lost hstart hafter h hsaid => exact .lost hstart (lt_of_lt_of_le hafter hlater.tick) h hsaid
  | refused hstart hafter h hsaid =>
    exact .refused hstart (lt_of_lt_of_le hafter hlater.tick) h hsaid
  | told h hsaid => exact .told (h.later hlater) hsaid
  | restarted hrunning hkind => exact .restarted (lt_of_lt_of_le hrunning hlater.running) hkind

theorem Shown.later {sample : TelemetrySample μ} (h : Shown d start link sample)
    (hlater : Later link link') : Shown d start link' sample := by
  obtain ⟨n,p,snapshot,nowMs,hp,h⟩ := h
  exact ⟨n,p,snapshot,nowMs,hlater.history.subset hp,h⟩

/-- An excuse is for what a failure says, whatever service it names. -/
theorem Excused.of_says {failure noted : ClientFailure} (h : Excused d weather start link failure)
    (hsaid : Says failure noted) : Excused d weather start link noted := by
  obtain ⟨hkind,hdetail⟩ := hsaid
  cases h with
  | lost hstart hafter h hsaid =>
    exact .lost hstart hafter h ⟨hkind.trans hsaid.1,hdetail.trans hsaid.2⟩
  | refused hstart hafter h hsaid =>
    exact .refused hstart hafter h ⟨hkind.trans hsaid.1,hdetail.trans hsaid.2⟩
  | told h hsaid => exact .told h ⟨hkind.trans hsaid.1,hdetail.trans hsaid.2⟩
  | restarted hrunning hrestarted => exact .restarted hrunning (hkind.trans hrestarted)

/-- What the service answers to what a session asks for. -/
theorem latestOf_current (hwf : link.Wf d) (hretained : Retained d link.running s link) :
    (link.revision=0 ∧ latestOf s.lastSampleSeq (link.current d)=
      .error (incompatible "collector_service_snapshot_not_ready")) ∨
    ∃ p, (link.running,p)∈link.history ∧ p.revision=link.revision ∧
      ((∃ failure, latestOf s.lastSampleSeq (link.current d)=.error failure ∧
        (d.wire.availability (d.process link.running) p=.recoverableFailure failure ∨
          d.wire.availability (d.process link.running) p=.fatal failure)) ∨
      ∃ snapshot, d.wire.availability (d.process link.running) p=.ready snapshot ∧
        ((latestOf s.lastSampleSeq (link.current d)=.ok (.snapshot snapshot) ∧
          s.lastSampleSeq.any (fun last => snapshot.sampleSeq ≤ last)=false) ∨
        latestOf s.lastSampleSeq (link.current d)=
            .ok (.unchanged ⟨snapshot.serviceInstanceId,snapshot.sampleSeq⟩) ∧
          s.lastSampleSeq=some snapshot.sampleSeq)) := by
  cases hpublished : link.published with
  | none =>
    left
    rw [Link.revision,Link.current,hpublished]
    exact ⟨rfl,rfl⟩
  | some p =>
    right
    have hrevision : p.revision=link.revision := by rw [Link.revision,hpublished]; rfl
    have hcurrent : link.current d=d.wire.availability (d.process link.running) p := by
      rw [Link.current,hpublished]
      rfl
    refine ⟨p,(hwf.numbered p hpublished).2,hrevision,?_⟩
    rw [hcurrent]
    cases havailable : d.wire.availability (d.process link.running) p with
    | pending =>
      exfalso
      rw [WireParts.availability] at havailable
      split at havailable
      · split at havailable <;> cases havailable
      all_goals cases havailable
    | recoverableFailure failure => exact .inl ⟨failure,rfl,.inl rfl⟩
    | fatal failure => exact .inl ⟨failure,rfl,.inr rfl⟩
    | ready snapshot =>
      right
      refine ⟨snapshot,rfl,?_⟩
      have hseq := (availability_ready havailable).1
      cases hlast : s.lastSampleSeq with
      | none => exact .inl ⟨rfl,rfl⟩
      | some after =>
        have hafter : after ≤ snapshot.sampleSeq := by
          have hseen := hretained.seq
          rw [hlast] at hseen
          obtain ⟨seen,hlastSeen,rfl⟩ := Option.map_eq_some_iff.1 hseen.symm
          obtain ⟨q,_,hq,hle⟩ := hretained.known seen hlastSeen
          rw [(availability_ready hq).1,hseq,hrevision]
          exact hle rfl
        simp only [WireParts.latestOf,if_neg (Nat.not_lt.2 hafter)]
        by_cases heq : after=snapshot.sampleSeq
        · exact .inr ⟨if_pos heq,by rw [heq]⟩
        · refine .inl ⟨if_neg heq,?_⟩
          simp only [Option.any_some,decide_eq_false_iff_not]
          omega

end Session
end BatCave.CollectorService
