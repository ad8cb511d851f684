import BatCave.Network.MacosEngine
import BatCave.Lib.Result

/-! Which event decides a source. Events are applied as they are committed, not by
epoch; the engine's table is compared with the newest committed event, although
the record of a removal is pruned when a query completes. -/
namespace BatCave.MacosNetwork
open BatCave.Lib.Word BatCave.Lib.Table BatCave.Lib.Result BatCave.NetworkAttribution

/-- The entry an event leaves behind. -/
def SourceEvent.state : SourceEvent → Option SourceState
  | .update u =>
    if u.closing then none
    else some ⟨u.pid,u.uniquePid,u.receivedBytes,u.transmittedBytes⟩
  | .removed _ => none

/-- The first event of the greatest order among those of a source. -/
def newest (sourceRef : Nat) (committed : List OrderedSourceEvent) : Option OrderedSourceEvent :=
  (committed.filter (fun e => e.event.sourceRef=sourceRef)).foldl (fun cur e =>
    match cur with
    | none => some e
    | some c => if c.order.before e.order then some e else some c) none

theorem EventOrder.before_irrefl (a : EventOrder) : a.before a=false := by
  simp [EventOrder.before]

theorem EventOrder.before_of_epoch {a b : EventOrder} (h : a.epoch < b.epoch) :
    a.before b=true := by
  simp [EventOrder.before,h]

theorem EventOrder.before_trans {a b c : EventOrder} (hab : a.before b=true)
    (hbc : b.before c=true) : a.before c=true := by
  simp only [EventOrder.before,Bool.or_eq_true,Bool.and_eq_true,decide_eq_true_eq] at *
  omega

theorem newest_snoc (sourceRef : Nat) (committed : List OrderedSourceEvent)
    (e : OrderedSourceEvent) : newest sourceRef (committed++[e])=
      if e.event.sourceRef=sourceRef then
        match newest sourceRef committed with
        | none => some e
        | some c => if c.order.before e.order then some e else some c
      else newest sourceRef committed := by
  by_cases h : e.event.sourceRef=sourceRef <;> simp [newest,h]

/-- It is one of the source's events, and none of them is newer. -/
theorem newest_spec (sourceRef : Nat) (committed : List OrderedSourceEvent) :
    match newest sourceRef committed with
    | none => ∀ c∈committed, c.event.sourceRef≠sourceRef
    | some e => e∈committed ∧ e.event.sourceRef=sourceRef ∧
        ∀ c∈committed, c.event.sourceRef=sourceRef → e.order.before c.order=false := by
  induction committed using List.reverseRecOn with
  | nil => simp [newest]
  | append_singleton committed x ih =>
    rw [newest_snoc]
    by_cases hx : x.event.sourceRef=sourceRef
    · rw [if_pos hx]
      cases hn : newest sourceRef committed with
      | none =>
        rw [hn] at ih
        refine ⟨by simp,hx,?_⟩
        intro c hc hr
        rcases List.mem_append.mp hc with hc | hc
        · exact absurd hr (ih c hc)
        · rw [List.mem_singleton.mp hc]
          exact EventOrder.before_irrefl _
      | some e =>
        rw [hn] at ih
        obtain ⟨he,hr,hmax⟩ := ih
        by_cases hb : e.order.before x.order=true
        · simp only [hb,if_true]
          refine ⟨by simp,hx,?_⟩
          intro c hc hcr
          rcases List.mem_append.mp hc with hc | hc
          · by_contra hxc
            have := EventOrder.before_trans hb (by simpa using hxc)
            rw [hmax c hc hcr] at this
            exact absurd this (by decide)
          · rw [List.mem_singleton.mp hc]
            exact EventOrder.before_irrefl _
        · simp only [hb]
          refine ⟨by simp [he],hr,?_⟩
          intro c hc hcr
          rcases List.mem_append.mp hc with hc | hc
          · exact hmax c hc hcr
          · rw [List.mem_singleton.mp hc]
            simpa using hb
    · rw [if_neg hx]
      cases hn : newest sourceRef committed with
      | none =>
        rw [hn] at ih
        intro c hc
        rcases List.mem_append.mp hc with hc | hc
        · exact ih c hc
        · rw [List.mem_singleton.mp hc]
          exact hx
      | some e =>
        rw [hn] at ih
        obtain ⟨he,hr,hmax⟩ := ih
        refine ⟨by simp [he],hr,?_⟩
        intro c hc hcr
        rcases List.mem_append.mp hc with hc | hc
        · exact hmax c hc hcr
        · rw [List.mem_singleton.mp hc] at hcr
          exact absurd hcr hx

namespace AttributionEngine
variable (e : AttributionEngine) (event : OrderedSourceEvent) (interval : RatesByProcess)

/-- The engine has already applied an event of the source that is no older. -/
def stale : Bool :=
  (e.lastEventOrder.lookup event.event.sourceRef).any (fun last => !last.before event.order)

theorem applyEvent_of_stale (h : e.stale event=true) :
    e.applyEvent event interval=(none,e,interval) := by
  rw [applyEvent]
  exact if_pos h

/-- What an applied event does to the engine. -/
theorem applyEvent_engine (h : e.stale event=false) :
    (e.applyEvent event interval).2.1.lastEventOrder=
      e.lastEventOrder.insert event.event.sourceRef event.order ∧
    (e.applyEvent event interval).2.1.baselineComplete=e.baselineComplete ∧
    ∀ sourceRef, (e.applyEvent event interval).2.1.sources.lookup sourceRef=
      if sourceRef=event.event.sourceRef then event.event.state
      else e.sources.lookup sourceRef := by
  have hs : ¬(e.lastEventOrder.lookup event.event.sourceRef).any
      (fun last => !last.before event.order)=true := by
    rw [stale] at h
    simp [h]
  rw [applyEvent]
  simp only [hs]
  obtain ⟨order,event⟩ := event
  cases event with
  | update u =>
    refine ⟨rfl,rfl,?_⟩
    intro r
    simp only [SourceEvent.sourceRef,SourceEvent.state,applyUpdate]
    by_cases hr : r=u.sourceRef
    · subst hr
      by_cases hc : u.closing=true <;> simp [hc]
    · by_cases hc : u.closing=true
      · simp [hc,hr,AList.lookup_erase_ne hr]
      · simp [hc,hr,AList.lookup_insert_ne hr]
  | removed ref =>
    refine ⟨rfl,rfl,?_⟩
    intro r
    simp only [SourceEvent.sourceRef,SourceEvent.state]
    by_cases hr : r=ref
    · subst hr
      simp
    · simp [hr,AList.lookup_erase_ne hr]

end AttributionEngine

/-- The engine's tables follow the newest committed events. -/
structure Follows (e : AttributionEngine) (committed : List OrderedSourceEvent) : Prop where
  sources : ∀ sourceRef, e.sources.lookup sourceRef=
    (newest sourceRef committed).bind (fun c => c.event.state)
  orders : ∀ sourceRef order, e.lastEventOrder.lookup sourceRef=some order →
    (newest sourceRef committed).map OrderedSourceEvent.order=some order

/-- Sources without a record have only events from before `epoch`. -/
def PrunedBefore (e : AttributionEngine) (committed : List OrderedSourceEvent) (epoch : Nat) :
    Prop :=
  ∀ sourceRef, e.lastEventOrder.lookup sourceRef=none →
    ∀ c∈committed, c.event.sourceRef=sourceRef → c.order.epoch < epoch

theorem lastEventOrder_isSome (e : AttributionEngine) (event : OrderedSourceEvent)
    (interval : RatesByProcess) :
    ((e.applyEvent event interval).2.1.lastEventOrder.lookup event.event.sourceRef).isSome := by
  cases hs : e.stale event with
  | true =>
    rw [e.applyEvent_of_stale event interval hs]
    rw [AttributionEngine.stale] at hs
    cases hl : e.lastEventOrder.lookup event.event.sourceRef with
    | none => simp [hl] at hs
    | some last => rfl
  | false =>
    rw [(e.applyEvent_engine event interval hs).1,AList.lookup_insert]
    rfl

theorem lastEventOrder_other (e : AttributionEngine) (event : OrderedSourceEvent)
    (interval : RatesByProcess) {sourceRef : Nat} (h : sourceRef≠event.event.sourceRef) :
    (e.applyEvent event interval).2.1.lastEventOrder.lookup sourceRef=
      e.lastEventOrder.lookup sourceRef := by
  cases hs : e.stale event with
  | true => rw [e.applyEvent_of_stale event interval hs]
  | false => rw [(e.applyEvent_engine event interval hs).1,AList.lookup_insert_ne h]

/-- Applying an event that is newer than everything pruned keeps the tables in step. -/
theorem Follows.apply {e : AttributionEngine} {committed : List OrderedSourceEvent}
    (h : Follows e committed) (event : OrderedSourceEvent) (interval : RatesByProcess)
    (hp : PrunedBefore e committed event.order.epoch) :
    Follows (e.applyEvent event interval).2.1 (committed++[event]) := by
  have hspec := newest_spec event.event.sourceRef committed
  cases hs : e.stale event with
  | true =>
    -- a record at least as new: the newest event stays the newest
    rw [e.applyEvent_of_stale event interval hs]
    have hsame : ∀ r, newest r (committed++[event])=newest r committed := by
      intro r
      rw [newest_snoc]
      split
      · next hr =>
        subst hr
        rw [AttributionEngine.stale] at hs
        cases hl : e.lastEventOrder.lookup event.event.sourceRef with
        | none => simp [hl] at hs
        | some last =>
          have hlast : last.before event.order=false := by simpa [hl] using hs
          have ho := h.orders _ _ hl
          cases hn : newest event.event.sourceRef committed with
          | none => simp [hn] at ho
          | some c =>
            have hc : c.order=last := by simpa [hn] using ho
            simp [hc,hlast]
      · rfl
    exact ⟨fun r => by rw [hsame]; exact h.sources r,
      fun r o hr => by rw [hsame]; exact h.orders r o hr⟩
  | false =>
    obtain ⟨horder,_,hsrc⟩ := e.applyEvent_engine event interval hs
    have hnew : newest event.event.sourceRef (committed++[event])=some event := by
      rw [newest_snoc,if_pos rfl]
      cases hn : newest event.event.sourceRef committed with
      | none => rfl
      | some c =>
        have hbefore : c.order.before event.order=true := by
          rw [hn] at hspec
          cases hl : e.lastEventOrder.lookup event.event.sourceRef with
          | none => exact EventOrder.before_of_epoch (hp _ hl c hspec.1 hspec.2.1)
          | some last =>
            have ho := h.orders _ _ hl
            have hc : c.order=last := by simpa [hn] using ho
            rw [hc]
            rw [AttributionEngine.stale] at hs
            simpa [hl] using hs
        simp [hbefore]
    have hother : ∀ r, r≠event.event.sourceRef →
        newest r (committed++[event])=newest r committed := by
      intro r hr
      rw [newest_snoc,if_neg (Ne.symm hr)]
    refine ⟨?_,?_⟩
    · intro r
      rw [hsrc]
      by_cases hr : r=event.event.sourceRef
      · subst hr
        simp [hnew]
      · rw [if_neg hr,hother r hr]
        exact h.sources r
    · intro r o ho
      rw [horder] at ho
      by_cases hr : r=event.event.sourceRef
      · subst hr
        rw [AList.lookup_insert] at ho
        rw [hnew]
        exact ho
      · rw [AList.lookup_insert_ne hr] at ho
        rw [hother r hr]
        exact h.orders r o ho

theorem PrunedBefore.apply {e : AttributionEngine} {committed : List OrderedSourceEvent}
    {epoch : Nat} (h : PrunedBefore e committed epoch) (event : OrderedSourceEvent)
    (interval : RatesByProcess) :
    PrunedBefore (e.applyEvent event interval).2.1 (committed++[event]) epoch := by
  intro r hr c hc hcr
  have hne : r≠event.event.sourceRef := by
    rintro rfl
    have := lastEventOrder_isSome e event interval
    simp [hr] at this
  rw [lastEventOrder_other e event interval hne] at hr
  rcases List.mem_append.mp hc with hc | hc
  · exact h r hr c hc hcr
  · rw [List.mem_singleton.mp hc] at hcr
    exact absurd hcr.symm hne

/-- A batch of one epoch, as a query commits it. -/
theorem Follows.commit {s : AttributionEngine × SharedSample}
    {committed : List OrderedSourceEvent} {epoch : Nat} (h : Follows s.1 committed)
    (hp : PrunedBefore s.1 committed epoch) (events : List OrderedSourceEvent)
    (he : ∀ x∈events, x.order.epoch=epoch) :
    Follows (commitEvents s events).1 (committed++events) ∧
      PrunedBefore (commitEvents s events).1 (committed++events) epoch := by
  induction events generalizing s committed with
  | nil => simpa using ⟨h,hp⟩
  | cons x events ih =>
    have hx := he x (by simp)
    have hf := h.apply x s.2.intervalBytesByProcess (by rwa [hx])
    have hpr := hp.apply x s.2.intervalBytesByProcess
    have := ih (s := commitEvent s x) hf hpr (fun y hy => he y (by simp [hy]))
    simpa [commitEvents] using this

theorem mem_pruned {e : AttributionEngine} {sourceRef : Nat} {order : EventOrder}
    (h : e.pruneTombstones.lastEventOrder.lookup sourceRef=some order) :
    e.lastEventOrder.lookup sourceRef=some order := by
  have hm := mem_of_lookup_ofList h
  exact AList.mem_lookup_iff.mpr (List.mem_filter.mp hm).1

theorem Follows.prune {e : AttributionEngine} {committed : List OrderedSourceEvent}
    (h : Follows e committed) : Follows e.pruneTombstones committed :=
  ⟨h.sources,fun r o ho => h.orders r o (mem_pruned ho)⟩

/-- What holds between the session and everything it committed: no epoch has been
given out twice, and what has been pruned is older than the active query. -/
structure SessionInv (s : Session) (log : StepLog) : Prop where
  clock : s.eventClock.nextEpoch=log.reserved
  follows : Follows s.engine log.committed
  epochs : ∀ c∈log.committed, c.order.epoch ≤ log.reserved
  query : ∀ q, s.activeQuery=some q → q.epoch ≤ log.reserved ∧
    PrunedBefore s.engine log.committed q.epoch ∧ ∀ x∈q.events, x.order.epoch=q.epoch

theorem prunedBefore_of_epochs {e : AttributionEngine} {committed : List OrderedSourceEvent}
    {n epoch : Nat} (h : ∀ c∈committed, c.order.epoch ≤ n) (hn : n < epoch) :
    PrunedBefore e committed epoch :=
  fun _ _ c hc _ => lt_of_le_of_lt (h c hc) hn

theorem StepLog.extend_empty (log : StepLog) : log.extend {}=log := by
  simp [StepLog.extend]

/-- The invariant reads the clock, the engine and the active query only. -/
theorem SessionInv.frame {s s' : Session} {log : StepLog} (h : SessionInv s log)
    (hc : s'.eventClock=s.eventClock) (he : s'.engine=s.engine)
    (hq : s'.activeQuery=s.activeQuery) : SessionInv s' log :=
  ⟨hc ▸ h.clock,he ▸ h.follows,h.epochs,fun q hs => by
    rw [he]
    exact h.query q (hq ▸ hs)⟩

theorem tick_eq {s : Session} {log : StepLog} (h : SessionInv s log)
    (hr : log.reserved+1 ≤ u64Max) : s.eventClock.tick.nextEpoch=log.reserved+1 := by
  rw [EventClock.tick,h.clock,satAdd]
  exact min_eq_left hr

theorem SessionInv.direct {s : Session} {log : StepLog} (h : SessionInv s log)
    (hr : log.reserved+1 ≤ u64Max) (event : SourceEvent) :
    let direct : OrderedSourceEvent := ⟨⟨s.eventClock.tick.nextEpoch,0⟩,event⟩
    SessionInv ({s with eventClock := s.eventClock.tick}.commit [direct])
      (log.extend {committed := [direct], reserved := 1}) := by
  intro direct
  have htick := tick_eq h hr
  have hp : PrunedBefore s.engine log.committed (log.reserved+1) :=
    prunedBefore_of_epochs h.epochs (Nat.lt_succ_self _)
  have hd : direct.order.epoch=log.reserved+1 := htick
  obtain ⟨hf,_⟩ := Follows.commit (s := (s.engine,s.shared)) h.follows hp [direct]
    (by simpa using hd)
  refine ⟨htick,hf,?_,?_⟩
  · intro c hc
    rcases List.mem_append.mp hc with hc | hc
    · exact (h.epochs c hc).trans (Nat.le_succ _)
    · rw [List.mem_singleton.mp hc,hd]
      exact le_refl _
  · intro q hq
    obtain ⟨hle,hpq,hev⟩ := h.query q hq
    exact ⟨hle.trans (Nat.le_succ _),hpq.apply direct s.shared.intervalBytesByProcess,hev⟩

theorem SessionInv.push {s : Session} {log : StepLog} (h : SessionInv s log) {q : ActiveQuery}
    (hq : s.activeQuery=some q) (event : SourceEvent) :
    SessionInv {s with activeQuery := some (q.push event)} log := by
  obtain ⟨hle,hp,hev⟩ := h.query q hq
  refine ⟨h.clock,h.follows,h.epochs,?_⟩
  intro q' hq'
  obtain rfl : q.push event=q' := by simpa using hq'
  refine ⟨hle,hp,?_⟩
  intro x hx
  rcases List.mem_append.mp hx with hx | hx
  · exact hev x hx
  · rw [List.mem_singleton.mp hx]
    rfl

theorem SessionInv.route {s s' : Session} {log next : StepLog} (h : SessionInv s log)
    (event : SourceEvent) (context : Nat) (hs : s.routeEvent event context=.ok (s',next))
    (hr : (log.extend next).reserved ≤ u64Max) : SessionInv s' (log.extend next) := by
  rw [Session.routeEvent] at hs
  split at hs
  · obtain ⟨rfl,rfl⟩ : _ ∧ _ := by simpa using hs
    exact h.direct hr event
  · split at hs
    · next q hq =>
      split at hs
      · simp at hs
      · obtain ⟨rfl,rfl⟩ : _ ∧ _ := by simpa using hs
        rw [StepLog.extend_empty]
        exact h.push hq event
    · simp at hs

theorem SessionInv.complete {s : Session} {log : StepLog} (h : SessionInv s log)
    {q : ActiveQuery} (hq : s.activeQuery=some q) (now : Nat) :
    SessionInv (s.completeQuery q now) (log.extend {committed := q.events}) := by
  obtain ⟨hle,hp,hev⟩ := h.query q hq
  obtain ⟨hf,_⟩ := Follows.commit (s := (s.engine,s.shared)) h.follows hp q.events hev
  have hf' := hf.prune
  have hclock : (s.completeQuery q now).eventClock=s.eventClock := by
    simp only [Session.completeQuery]
    split
    · rfl
    · split <;> rfl
  have hactive : (s.completeQuery q now).activeQuery=none := by
    simp only [Session.completeQuery]
    split
    · rfl
    · split <;> rfl
  have hengine : Follows (s.completeQuery q now).engine (log.committed++q.events) := by
    simp only [Session.completeQuery]
    split
    · exact ⟨hf'.sources,hf'.orders⟩
    · split <;> exact hf'
  refine ⟨hclock ▸ h.clock,hengine,?_,?_⟩
  · intro c hc
    rcases List.mem_append.mp hc with hc | hc
    · exact h.epochs c hc
    · rw [hev c hc]
      exact hle
  · intro q' hq'
    rw [hactive] at hq'
    simp at hq'

theorem SessionInv.success {s : Session} {log : StepLog} (h : SessionInv s log) (m : Message)
    (now : Nat) : SessionInv (s.handleSuccess m now).1 (log.extend (s.handleSuccess m now).2) := by
  rw [Session.handleSuccess]
  split
  · rw [StepLog.extend_empty]
    exact h.frame rfl rfl rfl
  · split
    · next q hq =>
      split
      · split
        · rw [StepLog.extend_empty]
          exact h
        · exact h.complete hq now
      · rw [StepLog.extend_empty]
        exact h
    · rw [StepLog.extend_empty]
      exact h

theorem SessionInv.message {s s' : Session} {log next : StepLog} (h : SessionInv s log)
    (now : Nat) (m : Message) (hs : s.handleMessage now m=.ok (s',next))
    (hr : (log.extend next).reserved ≤ u64Max) : SessionInv s' (log.extend next) := by
  have hquiet : ∀ {t : Session}, SessionInv t log →
      (.ok (t,{}) : Except String (Session × StepLog))=.ok (s',next) →
      SessionInv s' (log.extend next) := by
    intro t ht he
    obtain ⟨rfl,rfl⟩ : _ ∧ _ := by simpa using he
    rw [StepLog.extend_empty]
    exact ht
  rw [Session.handleMessage] at hs
  split at hs
  · obtain ⟨rfl,rfl⟩ : _ ∧ _ := by simpa [Prod.ext_iff] using hs
    exact h.success m now
  · split at hs
    · simp at hs
    · split at hs
      · simp at hs
      · exact hquiet h hs
  · split at hs
    · simp at hs
    · obtain ⟨qualification,_,hs⟩ := bind_ok.mp hs
      dsimp only at hs
      split at hs
      · refine hquiet ?_ hs
        exact h.frame rfl rfl rfl
      · refine SessionInv.route ?_ _ _ hs hr
        exact h.frame rfl rfl rfl
  · split at hs
    · simp at hs
    · split at hs
      · exact hquiet h hs
      · dsimp only at hs
        split at hs
        · refine SessionInv.route ?_ _ _ hs hr
          exact h.frame rfl rfl rfl
        · exact h.route _ _ hs hr
  · exact hquiet h hs
  · exact hquiet h hs
  · split at hs
    · simp at hs
    · exact hquiet h hs

theorem SessionInv.poll {s : Session} {log : StepLog} (h : SessionInv s log) (now : Nat)
    (hr : (log.extend (s.startQuery now).2).reserved ≤ u64Max) :
    SessionInv (s.startQuery now).1 (log.extend (s.startQuery now).2) := by
  rw [Session.startQuery] at hr ⊢
  split at hr
  · next hc =>
    rw [if_pos hc]
    have htick := tick_eq h hr
    refine ⟨htick,by simpa [StepLog.extend] using h.follows,?_,?_⟩
    · intro c hm
      have hm' : c∈log.committed := by simpa [StepLog.extend] using hm
      exact (h.epochs c hm').trans (Nat.le_succ _)
    · intro q hq
      obtain rfl := Option.some.inj hq
      refine ⟨htick.le,?_,by simp⟩
      simp only [StepLog.extend,List.append_nil,htick]
      exact prunedBefore_of_epochs h.epochs (Nat.lt_succ_self _)
  · next hc =>
    rw [if_neg hc,StepLog.extend_empty]
    exact h

/-- One step, as long as the clock has an epoch left to give. -/
theorem SessionInv.step {s s' : Session} {log next : StepLog} (h : SessionInv s log) (a : Step)
    (hs : step s a=.ok (s',next)) (hr : (log.extend next).reserved ≤ u64Max) :
    SessionInv s' (log.extend next) := by
  cases a with
  | poll now =>
    obtain ⟨rfl,rfl⟩ : _ ∧ _ := by simpa [MacosNetwork.step,Prod.ext_iff] using hs
    exact h.poll now hr
  | message now m => exact h.message now m hs hr
  | sample now =>
    obtain ⟨rfl,rfl⟩ : _ ∧ _ := by simpa [MacosNetwork.step,Prod.ext_iff] using hs
    rw [StepLog.extend_empty]
    exact h.frame rfl rfl rfl

theorem sessionInv_start (now : Nat) (qualification : ProtocolQualification)
    (dataLoss : Option String) : SessionInv (.start now qualification dataLoss) {} := by
  refine ⟨rfl,⟨fun r => rfl,fun r o h => ?_⟩,by simp,fun q h => ?_⟩
  · simp [Session.start] at h
  · simp [Session.start] at h

theorem sessionInv_run {s₀ s : Session} {log : StepLog} (h₀ : SessionInv s₀ {})
    (steps : List Step) (h : run s₀ steps=.ok (s,log)) (hr : log.reserved ≤ u64Max) :
    SessionInv s log := by
  refine foldlM_invariant (fun _ r => r.2.reserved ≤ u64Max → SessionInv r.1 r.2)
    (fun _ => h₀) ?_ steps (s,log) h hr
  intro _ a r r' ih hs hle
  obtain ⟨⟨s',next⟩,hstep,he⟩ := bind_ok.mp hs
  obtain rfl : (s',r.2.extend next)=r' := Except.ok.inj he
  have hprev : r.2.reserved ≤ u64Max := le_trans (Nat.le_add_right _ _) hle
  exact (ih hprev).step a hstep hle

/-- After any run of a session that has taken no more than `u64::MAX` epochs from the
clock, what the engine holds for a source is what its newest committed event leaves:
no delayed query event rolls it back or brings it back. -/
theorem newest_event_decides (now : Nat) (qualification : ProtocolQualification)
    (dataLoss : Option String) (steps : List Step) (s : Session) (log : StepLog)
    (h : run (.start now qualification dataLoss) steps=.ok (s,log))
    (hr : log.reserved ≤ u64Max) (sourceRef : Nat) :
    (s.engine.sources.lookup sourceRef=none ∧
      ∀ c∈log.committed, c.event.sourceRef≠sourceRef) ∨
    ∃ e∈log.committed, e.event.sourceRef=sourceRef ∧
      (∀ c∈log.committed, c.event.sourceRef=sourceRef → e.order.before c.order=false) ∧
      s.engine.sources.lookup sourceRef=e.event.state := by
  have hinv := sessionInv_run (sessionInv_start now qualification dataLoss) steps h hr
  have hsrc := hinv.follows.sources sourceRef
  have hspec := newest_spec sourceRef log.committed
  cases hn : newest sourceRef log.committed with
  | none =>
    rw [hn] at hsrc hspec
    exact .inl ⟨hsrc,hspec⟩
  | some e =>
    rw [hn] at hsrc hspec
    exact .inr ⟨e,hspec.1,hspec.2.1,hspec.2.2,hsrc⟩

/-- Every subscription acknowledged, so that queries may start. -/
def subscribeSteps : List Step :=
  providers.map (fun p => .message 0 ⟨subscriptionContext p,0,.success⟩)

def probe : ProtocolQualification := ⟨500,501,[⟨true,4000,4001,2053,4093,none⟩,
  ⟨true,4001,4000,4093,2053,none⟩,⟨false,4002,4003,257,509,none⟩,⟨false,4003,4002,509,257,none⟩]⟩

def otherPorts : FlowPorts := ⟨3,none,none⟩

/-- A query is sent, the source is removed meanwhile, and the query's older answer is
committed after the removal. -/
def delayedQuerySteps : List Step :=
  subscribeSteps++
    [.poll 0,.message 1 ⟨0,0,.update ⟨7,42,43,100,10,false,false⟩ otherPorts⟩,
      .message 2 ⟨firstQueryContext,0,.update ⟨7,42,43,90,9,false,false⟩ otherPorts⟩,
      .message 3 ⟨0,0,.removed 7⟩,.message 4 ⟨firstQueryContext,0,.success⟩]

theorem newest_event_decides_delayed_query :
    ∃ s log, run (.start 0 probe none) delayedQuerySteps=.ok (s,log) ∧ log.reserved ≤ u64Max ∧
      ((s.engine.sources.lookup 7=none ∧ ∀ c∈log.committed, c.event.sourceRef≠7) ∨
      ∃ e∈log.committed, e.event.sourceRef=7 ∧
        (∀ c∈log.committed, c.event.sourceRef=7 → e.order.before c.order=false) ∧
        s.engine.sources.lookup 7=e.event.state) :=
  ⟨_,_,rfl,by decide,newest_event_decides 0 probe none delayedQuerySteps _ _ rfl (by decide) 7⟩

/-- A direct removal of a source nobody knows: it only takes an epoch. -/
def removal : Step := .message 0 ⟨0,0,.removed 1⟩

/-- The subscribed session after `n` such removals. -/
def removedSession (n : Nat) : Session where
  pendingSubscriptions := ∅
  engine := {lastEventOrder := .singleton 1 ⟨n,0⟩}
  eventClock := ⟨n⟩
  shared := {intervalStartedAt := 0}
  nextQueryAt := 0
  qualification := probe

theorem StepLog.extend_assoc (a b c : StepLog) : (a.extend b).extend c=a.extend (b.extend c) := by
  simp [StepLog.extend,Nat.add_assoc]

/-- A run from a later point only prepends what was logged before. -/
theorem run_append_ok {s t u : Session} {log next : StepLog} {xs ys : List Step}
    (hx : run s xs=.ok (t,log)) (hy : run t ys=.ok (u,next)) :
    run s (xs++ys)=.ok (u,log.extend next) := by
  have hfrom : ∀ (ys : List Step) (u : Session) (next : StepLog), run t ys=.ok (u,next) →
      ys.foldlM advance (t,log)=.ok (u,log.extend next) := by
    intro ys
    induction ys using List.reverseRecOn with
    | nil =>
      intro u next h
      obtain ⟨rfl,rfl⟩ : t=u ∧ {}=next := by simpa [run,pure_ok] using h
      rw [StepLog.extend_empty]
      rfl
    | append_singleton ys a ih =>
      intro u next h
      obtain ⟨⟨t',mid⟩,ht,ha⟩ := foldlM_snoc_ok.mp h
      obtain ⟨⟨u',last⟩,hstep,he⟩ := bind_ok.mp ha
      obtain ⟨rfl,rfl⟩ : u'=u ∧ mid.extend last=next := by simpa using Except.ok.inj he
      refine foldlM_snoc_ok.mpr ⟨_,ih t' mid ht,?_⟩
      rw [← StepLog.extend_assoc]
      exact bind_ok.mpr ⟨_,hstep,rfl⟩
  rw [run,List.foldlM_append]
  exact bind_ok.mpr ⟨_,hx,hfrom ys u next hy⟩

theorem removal_step (n : Nat) (hn : n < u64Max) :
    run (removedSession n) [removal]=.ok (removedSession (n+1),⟨[⟨⟨n+1,0⟩,.removed 1⟩],1⟩) := by
  have hsat : satAdd n 1=n+1 := min_eq_left hn
  have hbefore : (⟨n,0⟩ : EventOrder).before ⟨n+1,0⟩=true :=
    EventOrder.before_of_epoch (Nat.lt_succ_self n)
  have hexcl : probe.excludes 1=false := rfl
  have hlast : (removedSession n).engine.lastEventOrder.lookup 1=some ⟨n,0⟩ := rfl
  simp only [removedSession] at hlast
  simp [run,advance,step,removal,Session.handleMessage,removedSession,Session.routeEvent,hexcl,
    Message.closedAfterDrop,EventClock.tick,hsat,Session.commit,commitEvents,commitEvent,
    AttributionEngine.applyEvent,SourceEvent.sourceRef,hlast,hbefore,bind,Except.bind,
    StepLog.extend]
  rfl

theorem removal_steps (k n : Nat) (hk : n+k ≤ u64Max) :
    ∃ log, run (removedSession n) (List.replicate k removal)=.ok (removedSession (n+k),log) ∧
      ∀ c∈log.committed, c.event.sourceRef=1 := by
  induction k with
  | zero => exact ⟨{},rfl,by simp⟩
  | succ k ih =>
    obtain ⟨log,hrun,href⟩ := ih (by omega)
    have hnext := run_append_ok hrun (removal_step (n+k) (by omega))
    rw [List.replicate_succ']
    refine ⟨_,hnext,?_⟩
    intro c hc
    rcases List.mem_append.mp hc with hc | hc
    · exact href c hc
    · rw [List.mem_singleton.mp hc]
      rfl

/-- The clock gives its last epoch to a query that sees source 2 come and go; the next
direct event of the source is given the same epoch with ordinal zero. -/
def lastEpochSteps : List Step :=
  [.poll 0,.message 1 ⟨firstQueryContext,0,.update ⟨2,42,43,100,10,false,false⟩ otherPorts⟩,
    .message 2 ⟨firstQueryContext,0,.removed 2⟩,.message 3 ⟨firstQueryContext,0,.success⟩,
    .message 4 ⟨0,0,.update ⟨2,42,43,200,20,false,false⟩ otherPorts⟩]

def saturatingSteps : List Step :=
  subscribeSteps++[removal]++List.replicate (u64Max-2) removal++lastEpochSteps

/-- On a saturated clock the pruned removal is the newest committed event of source 2,
yet an event of a smaller order is applied after it. -/
theorem saturated_clock_resurrects :
    ∃ s log, run (.start 0 probe none) saturatingSteps=.ok (s,log) ∧
      ¬((s.engine.sources.lookup 2=none ∧ ∀ c∈log.committed, c.event.sourceRef≠2) ∨
      ∃ e∈log.committed, e.event.sourceRef=2 ∧
        (∀ c∈log.committed, c.event.sourceRef=2 → e.order.before c.order=false) ∧
        s.engine.sources.lookup 2=e.event.state) := by
  have hpre : ∃ log, run (.start 0 probe none) (subscribeSteps++[removal])=
      .ok (removedSession 1,log) ∧ ∀ c∈log.committed, c.event.sourceRef=1 :=
    ⟨_,rfl,by decide⟩
  obtain ⟨log₀,hpre,href₀⟩ := hpre
  obtain ⟨log₁,hmid,href₁⟩ := removal_steps (u64Max-2) 1 (by decide)
  have hlast : ∃ s log, run (removedSession (1+(u64Max-2))) lastEpochSteps=.ok (s,log) ∧
      s.engine.sources.lookup 2=some ⟨42,43,200,20⟩ ∧ log.committed=
        [⟨⟨u64Max,0⟩,.update ⟨2,42,43,100,10,false,false⟩⟩,⟨⟨u64Max,1⟩,.removed 2⟩,
          ⟨⟨u64Max,0⟩,.update ⟨2,42,43,200,20,false,false⟩⟩] :=
    ⟨_,_,rfl,by decide,by decide⟩
  obtain ⟨s,log₂,hend,hsrc,hcommitted⟩ := hlast
  refine ⟨s,_,run_append_ok (run_append_ok hpre hmid) hend,?_⟩
  rintro (⟨hnone,_⟩ | ⟨e,he,href,hmax,hstate⟩)
  · simp [hsrc] at hnone
  · -- the removal is newer than both updates and leaves nothing
    have hrem := hmax ⟨⟨u64Max,1⟩,.removed 2⟩ (by simp [StepLog.extend,hcommitted]) rfl
    rcases List.mem_append.mp he with he | he
    · rcases List.mem_append.mp he with he | he
      · exact absurd (href₀ e he) (by rw [href]; decide)
      · exact absurd (href₁ e he) (by rw [href]; decide)
    · simp only [hcommitted,List.mem_cons,List.not_mem_nil,or_false] at he
      rcases he with rfl | rfl | rfl
      · exact absurd hrem (by decide)
      · simp [hsrc,SourceEvent.state] at hstate
      · exact absurd hrem (by decide)

end BatCave.MacosNetwork
