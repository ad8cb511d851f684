import BatCave.Network.MacosOrdering

/-! Bytes billed from absolute counters. Each applied event bills at most one
process; over a period in which a source keeps its process and its counters never
decrease, the bills telescope to last counter minus start counter. -/
namespace BatCave.MacosNetwork
open BatCave.Lib.Word BatCave.Lib.Table BatCave.Lib.Result BatCave.NetworkAttribution

structure Bill where
  sourceRef : Nat
  identity : ObservedProcessGeneration
  received : Nat
  transmitted : Nat
  deriving DecidableEq, Repr

/-- What a session does to the engine once the baseline is complete. -/
inductive EngineStep where
  | event (event : OrderedSourceEvent)
  | prune

def EngineStep.committed : EngineStep → Option OrderedSourceEvent
  | .event ordered => some ordered
  | .prune => none

namespace AttributionEngine

def Lossy (previous : SourceState) (u : SourceUpdate) : Prop :=
  (u.pid≠previous.pid ∨ u.uniquePid≠previous.uniquePid) ∨
    (u.receivedBytes < previous.receivedBytes ∨ u.transmittedBytes < previous.transmittedBytes)

instance (previous : SourceState) (u : SourceUpdate) : Decidable (Lossy previous u) :=
  inferInstanceAs (Decidable ((_ ∨ _) ∨ (_ ∨ _)))

/-- What an event adds to the interval, if anything. -/
def bill (e : AttributionEngine) (event : OrderedSourceEvent) : Option Bill :=
  if e.stale event then none
  else
    match event.event with
    | .removed _ => none
    | .update u =>
      match e.sources.lookup u.sourceRef with
      | some previous =>
        if Lossy previous u then none
        else some ⟨u.sourceRef,.platform previous.pid previous.uniquePid,
          u.receivedBytes-previous.receivedBytes,u.transmittedBytes-previous.transmittedBytes⟩
      | none =>
        if e.baselineComplete then
          some ⟨u.sourceRef,.platform u.pid u.uniquePid,u.receivedBytes,u.transmittedBytes⟩
        else none

/-- The engine after an event; it does not depend on the interval. -/
def next (e : AttributionEngine) (event : OrderedSourceEvent) : AttributionEngine :=
  (e.applyEvent event ∅).2.1

def perform (e : AttributionEngine) : EngineStep → AttributionEngine
  | .event event => e.next event
  | .prune => e.pruneTombstones

def after (e : AttributionEngine) (steps : List EngineStep) : AttributionEngine :=
  steps.foldl perform e

/-- The bills of a run, in order. -/
def bills : AttributionEngine → List EngineStep → List Bill
  | _, [] => []
  | e, .event event::steps => (e.bill event).toList++(e.next event).bills steps
  | e, .prune::steps => e.pruneTombstones.bills steps

/-- The events of a source that a run applies, stale ones left out. -/
def applied (sourceRef : Nat) : AttributionEngine → List EngineStep → List SourceEvent
  | _, [] => []
  | e, .event event::steps =>
    if event.event.sourceRef=sourceRef ∧ e.stale event=false then
      event.event::applied sourceRef (e.next event) steps
    else applied sourceRef (e.next event) steps
  | e, .prune::steps => applied sourceRef e.pruneTombstones steps

variable (e : AttributionEngine) (event : OrderedSourceEvent) (interval : RatesByProcess)

theorem applyEvent_next : (e.applyEvent event interval).2.1=e.next event := by
  rw [next,applyEvent,applyEvent]
  split
  · rfl
  · split <;> rfl

theorem applyEvent_bill : (e.applyEvent event interval).2.2=(e.bill event).elim interval
    (fun b => addBytes interval b.identity b.received b.transmitted) := by
  rw [applyEvent,bill,stale]
  split
  · rfl
  obtain ⟨order,event⟩ := event
  cases event with
  | removed r => rfl
  | update u =>
    simp only [applyUpdate,SourceEvent.sourceRef]
    cases hp : e.sources.lookup u.sourceRef with
    | none =>
      dsimp only
      split <;> rfl
    | some previous =>
      dsimp only
      by_cases hid : u.pid≠previous.pid ∨ u.uniquePid≠previous.uniquePid
      · rw [if_pos hid,if_pos (.inl hid)]
        rfl
      · rw [if_neg hid]
        by_cases hreg : u.receivedBytes < previous.receivedBytes ∨
            u.transmittedBytes < previous.transmittedBytes
        · rw [if_pos hreg,if_pos (.inr hreg)]
          rfl
        · have hl : ¬Lossy previous u := not_or.mpr ⟨hid,hreg⟩
          rw [if_neg hreg,if_neg hl]
          rfl

theorem next_of_stale (h : e.stale event=true) : e.next event=e := by
  rw [next,e.applyEvent_of_stale event ∅ h]

theorem next_baselineComplete : (e.next event).baselineComplete=e.baselineComplete := by
  cases hs : e.stale event with
  | true => rw [e.next_of_stale event hs]
  | false => exact (e.applyEvent_engine event ∅ hs).2.1

theorem next_sources (h : e.stale event=false) (sourceRef : Nat) :
    (e.next event).sources.lookup sourceRef=
      if sourceRef=event.event.sourceRef then event.event.state
      else e.sources.lookup sourceRef :=
  (e.applyEvent_engine event ∅ h).2.2 sourceRef

theorem bill_sourceRef {b : Bill} (h : e.bill event=some b) :
    b.sourceRef=event.event.sourceRef ∧ e.stale event=false := by
  rw [bill] at h
  split at h
  · simp at h
  next hs =>
  refine ⟨?_,by simpa using hs⟩
  split at h
  · simp at h
  · next u hu =>
    rw [hu]
    split at h
    · split at h
      · simp at h
      · rw [← Option.some.inj h]
        rfl
    · split at h
      · rw [← Option.some.inj h]
        rfl
      · simp at h

end AttributionEngine

/-- A step on the engine and the sample it shares; pruning leaves the sample alone. -/
def commitStep (s : AttributionEngine × SharedSample) :
    EngineStep → AttributionEngine × SharedSample
  | .event event => commitEvent s event
  | .prune => (s.1.pruneTombstones,s.2)

def commitSteps (s : AttributionEngine × SharedSample) (steps : List EngineStep) :
    AttributionEngine × SharedSample :=
  steps.foldl commitStep s

theorem commitEvents_engine (s : AttributionEngine × SharedSample)
    (events : List OrderedSourceEvent) :
    (commitEvents s events).1=s.1.after (events.map .event) := by
  induction events generalizing s with
  | nil => rfl
  | cons event events ih =>
    rw [commitEvents,List.foldl_cons,List.map_cons,AttributionEngine.after,List.foldl_cons]
    have hn : (commitEvent s event).1=s.1.next event := s.1.applyEvent_next event _
    rw [AttributionEngine.perform,← hn]
    exact ih (commitEvent s event)

/-- The bytes bills put into a process's bucket. -/
def receivedFor (identity : ObservedProcessGeneration) (bills : List Bill) : Nat :=
  ((bills.filter (fun b => b.identity=identity)).map Bill.received).sum

def transmittedFor (identity : ObservedProcessGeneration) (bills : List Bill) : Nat :=
  ((bills.filter (fun b => b.identity=identity)).map Bill.transmitted).sum

/-- Buckets are `u64`. -/
def BucketsFit (interval : RatesByProcess) : Prop :=
  ∀ identity rates, interval.lookup identity=some rates →
    rates.receivedBps ≤ u64Max ∧ rates.transmittedBps ≤ u64Max

def bucket (interval : RatesByProcess) (identity : ObservedProcessGeneration) :
    ProcessNetworkRates :=
  (interval.lookup identity).getD {}

theorem bucket_addBytes (interval : RatesByProcess) (identity identity' : ObservedProcessGeneration)
    (r t : Nat) : bucket (addBytes interval identity' r t) identity=
      if identity=identity' then
        ⟨satAdd (bucket interval identity).receivedBps r,
          satAdd (bucket interval identity).transmittedBps t⟩
      else bucket interval identity := by
  by_cases h : identity=identity'
  · subst h
    simp [bucket,addBytes]
  · rw [bucket,addBytes,AList.lookup_insert_ne h,if_neg h]
    rfl

theorem BucketsFit.add {interval : RatesByProcess} (h : BucketsFit interval)
    (identity : ObservedProcessGeneration) (r t : Nat) :
    BucketsFit (addBytes interval identity r t) := by
  intro id rates hr
  rw [addBytes] at hr
  by_cases hid : id=identity
  · subst hid
    rw [AList.lookup_insert] at hr
    rw [← Option.some.inj hr]
    exact ⟨min_le_right _ _,min_le_right _ _⟩
  · rw [AList.lookup_insert_ne hid] at hr
    exact h id rates hr

theorem BucketsFit.bucket_le {interval : RatesByProcess} (h : BucketsFit interval)
    (identity : ObservedProcessGeneration) :
    (bucket interval identity).receivedBps ≤ u64Max ∧
      (bucket interval identity).transmittedBps ≤ u64Max := by
  rw [bucket]
  cases hl : interval.lookup identity with
  | none => exact ⟨Nat.zero_le _,Nat.zero_le _⟩
  | some rates => exact h identity rates hl

/-- A run leaves every bucket at its old value plus the bills for it, saturated once. -/
theorem bucket_commitSteps (s : AttributionEngine × SharedSample)
    (hu : BucketsFit s.2.intervalBytesByProcess) (steps : List EngineStep)
    (identity : ObservedProcessGeneration) :
    let old := bucket s.2.intervalBytesByProcess identity
    let bills := s.1.bills steps
    bucket (commitSteps s steps).2.intervalBytesByProcess identity=
      ⟨min (old.receivedBps+receivedFor identity bills) u64Max,
        min (old.transmittedBps+transmittedFor identity bills) u64Max⟩ := by
  induction steps generalizing s with
  | nil =>
    obtain ⟨hr,ht⟩ := hu.bucket_le identity
    simp [commitSteps,AttributionEngine.bills,receivedFor,transmittedFor,min_eq_left hr,
      min_eq_left ht]
  | cons step steps ih =>
    cases step with
    | prune => exact ih (s.1.pruneTombstones,s.2) hu
    | event event =>
      have hn : (commitEvent s event).1=s.1.next event := s.1.applyEvent_next event _
      have hi : (commitEvent s event).2.intervalBytesByProcess=_ := s.1.applyEvent_bill event _
      rw [commitSteps,List.foldl_cons,commitStep]
      cases hb : s.1.bill event with
      | none =>
        rw [hb,Option.elim_none] at hi
        have hih := ih (commitEvent s event) (by rw [hi]; exact hu)
        rw [hi,hn,commitSteps] at hih
        simpa [AttributionEngine.bills,hb] using hih
      | some b =>
        rw [hb,Option.elim_some] at hi
        have hih := ih (commitEvent s event) (by rw [hi]; exact hu.add _ _ _)
        rw [hi,hn,bucket_addBytes,commitSteps] at hih
        rw [hih]
        by_cases hid : identity=b.identity
        · subst hid
          simp only [if_true,AttributionEngine.bills,hb,Option.toList_some,List.singleton_append,
            receivedFor,transmittedFor,List.filter_cons,decide_true,List.map_cons,List.sum_cons,
            satAdd,ProcessNetworkRates.mk.injEq]
          omega
        · have hid' : ¬b.identity=identity := fun h => hid h.symm
          simp [hid,hid',AttributionEngine.bills,hb,receivedFor,transmittedFor]

structure Counters where
  received : Nat
  transmitted : Nat
  deriving DecidableEq, Repr

def SourceUpdate.counters (u : SourceUpdate) : Counters := ⟨u.receivedBytes,u.transmittedBytes⟩

/-- Updates of one process whose counters never decrease; only the last may close. -/
def Tracked (pid uniquePid : Nat) : Counters → List SourceUpdate → Prop
  | _, [] => True
  | c, u::us => (u.pid=pid ∧ u.uniquePid=uniquePid) ∧
      (c.received ≤ u.receivedBytes ∧ c.transmitted ≤ u.transmittedBytes) ∧
      (u.closing=true → us=[]) ∧ Tracked pid uniquePid u.counters us

def lastCounters : Counters → List SourceUpdate → Counters
  | c, [] => c
  | _, u::us => lastCounters u.counters us

/-- The counter a period starts from: what the engine holds for the source, or zero
when it holds nothing. -/
def StartCounter (e : AttributionEngine) (sourceRef pid uniquePid : Nat)
    (start : Counters) : Prop :=
  (e.sources.lookup sourceRef=none ∧ start=⟨0,0⟩) ∨
    e.sources.lookup sourceRef=some ⟨pid,uniquePid,start.received,start.transmitted⟩

theorem Tracked.le_last {pid uniquePid : Nat} {c : Counters} {us : List SourceUpdate}
    (h : Tracked pid uniquePid c us) : c.received ≤ (lastCounters c us).received ∧
      c.transmitted ≤ (lastCounters c us).transmitted := by
  induction us generalizing c with
  | nil => exact ⟨le_refl _,le_refl _⟩
  | cons u us ih =>
    obtain ⟨_,⟨hr,ht⟩,_,hrest⟩ := h
    obtain ⟨h₁,h₂⟩ := ih hrest
    exact ⟨hr.trans h₁,ht.trans h₂⟩

/-- The bills on behalf of a source. -/
def ofSource (sourceRef : Nat) (bills : List Bill) : List Bill :=
  bills.filter (fun b => b.sourceRef=sourceRef)

section Period
variable {e : AttributionEngine} {sourceRef pid uniquePid : Nat} {start : Counters}

/-- An applied update inside a period bills the step of the counter. -/
theorem bill_tracked (hb : e.baselineComplete=true)
    (hs : StartCounter e sourceRef pid uniquePid start) {order : EventOrder} {u : SourceUpdate}
    (hu : u.sourceRef=sourceRef) (hf : e.stale ⟨order,.update u⟩=false)
    (hid : u.pid=pid ∧ u.uniquePid=uniquePid)
    (hc : start.received ≤ u.receivedBytes ∧ start.transmitted ≤ u.transmittedBytes) :
    e.bill ⟨order,.update u⟩=some ⟨sourceRef,.platform pid uniquePid,
      u.receivedBytes-start.received,u.transmittedBytes-start.transmitted⟩ := by
  subst hu
  rw [AttributionEngine.bill,if_neg (by simp [hf])]
  dsimp only
  rcases hs with ⟨hn,rfl⟩ | hp
  · simp [hn,hb,hid.1,hid.2]
  · have hl : ¬AttributionEngine.Lossy ⟨pid,uniquePid,start.received,start.transmitted⟩ u := by
      simp only [AttributionEngine.Lossy,hid.1,hid.2,ne_eq,not_true_eq_false,or_self,false_or,
        not_or,not_lt]
      exact hc
    simp [hp,hl]

/-- Over a period the bills of the source all go to its process and telescope. -/
theorem bills_of_period (hb : e.baselineComplete=true)
    (hs : StartCounter e sourceRef pid uniquePid start) (steps : List EngineStep)
    (us : List SourceUpdate) (ha : e.applied sourceRef steps=us.map .update)
    (ht : Tracked pid uniquePid start us) :
    (∀ b∈ofSource sourceRef (e.bills steps), b.identity=.platform pid uniquePid) ∧
    ((ofSource sourceRef (e.bills steps)).map Bill.received).sum=
      (lastCounters start us).received-start.received ∧
    ((ofSource sourceRef (e.bills steps)).map Bill.transmitted).sum=
      (lastCounters start us).transmitted-start.transmitted := by
  induction steps generalizing e start us with
  | nil =>
    cases us with
    | nil => simp [AttributionEngine.bills,ofSource,lastCounters]
    | cons u us => simp [AttributionEngine.applied] at ha
  | cons step steps ih =>
    cases step with
    | prune => exact ih (e := e.pruneTombstones) hb hs us ha ht
    | event event =>
      have hb' : (e.next event).baselineComplete=true := (e.next_baselineComplete event).trans hb
      rw [AttributionEngine.applied] at ha
      by_cases hc : event.event.sourceRef=sourceRef ∧ e.stale event=false
      · rw [if_pos hc] at ha
        obtain ⟨href,hfresh⟩ := hc
        cases us with
        | nil => simp at ha
        | cons u us =>
          rw [List.map_cons,List.cons.injEq] at ha
          obtain ⟨hev,ha⟩ := ha
          obtain ⟨order,ev⟩ := event
          obtain rfl : ev=.update u := hev
          obtain ⟨hid,hle,hclose,hrest⟩ := ht
          have hbill := bill_tracked hb hs href hfresh hid hle
          have hnext := e.next_sources ⟨order,.update u⟩ hfresh sourceRef
          rw [if_pos href.symm] at hnext
          have hlast := hrest.le_last
          -- a closing update ends the period, and nothing of the source is applied after it
          have hrec : (∀ b∈ofSource sourceRef ((e.next ⟨order,.update u⟩).bills steps),
                b.identity=.platform pid uniquePid) ∧
              ((ofSource sourceRef ((e.next ⟨order,.update u⟩).bills steps)).map
                Bill.received).sum=(lastCounters u.counters us).received-u.receivedBytes ∧
              ((ofSource sourceRef ((e.next ⟨order,.update u⟩).bills steps)).map
                Bill.transmitted).sum=
                  (lastCounters u.counters us).transmitted-u.transmittedBytes := by
            by_cases hcl : u.closing=true
            · obtain rfl := hclose hcl
              have hnone : StartCounter (e.next ⟨order,.update u⟩) sourceRef pid uniquePid ⟨0,0⟩ :=
                .inl ⟨by simpa [SourceEvent.state,hcl] using hnext,rfl⟩
              have h := ih hb' hnone [] ha trivial
              simpa [lastCounters,SourceUpdate.counters] using h
            · have hheld :
                  StartCounter (e.next ⟨order,.update u⟩) sourceRef pid uniquePid u.counters := by
                refine .inr ?_
                rw [hnext]
                simp [SourceEvent.state,hcl,hid.1,hid.2,SourceUpdate.counters]
              exact ih hb' hheld us ha hrest
          obtain ⟨hrid,hrr,hrt⟩ := hrec
          have hfirst : ofSource sourceRef (e.bills (.event ⟨order,.update u⟩::steps))=
              ⟨sourceRef,.platform pid uniquePid,u.receivedBytes-start.received,
                u.transmittedBytes-start.transmitted⟩::
                ofSource sourceRef ((e.next ⟨order,.update u⟩).bills steps) := by
            simp [AttributionEngine.bills,hbill,ofSource]
          have hl₁ : u.receivedBytes ≤ (lastCounters u.counters us).received := hlast.1
          have hl₂ : u.transmittedBytes ≤ (lastCounters u.counters us).transmitted := hlast.2
          rw [hfirst,lastCounters]
          refine ⟨?_,?_,?_⟩
          · intro b hm
            rcases List.mem_cons.mp hm with rfl | hm
            · rfl
            · exact hrid b hm
          · rw [List.map_cons,List.sum_cons,hrr]
            dsimp only
            omega
          · rw [List.map_cons,List.sum_cons,hrt]
            dsimp only
            omega
      · rw [if_neg hc] at ha
        have hs' : StartCounter (e.next event) sourceRef pid uniquePid start := by
          cases hst : e.stale event with
          | true => rwa [e.next_of_stale event hst]
          | false =>
            have hne : sourceRef≠event.event.sourceRef := fun h => hc ⟨h.symm,hst⟩
            have hsrc := e.next_sources event hst sourceRef
            rw [if_neg hne] at hsrc
            rw [StartCounter,hsrc]
            exact hs
        have hskip : ofSource sourceRef (e.bills (.event event::steps))=
            ofSource sourceRef ((e.next event).bills steps) := by
          cases hbl : e.bill event with
          | none => simp [AttributionEngine.bills,hbl]
          | some b =>
            obtain ⟨hbr,hbf⟩ := e.bill_sourceRef event hbl
            have hne : ¬b.sourceRef=sourceRef := fun h => hc ⟨hbr ▸ h,hbf⟩
            simp [AttributionEngine.bills,hbl,ofSource,hne]
        rw [hskip]
        exact ih hb' hs' us ha ht

end Period

theorem bill_of_lossy {e : AttributionEngine} {order : EventOrder} {u : SourceUpdate}
    {previous : SourceState} (hp : e.sources.lookup u.sourceRef=some previous)
    (hl : AttributionEngine.Lossy previous u) : e.bill ⟨order,.update u⟩=none := by
  rw [AttributionEngine.bill]
  split
  · rfl
  · simp [hp,hl]

/-- An update that changes the process or lets a counter decrease reports a loss. -/
theorem dataLoss_of_lossy {e : AttributionEngine} {order : EventOrder} {u : SourceUpdate}
    {previous : SourceState} (hf : e.stale ⟨order,.update u⟩=false)
    (hp : e.sources.lookup u.sourceRef=some previous)
    (hl : AttributionEngine.Lossy previous u) (interval : RatesByProcess) :
    (e.applyEvent ⟨order,.update u⟩ interval).1.isSome=true := by
  have hs : ¬(e.lastEventOrder.lookup u.sourceRef).any (fun last => !last.before order)=true := by
    rw [AttributionEngine.stale] at hf
    simpa [SourceEvent.sourceRef] using hf
  rw [AttributionEngine.applyEvent]
  simp only [SourceEvent.sourceRef,hs,AttributionEngine.applyUpdate,hp]
  by_cases hid : u.pid≠previous.pid ∨ u.uniquePid≠previous.uniquePid
  · simp [hid]
  · have hreg := hl.resolve_left hid
    simp [hid,hreg]

theorem after_baselineComplete (e : AttributionEngine) (steps : List EngineStep) :
    (e.after steps).baselineComplete=e.baselineComplete := by
  induction steps generalizing e with
  | nil => rfl
  | cons step steps ih =>
    refine (ih (e.perform step)).trans ?_
    cases step with
    | event event => exact e.next_baselineComplete event
    | prune => rfl

section Session

/-- Steps of the engine from one state to another that commit just these events. -/
def Performed (e e' : AttributionEngine) (committed : List OrderedSourceEvent) : Prop :=
  ∃ steps : List EngineStep, e'=e.after steps ∧ steps.filterMap EngineStep.committed=committed

theorem Performed.refl (e : AttributionEngine) : Performed e e [] := ⟨[],rfl,rfl⟩

theorem Performed.trans {e₀ e₁ e₂ : AttributionEngine} {xs ys : List OrderedSourceEvent}
    (h₁ : Performed e₀ e₁ xs) (h₂ : Performed e₁ e₂ ys) : Performed e₀ e₂ (xs++ys) := by
  obtain ⟨steps₁,rfl,rfl⟩ := h₁
  obtain ⟨steps₂,rfl,rfl⟩ := h₂
  refine ⟨steps₁++steps₂,?_,List.filterMap_append⟩
  rw [AttributionEngine.after,AttributionEngine.after,AttributionEngine.after,List.foldl_append]

theorem Performed.events (s : AttributionEngine × SharedSample)
    (events : List OrderedSourceEvent) : Performed s.1 (commitEvents s events).1 events := by
  refine ⟨events.map .event,commitEvents_engine s events,?_⟩
  rw [List.filterMap_map]
  exact List.filterMap_some (l := events)

theorem Performed.baselineComplete {e e' : AttributionEngine} {xs : List OrderedSourceEvent}
    (h : Performed e e' xs) : e'.baselineComplete=e.baselineComplete := by
  obtain ⟨steps,rfl,-⟩ := h
  exact after_baselineComplete e steps

theorem routeEvent_performed {s s' : Session} {log : StepLog} {event : SourceEvent}
    {context : Nat} (hs : s.routeEvent event context=.ok (s',log)) :
    Performed s.engine s'.engine log.committed := by
  rw [Session.routeEvent] at hs
  split at hs
  · obtain ⟨rfl,rfl⟩ : _ ∧ _ := by simpa using hs
    exact .events (s.engine,s.shared) _
  · split at hs
    · split at hs
      · simp at hs
      · obtain ⟨rfl,rfl⟩ : _ ∧ _ := by simpa using hs
        exact .refl _
    · simp at hs

/-- After the baseline a query's last answer commits its events and prunes. -/
theorem completeQuery_performed {s : Session} (hb : s.engine.baselineComplete=true)
    (query : ActiveQuery) (now : Nat) :
    Performed s.engine (s.completeQuery query now).engine query.events := by
  have hcommit := Performed.events (s.engine,s.shared) query.events
  have hprune : Performed s.engine
      (commitEvents (s.engine,s.shared) query.events).1.pruneTombstones (query.events++[]) :=
    hcommit.trans ⟨[.prune],rfl,rfl⟩
  have hb' : (commitEvents (s.engine,s.shared) query.events).1.baselineComplete=true :=
    hcommit.baselineComplete.trans hb
  rw [List.append_nil] at hprune
  simpa [Session.completeQuery,Session.commit,AttributionEngine.pruneTombstones,hb'] using hprune

theorem handleMessage_performed {s s' : Session} {log : StepLog}
    (hb : s.engine.baselineComplete=true) {now : Nat} {m : Message}
    (hs : s.handleMessage now m=.ok (s',log)) : Performed s.engine s'.engine log.committed := by
  have hquiet {t : Session}
      (he : (.ok (t,{}) : Except String (Session × StepLog))=.ok (s',log))
      (ht : t.engine=s.engine) :
      Performed s.engine s'.engine log.committed := by
    obtain ⟨rfl,rfl⟩ : _ ∧ _ := by simpa using he
    exact ht ▸ .refl _
  rw [Session.handleMessage] at hs
  split at hs
  · rw [Session.handleSuccess] at hs
    split at hs
    · exact hquiet hs rfl
    · split at hs
      · split at hs
        · split at hs
          · exact hquiet hs rfl
          · obtain ⟨rfl,rfl⟩ : _ ∧ _ := by simpa using hs
            exact completeQuery_performed hb _ now
        · exact hquiet hs rfl
      · exact hquiet hs rfl
  · split at hs
    · simp at hs
    · split at hs
      · simp at hs
      · exact hquiet hs rfl
  · split at hs
    · simp at hs
    · obtain ⟨qualification,-,hs⟩ := bind_ok.mp hs
      dsimp only at hs
      split at hs
      · exact hquiet hs rfl
      · have hroute := routeEvent_performed hs
        exact hroute
  · split at hs
    · simp at hs
    · split at hs
      · exact hquiet hs rfl
      · dsimp only at hs
        have hroute := routeEvent_performed hs
        split at hroute <;> exact hroute
  · exact hquiet hs rfl
  · exact hquiet hs rfl
  · simp [hb] at hs

theorem step_performed {s s' : Session} {log : StepLog} (hb : s.engine.baselineComplete=true)
    {a : Step} (hs : step s a=.ok (s',log)) : Performed s.engine s'.engine log.committed := by
  cases a with
  | poll now =>
    obtain ⟨rfl,rfl⟩ : _ ∧ _ := by simpa [step,Prod.ext_iff] using hs
    rw [Session.startQuery]
    split <;> exact .refl _
  | message now m => exact handleMessage_performed hb hs
  | sample now =>
    obtain ⟨rfl,rfl⟩ : _ ∧ _ := by simpa [step,Prod.ext_iff] using hs
    exact .refl _

/-- After the baseline a session's run is a run of its engine. -/
theorem run_performed {s s' : Session} {log : StepLog} (hb : s.engine.baselineComplete=true)
    (steps : List Step) (hs : run s steps=.ok (s',log)) :
    Performed s.engine s'.engine log.committed := by
  refine foldlM_invariant (fun _ r => Performed s.engine r.1.engine r.2.committed) (.refl _) ?_
    steps (s',log) hs
  intro _ a r r' ih hstep
  obtain ⟨⟨s₁,next⟩,hs₁,he⟩ := bind_ok.mp hstep
  obtain rfl : (s₁,r.2.extend next)=r' := Except.ok.inj he
  exact ih.trans (step_performed (ih.baselineComplete.trans hb) hs₁)

end Session

/-- Byte conservation after the baseline, from any state the engine is in when the
baseline finishes, over events and the prunings between them. The buckets hold the
bills; over a period the bills of a source telescope from the counter the engine held
when the period began; a lossy update bills nothing, is reported, and begins the next
period; a stale event does nothing. -/
theorem bytes_conserved (e₀ : AttributionEngine) (before : List EngineStep) :
    let e := e₀.finishBaseline.after before
    (∀ s steps s' log, s.engine=e → run s steps=.ok (s',log) →
      Performed e s'.engine log.committed) ∧
    (∀ shared steps identity, BucketsFit shared.intervalBytesByProcess →
      bucket (commitSteps (e,shared) steps).2.intervalBytesByProcess identity=
        ⟨min ((bucket shared.intervalBytesByProcess identity).receivedBps+
            receivedFor identity (e.bills steps)) u64Max,
          min ((bucket shared.intervalBytesByProcess identity).transmittedBps+
            transmittedFor identity (e.bills steps)) u64Max⟩) ∧
    (∀ sourceRef pid uniquePid start steps us,
      StartCounter e sourceRef pid uniquePid start →
      e.applied sourceRef steps=us.map .update → Tracked pid uniquePid start us →
      (∀ b∈ofSource sourceRef (e.bills steps), b.identity=.platform pid uniquePid) ∧
      ((ofSource sourceRef (e.bills steps)).map Bill.received).sum=
        (lastCounters start us).received-start.received ∧
      ((ofSource sourceRef (e.bills steps)).map Bill.transmitted).sum=
        (lastCounters start us).transmitted-start.transmitted) ∧
    (before=[] → e.sources=e₀.sources) ∧
    (∀ shared order u previous, e.stale ⟨order,.update u⟩=false →
      e.sources.lookup u.sourceRef=some previous → AttributionEngine.Lossy previous u →
      (commitEvent (e,shared) ⟨order,.update u⟩).2.intervalBytesByProcess=
        shared.intervalBytesByProcess ∧
      (commitEvent (e,shared) ⟨order,.update u⟩).2.dataLoss.isSome=true ∧
      (u.closing=false → StartCounter (e.next ⟨order,.update u⟩) u.sourceRef u.pid u.uniquePid
        u.counters)) ∧
    (∀ shared event, e.stale event=true → commitEvent (e,shared) event=(e,shared)) := by
  intro e
  have hb : e.baselineComplete=true := after_baselineComplete _ _
  refine ⟨?_,?_,?_,?_,?_,?_⟩
  · rintro s steps s' log he hrun
    exact he ▸ run_performed (he ▸ hb) steps hrun
  · intro shared steps identity hu
    exact bucket_commitSteps (e,shared) hu steps identity
  · intro sourceRef pid uniquePid start steps us hs ha ht
    exact bills_of_period hb hs steps us ha ht
  · rintro rfl
    rfl
  · intro shared order u previous hf hp hl
    refine ⟨?_,?_,?_⟩
    · have hi := e.applyEvent_bill ⟨order,.update u⟩ shared.intervalBytesByProcess
      rw [bill_of_lossy hp hl] at hi
      exact hi
    · have hd := dataLoss_of_lossy hf hp hl shared.intervalBytesByProcess
      obtain ⟨message,hm⟩ := Option.isSome_iff_exists.mp hd
      simp [commitEvent,hm]
    · intro hc
      refine .inr ?_
      rw [e.next_sources _ hf]
      simp [SourceEvent.sourceRef,SourceEvent.state,hc,SourceUpdate.counters]
  · intro shared event hs
    rw [commitEvent,e.applyEvent_of_stale event _ hs]
    rfl

/-- A source known at the baseline with counter 100. -/
def knownAtBaseline : AttributionEngine :=
  AttributionEngine.after {} [.event ⟨⟨1,0⟩,.update ⟨7,42,43,100,0,false,false⟩⟩]

/-- Its counter falls to 50, which begins a new period, and then rises to 80: the
period bills 30 bytes, not the difference to the counter at the baseline. -/
theorem period_after_regression :
    let e := knownAtBaseline.finishBaseline.after
      [.event ⟨⟨2,0⟩,.update ⟨7,42,43,50,0,false,false⟩⟩]
    let steps : List EngineStep := [.event ⟨⟨3,0⟩,.update ⟨7,42,43,80,0,false,false⟩⟩]
    knownAtBaseline.sources.lookup 7=some ⟨42,43,100,0⟩ ∧
    StartCounter e 7 42 43 ⟨50,0⟩ ∧
    e.applied 7 steps=[SourceUpdate.mk 7 42 43 80 0 false false].map .update ∧
    Tracked 42 43 ⟨50,0⟩ [SourceUpdate.mk 7 42 43 80 0 false false] ∧
    ((ofSource 7 (e.bills steps)).map Bill.received).sum=30 ∧
    ¬((ofSource 7 (e.bills steps)).map Bill.received).sum+100=
      (lastCounters ⟨50,0⟩ [SourceUpdate.mk 7 42 43 80 0 false false]).received := by
  refine ⟨rfl,.inr rfl,rfl,?_,rfl,by decide⟩
  exact ⟨⟨rfl,rfl⟩,⟨by decide,by decide⟩,by simp,trivial⟩

end BatCave.MacosNetwork
