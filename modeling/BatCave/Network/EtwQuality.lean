import BatCave.Network.Attribution
import BatCave.Lib.History

/-! What an ETW session is worth from one health snapshot to the next. The tracker is shown to
be a function of the calls whose statistics were accepted. NOT a statement about the callbacks
that count the events. -/
namespace BatCave.WindowsNetwork
open BatCave.Lib.Word BatCave.Lib.History BatCave.NetworkAttribution

def etwCallbackFreshnessMs : Nat := 5000

structure EtwSessionStatistics where
  eventsLost : Nat := 0
  logBuffersLost : Nat := 0
  realtimeBuffersLost : Nat := 0
  deriving DecidableEq, Repr

namespace EtwSessionStatistics

def totalLoss (s : EtwSessionStatistics) : Nat :=
  satAdd (satAdd s.eventsLost s.logBuffersLost) s.realtimeBuffersLost

def decreasedFrom (s previous : EtwSessionStatistics) : Bool :=
  s.eventsLost < previous.eventsLost || s.logBuffersLost < previous.logBuffersLost ||
    s.realtimeBuffersLost < previous.realtimeBuffersLost

/-- The three counters as they are added without a bound. -/
def sum (s : EtwSessionStatistics) : Nat := s.eventsLost+s.logBuffersLost+s.realtimeBuffersLost

end EtwSessionStatistics

structure EtwHealthSnapshot where
  consumerStarted : Bool
  consumerHeartbeatAgeMs : Option Nat
  consumerError : Option String
  decodedEvents : Nat
  decoderErrors : Nat
  sessionStatistics : Except String EtwSessionStatistics

inductive EtwQualityDecision where
  | native
  | pendingBaseline
  | held (message : String)
  | dataLoss (message : String)
  | unavailable (message : String)
  deriving DecidableEq, Repr

structure EtwQualityTracker where
  decodedEvents : Nat := 0
  decoderErrors : Nat := 0
  sessionStatistics : EtwSessionStatistics := {}
  needsCleanInterval : Bool := false
  deriving DecidableEq, Repr

namespace EtwQualityTracker

def decoderUnproven (decoderErrors lost : Nat) : EtwQualityDecision :=
  .unavailable ("network_attribution_decoder_unproven:decoder_errors="++toString decoderErrors++
    ":lost="++toString lost)

def lostData (decoderErrors lost : Nat) : EtwQualityDecision :=
  .dataLoss ("ETW process-network attribution lost data: decoder_errors="++
    toString decoderErrors++", lost_events_or_buffers="++toString lost++".")

def waitingForCleanInterval : EtwQualityDecision :=
  .dataLoss
    "ETW process-network attribution is waiting for a clean decoded interval after data loss."

def waitingForDelivery (heartbeatAgeMs : Nat) : EtwQualityDecision :=
  .held ("Network attribution is waiting for fresh ETW delivery ("++toString heartbeatAgeMs++
    " ms since the last callback).")

/-- The part of `evaluate` behind its early returns: the counters are remembered, whatever is
decided of them. -/
def evaluateCounters (t : EtwQualityTracker) (snapshot : EtwHealthSnapshot)
    (statistics : EtwSessionStatistics) : EtwQualityDecision × EtwQualityTracker :=
  let decodedDelta := snapshot.decodedEvents-t.decodedEvents
  let decoderErrorDelta := snapshot.decoderErrors-t.decoderErrors
  let lossDelta := statistics.totalLoss-t.sessionStatistics.totalLoss
  let next : EtwQualityTracker :=
    { t with
      decodedEvents := snapshot.decodedEvents
      decoderErrors := snapshot.decoderErrors
      sessionStatistics := statistics }
  if 0 < decoderErrorDelta ∨ 0 < lossDelta then
    (if snapshot.decodedEvents=0 then decoderUnproven decoderErrorDelta lossDelta
      else lostData decoderErrorDelta lossDelta,
      { next with needsCleanInterval := true })
  else if snapshot.consumerStarted=false then (.pendingBaseline,next)
  else
    match snapshot.consumerHeartbeatAgeMs with
    | none => (.unavailable "network_attribution_consumer_heartbeat_missing",next)
    | some heartbeatAgeMs =>
      if snapshot.decodedEvents=0 then (.pendingBaseline,next)
      else if t.needsCleanInterval ∧
          (decodedDelta=0 ∨ etwCallbackFreshnessMs < heartbeatAgeMs) then
        (waitingForCleanInterval,next)
      else if etwCallbackFreshnessMs < heartbeatAgeMs then
        (waitingForDelivery heartbeatAgeMs,next)
      else (.native,{ next with needsCleanInterval := false })

def evaluate (t : EtwQualityTracker) (snapshot : EtwHealthSnapshot) :
    EtwQualityDecision × EtwQualityTracker :=
  match snapshot.consumerError with
  | some error => (.unavailable error,t)
  | none =>
    match snapshot.sessionStatistics with
    | .error error => (.unavailable error,t)
    | .ok statistics =>
      if statistics.decreasedFrom t.sessionStatistics then
        (.unavailable "network_attribution_session_statistics_regressed",t)
      else t.evaluateCounters snapshot statistics

/-- The tracker after these calls, the oldest first. -/
def after (calls : List EtwHealthSnapshot) : EtwQualityTracker :=
  calls.foldl (fun t snapshot => (t.evaluate snapshot).2) {}

end EtwQualityTracker

def sampleFromEtwQuality (decision : EtwQualityDecision) (ratesByProcess : RatesByProcess) :
    NetworkAttributionSample :=
  match decision with
  | .native => .ready ratesByProcess
  | .pendingBaseline =>
    .pendingBaseline "Waiting for a supported ETW process-network event baseline."
  | .held message => .held message
  | .dataLoss message => .partialRates ratesByProcess message
  | .unavailable message => .failed message

/-- What a call that follows these earlier ones decides. -/
def decision (before : List EtwHealthSnapshot) (snapshot : EtwHealthSnapshot) :
    EtwQualityDecision :=
  ((EtwQualityTracker.after before).evaluate snapshot).1

/-- The counters of one call. -/
structure EtwCounters where
  decodedEvents : Nat := 0
  decoderErrors : Nat := 0
  statistics : EtwSessionStatistics := {}
  deriving DecidableEq, Repr

/-- The call is taken at its word: it has no consumer error, and readable statistics that did
not go back behind those accepted last. -/
def accept (last : EtwCounters) (snapshot : EtwHealthSnapshot) : Option EtwCounters :=
  match snapshot.consumerError,snapshot.sessionStatistics with
  | none,.ok statistics =>
    if statistics.decreasedFrom last.statistics then none
    else some ⟨snapshot.decodedEvents,snapshot.decoderErrors,statistics⟩
  | _,_ => none

/-- The counters that were accepted last, all zero before the first. -/
def lastAccepted (calls : List EtwHealthSnapshot) : EtwCounters :=
  calls.foldl (fun last snapshot => (accept last snapshot).getD last) {}

/-- Some loss or decoder-error counter is above the one before. -/
def EtwCounters.Grew (last next : EtwCounters) : Prop :=
  last.decoderErrors < next.decoderErrors ∨
    last.statistics.eventsLost < next.statistics.eventsLost ∨
    last.statistics.logBuffersLost < next.statistics.logBuffersLost ∨
    last.statistics.realtimeBuffersLost < next.statistics.realtimeBuffersLost

/-- The call reports a loss or a decoder error. -/
def ReportsLoss (before : List EtwHealthSnapshot) (snapshot : EtwHealthSnapshot) : Prop :=
  ∃ next, accept (lastAccepted before) snapshot=some next ∧ (lastAccepted before).Grew next

/-- One of the calls reported a loss, and none after it was native. -/
def LossOutstanding (calls : List EtwHealthSnapshot) : Prop :=
  ∃ earlier reporting later, calls=earlier++reporting::later ∧ ReportsLoss earlier reporting ∧
    ∀ h₁ snapshot h₂, later=h₁++snapshot::h₂ →
      decision (earlier++reporting::h₁) snapshot≠.native

/-- The sums of the statistics fit a machine word. -/
def Fits (calls : List EtwHealthSnapshot) : Prop :=
  ∀ snapshot∈calls, ∀ statistics, snapshot.sessionStatistics=.ok statistics →
    statistics.sum ≤ u64Max

section Counters
variable {s previous : EtwSessionStatistics}

theorem totalLoss_of_fits (h : s.sum ≤ u64Max) : s.totalLoss=s.sum := by
  simp only [EtwSessionStatistics.sum] at h
  simp only [EtwSessionStatistics.totalLoss,EtwSessionStatistics.sum,satAdd]
  omega

theorem decreasedFrom_eq_false : s.decreasedFrom previous=false ↔
    previous.eventsLost ≤ s.eventsLost ∧ previous.logBuffersLost ≤ s.logBuffersLost ∧
      previous.realtimeBuffersLost ≤ s.realtimeBuffersLost := by
  simp only [EtwSessionStatistics.decreasedFrom,Bool.or_eq_false_iff,decide_eq_false_iff_not]
  omega

/-- Counters that do not go back and whose sum stays are the same. -/
theorem statistics_eq (hle : s.decreasedFrom previous=false)
    (hsum : s.sum ≤ previous.sum) : s=previous := by
  rw [decreasedFrom_eq_false] at hle
  obtain ⟨events,buffers,realtime⟩ := s
  obtain ⟨events',buffers',realtime'⟩ := previous
  simp only [EtwSessionStatistics.sum] at hle hsum
  rw [EtwSessionStatistics.mk.injEq]
  omega

end Counters

section Calls
variable {last next : EtwCounters} {snapshot : EtwHealthSnapshot}

theorem accept_eq_some : accept last snapshot=some next ↔
    snapshot.consumerError=none ∧ snapshot.sessionStatistics=.ok next.statistics ∧
      next.statistics.decreasedFrom last.statistics=false ∧
      next.decodedEvents=snapshot.decodedEvents ∧ next.decoderErrors=snapshot.decoderErrors := by
  obtain ⟨decoded,errors,statistics⟩ := next
  cases he : snapshot.consumerError with
  | some error => simp [accept,he]
  | none =>
    cases hs : snapshot.sessionStatistics with
    | error error => simp [accept,he,hs]
    | ok found =>
      by_cases hd : found.decreasedFrom last.statistics=true
      · simp only [accept,he,hs,hd,if_true,reduceCtorEq,Except.ok.injEq,true_and,false_iff]
        intro ⟨heq,hkept,_⟩
        rw [← heq,hd] at hkept
        cases hkept
      · rw [Bool.not_eq_true] at hd
        simp only [accept,he,hs,hd,if_false,Option.some.injEq,EtwCounters.mk.injEq,
          Except.ok.injEq,true_and,Bool.false_eq_true]
        constructor
        · intro ⟨hdecoded,herrors,heq⟩
          exact ⟨heq,by rw [← heq,hd],hdecoded.symm,herrors.symm⟩
        · intro ⟨heq,_,hdecoded,herrors⟩
          exact ⟨hdecoded.symm,herrors.symm,heq⟩

variable {t : EtwQualityTracker}

/-- The counters that the tracker remembers. -/
def EtwQualityTracker.counters (t : EtwQualityTracker) : EtwCounters where
  decodedEvents := t.decodedEvents
  decoderErrors := t.decoderErrors
  statistics := t.sessionStatistics

/-- A call that is not accepted fails and leaves no trace. -/
theorem evaluate_refused (h : accept t.counters snapshot=none) :
    ∃ message, t.evaluate snapshot=(.unavailable message,t) := by
  cases he : snapshot.consumerError with
  | some error => exact ⟨error,by simp only [EtwQualityTracker.evaluate,he]⟩
  | none =>
    cases hs : snapshot.sessionStatistics with
    | error error => exact ⟨error,by simp only [EtwQualityTracker.evaluate,he,hs]⟩
    | ok statistics =>
      have hd : statistics.decreasedFrom t.sessionStatistics=true := by
        by_contra hd
        have hsome : accept t.counters snapshot=some
            ⟨snapshot.decodedEvents,snapshot.decoderErrors,statistics⟩ :=
          accept_eq_some.mpr ⟨he,hs,Bool.eq_false_iff.mpr hd,rfl,rfl⟩
        rw [h] at hsome
        cases hsome
      exact ⟨_,by simp only [EtwQualityTracker.evaluate,he,hs,hd,if_true]; rfl⟩

theorem evaluate_accepted (h : accept t.counters snapshot=some next) :
    t.evaluate snapshot=t.evaluateCounters snapshot next.statistics := by
  obtain ⟨he,hs,hd,_,_⟩ := accept_eq_some.mp h
  have hd' : next.statistics.decreasedFrom t.sessionStatistics=false := hd
  simp [EtwQualityTracker.evaluate,he,hs,hd']

/-- What an accepted call can come to: a loss, a clean fresh interval, or neither. -/
inductive Verdict (t : EtwQualityTracker) (snapshot : EtwHealthSnapshot) (next : EtwCounters) :
    Prop where
  | lost (hgrew : t.counters.Grew next) (hdecision : (t.evaluate snapshot).1≠.native)
      (hneeds : (t.evaluate snapshot).2.needsCleanInterval=true)
  | clean (age : Nat) (hkept : ¬t.counters.Grew next) (hdecision : (t.evaluate snapshot).1=.native)
      (hneeds : (t.evaluate snapshot).2.needsCleanInterval=false)
      (hage : snapshot.consumerHeartbeatAgeMs=some age) (hfresh : age ≤ etwCallbackFreshnessMs)
      (hdecoded : t.needsCleanInterval=true → t.decodedEvents < snapshot.decodedEvents)
  | waiting (hkept : ¬t.counters.Grew next) (hdecision : (t.evaluate snapshot).1≠.native)
      (hneeds : (t.evaluate snapshot).2.needsCleanInterval=t.needsCleanInterval)

/-- The deltas see exactly what grew, as long as no sum saturates. -/
theorem deltas_iff (h : accept t.counters snapshot=some next)
    (hlast : t.sessionStatistics.sum ≤ u64Max) (hnext : next.statistics.sum ≤ u64Max) :
    (0 < snapshot.decoderErrors-t.decoderErrors ∨
        0 < next.statistics.totalLoss-t.sessionStatistics.totalLoss) ↔ t.counters.Grew next := by
  obtain ⟨_,_,hd,_,herrors⟩ := accept_eq_some.mp h
  rw [decreasedFrom_eq_false] at hd
  rw [totalLoss_of_fits hlast,totalLoss_of_fits hnext]
  simp only [EtwCounters.Grew,EtwQualityTracker.counters,EtwSessionStatistics.sum] at hd ⊢
  omega

theorem verdict (h : accept t.counters snapshot=some next)
    (hlast : t.sessionStatistics.sum ≤ u64Max) (hnext : next.statistics.sum ≤ u64Max) :
    Verdict t snapshot next := by
  have hgrew := deltas_iff h hlast hnext
  have heval := evaluate_accepted h
  simp only [EtwQualityTracker.evaluateCounters] at heval
  by_cases hg : t.counters.Grew next
  · rw [if_pos (hgrew.mpr hg)] at heval
    refine .lost hg ?_ (by rw [heval])
    rw [heval]
    by_cases hzero : snapshot.decodedEvents=0
    · simp [hzero,EtwQualityTracker.decoderUnproven]
    · simp [hzero,EtwQualityTracker.lostData]
  · rw [if_neg (hgrew.not.mpr hg)] at heval
    by_cases hstarted : snapshot.consumerStarted=false
    · rw [if_pos hstarted] at heval
      exact .waiting hg (by simp [heval]) (by rw [heval])
    · rw [if_neg hstarted] at heval
      cases hage : snapshot.consumerHeartbeatAgeMs with
      | none =>
        simp only [hage] at heval
        exact .waiting hg (by simp [heval]) (by rw [heval])
      | some age =>
        simp only [hage] at heval
        by_cases hzero : snapshot.decodedEvents=0
        · rw [if_pos hzero] at heval
          exact .waiting hg (by simp [heval]) (by rw [heval])
        · rw [if_neg hzero] at heval
          by_cases hwait : t.needsCleanInterval=true ∧
              (snapshot.decodedEvents-t.decodedEvents=0 ∨ etwCallbackFreshnessMs < age)
          · rw [if_pos hwait] at heval
            refine .waiting hg ?_ (by rw [heval])
            simp [heval,EtwQualityTracker.waitingForCleanInterval]
          · rw [if_neg hwait] at heval
            by_cases hstale : etwCallbackFreshnessMs < age
            · rw [if_pos hstale] at heval
              refine .waiting hg ?_ (by rw [heval])
              simp [heval,EtwQualityTracker.waitingForDelivery]
            · rw [if_neg hstale] at heval
              refine .clean age hg (by rw [heval]) (by rw [heval]) hage (by omega) ?_
              intro hneeds
              have hdelta : ¬snapshot.decodedEvents-t.decodedEvents=0 := fun hsame =>
                hwait ⟨hneeds,.inl hsame⟩
              omega

/-- The counters of a call are remembered exactly when it is accepted. -/
theorem evaluate_counters :
    (t.evaluate snapshot).2.counters=(accept t.counters snapshot).getD t.counters := by
  cases h : accept t.counters snapshot with
  | none =>
    obtain ⟨message,heval⟩ := evaluate_refused h
    rw [heval]
    rfl
  | some next =>
    obtain ⟨_,_,_,hdecoded,herrors⟩ := accept_eq_some.mp h
    have hcounters : next=⟨snapshot.decodedEvents,snapshot.decoderErrors,next.statistics⟩ := by
      rw [← hdecoded,← herrors]
    rw [evaluate_accepted h,Option.getD_some,hcounters]
    simp only [EtwQualityTracker.evaluateCounters]
    split
    · rfl
    · split
      · rfl
      · split
        · rfl
        · split
          · rfl
          · split
            · rfl
            · split <;> rfl

end Calls

section Runs
open EtwQualityTracker
variable {calls : List EtwHealthSnapshot} {snapshot : EtwHealthSnapshot}

theorem after_snoc (calls : List EtwHealthSnapshot) (snapshot : EtwHealthSnapshot) :
    after (calls++[snapshot])=((after calls).evaluate snapshot).2 := by
  simp [after]

theorem lastAccepted_snoc (calls : List EtwHealthSnapshot) (snapshot : EtwHealthSnapshot) :
    lastAccepted (calls++[snapshot])=
      (accept (lastAccepted calls) snapshot).getD (lastAccepted calls) := by
  simp [lastAccepted]

/-- The tracker remembers the counters that were accepted last. -/
theorem counters_after (calls : List EtwHealthSnapshot) :
    (after calls).counters=lastAccepted calls := by
  induction calls using List.reverseRecOn with
  | nil => rfl
  | append_singleton calls snapshot ih =>
    rw [after_snoc,lastAccepted_snoc,evaluate_counters,ih]

theorem Fits.init (h : Fits (calls++[snapshot])) : Fits calls :=
  fun call hcall => h call (List.mem_append_left _ hcall)

theorem Fits.accepted {last next : EtwCounters} (h : Fits (calls++[snapshot]))
    (haccept : accept last snapshot=some next) : next.statistics.sum ≤ u64Max := by
  obtain ⟨_,hs,_⟩ := accept_eq_some.mp haccept
  exact h snapshot (by simp) _ hs

theorem Fits.last (h : Fits calls) : (lastAccepted calls).statistics.sum ≤ u64Max := by
  induction calls using List.reverseRecOn with
  | nil => exact Nat.zero_le _
  | append_singleton calls snapshot ih =>
    rw [lastAccepted_snoc]
    cases haccept : accept (lastAccepted calls) snapshot with
    | none => exact ih h.init
    | some next => exact h.accepted haccept

theorem verdict_after (h : Fits (calls++[snapshot])) {next : EtwCounters}
    (haccept : accept (lastAccepted calls) snapshot=some next) :
    Verdict (after calls) snapshot next := by
  have hcounters := counters_after calls
  have hlast : (after calls).sessionStatistics.sum ≤ u64Max := by
    have hfits := h.init.last
    rwa [← hcounters] at hfits
  rw [← hcounters] at haccept
  exact verdict haccept hlast (h.accepted haccept)

/-- A further call adds its own report and clears the earlier ones only by being native. -/
theorem outstanding_snoc : LossOutstanding (calls++[snapshot]) ↔
    ReportsLoss calls snapshot ∨ (LossOutstanding calls ∧ decision calls snapshot≠.native) := by
  constructor
  · intro ⟨earlier,reporting,later,hsplit,hreports,hnone⟩
    obtain ⟨rfl,rfl,_⟩ | ⟨later',rfl,rfl⟩ := snoc_split hsplit
    · exact .inl hreports
    · refine .inr ⟨⟨earlier,reporting,later',rfl,hreports,?_⟩,hnone later' snapshot [] rfl⟩
      intro h₁ call h₂ hlater
      exact hnone h₁ call (h₂++[snapshot]) (by simp [hlater])
  · intro h
    cases h with
    | inl hreports =>
      refine ⟨calls,snapshot,[],rfl,hreports,?_⟩
      intro h₁ call h₂ hnil
      simp at hnil
    | inr h =>
      obtain ⟨⟨earlier,reporting,later,rfl,hreports,hnone⟩,hnative⟩ := h
      refine ⟨earlier,reporting,later++[snapshot],by simp,hreports,?_⟩
      intro h₁ call h₂ hlater
      obtain ⟨rfl,rfl,_⟩ | ⟨h₃,_,rfl⟩ := snoc_split hlater
      · exact hnative
      · exact hnone h₁ call h₃ rfl

/-- The sticky flag is the memory of an outstanding loss. -/
theorem needsCleanInterval_after (h : Fits calls) :
    (after calls).needsCleanInterval=true ↔ LossOutstanding calls := by
  induction calls using List.reverseRecOn with
  | nil =>
    constructor
    · intro hneeds
      cases hneeds
    · intro ⟨earlier,reporting,later,hnil,_⟩
      simp at hnil
  | append_singleton calls snapshot ih =>
    have hih := ih h.init
    rw [outstanding_snoc,after_snoc,← hih]
    simp only [decision,ReportsLoss]
    cases haccept : accept (lastAccepted calls) snapshot with
    | none =>
      obtain ⟨message,heval⟩ := evaluate_refused (t := after calls)
        (by rwa [counters_after])
      simp [heval]
    | some next =>
      have hlast : lastAccepted calls=(after calls).counters := (counters_after calls).symm
      cases verdict_after h haccept with
      | lost hgrew hdecision hneeds => simp [hneeds,hlast,hgrew]
      | clean age hkept hdecision hneeds hage hfresh hdecoded =>
        simp [hneeds,hlast,hkept,hdecision]
      | waiting hkept hdecision hneeds => simp [hneeds,hlast,hkept,hdecision]

end Runs

/-- A call decides Native only with fresh evidence, nothing lost since the last accepted call
and, after a loss, newly decoded events of its own. A call that fails leaves no trace, and
rates are only published for the decisions that stand for traffic. -/
theorem native_across_no_loss (before : List EtwHealthSnapshot) (snapshot : EtwHealthSnapshot)
    (hfits : Fits (before++[snapshot])) :
    (decision before snapshot=.native →
      (∃ next, accept (lastAccepted before) snapshot=some next ∧
        ¬(lastAccepted before).Grew next ∧ next.statistics=(lastAccepted before).statistics) ∧
      (∃ age, snapshot.consumerHeartbeatAgeMs=some age ∧ age ≤ etwCallbackFreshnessMs) ∧
      (LossOutstanding before → (lastAccepted before).decodedEvents < snapshot.decodedEvents)) ∧
    (snapshot.consumerError.isSome ∨ (∃ error, snapshot.sessionStatistics=.error error) ∨
        (∃ statistics, snapshot.sessionStatistics=.ok statistics ∧
          statistics.decreasedFrom (lastAccepted before).statistics=true) →
      (∃ message, decision before snapshot=.unavailable message) ∧
        EtwQualityTracker.after (before++[snapshot])=EtwQualityTracker.after before) ∧
    ∀ rates,
      (∀ published, sampleFromEtwQuality (decision before snapshot) rates=.ready published ↔
        decision before snapshot=.native ∧ published=rates) ∧
      (∀ published message,
        sampleFromEtwQuality (decision before snapshot) rates=.partialRates published message ↔
          decision before snapshot=.dataLoss message ∧ published=rates) := by
  refine ⟨?_,?_,?_⟩
  · intro hnative
    have hcounters := counters_after before
    cases haccept : accept (lastAccepted before) snapshot with
    | none =>
      obtain ⟨message,heval⟩ := evaluate_refused (t := EtwQualityTracker.after before)
        (by rwa [hcounters])
      rw [decision,heval] at hnative
      cases hnative
    | some next =>
      cases verdict_after hfits haccept with
      | lost hgrew hdecision hneeds => exact absurd hnative hdecision
      | waiting hkept hdecision hneeds => exact absurd hnative hdecision
      | clean age hkept hdecision hneeds hage hfresh hdecoded =>
        rw [hcounters] at hkept
        obtain ⟨_,_,hd,_,_⟩ := accept_eq_some.mp haccept
        refine ⟨⟨next,rfl,hkept,statistics_eq hd ?_⟩,⟨age,hage,hfresh⟩,?_⟩
        · simp only [EtwCounters.Grew] at hkept
          simp only [EtwSessionStatistics.sum]
          omega
        · intro houtstanding
          rw [← hcounters]
          exact hdecoded ((needsCleanInterval_after hfits.init).mpr houtstanding)
  · intro hfails
    have hrefused : accept (EtwQualityTracker.after before).counters snapshot=none := by
      rw [counters_after]
      by_contra hsome
      obtain ⟨next,hnext⟩ := Option.ne_none_iff_exists'.mp hsome
      obtain ⟨he,hs,hd,_,_⟩ := accept_eq_some.mp hnext
      obtain hconsumer | ⟨error,hread⟩ | ⟨statistics,hread,hregressed⟩ := hfails
      · simp [he] at hconsumer
      · rw [hs] at hread
        cases hread
      · rw [hs] at hread
        cases hread
        rw [hd] at hregressed
        cases hregressed
    obtain ⟨message,heval⟩ := evaluate_refused hrefused
    exact ⟨⟨message,by rw [decision,heval]⟩,by rw [after_snoc,heval]⟩
  · intro rates
    cases decision before snapshot <;> simp [sampleFromEtwQuality,eq_comm,and_comm]

/-- A healthy call with these counters. -/
def healthy (decodedEvents eventsLost : Nat) : EtwHealthSnapshot :=
  ⟨true,some 0,none,decodedEvents,0,.ok { eventsLost := eventsLost }⟩

/-- Two events are lost, and the next decoded event ends the waiting. -/
theorem native_after_loss :
    decision [healthy 1 0,healthy 2 2,healthy 2 2] (healthy 3 2)=.native ∧
      (lastAccepted [healthy 1 0,healthy 2 2,healthy 2 2]).decodedEvents < 3 := by
  have hfits : Fits ([healthy 1 0,healthy 2 2,healthy 2 2]++[healthy 3 2]) := by
    intro snapshot hmem statistics hread
    simp only [List.cons_append,List.nil_append,List.mem_cons,List.not_mem_nil,or_false] at hmem
    obtain rfl | rfl | rfl | rfl := hmem <;> cases hread <;> decide
  have hnative : decision [healthy 1 0,healthy 2 2,healthy 2 2] (healthy 3 2)=.native := by
    decide
  have houtstanding : LossOutstanding [healthy 1 0,healthy 2 2,healthy 2 2] :=
    (needsCleanInterval_after hfits.init).mp (by decide)
  exact ⟨hnative,((native_across_no_loss _ _ hfits).1 hnative).2.2 houtstanding⟩

end BatCave.WindowsNetwork
