import BatCave.Network.LinuxIntervals

/-! The owner of the Linux monitor: it starts the probe, passes its samples on, and restarts
it after a failure until the attempts of the episode are used up. -/
namespace BatCave.LinuxNetwork
open BatCave.NetworkAttribution

def retryDelay : Nat := 30*10^9
def maxStartAttempts : Nat := 3

structure ReadyState where
  monitor : LinuxNetworkAttributionMonitor
  attempts : Nat

structure FailureState where
  message : String
  attempts : Nat
  retryAt : Option Nat

namespace FailureState

def afterAttempt (message : String) (attempts now : Nat) : FailureState :=
  let attempts := min attempts maxStartAttempts
  {message,attempts,retryAt := if attempts < maxStartAttempts then some (now+retryDelay) else none}

def afterRuntimeFailure (message : String) (attempts now : Nat) : FailureState :=
  afterAttempt message (max attempts 1) now

def retryDue (f : FailureState) (now : Nat) : Bool :=
  match f.retryAt with
  | some retryAt => decide (retryAt ≤ now)
  | none => false

def observableMessage (f : FailureState) (now : Nat) : String :=
  match f.retryAt with
  | some retryAt =>
    let retryInMs := (retryAt-now)/10^6
    s!"{f.message}; retry_state=waiting retry_attempts={f.attempts} " ++
      s!"retry_limit={maxStartAttempts} retry_in_ms={retryInMs}"
  | none =>
    s!"{f.message}; retry_state=exhausted retry_attempts={f.attempts} " ++
      s!"retry_limit={maxStartAttempts}"

end FailureState

inductive LinuxNetworkAttributionState where
  | ready (ready : ReadyState)
  | failed (failure : FailureState)

structure LinuxNetworkAttribution where
  state : LinuxNetworkAttributionState

/-- A call of `sample_at_with`: when it is made, how the running monitor answers, and what
the start of a new one returns. -/
structure Call where
  now : Nat
  sample : LinuxNetworkAttributionMonitor →
    NetworkAttributionSample × LinuxNetworkAttributionMonitor
  start : Except String LinuxNetworkAttributionMonitor

/-- What a call returns, the state that it leaves, and whether it has called `start`. -/
structure Answer where
  sample : NetworkAttributionSample
  next : LinuxNetworkAttribution
  started : Bool

namespace LinuxNetworkAttribution

def fromStartResult (result : Except String LinuxNetworkAttributionMonitor) (now : Nat) :
    LinuxNetworkAttribution :=
  match result with
  | .ok monitor => {state := .ready {monitor,attempts := 1}}
  | .error message => {state := .failed (.afterAttempt message 1 now)}

def retryFailedWith (s : LinuxNetworkAttribution) (c : Call) : Answer :=
  match s.state with
  | .ready _ => ⟨.held "Linux eBPF network attribution is warming up.",s,false⟩
  | .failed failure =>
    if failure.retryDue c.now=false then ⟨.failed (failure.observableMessage c.now),s,false⟩
    else
      -- `saturating_add` on a `u8`
      let attempt := min (failure.attempts+1) 255
      match c.start with
      | .ok monitor =>
        ⟨.held (s!"Linux eBPF network attribution restarted on attempt {attempt}/" ++
          s!"{maxStartAttempts} and is warming up."),{state := .ready ⟨monitor,attempt⟩},true⟩
      | .error message =>
        let failure := FailureState.afterAttempt message attempt c.now
        ⟨.failed (failure.observableMessage c.now),{state := .failed failure},true⟩

def sampleAtWith (s : LinuxNetworkAttribution) (c : Call) : Answer :=
  match s.state with
  | .ready ready =>
    match c.sample ready.monitor with
    | (.ready ratesByProcess,monitor) =>
      ⟨.ready ratesByProcess,{state := .ready ⟨monitor,0⟩},false⟩
    | (.failed message,_) =>
      retryFailedWith
        {state := .failed (.afterRuntimeFailure message (max ready.attempts 1) c.now)} c
    | (sample,monitor) => ⟨sample,{state := .ready {ready with monitor}},false⟩
  | .failed _ => s.retryFailedWith c

def attempts (s : LinuxNetworkAttribution) : Nat :=
  match s.state with
  | .ready ready => ready.attempts
  | .failed failure => failure.attempts

/-- No attempt is left: the state has failed and nothing will retry it. -/
def Exhausted (s : LinuxNetworkAttribution) : Prop :=
  match s.state with
  | .ready _ => False
  | .failed failure => failure.retryAt=none

/-- The call meets a failure: of the running monitor, or of the start that it has made. -/
def Fails (s : LinuxNetworkAttribution) (c : Call) : Bool :=
  match s.state with
  | .ready ready =>
    match (c.sample ready.monitor).1 with
    | .failed _ => true
    | _ => false
  | .failed failure =>
    failure.retryDue c.now && (match c.start with
      | .ok _ => false
      | .error _ => true)

end LinuxNetworkAttribution

/-- One call of a history. -/
structure Record where
  now : Nat
  sample : NetworkAttributionSample
  started : Bool
  fails : Bool

namespace LinuxNetworkAttribution

def recordOf (s : LinuxNetworkAttribution) (c : Call) : Record :=
  ⟨c.now,(s.sampleAtWith c).sample,(s.sampleAtWith c).started,s.Fails c⟩

def after (s : LinuxNetworkAttribution) : List Call → LinuxNetworkAttribution
  | [] => s
  | c::calls => (s.sampleAtWith c).next.after calls

def history (s : LinuxNetworkAttribution) : List Call → List Record
  | [] => []
  | c::calls => s.recordOf c::(s.sampleAtWith c).next.history calls

end LinuxNetworkAttribution

/-- How often a stretch of a history calls `start`. -/
def startCalls (records : List Record) : Nat := records.countP (fun r => r.started)

/-- When the last failure of a history was met; before it stands the one of the construction. -/
def lastFailure (first : Option Nat) (records : List Record) : Option Nat :=
  records.foldl (fun last r => if r.fails=true then some r.now else last) first

/-- The failure of the construction at `now`, if it was one. -/
def constructionFailure (result : Except String LinuxNetworkAttributionMonitor) (now : Nat) :
    Option Nat :=
  match result with
  | .ok _ => none
  | .error _ => some now

namespace FailureState

/-- A failure keeps its attempts within the limit, and retries exactly below it. -/
structure Valid (f : FailureState) : Prop where
  counted : 1 ≤ f.attempts
  limited : f.attempts ≤ maxStartAttempts
  retries : f.retryAt=none ↔ f.attempts=maxStartAttempts

theorem afterAttempt_valid (message : String) {attempts : Nat} (now : Nat) (h : 1 ≤ attempts) :
    (afterAttempt message attempts now).Valid := by
  have hmax : maxStartAttempts=3 := rfl
  constructor
  · change 1 ≤ min attempts maxStartAttempts
    omega
  · exact Nat.min_le_right _ _
  · change (if min attempts maxStartAttempts < maxStartAttempts then some (now+retryDelay)
      else none)=none ↔ min attempts maxStartAttempts=maxStartAttempts
    by_cases hlt : min attempts maxStartAttempts < maxStartAttempts
    · simp [hlt,Nat.ne_of_lt hlt]
    · have hle := Nat.min_le_right attempts maxStartAttempts
      simp only [if_neg hlt,true_iff]
      omega

theorem afterAttempt_retryAt (message : String) (attempts now : Nat) :
    (afterAttempt message attempts now).retryAt=none ∨
      (afterAttempt message attempts now).retryAt=some (now+retryDelay) := by
  change (if min attempts maxStartAttempts < maxStartAttempts then some (now+retryDelay)
    else none)=none ∨ (if min attempts maxStartAttempts < maxStartAttempts
      then some (now+retryDelay) else none)=some (now+retryDelay)
  split
  · exact .inr rfl
  · exact .inl rfl

/-- What a failure schedules is not due in the call that meets it. -/
theorem afterAttempt_not_due (message : String) (attempts now : Nat) :
    (afterAttempt message attempts now).retryDue now=false := by
  have hdelay : 0 < retryDelay := by decide
  cases afterAttempt_retryAt message attempts now with
  | inl h => simp [retryDue,h]
  | inr h => simp [retryDue,h,Nat.ne_of_gt hdelay]

theorem due_time {f : FailureState} {now : Nat} (h : f.retryDue now=true) :
    ∃ retryAt, f.retryAt=some retryAt ∧ retryAt ≤ now := by
  cases hat : f.retryAt with
  | none => simp [retryDue,hat] at h
  | some retryAt =>
    rw [retryDue,hat] at h
    exact ⟨retryAt,rfl,of_decide_eq_true h⟩

end FailureState

namespace LinuxNetworkAttribution

/-- The states that calls leave. -/
def Valid (s : LinuxNetworkAttribution) : Prop :=
  match s.state with
  | .ready ready => ready.attempts ≤ maxStartAttempts
  | .failed failure => failure.Valid

/-- The starts that are left until the next ready sample. -/
def remaining (s : LinuxNetworkAttribution) : Nat :=
  match s.state with
  | .ready ready => maxStartAttempts-max ready.attempts 1
  | .failed failure => maxStartAttempts-failure.attempts

/-- What one call can do. -/
inductive Turn (s : LinuxNetworkAttribution) (c : Call) : Prop where
  | sampled (ready : ReadyState) (monitor : LinuxNetworkAttributionMonitor)
    (hs : s.state=.ready ready)
      (hready : IsReady (s.sampleAtWith c).sample)
      (hnext : (s.sampleAtWith c).next={state := .ready ⟨monitor,0⟩})
      (hstarted : (s.sampleAtWith c).started=false) (hfails : s.Fails c=false)
  | passed (ready : ReadyState) (monitor : LinuxNetworkAttributionMonitor)
    (hs : s.state=.ready ready)
      (hnext : (s.sampleAtWith c).next={state := .ready {ready with monitor}})
      (hstarted : (s.sampleAtWith c).started=false) (hfails : s.Fails c=false)
  | broke (ready : ReadyState) (message : String) (hs : s.state=.ready ready)
      (hnext : (s.sampleAtWith c).next=
        {state := .failed (.afterAttempt message (max ready.attempts 1) c.now)})
      (hstarted : (s.sampleAtWith c).started=false) (hfails : s.Fails c=true)
  | waited (failure : FailureState) (hs : s.state=.failed failure)
      (hnext : (s.sampleAtWith c).next=s)
      (hstarted : (s.sampleAtWith c).started=false) (hfails : s.Fails c=false)
  | restarted (failure : FailureState) (monitor : LinuxNetworkAttributionMonitor)
      (hs : s.state=.failed failure) (hdue : failure.retryDue c.now=true)
      (hready : ¬IsReady (s.sampleAtWith c).sample)
      (hnext : (s.sampleAtWith c).next={state := .ready ⟨monitor,min (failure.attempts+1) 255⟩})
      (hstarted : (s.sampleAtWith c).started=true) (hfails : s.Fails c=false)
  | refused (failure : FailureState) (message : String) (hs : s.state=.failed failure)
      (hdue : failure.retryDue c.now=true) (hready : ¬IsReady (s.sampleAtWith c).sample)
      (hnext : (s.sampleAtWith c).next=
        {state := .failed (.afterAttempt message (min (failure.attempts+1) 255) c.now)})
      (hstarted : (s.sampleAtWith c).started=true) (hfails : s.Fails c=true)

theorem turn_failed {s : LinuxNetworkAttribution} {failure : FailureState}
    (hs : s.state=.failed failure) (c : Call) : s.Turn c := by
  have hcall : s.sampleAtWith c=s.retryFailedWith c := by rw [sampleAtWith,hs]
  cases hdue : failure.retryDue c.now with
  | false =>
    have hretry : s.retryFailedWith c=
        ⟨.failed (failure.observableMessage c.now),s,false⟩ := by
      rw [retryFailedWith,hs]
      simp only [hdue,if_true]
    rw [hretry] at hcall
    refine .waited failure hs ?_ ?_ ?_
    · rw [hcall]
    · rw [hcall]
    · simp [Fails,hs,hdue]
  | true =>
    cases hstart : c.start with
    | ok monitor =>
      have hretry := hcall
      rw [retryFailedWith,hs] at hretry
      simp only [hdue,hstart,reduceCtorEq,if_false] at hretry
      refine .restarted failure monitor hs hdue ?_ ?_ ?_ ?_
      · rw [hretry]
        exact id
      · rw [hretry]
      · rw [hretry]
      · simp [Fails,hs,hstart]
    | error message =>
      have hretry := hcall
      rw [retryFailedWith,hs] at hretry
      simp only [hdue,hstart,reduceCtorEq,if_false] at hretry
      refine .refused failure message hs hdue ?_ ?_ ?_ ?_
      · rw [hretry]
        exact id
      · rw [hretry]
      · rw [hretry]
      · simp [Fails,hs,hstart,hdue]

theorem turn_ready {s : LinuxNetworkAttribution} {ready : ReadyState}
    (hs : s.state=.ready ready) (c : Call) : s.Turn c := by
  cases hsample : c.sample ready.monitor with
  | mk sample monitor =>
    cases sample with
    | ready ratesByProcess =>
      have hcall : s.sampleAtWith c=
          ⟨.ready ratesByProcess,{state := .ready ⟨monitor,0⟩},false⟩ := by
        rw [sampleAtWith,hs]
        simp only [hsample]
      refine .sampled ready monitor hs ?_ ?_ ?_ ?_
      · rw [hcall]
        exact trivial
      · rw [hcall]
      · rw [hcall]
      · simp [Fails,hs,hsample]
    | failed message =>
      let failure := FailureState.afterAttempt message (max ready.attempts 1) c.now
      have hruntime : FailureState.afterRuntimeFailure message (max ready.attempts 1) c.now=
          failure := by
        rw [FailureState.afterRuntimeFailure,Nat.max_assoc,Nat.max_self]
      have hcall : s.sampleAtWith c=
          ⟨.failed (failure.observableMessage c.now),{state := .failed failure},false⟩ := by
        rw [sampleAtWith,hs]
        simp only [hsample,hruntime,retryFailedWith]
        rw [FailureState.afterAttempt_not_due,if_pos rfl]
      refine .broke ready message hs ?_ ?_ ?_
      · rw [hcall]
      · rw [hcall]
      · simp [Fails,hs,hsample]
    | _ =>
      refine .passed ready monitor hs ?_ ?_ ?_
      · rw [sampleAtWith,hs]
        simp only [hsample]
      · rw [sampleAtWith,hs]
        simp only [hsample]
      · simp [Fails,hs,hsample]

theorem turn (s : LinuxNetworkAttribution) (c : Call) : s.Turn c := by
  cases hs : s.state with
  | ready ready => exact turn_ready hs c
  | failed failure => exact turn_failed hs c

theorem valid_fromStartResult (result : Except String LinuxNetworkAttributionMonitor) (now : Nat) :
    (fromStartResult result now).Valid := by
  cases result with
  | ok monitor => exact Nat.le_of_ble_eq_true rfl
  | error message => exact FailureState.afterAttempt_valid message now (Nat.le_refl 1)

theorem attempts_le {s : LinuxNetworkAttribution} (h : s.Valid) :
    s.attempts ≤ maxStartAttempts := by
  cases hs : s.state with
  | ready ready => simpa only [attempts,Valid,hs] using h
  | failed failure =>
    rw [Valid,hs] at h
    rw [attempts,hs]
    exact h.limited

theorem remaining_lt {s : LinuxNetworkAttribution} (h : s.Valid) :
    s.remaining+1 ≤ maxStartAttempts := by
  have hmax : maxStartAttempts=3 := rfl
  cases hs : s.state with
  | ready ready =>
    rw [remaining,hs]
    change maxStartAttempts-max ready.attempts 1+1 ≤ maxStartAttempts
    omega
  | failed failure =>
    rw [Valid,hs] at h
    have hcounted := h.counted
    rw [remaining,hs]
    change maxStartAttempts-failure.attempts+1 ≤ maxStartAttempts
    omega

/-- A failure that is due has an attempt left. -/
theorem due_attempts {failure : FailureState} (h : failure.Valid) {now : Nat}
    (hdue : failure.retryDue now=true) : failure.attempts < maxStartAttempts := by
  obtain ⟨retryAt,hat,_⟩ := FailureState.due_time hdue
  have hne : failure.attempts≠maxStartAttempts := fun he => by
    rw [h.retries.2 he] at hat
    cases hat
  exact Nat.lt_of_le_of_ne h.limited hne

theorem valid_next {s : LinuxNetworkAttribution} (h : s.Valid) (c : Call) :
    (s.sampleAtWith c).next.Valid := by
  have hmax : maxStartAttempts=3 := rfl
  cases s.turn c with
  | sampled ready monitor hs _ hnext _ _ =>
    rw [hnext]
    exact Nat.zero_le _
  | passed ready monitor hs hnext _ _ =>
    rw [Valid,hs] at h
    rw [hnext]
    exact h
  | broke ready message hs hnext _ _ =>
    rw [hnext]
    exact FailureState.afterAttempt_valid message c.now (Nat.le_max_right _ 1)
  | waited failure hs hnext _ _ =>
    rw [hnext]
    exact h
  | restarted failure monitor hs hdue _ hnext _ _ =>
    rw [Valid,hs] at h
    have hlt := due_attempts h hdue
    rw [hnext]
    change min (failure.attempts+1) 255 ≤ maxStartAttempts
    omega
  | refused failure message hs hdue _ hnext _ _ =>
    rw [hnext]
    exact FailureState.afterAttempt_valid message c.now (by omega)

/-- A call that starts pays with an attempt; one that does not, leaves what remains. -/
theorem spend {s : LinuxNetworkAttribution} (h : s.Valid) (c : Call)
    (hready : ¬IsReady (s.sampleAtWith c).sample) :
    (if (s.sampleAtWith c).started=true then 1 else 0)+(s.sampleAtWith c).next.remaining ≤
      s.remaining := by
  have hmax : maxStartAttempts=3 := rfl
  cases s.turn c with
  | sampled _ _ _ hr _ _ _ => exact absurd hr hready
  | passed ready monitor hs hnext hstarted _ =>
    rw [hstarted,hnext,remaining,remaining,hs]
    simp
  | broke ready message hs hnext hstarted _ =>
    rw [Valid,hs] at h
    rw [hstarted,hnext,remaining,remaining,hs]
    simp only [FailureState.afterAttempt,Bool.false_eq_true,if_false]
    omega
  | waited failure hs hnext hstarted _ =>
    rw [hstarted,hnext]
    simp
  | restarted failure monitor hs hdue _ hnext hstarted _ =>
    rw [Valid,hs] at h
    have hlt := due_attempts h hdue
    rw [hstarted,hnext,remaining,remaining,hs]
    simp only [if_true]
    omega
  | refused failure message hs hdue _ hnext hstarted _ =>
    rw [Valid,hs] at h
    have hlt := due_attempts h hdue
    rw [hstarted,hnext,remaining,remaining,hs]
    simp only [FailureState.afterAttempt,if_true]
    omega

theorem ready_not_started {s : LinuxNetworkAttribution} {c : Call}
    (hready : IsReady (s.sampleAtWith c).sample) : (s.sampleAtWith c).started=false := by
  cases s.turn c with
  | sampled _ _ _ _ _ hstarted _ => exact hstarted
  | passed _ _ _ _ hstarted _ => exact hstarted
  | broke _ _ _ _ hstarted _ => exact hstarted
  | waited _ _ _ hstarted _ => exact hstarted
  | restarted _ _ _ _ hr _ _ _ => exact absurd hready hr
  | refused _ _ _ _ hr _ _ _ => exact absurd hready hr

theorem exhausted_next {s : LinuxNetworkAttribution} (h : s.Exhausted) (c : Call) :
    (s.sampleAtWith c).next=s ∧ (s.sampleAtWith c).started=false := by
  have hdead : ∀ failure, s.state=.failed failure → failure.retryDue c.now=true → False := by
    intro failure hs hdue
    obtain ⟨retryAt,hat,_⟩ := FailureState.due_time hdue
    rw [Exhausted,hs] at h
    rw [h] at hat
    cases hat
  have hfailed : ∀ ready, s.state=.ready ready → False := by
    intro ready hs
    rw [Exhausted,hs] at h
    exact h
  cases s.turn c with
  | sampled ready _ hs _ _ _ _ => exact (hfailed ready hs).elim
  | passed ready _ hs _ _ _ => exact (hfailed ready hs).elim
  | broke ready _ hs _ _ _ => exact (hfailed ready hs).elim
  | waited _ _ hnext hstarted _ => exact ⟨hnext,hstarted⟩
  | restarted failure _ hs hdue _ _ _ _ => exact (hdead failure hs hdue).elim
  | refused failure _ hs hdue _ _ _ _ => exact (hdead failure hs hdue).elim

/-- The retry of a failed state is due the delay after the failure that `last` dates. -/
def Dated (s : LinuxNetworkAttribution) (last : Option Nat) : Prop :=
  match s.state with
  | .ready _ => True
  | .failed failure =>
    failure.retryAt=none ∨ ∃ t, last=some t ∧ failure.retryAt=some (t+retryDelay)

theorem dated_afterAttempt (message : String) (attempts now : Nat) :
    Dated {state := .failed (.afterAttempt message attempts now)} (some now) := by
  cases FailureState.afterAttempt_retryAt message attempts now with
  | inl h => exact .inl h
  | inr h => exact .inr ⟨now,rfl,h⟩

theorem dated_fromStartResult (result : Except String LinuxNetworkAttributionMonitor)
    (now : Nat) : (fromStartResult result now).Dated (constructionFailure result now) := by
  cases result with
  | ok monitor => exact trivial
  | error message => exact dated_afterAttempt message 1 now

theorem dated_next {s : LinuxNetworkAttribution} {last : Option Nat} (h : s.Dated last)
    (c : Call) :
    (s.sampleAtWith c).next.Dated (if s.Fails c=true then some c.now else last) := by
  cases s.turn c with
  | sampled ready monitor hs _ hnext _ _ =>
    rw [hnext]
    exact trivial
  | passed ready monitor hs hnext _ _ =>
    rw [hnext]
    exact trivial
  | broke ready message hs hnext _ hfails =>
    rw [hnext,hfails]
    exact dated_afterAttempt message _ c.now
  | waited failure hs hnext _ hfails =>
    rw [hnext,hfails]
    exact h
  | restarted failure monitor hs _ _ hnext _ _ =>
    rw [hnext]
    exact trivial
  | refused failure message hs _ _ hnext _ hfails =>
    rw [hnext,hfails]
    exact dated_afterAttempt message _ c.now

/-- Whatever starts the probe again does so the delay after the failure. -/
theorem started_late {s : LinuxNetworkAttribution} {last : Option Nat} (h : s.Dated last)
    {c : Call} (hstarted : (s.sampleAtWith c).started=true) :
    ∃ t, last=some t ∧ t+retryDelay ≤ c.now := by
  have hlate : ∀ failure, s.state=.failed failure → failure.retryDue c.now=true →
      ∃ t, last=some t ∧ t+retryDelay ≤ c.now := by
    intro failure hs hdue
    obtain ⟨retryAt,hat,hle⟩ := FailureState.due_time hdue
    rw [Dated,hs] at h
    cases h with
    | inl h =>
      rw [h] at hat
      cases hat
    | inr h =>
      obtain ⟨t,ht,hretry⟩ := h
      rw [hretry] at hat
      exact ⟨t,ht,Option.some.inj hat ▸ hle⟩
  have hno : (s.sampleAtWith c).started=false → False := by
    intro hf
    rw [hstarted] at hf
    cases hf
  cases s.turn c with
  | sampled _ _ _ _ _ hf _ => exact (hno hf).elim
  | passed _ _ _ _ hf _ => exact (hno hf).elim
  | broke _ _ _ _ hf _ => exact (hno hf).elim
  | waited _ _ _ hf _ => exact (hno hf).elim
  | restarted failure _ hs hdue _ _ _ _ => exact hlate failure hs hdue
  | refused failure _ hs hdue _ _ _ _ => exact hlate failure hs hdue

theorem valid_after {s : LinuxNetworkAttribution} (h : s.Valid) (calls : List Call) :
    (s.after calls).Valid := by
  induction calls generalizing s with
  | nil => exact h
  | cons c calls ih => exact ih (valid_next h c)

/-- A stretch of a history is the history of a stretch of its calls. -/
theorem history_split {s : LinuxNetworkAttribution} {calls : List Call}
    {before later : List Record} (h : s.history calls=before++later) :
    ∃ first rest, calls=first++rest ∧ before=s.history first ∧
      later=(s.after first).history rest := by
  induction before generalizing s calls with
  | nil => exact ⟨[],calls,rfl,rfl,h.symm⟩
  | cons r before ih =>
    cases calls with
    | nil => cases h
    | cons c calls =>
      rw [history,List.cons_append,List.cons.injEq] at h
      obtain ⟨first,rest,hcalls,hbefore,hlater⟩ := ih h.2
      refine ⟨c::first,rest,?_,?_,hlater⟩
      · rw [hcalls,List.cons_append]
      · rw [history,h.1,hbefore]

theorem startCalls_le {s : LinuxNetworkAttribution} (h : s.Valid) (calls : List Call)
    (hquiet : ∀ r∈s.history calls, ¬IsReady r.sample) :
    startCalls (s.history calls) ≤ s.remaining := by
  induction calls generalizing s with
  | nil => exact Nat.zero_le _
  | cons c calls ih =>
    have hspend := spend h c (hquiet _ List.mem_cons_self)
    have hrest := ih (valid_next h c) (fun r hr => hquiet r (List.mem_cons_of_mem _ hr))
    have hcons : startCalls (s.history (c::calls))=
        startCalls ((s.sampleAtWith c).next.history calls)+
          (if (s.sampleAtWith c).started=true then 1 else 0) := List.countP_cons
    omega

theorem dated_after {s : LinuxNetworkAttribution} {last : Option Nat} (h : s.Dated last)
    (calls : List Call) : (s.after calls).Dated (lastFailure last (s.history calls)) := by
  induction calls generalizing s last with
  | nil => exact h
  | cons c calls ih => exact ih (dated_next h c)

theorem exhausted_after {s : LinuxNetworkAttribution} (h : s.Exhausted) (calls : List Call) :
    ∀ r∈s.history calls, r.started=false := by
  induction calls with
  | nil =>
    intro r hr
    cases hr
  | cons c calls ih =>
    obtain ⟨hnext,hstarted⟩ := exhausted_next h c
    intro r hr
    rw [history,hnext] at hr
    cases List.mem_cons.1 hr with
    | inl hr =>
      rw [hr]
      exact hstarted
    | inr hr => exact ih r hr

/-- The budget of restarts, over every history of calls: a stretch without a ready sample
starts the probe at most the limit of times with the attempt before it, and a call that
returns a ready sample starts nothing; each retry comes the delay after the last failure;
the attempts stay within the limit; and what is exhausted never starts the probe again. -/
theorem restart_budget (result : Except String LinuxNetworkAttributionMonitor) (created : Nat)
    (calls : List Call) :
    (∀ before episode later,
      (fromStartResult result created).history calls=before++episode++later →
      (∀ r∈episode, ¬IsReady r.sample) → 1+startCalls episode ≤ maxStartAttempts) ∧
    (∀ r∈(fromStartResult result created).history calls, IsReady r.sample → r.started=false) ∧
    (∀ before retry later,
      (fromStartResult result created).history calls=before++retry::later →
      retry.started=true → ∃ failedAt,
        lastFailure (constructionFailure result created) before=some failedAt ∧
        failedAt+retryDelay ≤ retry.now) ∧
    ((fromStartResult result created).after calls).attempts ≤ maxStartAttempts ∧
    (((fromStartResult result created).after calls).Exhausted →
      ∀ later, ∀ r∈((fromStartResult result created).after calls).history later,
        r.started=false) := by
  have hvalid := valid_fromStartResult result created
  refine ⟨?_,?_,?_,attempts_le (valid_after hvalid calls),?_⟩
  · intro before episode later h hquiet
    rw [List.append_assoc] at h
    obtain ⟨first,rest,_,_,hrest⟩ := history_split h
    obtain ⟨middle,_,_,hmiddle,_⟩ := history_split hrest.symm
    have hreached := valid_after hvalid first
    rw [hmiddle] at hquiet
    have hle := startCalls_le hreached middle hquiet
    have hlt := remaining_lt hreached
    rw [hmiddle]
    omega
  · intro r hr hready
    obtain ⟨before,later,h⟩ := List.append_of_mem hr
    obtain ⟨first,rest,_,_,hrest⟩ := history_split h
    cases rest with
    | nil => cases hrest
    | cons c rest =>
      rw [history,List.cons.injEq] at hrest
      rw [hrest.1] at hready ⊢
      exact ready_not_started hready
  · intro before retry later h hstarted
    obtain ⟨first,rest,_,hbefore,hrest⟩ := history_split h
    cases rest with
    | nil => cases hrest
    | cons c rest =>
      rw [history,List.cons.injEq] at hrest
      rw [hrest.1] at hstarted ⊢
      rw [hbefore]
      exact started_late (dated_after (dated_fromStartResult result created) first) hstarted
  · intro hexhausted later
    exact exhausted_after hexhausted later

end LinuxNetworkAttribution

end BatCave.LinuxNetwork
