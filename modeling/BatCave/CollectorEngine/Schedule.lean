import BatCave.Lib.Word
import Mathlib.Data.List.Range

/-! The collector's schedule of absolute deadlines, and the loop that serves them. Instants
and durations are in nanoseconds. -/
namespace BatCave.CollectorEngine
open BatCave.Lib.Word

structure CollectorEngineConfig where
  interval : Nat
  metricWindow : Nat
  paused : Bool
  automatic : Bool

/-- A window of dated values, `TimedCountWindow` and `TimedP95Window`. -/
structure TimedWindow where
  window : Nat
  values : List (Nat × Nat) := []

namespace TimedWindow

def prune (w : TimedWindow) (now : Nat) : TimedWindow :=
  { w with values := w.values.dropWhile (fun v => decide (w.window < now-v.1)) }

def addAt (w : TimedWindow) (dated value : Nat) : TimedWindow :=
  { w with values := w.values++[(dated,value)] }.prune dated

end TimedWindow

structure AbsoluteScheduler where
  interval : Nat
  nextDeadline : Nat
  deadlineMisses : Nat
  recentDeadlineMisses : TimedWindow
  /-- The lateness is kept as a duration; the source converts it to milliseconds. -/
  latenessP95 : TimedWindow

/-- The catch-up loop: the points it passes and the first one it does not pass. Without an
interval it would pass the same point for ever. -/
def catchUp (interval completedAt : Nat) : Nat → Nat → Option (List Nat × Nat)
  | fuel,next =>
    if next ≤ completedAt then
      match fuel with
      | 0 => none
      | fuel+1 => (catchUp interval completedAt fuel (next+interval)).map
          (fun r => (next::r.1,r.2))
    else some ([],next)

namespace AbsoluteScheduler

def new (now : Nat) (config : CollectorEngineConfig) : AbsoluteScheduler where
  interval := config.interval
  nextDeadline := if config.paused then now+config.interval else now
  deadlineMisses := 0
  recentDeadlineMisses := {window := config.metricWindow}
  latenessP95 := {window := config.metricWindow}

def waitFrom (s : AbsoluteScheduler) (now : Nat) : Nat := s.nextDeadline-now

def deadlineIsDue (s : AbsoluteScheduler) (now : Nat) : Bool := decide (s.nextDeadline ≤ now)

def recordStart (s : AbsoluteScheduler) (now : Nat) : AbsoluteScheduler :=
  { s with latenessP95 := s.latenessP95.addAt now (now-s.nextDeadline) }

/-- The points from the one after the deadline that lie at or before `completedAt`, and the
deadline after them. -/
def behind (s : AbsoluteScheduler) (completedAt : Nat) : Option (List Nat × Nat) :=
  catchUp s.interval completedAt (completedAt+1) (s.nextDeadline+s.interval)

def completeScheduledWork (s : AbsoluteScheduler) (completedAt : Nat) :
    Option AbsoluteScheduler :=
  (s.behind completedAt).map (fun r =>
    let missed := r.1.foldl (fun missed _ => satAdd missed 1) 0
    { s with
      deadlineMisses := r.1.foldl (fun misses _ => satAdd misses 1) s.deadlineMisses
      recentDeadlineMisses :=
        if 0 < missed then s.recentDeadlineMisses.addAt completedAt missed
        else s.recentDeadlineMisses
      nextDeadline := r.2 })

def completePausedWork (s : AbsoluteScheduler) (completedAt : Nat) : Option AbsoluteScheduler :=
  (s.behind completedAt).map (fun r => { s with nextDeadline := r.2 })

def reanchor (s : AbsoluteScheduler) (now interval : Nat) (dueNow : Bool) : AbsoluteScheduler :=
  { s with interval := interval, nextDeadline := if dueNow then now else now+interval }

end AbsoluteScheduler

/-- What happened to the deadlines, for the statements only. -/
inductive Deadline where
  /-- A re-anchoring, with the first deadline of the new grid. -/
  | anchored (first interval : Nat) (paused : Bool)
  | served (deadline interval completedAt next : Nat)
  | missed (deadline : Nat)
  /-- Passed while paused. -/
  | passed (deadline : Nat)
  deriving DecidableEq, Repr

structure CollectorLoop where
  scheduler : AbsoluteScheduler
  paused : Bool
  automatic : Bool
  /-- The loop has returned. -/
  stopped : Bool := false
  history : List Deadline

/-- One turn of `collector_loop`, with what the clock says at each of its readings and how
the collection ends. -/
inductive Turn where
  | shutdown
  | pausedTick (checkedAt completedAt : Nat)
  | scheduled (checkedAt startedAt completedAt : Nat) (fatal : Bool)
  | timeout
  /-- `begun` is what `begin_refresh_generation` returns. -/
  | refresh (begun : Bool) (startedAt completedAt : Nat) (fatal : Bool)
  | pause (now : Nat)
  | resume (now startedAt completedAt : Nat) (fatal : Bool)
  | setInterval (interval now : Nat)

namespace CollectorLoop

def start (now : Nat) (config : CollectorEngineConfig) : CollectorLoop :=
  let scheduler := AbsoluteScheduler.new now config
  { scheduler := scheduler
    paused := config.paused
    automatic := config.automatic
    history := [.anchored scheduler.nextDeadline scheduler.interval config.paused] }

/-- `collect_and_publish` as far as the schedule goes: a collection that accounts for its
deadline records its start and completes the work. -/
def collectAndPublish (s : CollectorLoop) (startedAt completedAt : Nat) (fatal : Bool)
    (accountDeadline : Bool) : Option CollectorLoop :=
  if accountDeadline then do
    let scheduler := s.scheduler.recordStart startedAt
    let behind ← scheduler.behind completedAt
    let next ← scheduler.completeScheduledWork completedAt
    some { s with
      scheduler := next
      stopped := fatal
      history := s.history++
        (.served scheduler.nextDeadline scheduler.interval completedAt behind.2::
          behind.1.map .missed) }
  else some { s with stopped := fatal }

def reanchor (s : CollectorLoop) (now interval : Nat) (dueNow paused : Bool) : CollectorLoop :=
  let scheduler := s.scheduler.reanchor now interval dueNow
  { s with
    scheduler := scheduler
    paused := paused
    history := s.history++[.anchored scheduler.nextDeadline scheduler.interval paused] }

/-- A turn, where it can be taken. -/
def turn (s : CollectorLoop) (t : Turn) : Option CollectorLoop :=
  if s.stopped then none
  else
    match t with
    | .shutdown => some { s with stopped := true }
    | .pausedTick checkedAt completedAt =>
      if s.automatic && s.scheduler.deadlineIsDue checkedAt && s.paused then do
        let behind ← s.scheduler.behind completedAt
        let next ← s.scheduler.completePausedWork completedAt
        some { s with
          scheduler := next
          history := s.history++(s.scheduler.nextDeadline::behind.1).map .passed }
      else none
    | .scheduled checkedAt startedAt completedAt fatal =>
      if s.automatic && s.scheduler.deadlineIsDue checkedAt && !s.paused then
        s.collectAndPublish startedAt completedAt fatal true
      else none
    | .timeout => some s
    | .refresh begun startedAt completedAt fatal =>
      if begun then s.collectAndPublish startedAt completedAt fatal false else some s
    | .pause now => some (s.reanchor now s.scheduler.interval false true)
    | .resume now startedAt completedAt fatal =>
      (s.reanchor now s.scheduler.interval true false).collectAndPublish
        startedAt completedAt fatal true
    | .setInterval interval now =>
      if interval=0 then some s else some (s.reanchor now interval false s.paused)

def run (s : CollectorLoop) (turns : List Turn) : Option CollectorLoop := turns.foldlM turn s

end CollectorLoop

/-- The first `n` points of a grid. -/
def points (first interval n : Nat) : List Nat := (List.range n).map (fun k => first+k*interval)

section Grid

theorem points_add (first interval m n : Nat) :
    points first interval (m+n)=points first interval m++points (first+m*interval) interval n := by
  rw [points,List.range_add,List.map_append,List.map_map]
  congr 1
  apply List.map_congr_left
  intro k _
  simp only [Function.comp_apply]
  rw [Nat.add_mul]
  omega

theorem points_succ (first interval n : Nat) :
    points first interval (n+1)=first::points (first+interval) interval n := by
  rw [Nat.add_comm n 1,points_add,Nat.one_mul]
  simp [points]

/-- The catch-up loop ends, and passes the points of the grid up to the completion. -/
theorem catchUp_spec {interval completedAt : Nat} (h : 0 < interval) (fuel next : Nat)
    (hfuel : completedAt+1 ≤ fuel+next) :
    ∃ n, catchUp interval completedAt fuel next=
        some (points next interval n,next+n*interval) ∧
      completedAt < next+n*interval ∧ ∀ k < n, next+k*interval ≤ completedAt := by
  induction fuel generalizing next with
  | zero =>
    refine ⟨0,?_,by omega,by omega⟩
    rw [catchUp,if_neg (by omega)]
    simp [points]
  | succ fuel ih =>
    by_cases hle : next ≤ completedAt
    · obtain ⟨n,hrun,hafter,hupto⟩ := ih (next+interval) (by omega)
      refine ⟨n+1,?_,?_,?_⟩
      · rw [catchUp,if_pos hle,hrun,points_succ,Nat.add_mul,Nat.one_mul]
        simp only [Option.map_some,Option.some.injEq,Prod.mk.injEq,true_and]
        omega
      · rw [Nat.add_mul]
        omega
      · intro k hk
        cases k with
        | zero => omega
        | succ k =>
          have hk' := hupto k (by omega)
          rw [Nat.add_mul]
          omega
    · refine ⟨0,?_,by omega,by omega⟩
      rw [catchUp,if_neg hle]
      simp [points]

theorem foldl_count (ps : List Nat) (misses : Nat) :
    ps.foldl (fun misses _ => satAdd misses 1) (min misses u64Max)=
      min (misses+ps.length) u64Max := by
  induction ps generalizing misses with
  | nil => rfl
  | cons p ps ih =>
    rw [List.foldl_cons,satAdd_min,ih,List.length_cons]
    congr 1
    omega

end Grid

namespace Deadline

/-- The grid point that a fact is about. -/
def point? : Deadline → Option Nat
  | .anchored _ _ _ => none
  | .served deadline _ _ _ => some deadline
  | .missed deadline => some deadline
  | .passed deadline => some deadline

def isAnchored : Deadline → Bool
  | .anchored _ _ _ => true
  | _ => false

def isMissed : Deadline → Bool
  | .missed _ => true
  | _ => false

def isPassed : Deadline → Bool
  | .passed _ => true
  | _ => false

/-- Where it was served, the next deadline is the first point of the grid that is after
the completion and after the deadline. -/
def NextIsFirst : Deadline → Prop
  | .served deadline interval completedAt next =>
    (∃ k, 0 < k ∧ next=deadline+k*interval) ∧ completedAt < next ∧
      ∀ k, 0 < k → completedAt < deadline+k*interval → next ≤ deadline+k*interval
  | _ => True

end Deadline

namespace CollectorLoop

/-- The deadlines since the last re-anchoring: they are the points of its grid, each once, and
the next deadline is the point after them. While paused all were passed, otherwise each
was served or missed, and the counter has as many as were missed. -/
structure Accounted (s : CollectorLoop) (first n : Nat) (epoch : List Deadline) : Prop where
  anchored : ∃ before, s.history=before++.anchored first s.scheduler.interval s.paused::epoch
  same : ∀ f∈epoch, f.isAnchored=false
  interval : 0 < s.scheduler.interval
  points : epoch.filterMap Deadline.point?=points first s.scheduler.interval n
  next : s.scheduler.nextDeadline=first+n*s.scheduler.interval
  passed : ∀ f∈epoch, f.isPassed=s.paused
  counted : s.scheduler.deadlineMisses=min (s.history.countP Deadline.isMissed) u64Max
  served : ∀ f∈s.history, f.NextIsFirst

theorem behind_spec {scheduler : AbsoluteScheduler} (h : 0 < scheduler.interval)
    (completedAt : Nat) : ∃ m,
      scheduler.behind completedAt=some
        (points (scheduler.nextDeadline+scheduler.interval) scheduler.interval m,
          scheduler.nextDeadline+(m+1)*scheduler.interval) ∧
      completedAt < scheduler.nextDeadline+(m+1)*scheduler.interval ∧
      ∀ k, 0 < k → completedAt < scheduler.nextDeadline+k*scheduler.interval → m+1 ≤ k := by
  obtain ⟨m,hrun,hafter,hupto⟩ := catchUp_spec h (completedAt+1)
    (scheduler.nextDeadline+scheduler.interval) (Nat.le_add_right (completedAt+1) _)
  have hnext : scheduler.nextDeadline+scheduler.interval+m*scheduler.interval=
      scheduler.nextDeadline+(m+1)*scheduler.interval := by
    rw [Nat.add_mul]
    omega
  rw [hnext] at hrun hafter
  refine ⟨m,hrun,hafter,?_⟩
  intro k hk hlt
  by_contra hless
  have hpoint := hupto (k-1) (by omega)
  have hk' : k=k-1+1 := by omega
  rw [hk',Nat.add_mul] at hlt
  omega

/-- The points of a catch-up continue the grid. -/
theorem points_advance (first interval n m : Nat) :
    points first interval (n+(m+1))=points first interval n++
      (first+n*interval)::points (first+n*interval+interval) interval m := by
  rw [points_add,points_succ]

theorem filterMap_missed (ps : List Nat) :
    (ps.map Deadline.missed).filterMap Deadline.point?=ps := by
  induction ps with
  | nil => rfl
  | cons p ps ih => simp only [List.map_cons,List.filterMap_cons,Deadline.point?,ih]

theorem filterMap_passed (ps : List Nat) :
    (ps.map Deadline.passed).filterMap Deadline.point?=ps := by
  induction ps with
  | nil => rfl
  | cons p ps ih => simp only [List.map_cons,List.filterMap_cons,Deadline.point?,ih]

theorem countP_missed (ps : List Nat) :
    (ps.map Deadline.missed).countP Deadline.isMissed=ps.length := by
  induction ps with
  | nil => rfl
  | cons p ps ih => rw [List.map_cons,List.countP_cons_of_pos rfl,ih,List.length_cons]

theorem countP_passed (ps : List Nat) : (ps.map Deadline.passed).countP Deadline.isMissed=0 := by
  rw [List.countP_eq_zero]
  intro f hf
  obtain ⟨p,_,hp⟩ := List.mem_map.1 hf
  rw [← hp]
  exact Bool.false_ne_true

/-- What a scheduled collection does to the schedule. -/
theorem collect_accounts {s : CollectorLoop} {first n : Nat} {epoch : List Deadline}
    (h : s.Accounted first n epoch) (hpaused : s.paused=false)
    (startedAt completedAt : Nat) (fatal : Bool) :
    ∃ s' m served, s.collectAndPublish startedAt completedAt fatal true=some s' ∧
      s'.Accounted first (n+(m+1)) (epoch++served) ∧ s'.history=s.history++served ∧
      served.countP Deadline.isMissed=m ∧ completedAt < first+(n+(m+1))*s.scheduler.interval := by
  have hpositive : 0 < (s.scheduler.recordStart startedAt).interval := h.interval
  obtain ⟨m,hbehind,hafter,hfirst⟩ := behind_spec hpositive completedAt
  have hdeadline : (s.scheduler.recordStart startedAt).nextDeadline=
      first+n*s.scheduler.interval := h.next
  have hgrid : (s.scheduler.recordStart startedAt).interval=s.scheduler.interval := rfl
  rw [hdeadline,hgrid] at hbehind hafter hfirst
  let ps := points (first+n*s.scheduler.interval+s.scheduler.interval) s.scheduler.interval m
  let next := first+n*s.scheduler.interval+(m+1)*s.scheduler.interval
  let served : List Deadline :=
    .served (first+n*s.scheduler.interval) s.scheduler.interval completedAt next::ps.map .missed
  have hanchored : ∀ f∈served, f.isAnchored=false := by
    intro f hf
    cases List.mem_cons.1 hf with
    | inl hf =>
      rw [hf]
      rfl
    | inr hf =>
      obtain ⟨p,_,hp⟩ := List.mem_map.1 hf
      rw [← hp]
      rfl
  have hnotPassed : ∀ f∈served, f.isPassed=false := by
    intro f hf
    cases List.mem_cons.1 hf with
    | inl hf =>
      rw [hf]
      rfl
    | inr hf =>
      obtain ⟨p,_,hp⟩ := List.mem_map.1 hf
      rw [← hp]
      rfl
  have hnextFirst : ∀ f∈served, f.NextIsFirst := by
    intro f hf
    cases List.mem_cons.1 hf with
    | inl hf =>
      rw [hf]
      refine ⟨⟨m+1,by omega,rfl⟩,hafter,?_⟩
      intro k hk hlt
      have hmul := Nat.mul_le_mul_right s.scheduler.interval (hfirst k hk hlt)
      change first+n*s.scheduler.interval+(m+1)*s.scheduler.interval ≤ _
      omega
    | inr hf =>
      obtain ⟨p,_,hp⟩ := List.mem_map.1 hf
      rw [← hp]
      exact trivial
  have hcollect : s.collectAndPublish startedAt completedAt fatal true=some
      { s with
        scheduler := { s.scheduler.recordStart startedAt with
          deadlineMisses := ps.foldl (fun misses _ => satAdd misses 1) s.scheduler.deadlineMisses
          recentDeadlineMisses :=
            if 0 < ps.foldl (fun missed _ => satAdd missed 1) 0 then
              s.scheduler.recentDeadlineMisses.addAt completedAt
                (ps.foldl (fun missed _ => satAdd missed 1) 0)
            else s.scheduler.recentDeadlineMisses
          nextDeadline := next }
        stopped := fatal
        history := s.history++served } := by
    simp only [collectAndPublish,AbsoluteScheduler.completeScheduledWork,hbehind,if_true,
      Option.bind_eq_bind,Option.bind_some,Option.map_some,hdeadline,hgrid]
    rfl
  have hcount : served.countP Deadline.isMissed=m := by
    rw [List.countP_cons_of_neg Bool.false_ne_true,countP_missed]
    simp [ps,points]
  have hlast : first+n*s.scheduler.interval+(m+1)*s.scheduler.interval=
      first+(n+(m+1))*s.scheduler.interval := by
    rw [Nat.add_mul n (m+1)]
    omega
  refine ⟨_,m,served,hcollect,⟨?_,?_,h.interval,?_,hlast,?_,?_,?_⟩,rfl,hcount,hlast ▸ hafter⟩
  · obtain ⟨before,hbefore⟩ := h.anchored
    have hhistory : s.history++served=
        before++.anchored first s.scheduler.interval s.paused::(epoch++served) := by
      rw [hbefore,List.append_assoc,List.cons_append]
    exact ⟨before,hhistory⟩
  · intro f hf
    cases List.mem_append.1 hf with
    | inl hf => exact h.same f hf
    | inr hf => exact hanchored f hf
  · simp only [served,List.filterMap_append,h.points,List.filterMap_cons,Deadline.point?,
      filterMap_missed]
    exact (points_advance first s.scheduler.interval n m).symm
  · intro f hf
    cases List.mem_append.1 hf with
    | inl hf => exact h.passed f hf
    | inr hf => exact (hnotPassed f hf).trans hpaused.symm
  · change ps.foldl (fun misses _ => satAdd misses 1) s.scheduler.deadlineMisses=
      min ((s.history++served).countP Deadline.isMissed) u64Max
    rw [h.counted,foldl_count,List.countP_append,hcount]
    simp [ps,points]
  · intro f hf
    cases List.mem_append.1 hf with
    | inl hf => exact h.served f hf
    | inr hf => exact hnextFirst f hf

/-- What a paused tick does to the schedule. -/
theorem tick_accounts {s : CollectorLoop} {first n : Nat} {epoch : List Deadline}
    (h : s.Accounted first n epoch) (hpaused : s.paused=true) (completedAt : Nat) :
    ∃ behind next m, s.scheduler.behind completedAt=some behind ∧
      s.scheduler.completePausedWork completedAt=some next ∧
      ({ s with
        scheduler := next
        history := s.history++(s.scheduler.nextDeadline::behind.1).map .passed } :
          CollectorLoop).Accounted first (n+(m+1))
        (epoch++(s.scheduler.nextDeadline::behind.1).map .passed) := by
  obtain ⟨m,hbehind,_,_⟩ := behind_spec h.interval completedAt
  rw [h.next] at hbehind ⊢
  have hcomplete : s.scheduler.completePausedWork completedAt=some { s.scheduler with
      nextDeadline := first+n*s.scheduler.interval+(m+1)*s.scheduler.interval } := by
    rw [AbsoluteScheduler.completePausedWork,hbehind]
    rfl
  refine ⟨_,_,m,hbehind,hcomplete,?_,?_,h.interval,?_,?_,?_,?_,?_⟩
  · obtain ⟨before,hbefore⟩ := h.anchored
    refine ⟨before,?_⟩
    change s.history++_=before++.anchored first s.scheduler.interval s.paused::_
    rw [hbefore,List.append_assoc,List.cons_append]
  · intro f hf
    cases List.mem_append.1 hf with
    | inl hf => exact h.same f hf
    | inr hf =>
      obtain ⟨p,_,hp⟩ := List.mem_map.1 hf
      rw [← hp]
      rfl
  · rw [List.filterMap_append,h.points,filterMap_passed]
    exact (points_advance first s.scheduler.interval n m).symm
  · change first+n*s.scheduler.interval+(m+1)*s.scheduler.interval=
      first+(n+(m+1))*s.scheduler.interval
    rw [Nat.add_mul n (m+1)]
    omega
  · intro f hf
    cases List.mem_append.1 hf with
    | inl hf => exact h.passed f hf
    | inr hf =>
      obtain ⟨p,_,hp⟩ := List.mem_map.1 hf
      rw [← hp]
      exact hpaused.symm
  · change s.scheduler.deadlineMisses=min ((s.history++_).countP Deadline.isMissed) u64Max
    rw [List.countP_append,countP_passed,Nat.add_zero]
    exact h.counted
  · intro f hf
    cases List.mem_append.1 hf with
    | inl hf => exact h.served f hf
    | inr hf =>
      obtain ⟨p,_,hp⟩ := List.mem_map.1 hf
      rw [← hp]
      exact trivial

/-- A re-anchoring starts a grid with nothing on it yet. -/
theorem reanchor_accounts {s : CollectorLoop} {first n : Nat} {epoch : List Deadline}
    (h : s.Accounted first n epoch) (now : Nat) {interval : Nat} (hinterval : 0 < interval)
    (dueNow paused : Bool) :
    (s.reanchor now interval dueNow paused).Accounted
      (if dueNow then now else now+interval) 0 [] := by
  refine ⟨⟨s.history,rfl⟩,?_,hinterval,rfl,?_,?_,?_,?_⟩
  · intro f hf
    cases hf
  · change (if dueNow=true then now else now+interval)=_
    rw [Nat.zero_mul,Nat.add_zero]
  · intro f hf
    cases hf
  · change s.scheduler.deadlineMisses=min ((s.history++[_]).countP Deadline.isMissed) u64Max
    rw [List.countP_append,h.counted]
    rfl
  · intro f hf
    cases List.mem_append.1 hf with
    | inl hf => exact h.served f hf
    | inr hf =>
      rw [List.mem_singleton.1 hf]
      exact trivial

theorem start_accounts (now : Nat) {config : CollectorEngineConfig} (h : 0 < config.interval) :
    (start now config).Accounted (if config.paused then now+config.interval else now) 0 [] := by
  refine ⟨⟨[],rfl⟩,?_,h,rfl,?_,?_,rfl,?_⟩
  · intro f hf
    cases hf
  · change (if config.paused=true then now+config.interval else now)=_
    rw [Nat.zero_mul,Nat.add_zero]
  · intro f hf
    cases hf
  · intro f hf
    rw [List.mem_singleton.1 hf]
    exact trivial

/-- What does not touch the schedule keeps the account. -/
theorem Accounted.of_same {s s' : CollectorLoop} {first n : Nat} {epoch : List Deadline}
    (h : s.Accounted first n epoch) (hscheduler : s'.scheduler=s.scheduler)
    (hpaused : s'.paused=s.paused) (hhistory : s'.history=s.history) :
    s'.Accounted first n epoch := by
  refine ⟨?_,h.same,?_,?_,?_,?_,?_,?_⟩
  · rw [hscheduler,hpaused,hhistory]
    exact h.anchored
  · rw [hscheduler]
    exact h.interval
  · rw [hscheduler]
    exact h.points
  · rw [hscheduler]
    exact h.next
  · rw [hpaused]
    exact h.passed
  · rw [hscheduler,hhistory]
    exact h.counted
  · rw [hhistory]
    exact h.served

/-- A manual refresh moves no deadline. -/
theorem refresh_keeps {s s' : CollectorLoop} {begun : Bool} {startedAt completedAt : Nat}
    {fatal : Bool} (h : s.turn (.refresh begun startedAt completedAt fatal)=some s') :
    s'.scheduler=s.scheduler ∧ s'.paused=s.paused ∧ s'.history=s.history := by
  rw [turn] at h
  split at h
  · cases h
  · cases begun with
    | false =>
      cases h
      exact ⟨rfl,rfl,rfl⟩
    | true =>
      cases h
      exact ⟨rfl,rfl,rfl⟩

theorem accounted_turn {s s' : CollectorLoop} {t : Turn}
    (h : ∃ first n epoch, s.Accounted first n epoch) (hturn : s.turn t=some s') :
    ∃ first n epoch, s'.Accounted first n epoch := by
  obtain ⟨first,n,epoch,h⟩ := h
  cases t with
  | refresh begun startedAt completedAt fatal =>
    obtain ⟨hscheduler,hpaused,hhistory⟩ := refresh_keeps hturn
    exact ⟨first,n,epoch,h.of_same hscheduler hpaused hhistory⟩
  | shutdown =>
    rw [turn] at hturn
    split at hturn
    · cases hturn
    · cases hturn
      exact ⟨first,n,epoch,h.of_same rfl rfl rfl⟩
  | timeout =>
    rw [turn] at hturn
    split at hturn
    · cases hturn
    · cases hturn
      exact ⟨first,n,epoch,h⟩
  | pausedTick checkedAt completedAt =>
    rw [turn] at hturn
    split at hturn
    · cases hturn
    · split at hturn
      · next hdue =>
        have hpaused : s.paused=true := (Bool.and_eq_true_iff.1 hdue).2
        obtain ⟨behind,next,m,hbehind,hnext,haccounted⟩ := tick_accounts h hpaused completedAt
        simp only [hbehind,hnext,Option.bind_eq_bind,Option.bind_some,Option.some.injEq] at hturn
        rw [← hturn]
        exact ⟨first,n+(m+1),_,haccounted⟩
      · cases hturn
  | scheduled checkedAt startedAt completedAt fatal =>
    rw [turn] at hturn
    split at hturn
    · cases hturn
    · split at hturn
      · next hdue =>
        have hpaused : s.paused=false := by
          have hrunning := (Bool.and_eq_true_iff.1 hdue).2
          rwa [Bool.not_eq_true'] at hrunning
        obtain ⟨next,m,served,hnext,haccounted,_⟩ :=
          collect_accounts h hpaused startedAt completedAt fatal
        rw [hnext,Option.some.injEq] at hturn
        rw [← hturn]
        exact ⟨first,n+(m+1),_,haccounted⟩
      · cases hturn
  | pause now =>
    rw [turn] at hturn
    split at hturn
    · cases hturn
    · cases hturn
      exact ⟨_,0,[],reanchor_accounts h now h.interval false true⟩
  | resume now startedAt completedAt fatal =>
    rw [turn] at hturn
    split at hturn
    · cases hturn
    · have hanchored := reanchor_accounts h now h.interval true false
      obtain ⟨next,m,served,hnext,haccounted,_⟩ :=
        collect_accounts hanchored rfl startedAt completedAt fatal
      rw [hnext,Option.some.injEq] at hturn
      rw [← hturn]
      exact ⟨_,_,_,haccounted⟩
  | setInterval interval now =>
    rw [turn] at hturn
    split at hturn
    · cases hturn
    · split at hturn
      · cases hturn
        exact ⟨first,n,epoch,h⟩
      · next hinterval =>
        cases hturn
        exact ⟨_,0,[],reanchor_accounts h now (Nat.pos_of_ne_zero hinterval) false s.paused⟩

theorem accounted_run {s s' : CollectorLoop} {turns : List Turn}
    (h : ∃ first n epoch, s.Accounted first n epoch) (hrun : s.run turns=some s') :
    ∃ first n epoch, s'.Accounted first n epoch := by
  induction turns generalizing s with
  | nil =>
    cases hrun
    exact h
  | cons t turns ih =>
    rw [run,List.foldlM_cons] at hrun
    obtain ⟨next,hnext,hrest⟩ := Option.bind_eq_some_iff.1 hrun
    exact ih (accounted_turn h hnext) hrest

/-- Both catch-up loops end. -/
theorem Accounted.ends {s : CollectorLoop} {first n : Nat} {epoch : List Deadline}
    (h : s.Accounted first n epoch) (completedAt : Nat) :
    (s.scheduler.completeScheduledWork completedAt).isSome=true ∧
      (s.scheduler.completePausedWork completedAt).isSome=true := by
  obtain ⟨m,hbehind,_,_⟩ := behind_spec h.interval completedAt
  rw [AbsoluteScheduler.completeScheduledWork,AbsoluteScheduler.completePausedWork,hbehind]
  exact ⟨rfl,rfl⟩

/-- The absolute schedule accounts for every deadline, in every run of the loop. Since the last
re-anchoring the deadlines are the points of one grid, in order and each once; while paused
all of them were passed, otherwise each was served or missed. Each that was served was followed
by the first point after its completion, the counter has as many as were missed unless it is
saturated, both catch-up loops end, and a manual refresh moves nothing. -/
theorem every_deadline_accounted (now : Nat) (config : CollectorEngineConfig) (turns : List Turn)
    (s : CollectorLoop) (hinterval : 0 < config.interval)
    (hrun : (start now config).run turns=some s) :
    (∃ first n epoch, s.Accounted first n epoch) ∧
    (∀ completedAt, (s.scheduler.completeScheduledWork completedAt).isSome=true ∧
      (s.scheduler.completePausedWork completedAt).isSome=true) ∧
    (∀ begun startedAt completedAt fatal s',
      s.turn (.refresh begun startedAt completedAt fatal)=some s' →
        s'.scheduler=s.scheduler ∧ s'.history=s.history) := by
  have hall := accounted_run ⟨_,0,[],start_accounts now hinterval⟩ hrun
  refine ⟨hall,?_,?_⟩
  · obtain ⟨first,n,epoch,h⟩ := hall
    exact h.ends
  · intro begun startedAt completedAt fatal s' hturn
    obtain ⟨hscheduler,_,hhistory⟩ := refresh_keeps hturn
    exact ⟨hscheduler,hhistory⟩

end CollectorLoop

/-- A collector that is not paused, with a deadline every half second. -/
def halfSecond : CollectorEngineConfig := ⟨500,600000,false,true⟩

/-- In milliseconds: the first collection takes a second and a quarter, so two deadlines are
missed. -/
theorem slow_collection_accounted : ∃ s,
    (CollectorLoop.start 0 halfSecond).run [.scheduled 0 0 1250 false]=some s ∧
    (∃ first n epoch, s.Accounted first n epoch) ∧ s.scheduler.deadlineMisses=2 ∧
    s.scheduler.nextDeadline=1500 :=
  ⟨_,rfl,(CollectorLoop.every_deadline_accounted 0 halfSecond [.scheduled 0 0 1250 false] _
    (by decide) rfl).1,rfl,rfl⟩

/-- A collector with the shortest interval there is. -/
def everyNanosecond : CollectorEngineConfig := ⟨1,0,false,true⟩

/-- The counter stops at its largest value: behind a collection that outlasts 2^64 deadlines it
does not have each of them. -/
theorem saturated_misses : ¬∀ (now : Nat) (config : CollectorEngineConfig) (turns : List Turn)
    (s : CollectorLoop), 0 < config.interval → (CollectorLoop.start now config).run turns=some s →
    s.scheduler.deadlineMisses=s.history.countP Deadline.isMissed := by
  intro hall
  have hstart : (CollectorLoop.start 0 everyNanosecond).Accounted 0 0 [] :=
    CollectorLoop.start_accounts 0 (by decide)
  obtain ⟨s,m,served,hcollect,haccounted,hhistory,hcount,hafter⟩ :=
    CollectorLoop.collect_accounts hstart rfl 0 (2^64) false
  have hrun : (CollectorLoop.start 0 everyNanosecond).run [.scheduled 0 0 (2^64) false]=some s := by
    have hopen : (CollectorLoop.start 0 everyNanosecond).stopped=false := rfl
    have hdue : ((CollectorLoop.start 0 everyNanosecond).automatic &&
        (CollectorLoop.start 0 everyNanosecond).scheduler.deadlineIsDue 0 &&
          !(CollectorLoop.start 0 everyNanosecond).paused)=true := rfl
    have hturn : (CollectorLoop.start 0 everyNanosecond).turn (.scheduled 0 0 (2^64) false)=
        some s := by
      rw [CollectorLoop.turn,hopen,if_neg Bool.false_ne_true,if_pos hdue,hcollect]
    rw [CollectorLoop.run,List.foldlM_cons,hturn]
    rfl
  have hexact := hall 0 everyNanosecond _ s (by decide) hrun
  have hmisses : s.history.countP Deadline.isMissed=m := by
    rw [hhistory,List.countP_append,hcount]
    exact Nat.zero_add m
  have hmany : 2^64 < 0+(0+(m+1))*1 := hafter
  have hcounted := haccounted.counted
  rw [hexact,hmisses] at hcounted
  have hmax : u64Max=2^64-1 := rfl
  omega

end BatCave.CollectorEngine
