import BatCave.Lib.Ledger
import BatCave.Persistence.Writer

/-! Runs of the background writer with a record of every job it accepted: callers and the
writer's thread take turns in any order. Nothing is lost but a cache write that a later one
replaces. -/
namespace BatCave.Persistence
open BatCave.Contracts BatCave.Lib BatCave.Lib.Word

/-- A job with the generation it is submitted under. -/
def Queue.stamped (queue : Queue) (job : Job) : Job :=
  { job with generation := satAdd queue.generation 1 }

/-- One turn of a caller or of the writer's thread. What a job's calls come to is left open. -/
inductive Event where
  | submit (request : Request) (nowMs : Nat)
  | take
  | finish (calls : List Call)
  | panic (calls : List Call) (call : Call)
  | drained
  | close

def Event.isPanic : Event → Bool
  | .panic _ _ => true
  | _ => false

/-- A writer, the jobs it accepted with what became of them, those its thread took and those
it ended with the health they left. -/
structure Traced where
  coordinator : RuntimePersistenceCoordinator
  running : Option Job := none
  queue : Queue
  ledger : List (Ledger.Entry Job) := []
  executed : List Job := []
  outcomes : List (Job × RuntimePersistence) := []

namespace Traced

def start (c : RuntimePersistenceCoordinator) : Traced where
  coordinator := c
  queue := { health := c.health }

def runCalls (calls : List Call) (nowMs : Nat) (c : RuntimePersistenceCoordinator) :
    RuntimePersistenceCoordinator :=
  calls.foldl (fun c call => call.run nowMs c) c

def submit (w : Traced) (job : Job) : Traced :=
  let (failure,queue) := w.queue.submit job
  { w with
    queue := queue
    ledger := if failure.isNone then
        Ledger.accept Job.coalescible w.ledger (w.queue.stamped job)
      else w.ledger }

/-- The thread has the first job in hand. -/
def taken (w : Traced) (job : Job) (jobs : List Job) : Traced :=
  { w with
    running := some job
    queue := { w.queue with jobs := jobs, active := some job.component }
    ledger := Ledger.start w.ledger
    executed := w.executed++[job] }

def apply (w : Traced) : Event → Option Traced
  | .submit request nowMs => some (w.submit (request.job nowMs))
  | .take =>
    match w.running,w.queue.jobs with
    | none,job::jobs =>
      if w.queue.completed then none else some (w.taken job jobs)
    | _,_ => none
  | .finish calls =>
    w.running.map (fun job =>
      let c := runCalls calls job.nowMs w.coordinator
      { w with
        coordinator := c
        running := none
        queue := w.queue.finishJob job c.health
        outcomes := w.outcomes++[(job,c.health)] })
  | .panic calls call =>
    w.running.map (fun job =>
      let c := call.interrupted job.nowMs (runCalls calls job.nowMs w.coordinator)
      { w with
        coordinator := c
        running := none
        queue := w.queue.panicJob job c.health
        outcomes := w.outcomes++[(job,c.health)] })
  | .drained =>
    if w.running.isNone ∧ w.queue.jobs=[] ∧ w.queue.closed then
      some { w with queue := { w.queue with completed := true } }
    else none
  | .close => some { w with queue := { w.queue with closed := true } }

/-- What a writer comes to by the events that are admitted. -/
inductive Reached (Admitted : Event → Prop) (c : RuntimePersistenceCoordinator) :
    Traced → Prop where
  | start : Reached Admitted c (start c)
  | step {w w' : Traced} (event : Event) : Reached Admitted c w → Admitted event →
      w.apply event=some w' → Reached Admitted c w'

/-- The state of the writer, without the record. -/
def persistence (w : Traced) : BackgroundPersistence := .background w.coordinator w.running w.queue

theorem apply_take {w : Traced} {job : Job} {jobs : List Job} (hrunning : w.running=none)
    (hjobs : w.queue.jobs=job::jobs) (hcompleted : w.queue.completed=false) :
    w.apply .take=some (w.taken job jobs) := by
  simp only [apply,hrunning,hjobs,hcompleted,Bool.false_eq_true,if_false]

theorem apply_drained {w : Traced} (hrunning : w.running=none) (hjobs : w.queue.jobs=[])
    (hclosed : w.queue.closed=true) :
    w.apply .drained=some { w with queue := { w.queue with completed := true } } := by
  simp only [apply,hrunning,hjobs,hclosed,Option.isNone_none,and_self,if_true]

end Traced

/-- The writer's steps are events. -/
theorem step_is_event {Allowed : RuntimePersistenceCoordinator → Call → Prop} {clock clock' : Nat}
    {w : Traced} {persistence : BackgroundPersistence}
    (h : Step Allowed ⟨clock,w.persistence⟩ ⟨clock',persistence⟩) :
    persistence=w.persistence ∨
      ∃ event w', w.apply event=some w' ∧ persistence=w'.persistence := by
  obtain ⟨coordinator,running,queue,ledger,executed,outcomes⟩ := w
  have hruns : ∀ {nowMs c calls c'}, Runs Allowed nowMs c calls c' →
      Traced.runCalls calls nowMs c=c' := by
    intro nowMs c calls c' hruns
    induction hruns with
    | nil s => rfl
    | cons s s' call calls _ _ ih => exact ih
  cases h with
  | tick _ _ _ => exact .inl rfl
  | submit _ _ _ _ request nowMs _ => exact .inr ⟨.submit request nowMs,_,rfl,rfl⟩
  | take _ _ _ job jobs hjobs hcompleted =>
    exact .inr ⟨.take,_,Traced.apply_take rfl hjobs hcompleted,rfl⟩
  | finish _ _ c' _ job calls _ hcalls =>
    rw [← hruns hcalls]
    exact .inr ⟨.finish calls,_,rfl,rfl⟩
  | panic _ _ c' _ job done call rest _ hcalls _ =>
    rw [← hruns hcalls]
    exact .inr ⟨.panic done call,_,rfl,rfl⟩
  | drained _ _ _ hjobs hclosed =>
    exact .inr ⟨.drained,_,Traced.apply_drained rfl hjobs hclosed,rfl⟩
  | close _ _ _ _ => exact .inr ⟨.close,_,rfl,rfl⟩

namespace Queue
variable {queue : Queue} {job : Job}

/-- What an accepted job does to the jobs that wait. -/
def joined (jobs : List Job) (job : Job) : List Job :=
  (if job.coalescible then jobs.filter (fun pending => !pending.coalescible) else jobs)++[job]

theorem coalesce_jobs (queue : Queue) (job : Job) : (queue.coalesce job).jobs=
    if job.coalescible then queue.jobs.filter (fun pending => !pending.coalescible)
      else queue.jobs := by
  rw [coalesce]
  split <;> rfl

theorem rejectJob_jobs (failure : PersistenceFailure) :
    (queue.rejectJob job failure).jobs=queue.jobs := by
  rw [rejectJob]
  split <;> rfl

/-- A job is accepted at the tail, or nothing that waits is touched: a write that replaces
another always finds room. -/
theorem submit_cases (job : Job) (hlength : queue.jobs.length ≤ queueCapacity) :
    ((queue.submit job).1.isNone=true ∧ (queue.submit job).2.jobs=
        joined queue.jobs (queue.stamped job) ∧
      (queue.submit job).2.jobs.length ≤ queueCapacity) ∨
    ((queue.submit job).1.isNone=false ∧ (queue.submit job).2.jobs=queue.jobs) := by
  have hjobs := coalesce_jobs { queue with generation := satAdd queue.generation 1 }
    (queue.stamped job)
  rw [stamped] at hjobs
  simp only [submit]
  split
  · exact .inr ⟨rfl,rejectJob_jobs _⟩
  · rw [enqueue]
    split
    · next hfull =>
      refine .inr ⟨rfl,?_⟩
      rw [rejectJob_jobs]
      rw [hjobs] at hfull ⊢
      split
      · next hcoalescible =>
        rw [if_pos hcoalescible] at hfull
        have hle := List.length_filter_le (fun pending : Job => !pending.coalescible) queue.jobs
        have heq : (queue.jobs.filter (fun pending => !pending.coalescible)).length=
            queue.jobs.length := le_antisymm hle (hlength.trans hfull)
        exact List.filter_eq_self.mpr (List.length_filter_eq_length_iff.mp heq)
      · rfl
    · next hfull =>
      refine .inl ⟨rfl,?_,?_⟩
      · exact congrArg (· ++ [queue.stamped job]) hjobs
      · rw [List.length_append,List.length_singleton]
        omega

end Queue

theorem Request.job_coalescible (request : Request) (nowMs : Nat) :
    (request.job nowMs).coalescible=true ↔ (request.job nowMs).operation=.write .warmCache := by
  cases request with
  | writeJson component => cases component <;> simp [Request.job]
  | _ => simp [Request.job]

theorem Queue.finishJob_jobs (queue : Queue) (job : Job) (health : RuntimePersistence) :
    (queue.finishJob job health).jobs=queue.jobs := by
  simp only [Queue.finishJob]
  split
  · rfl
  · split <;> rfl

namespace Traced
variable {w w' : Traced} {event : Event}

/-- The record tells what the queue holds and what the thread has taken. -/
structure Kept (w : Traced) : Prop where
  waiting : w.queue.jobs=Ledger.waiting w.ledger
  started : w.executed=Ledger.started w.ledger
  inOrder : Ledger.InOrder w.ledger
  replaced : Ledger.Replaced Job.coalescible w.ledger
  coalescible : ∀ job∈Ledger.items w.ledger, job.coalescible=true ↔
    job.operation=.write .warmCache
  bounded : w.queue.jobs.length ≤ queueCapacity

theorem kept_start (c : RuntimePersistenceCoordinator) : (start c).Kept := by
  refine ⟨rfl,rfl,List.Pairwise.nil,?_,?_,Nat.zero_le _⟩
  · intro index entry hentry
    cases hentry
  · intro job hjob
    cases hjob

/-- Only the queue's own bookkeeping has changed. -/
theorem Kept.of_same (h : w.Kept) (hjobs : w'.queue.jobs=w.queue.jobs)
    (hledger : w'.ledger=w.ledger) (hexecuted : w'.executed=w.executed) : w'.Kept := by
  constructor
  · rw [hjobs,hledger,h.waiting]
  · rw [hexecuted,hledger,h.started]
  · rw [hledger]
    exact h.inOrder
  · rw [hledger]
    exact h.replaced
  · rw [hledger]
    exact h.coalescible
  · rw [hjobs]
    exact h.bounded

theorem Kept.submit (h : w.Kept) {job : Job}
    (hjob : job.coalescible=true ↔ job.operation=.write .warmCache) : (w.submit job).Kept := by
  cases Queue.submit_cases job h.bounded with
  | inl haccepted =>
    obtain ⟨hnone,hjobs,hlength⟩ := haccepted
    have hledger : (w.submit job).ledger=Ledger.accept Job.coalescible w.ledger
        (w.queue.stamped job) := by
      simp only [Traced.submit,hnone,if_true]
    constructor
    · rw [hledger,Ledger.waiting_accept,← h.waiting]
      exact hjobs
    · rw [hledger,Ledger.started_accept]
      exact h.started
    · rw [hledger]
      exact h.inOrder.accept _
    · rw [hledger]
      exact h.replaced.accept _
    · rw [hledger,Ledger.items_accept]
      intro job' hjob'
      rw [List.mem_append,List.mem_singleton] at hjob'
      cases hjob' with
      | inl hold => exact h.coalescible job' hold
      | inr hnew =>
        rw [hnew]
        exact hjob
    · exact hlength
  | inr hrefused =>
    refine h.of_same hrefused.2 ?_ rfl
    simp only [Traced.submit,hrefused.1,Bool.false_eq_true,if_false]

theorem Kept.taken (h : w.Kept) {job : Job} {jobs : List Job} (hjobs : w.queue.jobs=job::jobs) :
    (w.taken job jobs).Kept := by
  have hwaiting : Ledger.waiting w.ledger=job::jobs := h.waiting.symm.trans hjobs
  have hbounded := h.bounded
  constructor
  · rw [Traced.taken,Ledger.waiting_start,hwaiting]
    rfl
  · rw [Traced.taken,Ledger.started_start h.inOrder,hwaiting,← h.started]
    rfl
  · exact h.inOrder.start
  · exact h.replaced.start
  · rw [Traced.taken,Ledger.items_start]
    exact h.coalescible
  · rw [hjobs,List.length_cons] at hbounded
    exact Nat.le_of_succ_le hbounded

/-- A job can be taken only while none is in hand. -/
theorem take_cases (h : w.apply .take=some w') :
    ∃ job jobs, w.running=none ∧ w.queue.jobs=job::jobs ∧ w.queue.completed=false ∧
      w'=w.taken job jobs := by
  simp only [apply] at h
  split at h
  · next job jobs hrunning hjobs =>
    split at h
    · cases h
    · next hcompleted =>
      rw [Bool.not_eq_true] at hcompleted
      exact ⟨job,jobs,hrunning,hjobs,hcompleted,(Option.some.inj h).symm⟩
  · cases h

theorem Kept.apply (h : w.Kept) (hquiet : event.isPanic=false) (hstep : w.apply event=some w') :
    w'.Kept := by
  cases event with
  | submit request nowMs =>
    rw [← Option.some.inj hstep]
    exact h.submit (request.job_coalescible nowMs)
  | take =>
    obtain ⟨job,jobs,_,hjobs,_,rfl⟩ := take_cases hstep
    exact h.taken hjobs
  | finish calls =>
    obtain ⟨job,_,rfl⟩ := Option.map_eq_some_iff.mp hstep
    exact h.of_same (Queue.finishJob_jobs _ _ _) rfl rfl
  | panic calls call => cases hquiet
  | drained =>
    simp only [Traced.apply] at hstep
    split at hstep
    · rw [← Option.some.inj hstep]
      exact h.of_same rfl rfl rfl
    · cases hstep
  | close =>
    rw [← Option.some.inj hstep]
    exact h.of_same rfl rfl rfl

theorem Reached.kept {c : RuntimePersistenceCoordinator}
    (h : Reached (fun event => event.isPanic=false) c w) : w.Kept := by
  induction h with
  | start => exact kept_start c
  | step event _ hquiet hstep ih => exact ih.apply hquiet hstep

/-- What an event may do to a job that waits: nothing, hand it to the thread, or drop it for
the cache write that is now last in the queue. -/
def Moves (w w' : Traced) (entry entry' : Ledger.Entry Job) : Prop :=
  entry'.item=entry.item ∧
    (entry'.fate=.waiting ∨
      (entry'.fate=.started ∧ w'.running=some entry.item) ∨
      (entry'.fate=.replaced w.ledger.length ∧ entry.item.operation=.write .warmCache ∧
        ∃ later, later.operation=.write .warmCache ∧ w'.queue.jobs.getLast?=some later ∧
          w'.ledger[w.ledger.length]?=some ⟨later,.waiting⟩))

theorem Kept.submit_moves (h : w.Kept) {job : Job}
    (hjob : job.coalescible=true ↔ job.operation=.write .warmCache) {index : Nat}
    {entry : Ledger.Entry Job} (hentry : w.ledger[index]?=some entry)
    (hwaiting : entry.fate=.waiting) :
    ∃ entry', (w.submit job).ledger[index]?=some entry' ∧
      Moves w (w.submit job) entry entry' := by
  cases Queue.submit_cases job h.bounded with
  | inl haccepted =>
    obtain ⟨hnone,hjobs,_⟩ := haccepted
    have hledger : (w.submit job).ledger=Ledger.accept Job.coalescible w.ledger
        (w.queue.stamped job) := by
      simp only [Traced.submit,hnone,if_true]
    have hlast : (w.submit job).queue.jobs.getLast?=some (w.queue.stamped job) := by
      change (w.queue.submit job).2.jobs.getLast?=_
      rw [hjobs,Queue.joined,List.getLast?_concat]
    have hitem : entry.item∈Ledger.items w.ledger :=
      List.mem_map_of_mem (List.mem_of_getElem? hentry)
    obtain ⟨entry',hentry',hsame,hfate⟩ := Ledger.fate_accept hentry (w.queue.stamped job)
    refine ⟨entry',by rw [hledger,hentry'],hsame,?_⟩
    cases hfate with
    | inl hkept => exact .inl (hkept.trans hwaiting)
    | inr hdropped =>
      obtain ⟨hreplaced,hnew,hold⟩ := hdropped
      exact .inr (.inr ⟨hreplaced,(h.coalescible _ hitem).mp hold,w.queue.stamped job,
        hjob.mp hnew,hlast,by rw [hledger,Ledger.accept_last]⟩)
  | inr hrefused =>
    refine ⟨entry,?_,rfl,.inl hwaiting⟩
    simp only [Traced.submit,hrefused.1,Bool.false_eq_true,if_false]
    exact hentry

theorem Kept.moves (h : w.Kept) (hquiet : event.isPanic=false) (hstep : w.apply event=some w')
    {index : Nat} {entry : Ledger.Entry Job} (hentry : w.ledger[index]?=some entry)
    (hwaiting : entry.fate=.waiting) :
    ∃ entry', w'.ledger[index]?=some entry' ∧ Moves w w' entry entry' := by
  cases event with
  | submit request nowMs =>
    rw [← Option.some.inj hstep]
    exact h.submit_moves (request.job_coalescible nowMs) hentry hwaiting
  | take =>
    obtain ⟨job,jobs,_,hjobs,_,rfl⟩ := take_cases hstep
    obtain ⟨entry',hentry',hsame,hfate⟩ := Ledger.fate_start hentry
    refine ⟨entry',hentry',hsame,?_⟩
    cases hfate with
    | inl hkept => exact .inl (hkept.trans hwaiting)
    | inr hstarted =>
      refine .inr (.inl ⟨hstarted.1,?_⟩)
      rw [← hstarted.2,← h.waiting,hjobs]
      rfl
  | finish calls =>
    obtain ⟨job,_,rfl⟩ := Option.map_eq_some_iff.mp hstep
    exact ⟨entry,hentry,rfl,.inl hwaiting⟩
  | panic calls call => cases hquiet
  | drained =>
    simp only [Traced.apply] at hstep
    split at hstep
    · rw [← Option.some.inj hstep]
      exact ⟨entry,hentry,rfl,.inl hwaiting⟩
    · cases hstep
  | close =>
    rw [← Option.some.inj hstep]
    exact ⟨entry,hentry,rfl,.inl hwaiting⟩

/-- Along every run without a panic: what was executed and what waits are together the jobs
that were accepted, in their order and each once, less the cache writes that a later accepted
one replaced while they waited. Nothing is executed before an older job that waits, so a
removal comes after every write before it that is left. -/
theorem accepted_jobs_run_in_order {c : RuntimePersistenceCoordinator}
    (h : Reached (fun event => event.isPanic=false) c w) :
    w.executed++w.queue.jobs=Ledger.kept w.ledger ∧
      w.executed=Ledger.started w.ledger ∧ w.queue.jobs=Ledger.waiting w.ledger ∧
      w.queue.jobs.length ≤ queueCapacity ∧
      (∀ (index : Nat) (entry : Ledger.Entry Job), w.ledger[index]?=some entry →
        ∀ successor, entry.fate=.replaced successor →
          index < successor ∧ entry.item.operation=.write .warmCache ∧
            ∃ later, (Ledger.items w.ledger)[successor]?=some later ∧
              later.operation=.write .warmCache) ∧
      (∀ (index later : Nat) (entry entry' : Ledger.Entry Job), index < later →
        w.ledger[index]?=some entry → w.ledger[later]?=some entry' → entry'.fate=.started →
          entry.fate≠.waiting) ∧
      ∀ event w', event.isPanic=false → w.apply event=some w' →
        ∀ (index : Nat) (entry : Ledger.Entry Job), w.ledger[index]?=some entry →
          entry.fate=.waiting →
            ∃ entry', w'.ledger[index]?=some entry' ∧ Moves w w' entry entry' := by
  have hkept := h.kept
  refine ⟨?_,hkept.started,hkept.waiting,hkept.bounded,?_,?_,?_⟩
  · rw [hkept.started,hkept.waiting,hkept.inOrder.kept_eq]
  · intro index entry hentry successor hfate
    obtain ⟨hlater,hitem,later,hsome,hcoalescible⟩ :=
      hkept.replaced index entry hentry successor hfate
    have hmem : entry.item∈Ledger.items w.ledger :=
      List.mem_map_of_mem (List.mem_of_getElem? hentry)
    exact ⟨hlater,(hkept.coalescible _ hmem).mp hitem,later,hsome,
      (hkept.coalescible _ (List.mem_of_getElem? hsome)).mp hcoalescible⟩
  · intro index later entry entry' hindex hentry hlater hstarted
    exact hkept.inOrder.not_waiting hindex hentry hlater hstarted
  · intro event w' hquiet hstep index entry hentry hwaiting
    exact hkept.moves hquiet hstep hentry hwaiting

/-- Two cache writes around one of the settings, and a purge: the first cache write is
replaced, and the purge is not overtaken. -/
def purgeRun (c : RuntimePersistenceCoordinator) : Traced :=
  ((((start c).submit (Request.job 1 (.writeJson .warmCache))).submit
    (Request.job 2 (.writeJson .settings))).submit
    (Request.job 3 (.writeJson .warmCache))).submit (Request.job 4 (.remove .warmCache))

theorem purge_run_in_order : ∃ w,
    Reached (fun event => event.isPanic=false) (.new { directory := "/data" }
      (.ok .verifiedCurrentUser) 0) w ∧
      w.queue.jobs.map Job.operation=[.write .warmCache,.remove .warmCache] ∧
      w.executed.map Job.operation=[.write .settings] ∧
      w.executed++w.queue.jobs=Ledger.kept w.ledger := by
  have hstart : Reached (fun event => event.isPanic=false) (.new { directory := "/data" }
      (.ok .verifiedCurrentUser) 0) (purgeRun (.new { directory := "/data" }
      (.ok .verifiedCurrentUser) 0)) :=
    .step (.submit (.remove .warmCache) 4) (.step (.submit (.writeJson .warmCache) 3)
      (.step (.submit (.writeJson .settings) 2) (.step (.submit (.writeJson .warmCache) 1)
        .start rfl rfl) rfl rfl) rfl rfl) rfl rfl
  have htaken := Reached.step .take hstart rfl rfl
  exact ⟨_,htaken,rfl,rfl,(accepted_jobs_run_in_order htaken).1⟩

end Traced
end BatCave.Persistence
