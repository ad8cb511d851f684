import BatCave.Persistence.Acceptance
import BatCave.Persistence.WriterRuns

/-! What the background writer says of durability, along every run with failures and panics:
nothing is called durable that is still to be written or was refused. -/
namespace BatCave.Persistence
open BatCave.Contracts BatCave.Lib BatCave.Lib.Word
open RuntimePersistenceCoordinator

section Kinds

/-- Every record is of its own kind, and so were those from before a failure of the root. -/
structure Kinds (s : RuntimePersistenceCoordinator) : Prop where
  components : ∀ c, (s.components c).kind=c.runtimeKind
  before : ∀ components, s.componentsBeforeRootFailure=some components →
    ∀ c, (components c).kind=c.runtimeKind

namespace Kinds
variable {s : RuntimePersistenceCoordinator} {nowMs : Nat}

theorem update (h : Kinds s) (component : UserStorageComponent)
    {f : RuntimePersistenceComponent → RuntimePersistenceComponent}
    (hf : ∀ record, (f record).kind=record.kind) : Kinds (s.updateComponent component f) := by
  refine ⟨?_,h.before⟩
  intro c
  simp only [updateComponent]
  split
  · exact (hf _).trans (h.components c)
  · exact h.components c

theorem recordRootFailure (h : Kinds s) (failure : PersistenceFailure) :
    Kinds (s.recordRootFailure failure nowMs) := by
  refine ⟨h.components,?_⟩
  intro components hbefore
  simp only [RuntimePersistenceCoordinator.recordRootFailure] at hbefore
  split at hbefore
  · rw [← Option.some.inj hbefore]
    exact h.components
  · exact h.before components hbefore

theorem attempt (h : Kinds s) (component : UserStorageComponent) : Kinds (s.attempt component) :=
  ⟨h.components,h.before⟩

theorem recoverRoot (h : Kinds s) (failure : PersistenceFailure) :
    Kinds (s.recoverRoot failure nowMs) := by
  have hrestored : ∀ c, ((s.componentsBeforeRootFailure.getD s.components) c).kind=
      c.runtimeKind := by
    intro c
    cases hbefore : s.componentsBeforeRootFailure with
    | none => exact h.components c
    | some components => exact h.before components hbefore c
  constructor
  · intro c
    simp only [RuntimePersistenceCoordinator.recoverRoot]
    split
    · exact hrestored c
    · exact hrestored c
  · intro components hbefore
    cases hbefore

theorem revalidateRoot (h : Kinds s) (component : UserStorageComponent) (nowMs : Nat)
    (prepared : Except PersistenceFailure PermissionVerification) :
    Kinds (s.revalidateRoot component nowMs prepared).2 := by
  simp only [RuntimePersistenceCoordinator.revalidateRoot]
  split
  · exact h.attempt component
  · split
    · split
      · exact h.recoverRoot _
      · exact h
    · exact (h.recordRootFailure _).attempt component

theorem recordOperationFailure (h : Kinds s) (component : UserStorageComponent)
    (failure : PersistenceFailure)
    (recheck : Except PersistenceFailure PermissionVerification) :
    Kinds (s.recordOperationFailure component failure nowMs recheck) := by
  have hfailed : Kinds (s.recordFailure component failure nowMs) :=
    h.update component (fun _ => rfl)
  simp only [RuntimePersistenceCoordinator.recordOperationFailure]
  split
  · exact (h.recordRootFailure _).attempt component
  · split
    · split
      · exact (h.recordRootFailure _).attempt component
      · exact hfailed
    · exact hfailed

theorem recordSuccess (h : Kinds s) (component : UserStorageComponent)
    (durability : RuntimePersistenceDurability) (lastSuccessAtMs : Option Nat) :
    Kinds (s.recordSuccess component durability lastSuccessAtMs) :=
  h.update component (fun _ => rfl)

theorem operate {α : Type} (h : Kinds s) (component : UserStorageComponent) (answers : Answers α)
    {record : α → RuntimePersistenceCoordinator → RuntimePersistenceCoordinator}
    (hrecord : ∀ value s', Kinds s' → Kinds (record value s')) :
    Kinds (s.operate component nowMs answers record).2 := by
  have hroot := h.revalidateRoot component nowMs answers.root
  simp only [RuntimePersistenceCoordinator.operate]
  split
  · next failure s' heq =>
    rw [heq] at hroot
    exact hroot
  · next s' heq =>
    rw [heq] at hroot
    split
    · exact hrecord _ _ hroot
    · exact hroot.recordOperationFailure component _ _

theorem recordDiagnostic (h : Kinds s) (answers : Answers Unit) :
    Kinds (s.recordDiagnostic nowMs answers).2 := by
  have hroot := h.revalidateRoot .diagnostics nowMs answers.root
  simp only [RuntimePersistenceCoordinator.recordDiagnostic]
  split
  · next failure s' heq =>
    rw [heq] at hroot
    split
    · exact ⟨hroot.components,hroot.before⟩
    · exact ⟨hroot.components,hroot.before⟩
  · next s' heq =>
    rw [heq] at hroot
    have hstored : Kinds { s' with storage := (s'.storage.recordDiagnostic answers.result).2 } :=
      ⟨hroot.components,hroot.before⟩
    split
    · exact hstored.recordSuccess _ _ _
    · exact hstored
    · exact hstored.recordOperationFailure _ _ _

theorem run (h : Kinds s) (call : Call) : Kinds (call.run nowMs s) := by
  cases call with
  | loadJson component answers =>
    exact h.operate component answers (fun _ _ hs => hs.recordSuccess _ _ _)
  | loadJsonMigrating component answers =>
    exact h.operate component answers (fun _ _ hs => hs.recordSuccess _ _ _)
  | writeJson component answers =>
    exact h.operate component answers (fun _ _ hs => hs.recordSuccess _ _ _)
  | remove component answers =>
    exact h.operate component answers (fun _ _ hs => hs.recordSuccess _ _ _)
  | recordDiagnostic answers => exact h.recordDiagnostic answers
  | retryDiagnostics =>
    simp only [Call.run,RuntimePersistenceCoordinator.retryDiagnostics]
    split
    · exact ⟨h.components,h.before⟩
    · exact h
  | verifyCurrentUserRoot prepared => exact h.revalidateRoot .settings nowMs prepared

theorem interrupted (h : Kinds s) (call : Call) (nowMs : Nat) :
    Kinds (call.interrupted nowMs s) := by
  cases call with
  | retryDiagnostics => exact h
  | _ => exact h.revalidateRoot _ nowMs _

theorem runCalls (h : Kinds s) (calls : List Call) (nowMs : Nat) :
    Kinds (Traced.runCalls calls nowMs s) := by
  induction calls generalizing s with
  | nil => exact h
  | cons call calls ih => exact ih (h.run call)

end Kinds

/-- A coordinator as it is constructed and used before the writer takes it over. -/
inductive Built : RuntimePersistenceCoordinator → Prop where
  | new (directory : String) (prepared : Except PersistenceFailure PermissionVerification)
      (nowMs : Nat) : Built (.new { directory := directory } prepared nowMs)
  | unavailable (directory : String) (failure : PersistenceFailure) (nowMs : Nat) :
      Built (.unavailable { directory := directory } failure nowMs)
  | call {c : RuntimePersistenceCoordinator} (call : Call) (nowMs : Nat) : Built c →
      Built (call.run nowMs c)

theorem Built.kinds {c : RuntimePersistenceCoordinator} (h : Built c) : Kinds c := by
  induction h with
  | new directory prepared nowMs =>
    have hfresh : Kinds
        { storage := { directory := directory }
          root := { owner := .currentUser, directory := some directory,
                    permissionState := .verified }
          components := initialComponent } :=
      ⟨fun _ => rfl,fun components hbefore => by cases hbefore⟩
    simp only [RuntimePersistenceCoordinator.new]
    split
    · exact hfresh
    · exact hfresh.recordRootFailure _
  | unavailable directory failure nowMs =>
    exact ⟨fun _ => rfl,fun components hbefore => by cases hbefore⟩
  | call call nowMs _ ih => exact ih.run call

end Kinds

/-- The component is healthy in a report. -/
def HealthyIn (health : RuntimePersistence) (component : UserStorageComponent) : Prop :=
  ∃ record∈health.components, record.kind=component.runtimeKind ∧ record.state=.healthy

theorem matchesKind_iff {component : UserStorageComponent} {kind : RuntimePersistenceKind} :
    matchesKind (some component) kind=true ↔ kind=component.runtimeKind := by
  cases component <;> cases kind <;> simp [matchesKind,UserStorageComponent.runtimeKind]

namespace Queue
variable {queue : Queue}

theorem isHealthy_iff {component : UserStorageComponent} :
    queue.isHealthy component=true ↔ HealthyIn queue.health component := by
  simp only [isHealthy,List.any_eq_true,Bool.and_eq_true,matchesKind_iff,beq_iff_eq,HealthyIn]

def hasFailedWrites (queue : Queue) : Bool :=
  [UserStorageComponent.settings,.warmCache,.diagnostics].any queue.failedWrites

/-- One look of `flush` at the queue: it waits on, or it returns. -/
def flush (queue : Queue) (expired : Bool) : Option (Except String Unit) :=
  if !queue.jobs.isEmpty || queue.active.isSome then
    if expired then some (.error "persistence_flush_timeout") else none
  else if queue.closed || queue.hasRejected || queue.hasFailedWrites then
    some (.error "persistence_flush_failed")
  else some (.ok ())

/-- What `flush` has seen when it returns well. -/
theorem flush_ok {expired : Bool} (h : queue.flush expired=some (.ok ())) :
    queue.jobs=[] ∧ queue.active=none ∧ queue.closed=false ∧
      (∀ component, queue.rejected component=none) ∧
      ∀ component, queue.failedWrites component=false := by
  rw [flush] at h
  split at h
  · split at h
    · cases h
    · cases h
  · next hidle =>
    split at h
    · cases h
    · next hclean =>
      simp only [Bool.or_eq_true,Bool.not_eq_true',not_or,Bool.not_eq_true,Bool.not_eq_false,
        List.isEmpty_iff,Option.isSome_eq_false_iff,Option.isNone_iff_eq_none] at hidle hclean
      refine ⟨hidle.1,hidle.2,hclean.1.1,?_,?_⟩
      · have hrejected := hclean.1.2
        simp only [hasRejected,List.any_cons,List.any_nil,Bool.or_false,Bool.or_eq_false_iff,
          Option.isSome_eq_false_iff,Option.isNone_iff_eq_none] at hrejected
        intro component
        cases component with
        | settings => exact hrejected.1
        | warmCache => exact hrejected.2.1
        | diagnostics => exact hrejected.2.2
      · have hfailed := hclean.2
        simp only [hasFailedWrites,List.any_cons,List.any_nil,Bool.or_false,
          Bool.or_eq_false_iff] at hfailed
        intro component
        cases component with
        | settings => exact hfailed.1
        | warmCache => exact hfailed.2.1
        | diagnostics => exact hfailed.2.2

/-- A record that something is still to happen to is not shown as durable. -/
theorem overlaid_not_durable {component : UserStorageComponent}
    {record : RuntimePersistenceComponent} (hkind : record.kind=component.runtimeKind)
    (h : (∃ job∈queue.jobs, job.component=some component) ∨
      queue.active=some (some component) ∨ (queue.rejected component).isSome=true) :
    (queue.overlaid component record).durability≠.durable := by
  rw [overlaid]
  cases hrejected : queue.rejected component with
  | some rejected => simp
  | none =>
    have hmatches := matchesKind_iff.mpr hkind
    have hpending : (queue.jobs.any (fun job => matchesKind job.component record.kind) ||
        queue.active.any (fun active => matchesKind active record.kind))=true := by
      rw [Bool.or_eq_true]
      cases h with
      | inl hjob =>
        obtain ⟨job,hmem,hcomponent⟩ := hjob
        exact .inl (List.any_eq_true.mpr ⟨job,hmem,by rw [hcomponent,hmatches]⟩)
      | inr hrest =>
        cases hrest with
        | inl hactive => exact .inr (by rw [hactive,Option.any_some,hmatches])
        | inr hsome =>
          rw [hrejected] at hsome
          cases hsome
    simp only [overlayPending,hpending,if_true]
    simp

/-- What a submission leaves alone; what it refuses is noted under its own generation. -/
structure Submitted (stamp : Nat) (queue queue' : Queue) : Prop where
  health : queue'.health=queue.health
  active : queue'.active=queue.active
  closed : queue'.closed=queue.closed
  failedWrites : queue'.failedWrites=queue.failedWrites
  generation : queue'.generation=stamp
  rejected : ∀ component, queue'.rejected component=queue.rejected component ∨
    ∃ atMs failure, queue'.rejected component=some (stamp,atMs,failure)

theorem Submitted.rejectJob {stamp : Nat} {queue' : Queue}
    (h : Submitted stamp queue queue') {job : Job} (hjob : job.generation=stamp)
    (failure : PersistenceFailure) : Submitted stamp queue (queue'.rejectJob job failure) := by
  rw [Queue.rejectJob]
  split
  · next component _ =>
    refine ⟨h.health,h.active,h.closed,h.failedWrites,h.generation,?_⟩
    intro c
    simp only [reject]
    split
    · exact .inr ⟨job.atMs,failure,by rw [hjob]⟩
    · exact h.rejected c
  · exact h

theorem submit_submitted (queue : Queue) (job : Job) :
    Submitted (satAdd queue.generation 1) queue (queue.submit job).2 := by
  have hnext : Submitted (satAdd queue.generation 1) queue
      { queue with generation := satAdd queue.generation 1 } :=
    ⟨rfl,rfl,rfl,rfl,rfl,fun _ => .inl rfl⟩
  simp only [submit]
  split
  · exact hnext.rejectJob rfl _
  · have hcoalesced : Submitted (satAdd queue.generation 1) queue
        (coalesce { queue with generation := satAdd queue.generation 1 }
          { job with generation := satAdd queue.generation 1 }) := by
      rw [coalesce]
      split
      · exact ⟨rfl,rfl,rfl,rfl,rfl,fun _ => .inl rfl⟩
      · exact hnext
    rw [enqueue]
    split
    · exact hcoalesced.rejectJob rfl _
    · exact ⟨hcoalesced.health,hcoalesced.active,hcoalesced.closed,hcoalesced.failedWrites,
        hcoalesced.generation,hcoalesced.rejected⟩

/-- What the end of a job changes. -/
structure Finished (job : Job) (health : RuntimePersistence) (queue queue' : Queue) : Prop where
  health : queue'.health=health
  active : queue'.active=none
  closed : queue'.closed=queue.closed
  generation : queue'.generation=queue.generation
  failedWrites : ∀ component, queue'.failedWrites component=
    if job.component=some component then !queue'.isHealthy component
    else queue.failedWrites component
  rejected : ∀ component, queue'.rejected component=queue.rejected component ∨
    (queue'.rejected component=none ∧ job.component=some component ∧
      (queue.rejected component).any (fun rejected => rejected.1 < job.generation)=true ∧
      queue'.isHealthy component=true)

theorem finishJob_finished (queue : Queue) (job : Job) (health : RuntimePersistence) :
    Finished job health queue (queue.finishJob job health) := by
  simp only [finishJob]
  split
  · next hnone =>
    exact ⟨rfl,rfl,rfl,rfl,fun component => by simp [hnone],fun _ => .inl rfl⟩
  · next component hcomponent =>
    split
    · next hcleared =>
      refine ⟨rfl,rfl,rfl,rfl,?_,?_⟩
      · intro c
        simp only [hcomponent,Option.some.injEq,eq_comm]
        split
        · next heq =>
          rw [heq]
          rfl
        · rfl
      · intro c
        simp only
        split
        · next heq =>
          rw [heq]
          exact .inr ⟨rfl,hcomponent,hcleared.1,hcleared.2⟩
        · exact .inl rfl
    · refine ⟨rfl,rfl,rfl,rfl,?_,fun _ => .inl rfl⟩
      intro c
      simp only [hcomponent,Option.some.injEq,eq_comm]
      split
      · next heq =>
        rw [heq]
        rfl
      · rfl

end Queue

/-- The last job of a component that ended, with the health it left. -/
def lastOutcome (outcomes : List (Job × RuntimePersistence)) (component : UserStorageComponent) :
    Option (Job × RuntimePersistence) :=
  (outcomes.filter (fun outcome => outcome.1.component=some component)).getLast?

theorem lastOutcome_concat (outcomes : List (Job × RuntimePersistence)) (job : Job)
    (health : RuntimePersistence) (component : UserStorageComponent) :
    lastOutcome (outcomes++[(job,health)]) component=
      if job.component=some component then some (job,health)
        else lastOutcome outcomes component := by
  simp only [lastOutcome,List.filter_append,List.filter_cons,List.filter_nil,decide_eq_true_eq]
  split
  · exact List.getLast?_concat
  · rw [List.append_nil]

namespace Traced
variable {w w' : Traced} {event : Event} {c : RuntimePersistenceCoordinator}

/-- What the queue says of the job in hand, of the records and of the jobs that ended. -/
structure Truthful (w : Traced) : Prop where
  kinds : Kinds w.coordinator
  health : ∃ components : UserStorageComponent → RuntimePersistenceComponent,
    (∀ component, (components component).kind=component.runtimeKind) ∧
      w.queue.health.components=
        [components .settings,components .warmCache,components .diagnostics]
  active : w.queue.active=w.running.map Job.component
  generation : w.queue.generation ≤ u64Max
  outcomes : w.queue.closed=false → ∀ component, w.queue.failedWrites component=false →
    ∀ outcome, lastOutcome w.outcomes component=some outcome → HealthyIn outcome.2 component

theorem truthful_start (hc : Kinds c) : (start c).Truthful := by
  refine ⟨hc,⟨c.components,hc.components,health_components hc.components⟩,rfl,Nat.zero_le _,?_⟩
  intro _ component _ outcome houtcome
  cases houtcome

theorem Truthful.finish (h : w.Truthful) {calls : List Call}
    (hstep : w.apply (.finish calls)=some w') : w'.Truthful := by
  obtain ⟨job,_,rfl⟩ := Option.map_eq_some_iff.mp hstep
  have hkinds := h.kinds.runCalls calls job.nowMs
  have hfinished := w.queue.finishJob_finished job
    (runCalls calls job.nowMs w.coordinator).health
  refine ⟨hkinds,⟨_,hkinds.components,?_⟩,hfinished.active,
    hfinished.generation.trans_le h.generation,?_⟩
  · rw [hfinished.health]
    exact health_components hkinds.components
  · intro hclosed component hfailed outcome houtcome
    rw [hfinished.failedWrites] at hfailed
    rw [lastOutcome_concat] at houtcome
    split at hfailed
    · next hcomponent =>
      rw [if_pos hcomponent,Option.some.injEq] at houtcome
      rw [Bool.not_eq_false',Queue.isHealthy_iff,hfinished.health] at hfailed
      rw [← houtcome]
      exact hfailed
    · next hcomponent =>
      rw [if_neg hcomponent] at houtcome
      exact h.outcomes (hfinished.closed.symm.trans hclosed) component hfailed outcome houtcome

theorem Truthful.apply (h : w.Truthful) (hstep : w.apply event=some w') : w'.Truthful := by
  cases event with
  | submit request nowMs =>
    rw [← Option.some.inj hstep]
    have hsubmitted := w.queue.submit_submitted (request.job nowMs)
    refine ⟨h.kinds,?_,?_,?_,?_⟩
    · obtain ⟨components,hkind,hhealth⟩ := h.health
      exact ⟨components,hkind,(congrArg RuntimePersistence.components hsubmitted.health).trans
        hhealth⟩
    · exact hsubmitted.active.trans h.active
    · exact hsubmitted.generation.trans_le (Nat.min_le_right _ _)
    · intro hclosed component hfailed
      exact h.outcomes (hsubmitted.closed.symm.trans hclosed) component
        ((congrFun hsubmitted.failedWrites component).symm.trans hfailed)
  | take =>
    obtain ⟨job,jobs,_,_,_,rfl⟩ := take_cases hstep
    exact ⟨h.kinds,h.health,rfl,h.generation,h.outcomes⟩
  | finish calls => exact h.finish hstep
  | panic calls call =>
    obtain ⟨job,_,rfl⟩ := Option.map_eq_some_iff.mp hstep
    have hkinds := (h.kinds.runCalls calls job.nowMs).interrupted call job.nowMs
    refine ⟨hkinds,⟨_,hkinds.components,health_components hkinds.components⟩,rfl,h.generation,?_⟩
    intro hclosed
    cases hclosed
  | drained =>
    simp only [Traced.apply] at hstep
    split at hstep
    · rw [← Option.some.inj hstep]
      exact ⟨h.kinds,h.health,h.active,h.generation,h.outcomes⟩
    · cases hstep
  | close =>
    rw [← Option.some.inj hstep]
    refine ⟨h.kinds,h.health,h.active,h.generation,?_⟩
    intro hclosed
    cases hclosed

theorem Reached.truthful {Admitted : Event → Prop} (hc : Kinds c) (h : Reached Admitted c w) :
    w.Truthful := by
  induction h with
  | start => exact truthful_start hc
  | step event _ _ hstep ih => exact ih.apply hstep

/-- Something is still to happen to the component's file, or was refused. -/
def Unsettled (w : Traced) (component : UserStorageComponent) : Prop :=
  (∃ job∈w.queue.jobs, job.component=some component) ∨
    (∃ job, w.running=some job ∧ job.component=some component) ∨
    (w.queue.rejected component).isSome=true

theorem Truthful.not_durable (h : w.Truthful) {component : UserStorageComponent}
    (hunsettled : w.Unsettled component) {record : RuntimePersistenceComponent}
    (hrecord : record∈w.queue.overlaidHealth.components)
    (hkind : record.kind=component.runtimeKind) : record.durability≠.durable := by
  obtain ⟨components,hkinds,hhealth⟩ := h.health
  rw [Queue.overlaidHealth_components hkinds hhealth] at hrecord
  have hoverlaid : record=w.queue.overlaid component (components component) := by
    have hown : ∀ other, record=w.queue.overlaid other (components other) →
        other.runtimeKind=component.runtimeKind → other=component := by
      intro other _ heq
      cases other <;> cases component <;> first | rfl | cases heq
    have hkind' : ∀ other, (w.queue.overlaid other (components other)).kind=
        other.runtimeKind := by
      intro other
      rw [Queue.overlaid]
      split
      · exact Queue.overlayPending_kind _ |>.trans (hkinds other)
      · exact Queue.overlayPending_kind _ |>.trans (hkinds other)
    have hsome : ∃ other, record=w.queue.overlaid other (components other) := by
      simp only [List.mem_cons,List.not_mem_nil,or_false] at hrecord
      cases hrecord with
      | inl hs => exact ⟨_,hs⟩
      | inr hrest =>
        cases hrest with
        | inl hw => exact ⟨_,hw⟩
        | inr hd => exact ⟨_,hd⟩
    obtain ⟨other,hother⟩ := hsome
    have heq : other.runtimeKind=component.runtimeKind := by
      rw [← hkind,hother,hkind']
    rw [hother,hown other hother heq]
  rw [hoverlaid]
  refine Queue.overlaid_not_durable (hkinds component) ?_
  cases hunsettled with
  | inl hqueued => exact .inl hqueued
  | inr hrest =>
    cases hrest with
    | inl hrunning =>
      obtain ⟨job,hjob,hcomponent⟩ := hrunning
      exact .inr (.inl (by rw [h.active,hjob,Option.map_some,hcomponent]))
    | inr hrejected => exact .inr (.inr hrejected)

/-- Generations are handed out in order: a job and a refusal bear the one of their moment. -/
structure Stamped (w w' : Traced) : Prop where
  generation : w.queue.generation ≤ w'.queue.generation
  accepted : Ledger.items w'.ledger=Ledger.items w.ledger ∨
    ∃ job, Ledger.items w'.ledger=Ledger.items w.ledger++[job] ∧
      job.generation=w'.queue.generation
  rejected : ∀ component rejected, w'.queue.rejected component=some rejected →
    w.queue.rejected component=some rejected ∨ rejected.1=w'.queue.generation

/-- Nothing is stamped. -/
theorem Stamped.of_same (hgeneration : w'.queue.generation=w.queue.generation)
    (hledger : Ledger.items w'.ledger=Ledger.items w.ledger)
    (hrejected : ∀ component rejected, w'.queue.rejected component=some rejected →
      w.queue.rejected component=some rejected ∨ rejected.1=w'.queue.generation) : Stamped w w' :=
  ⟨Nat.le_of_eq hgeneration.symm,.inl hledger,hrejected⟩

theorem Truthful.stamped (h : w.Truthful) (hstep : w.apply event=some w') : Stamped w w' := by
  cases event with
  | submit request nowMs =>
    rw [← Option.some.inj hstep]
    have hsubmitted := w.queue.submit_submitted (request.job nowMs)
    refine ⟨?_,?_,?_⟩
    · have hbound := h.generation
      refine Nat.le_trans ?_ (Nat.le_of_eq hsubmitted.generation.symm)
      simp only [satAdd]
      omega
    · simp only [Traced.submit]
      split
      · rw [Ledger.items_accept]
        exact .inr ⟨_,rfl,hsubmitted.generation.symm⟩
      · exact .inl rfl
    · intro component rejected hrejected
      cases hsubmitted.rejected component with
      | inl hsame => exact .inl (hsame.symm.trans hrejected)
      | inr hnew =>
        obtain ⟨atMs,failure,hnew⟩ := hnew
        have heq : (_,atMs,failure)=rejected := Option.some.inj (hnew.symm.trans hrejected)
        rw [← heq]
        exact .inr hsubmitted.generation.symm
  | take =>
    obtain ⟨job,jobs,_,_,_,rfl⟩ := take_cases hstep
    exact .of_same rfl Ledger.items_start (fun _ _ hrejected => .inl hrejected)
  | finish calls =>
    obtain ⟨job,_,rfl⟩ := Option.map_eq_some_iff.mp hstep
    have hfinished := w.queue.finishJob_finished job
      (runCalls calls job.nowMs w.coordinator).health
    refine .of_same hfinished.generation rfl ?_
    intro component rejected hrejected
    cases hfinished.rejected component with
    | inl hsame => exact .inl (hsame.symm.trans hrejected)
    | inr hcleared => cases hcleared.1.symm.trans hrejected
  | panic calls call =>
    obtain ⟨job,_,rfl⟩ := Option.map_eq_some_iff.mp hstep
    refine .of_same rfl rfl ?_
    intro component rejected hrejected
    rw [← Option.some.inj hrejected]
    exact .inr rfl
  | drained =>
    simp only [Traced.apply] at hstep
    split at hstep
    · rw [← Option.some.inj hstep]
      exact .of_same rfl rfl (fun _ _ hrejected => .inl hrejected)
    · cases hstep
  | close =>
    rw [← Option.some.inj hstep]
    exact .of_same rfl rfl (fun _ _ hrejected => .inl hrejected)

/-- The event that clears a refusal. -/
theorem cleared_by (hstep : w.apply event=some w') {component : UserStorageComponent}
    {rejected : Nat × Nat × PersistenceFailure} (hbefore : w.queue.rejected component=some rejected)
    (hafter : w'.queue.rejected component=none) :
    ∃ calls job, event=.finish calls ∧ w.running=some job ∧ job.component=some component ∧
      rejected.1 < job.generation ∧ HealthyIn w'.queue.health component := by
  cases event with
  | submit request nowMs =>
    rw [← Option.some.inj hstep] at hafter
    cases (w.queue.submit_submitted (request.job nowMs)).rejected component with
    | inl hsame => cases (hsame.symm.trans hafter).symm.trans hbefore
    | inr hnew =>
      obtain ⟨atMs,failure,hnew⟩ := hnew
      cases hnew.symm.trans hafter
  | take =>
    obtain ⟨job,jobs,_,_,_,rfl⟩ := take_cases hstep
    cases hbefore.symm.trans hafter
  | finish calls =>
    obtain ⟨job,hjob,rfl⟩ := Option.map_eq_some_iff.mp hstep
    have hfinished := w.queue.finishJob_finished job
      (runCalls calls job.nowMs w.coordinator).health
    cases hfinished.rejected component with
    | inl hsame => cases (hsame.symm.trans hafter).symm.trans hbefore
    | inr hcleared =>
      obtain ⟨_,hcomponent,hlater,hhealthy⟩ := hcleared
      rw [hbefore,Option.any_some,decide_eq_true_eq] at hlater
      exact ⟨calls,job,rfl,hjob,hcomponent,hlater,Queue.isHealthy_iff.mp hhealthy⟩
  | panic calls call =>
    obtain ⟨job,_,rfl⟩ := Option.map_eq_some_iff.mp hstep
    cases hafter
  | drained =>
    simp only [Traced.apply] at hstep
    split at hstep
    · rw [← Option.some.inj hstep] at hafter
      cases hbefore.symm.trans hafter
    · cases hstep
  | close =>
    rw [← Option.some.inj hstep] at hafter
    cases hbefore.symm.trans hafter

/-- Along every run, with whatever outcomes and panics: no component with a job to come or a
refusal is shown as durable; a refusal is cleared only by a later job of its component that
left it healthy; and a flush returns well only when nothing is to come or refused and the
last job of every component left it healthy. -/
theorem durability_is_not_overstated (hc : Built c) (h : Reached (fun _ => True) c w) :
    (∀ component, w.Unsettled component → ∀ record∈w.queue.overlaidHealth.components,
      record.kind=component.runtimeKind → record.durability≠.durable) ∧
    (∀ event w', w.apply event=some w' → Stamped w w' ∧
      ∀ component rejected, w.queue.rejected component=some rejected →
        w'.queue.rejected component=none →
          ∃ calls job, event=.finish calls ∧ w.running=some job ∧
            job.component=some component ∧ rejected.1 < job.generation ∧
            HealthyIn w'.queue.health component) ∧
    ∀ expired, w.queue.flush expired=some (.ok ()) →
      w.queue.jobs=[] ∧ w.running=none ∧ (∀ component, w.queue.rejected component=none) ∧
        ∀ component outcome, lastOutcome w.outcomes component=some outcome →
          HealthyIn outcome.2 component := by
  have htruthful := h.truthful hc.kinds
  refine ⟨?_,?_,?_⟩
  · intro component hunsettled record hrecord hkind
    exact htruthful.not_durable hunsettled hrecord hkind
  · intro event w' hstep
    refine ⟨htruthful.stamped hstep,?_⟩
    intro component rejected hbefore hafter
    exact cleared_by hstep hbefore hafter
  · intro expired hflush
    obtain ⟨hjobs,hactive,hclosed,hrejected,hfailed⟩ := Queue.flush_ok hflush
    refine ⟨hjobs,?_,hrejected,?_⟩
    · rw [htruthful.active,Option.map_eq_none_iff] at hactive
      exact hactive
    · intro component outcome houtcome
      exact htruthful.outcomes hclosed component (hfailed component) outcome houtcome

theorem Reached.run {Admitted : Event → Prop} (h : Reached Admitted c w) {events : List Event}
    (hadmitted : ∀ event∈events, Admitted event) (hrun : events.foldlM Traced.apply w=some w') :
    Reached Admitted c w' := by
  induction events generalizing w with
  | nil =>
    rw [← Option.some.inj hrun]
    exact h
  | cons event events ih =>
    rw [List.foldlM_cons,Option.bind_eq_bind,Option.bind_eq_some_iff] at hrun
    obtain ⟨next,hstep,hrest⟩ := hrun
    exact ih (h.step event (hadmitted event List.mem_cons_self) hstep)
      (fun event' hevent => hadmitted event' (List.mem_cons_of_mem _ hevent)) hrest

/-- The cache is written and the settings still wait. -/
def settingsWaiting : List Event :=
  [.submit (.writeJson .warmCache) 5,.take,.finish [stored],.submit (.writeJson .settings) 6]

theorem settings_waiting_shown : ∃ w, Reached (fun _ => True) freshCoordinator w ∧
    w.Unsettled .settings ∧
    ∀ record∈w.queue.overlaidHealth.components, record.kind=.settings →
      record.durability≠.durable := by
  have hrun : ∃ w, settingsWaiting.foldlM Traced.apply (start freshCoordinator)=some w ∧
      ∃ job∈w.queue.jobs, job.component=some .settings := ⟨_,rfl,by decide⟩
  obtain ⟨w,hrun,hwaiting⟩ := hrun
  have hreached : Reached (fun _ => True) freshCoordinator w :=
    Reached.start.run (fun _ _ => trivial) hrun
  exact ⟨w,hreached,.inl hwaiting,
    (durability_is_not_overstated (.new _ _ _) hreached).1 .settings (.inl hwaiting)⟩

end Traced
end BatCave.Persistence
