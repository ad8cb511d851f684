import BatCave.Persistence.Writer

/-! What the failures of the storage root do to the records of the components: they mask them, and
a verified root brings them back. An operation that finds the root verified can lose it again
before it ends, so a run is looked at between the check of the root and the operation too. -/
namespace BatCave.Persistence
open BatCave.Contracts BatCave.Lib.Word
open RuntimePersistenceCoordinator

/-- What an operation does at one moment. -/
inductive Act where
  /-- The root is checked for an operation on the component. -/
  | check (component : UserStorageComponent)
  /-- The operation on the component has come to an end. -/
  | outcome (component : UserStorageComponent) (success : Bool)
  /-- Nothing that is about a component. -/
  | quiet
  deriving DecidableEq, Repr

def Act.component : Act → Option UserStorageComponent
  | .check component => some component
  | .outcome component _ => some component
  | .quiet => none

/-- What was done, and the state it left. -/
structure Point where
  act : Act
  state : RuntimePersistenceCoordinator

/-- What the root check of an operation and the operation itself leave. -/
def operateSteps {α : Type} (s : RuntimePersistenceCoordinator) (component : UserStorageComponent)
    (nowMs : Nat) (answers : Answers α)
    (record : α → RuntimePersistenceCoordinator → RuntimePersistenceCoordinator) : List Point :=
  let checked := s.revalidateRoot component nowMs answers.root
  ⟨.check component,checked.2⟩::
    if checked.1.isSome then []
    else
      [match answers.result with
        | .ok value => ⟨.outcome component true,record value checked.2⟩
        | .error failure => ⟨.outcome component false,
            checked.2.recordOperationFailure component failure nowMs answers.recheck⟩]

def recordDiagnosticSteps (s : RuntimePersistenceCoordinator) (nowMs : Nat)
    (answers : Answers Unit) : List Point :=
  let checked := s.revalidateRoot .diagnostics nowMs answers.root
  ⟨.check .diagnostics,checked.2⟩::
    if checked.1.isSome then
      let s := checked.2
      [⟨.quiet,
        if s.rootFailureReportedToDiagnostics then { s with
          rootFailureSuppressedDiagnostics := satAdd s.rootFailureSuppressedDiagnostics 1 }
        else { s with rootFailureReportedToDiagnostics := true }⟩]
    else
      let recorded := checked.2.storage.recordDiagnostic answers.result
      let s := { checked.2 with storage := recorded.2 }
      ⟨.quiet,s⟩::
        match recorded.1 with
        | .written => [⟨.outcome .diagnostics true,
            s.recordSuccess .diagnostics .durable (some nowMs)⟩]
        | .suppressed => []
        | .failed failure => [⟨.outcome .diagnostics false,
            s.recordOperationFailure .diagnostics failure nowMs answers.recheck⟩]

/-- The moments of one call. -/
def Call.steps (call : Call) (nowMs : Nat) (s : RuntimePersistenceCoordinator) : List Point :=
  match call with
  | .loadJson component answers | .loadJsonMigrating component answers =>
    operateSteps s component nowMs answers (fun found s =>
      s.recordSuccess component (if found then .durable else .notApplicable)
        (if found then some nowMs else none))
  | .writeJson component answers =>
    operateSteps s component nowMs answers (fun _ s =>
      s.recordSuccess component .durable (some nowMs))
  | .remove component answers =>
    operateSteps s component nowMs answers (fun _ s =>
      s.recordSuccess component .notApplicable none)
  | .recordDiagnostic answers => recordDiagnosticSteps s nowMs answers
  | .retryDiagnostics => [⟨.quiet,s.retryDiagnostics⟩]
  | .verifyCurrentUserRoot prepared =>
    [⟨.check .settings,(s.revalidateRoot .settings nowMs prepared).2⟩]

/-- The state that is left when all of it has happened. -/
def finalState (s : RuntimePersistenceCoordinator) (points : List Point) :
    RuntimePersistenceCoordinator :=
  points.foldl (fun _ p => p.state) s

/-- The moments of a run of calls, each at its time. -/
def history (s : RuntimePersistenceCoordinator) : List (Nat × Call) → List Point
  | [] => []
  | (nowMs,call)::calls => call.steps nowMs s++history (call.run nowMs s) calls

/-- How a coordinator comes to be. -/
inductive Start where
  | new (storage : UserStorageCoordinator)
      (prepared : Except PersistenceFailure PermissionVerification) (nowMs : Nat)
  | unavailable (storage : UserStorageCoordinator) (failure : PersistenceFailure) (nowMs : Nat)

def Start.state : Start → RuntimePersistenceCoordinator
  | .new storage prepared nowMs => RuntimePersistenceCoordinator.new storage prepared nowMs
  | .unavailable storage failure nowMs =>
    RuntimePersistenceCoordinator.unavailable storage failure nowMs

/-- What `new` builds before it looks at the root. -/
def fresh (storage : UserStorageCoordinator) : RuntimePersistenceCoordinator where
  storage := storage
  root := { owner := .currentUser, directory := some storage.directory,
            permissionState := .verified }
  components := initialComponent

/-- The moments of a coordinator: it is built, the root is checked, and the calls come. -/
def life (start : Start) (calls : List (Nat × Call)) : List Point :=
  (match start with
    | .new storage _ _ => [⟨.quiet,fresh storage⟩,⟨.quiet,start.state⟩]
    | .unavailable _ _ _ => [⟨.quiet,start.state⟩])++history start.state calls

section Moves

/-- All that can happen from one moment to the next. -/
inductive Moves (s : RuntimePersistenceCoordinator) : Point → Prop where
  /-- Nothing is recorded. -/
  | keeps (act : Act) (s' : RuntimePersistenceCoordinator) : s'.rootFailure=s.rootFailure →
      s'.components=s.components →
      s'.componentsBeforeRootFailure=s.componentsBeforeRootFailure →
      s'.componentsAttemptedDuringRootFailure=s.componentsAttemptedDuringRootFailure →
      s'.rootRevalidationEnabled=s.rootRevalidationEnabled →
      (s.rootFailure=none ∨ act=.quiet) → Moves s ⟨act,s'⟩
  | disabled (component : UserStorageComponent) : s.rootRevalidationEnabled=false →
      Moves s ⟨.check component,s.attempt component⟩
  | recovers (component : UserStorageComponent) (failure : PersistenceFailure) (nowMs : Nat) :
      s.rootRevalidationEnabled=true → s.rootFailure=some failure →
      Moves s ⟨.check component,s.recoverRoot failure nowMs⟩
  | fails (act : Act) (component : UserStorageComponent) (failure : PersistenceFailure)
      (nowMs : Nat) : act.component=some component →
      (s.rootFailure=none ∨ act=.check component) →
      Moves s ⟨act,(s.recordRootFailure failure nowMs).attempt component⟩
  | starts (failure : PersistenceFailure) (nowMs : Nat) : s.rootFailure=none →
      Moves s ⟨.quiet,s.recordRootFailure failure nowMs⟩
  | records (component : UserStorageComponent) (success : Bool)
      (f : RuntimePersistenceComponent → RuntimePersistenceComponent) : s.rootFailure=none →
      Moves s ⟨.outcome component success,s.updateComponent component f⟩

/-- Each moment comes of the one before. -/
def Follows (s : RuntimePersistenceCoordinator) : List Point → Prop
  | [] => True
  | p::points => Moves s p ∧ Follows p.state points

variable {s : RuntimePersistenceCoordinator}

theorem follows_append {points more : List Point} :
    Follows s (points++more) ↔ Follows s points ∧ Follows (finalState s points) more := by
  induction points generalizing s with
  | nil => simp [Follows,finalState]
  | cons p points ih =>
    rw [List.cons_append,Follows,Follows,ih,and_assoc]
    rfl

/-- A record that a failure of the root has taken the place of. -/
def Masked (failure : PersistenceFailure) (component : RuntimePersistenceComponent) : Prop :=
  (component.state=.degraded ∨ component.state=.unavailable) ∧
    component.durability=.sessionOnly ∧
    ∃ nowMs, component.activeFailure=some (runtimeFailure failure nowMs)

/-- While the root fails every record is masked; while it does not, no attempt is remembered. -/
structure Kept (s : RuntimePersistenceCoordinator) : Prop where
  resolved : s.rootRevalidationEnabled=false → s.rootFailure≠none
  empty : s.rootFailure=none → ∀ c, s.componentsAttemptedDuringRootFailure c=false
  masked : ∀ failure, s.rootFailure=some failure → ∀ c, Masked failure (s.components c)

theorem masked_recordRootFailure (s : RuntimePersistenceCoordinator)
    (failure : PersistenceFailure) (nowMs : Nat) (c : UserStorageComponent) :
    Masked failure ((s.recordRootFailure failure nowMs).components c) := by
  refine ⟨?_,rfl,nowMs,rfl⟩
  simp only [recordRootFailure]
  split
  · exact .inr rfl
  · exact .inl rfl

theorem kept_of_masked {failure : PersistenceFailure} (hroot : s.rootFailure=some failure)
    (h : ∀ c, Masked failure (s.components c)) : Kept s := by
  refine ⟨fun _ hnone => ?_,fun hnone => ?_,fun own hown => ?_⟩
  · rw [hroot] at hnone
    cases hnone
  · rw [hroot] at hnone
    cases hnone
  · rw [hroot] at hown
    exact Option.some.inj hown ▸ h

theorem kept_of_verified (hroot : s.rootFailure=none) (hon : s.rootRevalidationEnabled=true)
    (h : ∀ c, s.componentsAttemptedDuringRootFailure c=false) : Kept s := by
  refine ⟨fun hoff => ?_,fun _ => h,fun own hown => ?_⟩
  · rw [hon] at hoff
    cases hoff
  · rw [hroot] at hown
    cases hown

/-- A moment keeps what holds at every moment. -/
theorem Kept.moves (h : Kept s) {p : Point} (hmoves : Moves s p) : Kept p.state := by
  cases hmoves with
  | keeps act s' hroot hcomponents _ hattempted henabled _ =>
    refine ⟨?_,?_,?_⟩
    · rw [hroot,henabled]
      exact h.resolved
    · rw [hroot,hattempted]
      exact h.empty
    · rw [hroot,hcomponents]
      exact h.masked
  | disabled component hoff =>
    exact ⟨h.resolved,fun hnone => absurd hnone (h.resolved hoff),h.masked⟩
  | recovers component failure nowMs hon _ =>
    exact kept_of_verified rfl hon (fun _ => rfl)
  | fails act component failure nowMs _ _ =>
    exact kept_of_masked rfl (masked_recordRootFailure s failure nowMs)
  | starts failure nowMs _ => exact kept_of_masked rfl (masked_recordRootFailure s failure nowMs)
  | records component success f hroot =>
    exact ⟨h.resolved,h.empty,fun own hown => absurd (hroot.symm.trans hown) (by simp)⟩

theorem Kept.final (h : Kept s) {points : List Point} (hfollows : Follows s points) :
    Kept (finalState s points) := by
  induction points generalizing s with
  | nil => exact h
  | cons p points ih => exact ih (h.moves hfollows.1) hfollows.2

theorem moves_check (h : Kept s) (component : UserStorageComponent) (nowMs : Nat)
    (prepared : Except PersistenceFailure PermissionVerification) :
    Moves s ⟨.check component,(s.revalidateRoot component nowMs prepared).2⟩ ∧
      ((s.revalidateRoot component nowMs prepared).1=none →
        (s.revalidateRoot component nowMs prepared).2.rootFailure=none) := by
  unfold revalidateRoot
  by_cases hdisabled : s.rootRevalidationEnabled=false
  · rw [if_pos hdisabled]
    exact ⟨.disabled component hdisabled,fun hnone => absurd hnone (h.resolved hdisabled)⟩
  · rw [if_neg hdisabled]
    have henabled : s.rootRevalidationEnabled=true := Bool.not_eq_false _ ▸ hdisabled
    cases s.storage.ensureRoot prepared with
    | error failure => exact ⟨.fails _ component failure nowMs rfl (.inr rfl),nofun⟩
    | ok u =>
      cases hroot : s.rootFailure with
      | none => exact ⟨.keeps _ s rfl rfl rfl rfl rfl (.inl hroot),fun _ => hroot⟩
      | some failure => exact ⟨.recovers component failure nowMs henabled hroot,fun _ => rfl⟩

theorem moves_failure (hroot : s.rootFailure=none) (component : UserStorageComponent)
    (failure : PersistenceFailure) (nowMs : Nat)
    (recheck : Except PersistenceFailure PermissionVerification) :
    Moves s ⟨.outcome component false,
      s.recordOperationFailure component failure nowMs recheck⟩ := by
  have hown : Moves s ⟨.outcome component false,s.recordFailure component failure nowMs⟩ :=
    .records component false _ hroot
  unfold recordOperationFailure
  split
  · exact .fails _ component failure nowMs rfl (.inl hroot)
  · split
    · cases s.storage.ensureRoot recheck with
      | error rootFailure => exact .fails _ component rootFailure nowMs rfl (.inl hroot)
      | ok u => exact hown
    · exact hown

/-- The moments of an operation, and where they end. -/
theorem operateSteps_spec {α : Type} (h : Kept s) (component : UserStorageComponent) (nowMs : Nat)
    (answers : Answers α)
    (record : α → RuntimePersistenceCoordinator → RuntimePersistenceCoordinator)
    (hrecord : ∀ value s', s'.rootFailure=none →
      Moves s' ⟨.outcome component true,record value s'⟩) :
    Follows s (operateSteps s component nowMs answers record) ∧
      finalState s (operateSteps s component nowMs answers record)=
        (s.operate component nowMs answers record).2 := by
  obtain ⟨hmoves,hpassed⟩ := moves_check h component nowMs answers.root
  unfold operateSteps operate
  generalize s.revalidateRoot component nowMs answers.root=checked at hmoves hpassed ⊢
  obtain ⟨failed,s'⟩ := checked
  cases failed with
  | some failure => exact ⟨⟨hmoves,trivial⟩,rfl⟩
  | none =>
    have hroot : s'.rootFailure=none := hpassed rfl
    cases hresult : answers.result with
    | ok value => exact ⟨⟨hmoves,hrecord value s' hroot,trivial⟩,rfl⟩
    | error failure =>
      exact ⟨⟨hmoves,moves_failure hroot component failure nowMs answers.recheck,trivial⟩,rfl⟩

theorem recordDiagnosticSteps_spec (h : Kept s) (nowMs : Nat) (answers : Answers Unit) :
    Follows s (recordDiagnosticSteps s nowMs answers) ∧
      finalState s (recordDiagnosticSteps s nowMs answers)=
        (s.recordDiagnostic nowMs answers).2 := by
  obtain ⟨hmoves,hpassed⟩ := moves_check h .diagnostics nowMs answers.root
  unfold recordDiagnosticSteps recordDiagnostic
  generalize s.revalidateRoot .diagnostics nowMs answers.root=checked at hmoves hpassed ⊢
  obtain ⟨failed,s'⟩ := checked
  cases failed with
  | some failure =>
    have hquiet : ∀ reported suppressed, Moves s' ⟨.quiet,{ s' with
        rootFailureReportedToDiagnostics := reported
        rootFailureSuppressedDiagnostics := suppressed }⟩ := fun _ _ =>
      .keeps _ _ rfl rfl rfl rfl rfl (.inr rfl)
    dsimp only [Option.isSome_some]
    by_cases hreported : s'.rootFailureReportedToDiagnostics=true
    · simp only [if_true,hreported]
      exact ⟨⟨hmoves,hquiet true _,trivial⟩,rfl⟩
    · simp only [if_true,hreported]
      exact ⟨⟨hmoves,hquiet true s'.rootFailureSuppressedDiagnostics,trivial⟩,rfl⟩
  | none =>
    have hroot : s'.rootFailure=none := hpassed rfl
    have hquiet : ∀ storage, Moves s' ⟨.quiet,{ s' with storage := storage }⟩ := fun _ =>
      .keeps _ _ rfl rfl rfl rfl rfl (.inr rfl)
    dsimp only [Option.isSome_none]
    rw [if_neg Bool.false_ne_true]
    generalize s'.storage.recordDiagnostic answers.result=recorded
    obtain ⟨outcome,storage⟩ := recorded
    cases outcome with
    | written =>
      exact ⟨⟨hmoves,hquiet storage,.records .diagnostics true _ hroot,trivial⟩,rfl⟩
    | suppressed => exact ⟨⟨hmoves,hquiet storage,trivial⟩,rfl⟩
    | failed failure =>
      have hfailed := @moves_failure { s' with storage := storage } hroot .diagnostics failure nowMs
        answers.recheck
      exact ⟨⟨hmoves,hquiet storage,hfailed,trivial⟩,rfl⟩

/-- The moments of a call, and where they end. -/
theorem steps_spec (h : Kept s) (nowMs : Nat) (call : Call) :
    Follows s (call.steps nowMs s) ∧ finalState s (call.steps nowMs s)=call.run nowMs s := by
  have hsuccess : ∀ component durability time (s' : RuntimePersistenceCoordinator),
      s'.rootFailure=none →
        Moves s' ⟨.outcome component true,s'.recordSuccess component durability time⟩ :=
    fun component _ _ _ hroot => .records component true _ hroot
  cases call with
  | loadJson component answers | loadJsonMigrating component answers =>
    exact operateSteps_spec h component nowMs answers _ (fun _ s' => hsuccess component _ _ s')
  | writeJson component answers | remove component answers =>
    exact operateSteps_spec h component nowMs answers _ (fun _ s' => hsuccess component _ _ s')
  | recordDiagnostic answers => exact recordDiagnosticSteps_spec h nowMs answers
  | retryDiagnostics =>
    refine ⟨⟨?_,trivial⟩,rfl⟩
    unfold retryDiagnostics
    split <;> exact .keeps _ _ rfl rfl rfl rfl rfl (.inr rfl)
  | verifyCurrentUserRoot prepared =>
    exact ⟨⟨(moves_check h .settings nowMs prepared).1,trivial⟩,rfl⟩

theorem follows_history (h : Kept s) (calls : List (Nat × Call)) : Follows s (history s calls) := by
  induction calls generalizing s with
  | nil => trivial
  | cons timed calls ih =>
    obtain ⟨nowMs,call⟩ := timed
    obtain ⟨hsteps,hfinal⟩ := steps_spec h nowMs call
    rw [history,follows_append,hfinal]
    exact ⟨hsteps,ih (hfinal ▸ h.final hsteps)⟩

end Moves

section Episode
variable {before s : RuntimePersistenceCoordinator} {seen : List Point} {p r : Point}

/-- Within a failure of the root: what stood before is put away, and whoever tried is known. -/
structure InEpisode (before : RuntimePersistenceCoordinator) (seen : List Point)
    (s : RuntimePersistenceCoordinator) : Prop where
  last : finalState before seen=s
  failing : s.rootFailure≠none
  saved : s.componentsBeforeRootFailure=some before.components
  attempted : ∀ c, s.componentsAttemptedDuringRootFailure c=true ↔
    ∃ p∈seen, p.act.component=some c

theorem finalState_snoc (before : RuntimePersistenceCoordinator) (seen : List Point) (p : Point) :
    finalState before (seen++[p])=p.state := by
  rw [finalState,List.foldl_append]
  rfl

theorem attempt_iff (s : RuntimePersistenceCoordinator) (component c : UserStorageComponent) :
    (s.attempt component).componentsAttemptedDuringRootFailure c=true ↔
      c=component ∨ s.componentsAttemptedDuringRootFailure c=true := by
  simp [attempt]

theorem exists_snoc {P : Point → Prop} : (∃ q∈seen++[p], P q) ↔ (∃ q∈seen, P q) ∨ P p := by
  simp only [List.mem_append,List.mem_singleton,or_and_right,exists_or,exists_eq_left]

theorem inEpisode_start (h : Kept before) (hroot : before.rootFailure=none)
    (hmoves : Moves before p) (hfailing : p.state.rootFailure≠none) :
    InEpisode before [p] p.state := by
  have hnone := h.empty hroot
  cases hmoves with
  | keeps act s' hsame _ _ _ _ _ => exact absurd (hsame.trans hroot) hfailing
  | disabled component _ => exact absurd hroot hfailing
  | recovers component failure nowMs _ hsome =>
    rw [hroot] at hsome
    cases hsome
  | fails act component failure nowMs hact _ =>
    refine ⟨finalState_snoc before [] _,hfailing,?_,?_⟩
    · simp [attempt,recordRootFailure,hroot]
    · intro c
      have hfalse : (before.recordRootFailure failure
          nowMs).componentsAttemptedDuringRootFailure c=false := hnone c
      simp only [attempt_iff,hfalse,Bool.false_eq_true,or_false,List.mem_singleton,exists_eq_left,
        hact,Option.some.injEq]
      exact eq_comm
  | starts failure nowMs _ =>
    refine ⟨finalState_snoc before [] _,hfailing,?_,?_⟩
    · simp [recordRootFailure,hroot]
    · intro c
      simp [recordRootFailure,hnone,Act.component]
  | records component success f _ => exact absurd hroot hfailing

theorem InEpisode.next (h : InEpisode before seen s) (hmoves : Moves s p)
    (hfailing : p.state.rootFailure≠none) : InEpisode before (seen++[p]) p.state := by
  cases hmoves with
  | keeps act s' hsame _ hsaved hattempted _ hquiet =>
    refine ⟨finalState_snoc _ _ _,hfailing,hsaved.trans h.saved,?_⟩
    intro c
    rw [hattempted,h.attempted c,exists_snoc,hquiet.resolve_left h.failing]
    exact (or_iff_left nofun).symm
  | disabled component _ =>
    refine ⟨finalState_snoc _ _ _,hfailing,h.saved,?_⟩
    intro c
    rw [attempt_iff,exists_snoc,h.attempted c,or_comm]
    refine or_congr_right ?_
    rw [Act.component,Option.some.injEq]
    exact eq_comm
  | recovers component failure nowMs _ _ => exact absurd rfl hfailing
  | fails act component failure nowMs hact _ =>
    refine ⟨finalState_snoc _ _ _,hfailing,?_,?_⟩
    · simp [attempt,recordRootFailure,h.failing,h.saved]
    · intro c
      have hsame : (s.recordRootFailure failure nowMs).componentsAttemptedDuringRootFailure c=
          s.componentsAttemptedDuringRootFailure c := rfl
      rw [attempt_iff,exists_snoc,hsame,h.attempted c,or_comm]
      refine or_congr_right ?_
      rw [hact,Option.some.injEq]
      exact eq_comm
  | starts failure nowMs hroot => exact absurd hroot h.failing
  | records component success f hroot => exact absurd hroot h.failing

/-- What a verified root leaves of a failure: the records from before it, but those that were
tried meanwhile are degraded by the failure, and nobody is remembered. -/
structure Recovered (before : RuntimePersistenceCoordinator) (episode : List Point)
    (s : RuntimePersistenceCoordinator) : Prop where
  restored : ∀ c, (∀ p∈episode, p.act.component≠some c) → s.components c=before.components c
  degraded : ∀ c, (∃ p∈episode, p.act.component=some c) → ∃ failure nowMs,
    (finalState before episode).rootFailure=some failure ∧
    s.components c={ before.components c with
      state := .degraded
      durability := .sessionOnly
      activeFailure := some (runtimeFailure failure nowMs) }
  forgotten : ∀ c, s.componentsAttemptedDuringRootFailure c=false

theorem InEpisode.recovers (h : InEpisode before seen s) (hmoves : Moves s r)
    (hroot : r.state.rootFailure=none) : Recovered before seen r.state := by
  cases hmoves with
  | keeps act s' hsame _ _ _ _ _ => exact absurd (hsame.symm.trans hroot) h.failing
  | disabled component _ => exact absurd hroot h.failing
  | recovers component failure nowMs _ hsome =>
    refine ⟨?_,?_,fun _ => rfl⟩
    · intro c hnobody
      have hfalse : ¬s.componentsAttemptedDuringRootFailure c=true := by
        rw [h.attempted c]
        intro ⟨p,hp,hc⟩
        exact hnobody p hp hc
      simp [recoverRoot,h.saved,hfalse]
    · intro c htried
      refine ⟨failure,nowMs,by rw [h.last,hsome],?_⟩
      simp [recoverRoot,h.saved,(h.attempted c).mpr htried]
  | fails act component failure nowMs _ _ => cases hroot
  | starts failure nowMs _ => cases hroot
  | records component success f hnone => exact absurd hnone h.failing

/-- A failure that goes on, up to where the root is verified again. -/
theorem InEpisode.run (h : InEpisode before seen s) {episode z : List Point}
    (hfollows : Follows s (episode++r::z)) (hfailing : ∀ p∈episode, p.state.rootFailure≠none)
    (hroot : r.state.rootFailure=none) : Recovered before (seen++episode) r.state := by
  induction episode generalizing seen s with
  | nil =>
    rw [List.append_nil]
    exact h.recovers hfollows.1 hroot
  | cons p episode ih =>
    have hnext := h.next hfollows.1 (hfailing p List.mem_cons_self)
    have hrest := ih hnext hfollows.2 (fun q hq => hfailing q (List.mem_cons_of_mem _ hq))
    rwa [List.append_assoc,List.singleton_append] at hrest

/-- While the root does not fail, only its own outcomes change a record. -/
theorem components_kept {c : UserStorageComponent} {rest z : List Point}
    (hroot : s.rootFailure=none) (hfollows : Follows s (rest++z))
    (hquiet : ∀ p∈rest, p.state.rootFailure=none ∧
      ∀ success, p.act≠.outcome c success) :
    ∀ p∈rest, p.state.components c=s.components c := by
  induction rest generalizing s with
  | nil =>
    intro p hp
    cases hp
  | cons q rest ih =>
    obtain ⟨hmoves,hrest⟩ := hfollows
    obtain ⟨hnone,hact⟩ := hquiet q List.mem_cons_self
    have hown : q.state.components c=s.components c := by
      cases hmoves with
      | keeps act s' _ hcomponents _ _ _ _ => exact congrFun hcomponents c
      | disabled component _ => rfl
      | recovers component failure nowMs _ hsome =>
        rw [hroot] at hsome
        cases hsome
      | fails act component failure nowMs _ _ => cases hnone
      | starts failure nowMs _ => cases hnone
      | records component success f _ =>
        have hne : c≠component := fun heq => hact success (by rw [heq])
        simp [updateComponent,hne]
    have hlater := ih hnone hrest (fun p hp => hquiet p (List.mem_cons_of_mem _ hp))
    intro p hp
    cases List.mem_cons.mp hp with
    | inl hfirst =>
      rw [hfirst]
      exact hown
    | inr hin => exact (hlater p hin).trans hown

end Episode

/-- What the records of the components say in the course of a run, whatever becomes of the root. -/
structure RootTruth (points : List Point) : Prop where
  masked : ∀ p∈points, ∀ failure, p.state.rootFailure=some failure →
    ∀ component∈p.state.health.components, Masked failure component
  forgotten : ∀ p∈points, p.state.rootFailure=none →
    ∀ c, p.state.componentsAttemptedDuringRootFailure c=false
  recovered : ∀ a b episode r z, points=a++b::(episode++r::z) → episode≠[] →
    b.state.rootFailure=none → (∀ p∈episode, p.state.rootFailure≠none) →
    r.state.rootFailure=none → Recovered b.state episode r.state
  kept : ∀ a b rest z c, points=a++b::(rest++z) → b.state.rootFailure=none →
    (∀ p∈rest, p.state.rootFailure=none ∧ ∀ success, p.act≠.outcome c success) →
    ∀ p∈rest, p.state.components c=b.state.components c

section Life
variable {first : Point} {rest : List Point}

/-- Wherever a run is cut, what comes follows from what is kept. -/
theorem follows_at (h : Kept first.state) (hfollows : Follows first.state rest)
    {a tail : List Point} {b : Point} (hsplit : first::rest=a++b::tail) :
    Kept b.state ∧ Follows b.state tail := by
  cases a with
  | nil =>
    obtain ⟨rfl,rfl⟩ := List.cons.inj hsplit
    exact ⟨h,hfollows⟩
  | cons q a =>
    rw [List.cons_append] at hsplit
    obtain ⟨rfl,hrest⟩ := List.cons.inj hsplit
    rw [hrest,follows_append] at hfollows
    exact ⟨(h.final hfollows.1).moves hfollows.2.1,hfollows.2.2⟩

theorem rootTruth_of_follows (h : Kept first.state) (hfollows : Follows first.state rest) :
    RootTruth (first::rest) := by
  have hkept : ∀ p∈first::rest, Kept p.state := by
    intro p hp
    obtain ⟨a,tail,hsplit⟩ := List.append_of_mem hp
    exact (follows_at h hfollows hsplit).1
  refine ⟨?_,fun p hp => (hkept p hp).empty,?_,?_⟩
  · intro p hp failure hfailure component hcomponent
    rw [health,List.mem_mergeSort] at hcomponent
    obtain ⟨c,_,rfl⟩ := List.mem_map.mp hcomponent
    exact (hkept p hp).masked failure hfailure c
  · intro a b episode r z hsplit hne hbefore hfailing hroot
    obtain ⟨hb,htail⟩ := follows_at h hfollows hsplit
    cases episode with
    | nil => exact absurd rfl hne
    | cons p episode =>
      have hstart := inEpisode_start hb hbefore htail.1 (hfailing p List.mem_cons_self)
      exact hstart.run htail.2 (fun q hq => hfailing q (List.mem_cons_of_mem _ hq)) hroot
  · intro a b rest' z c hsplit hroot hquiet
    exact components_kept hroot (follows_at h hfollows hsplit).2 hquiet

end Life

/-- From however a coordinator comes to be, over every run of operations and whatever the root and
the components answer: a failing root masks every record; when it is verified again the records
from before the failure are back, those that were tried meanwhile are degraded by the failure and
stay so until an outcome of their own or the next failure, and no attempt is left over. -/
theorem root_failures_mask (start : Start) (calls : List (Nat × Call)) :
    RootTruth (life start calls) := by
  have hfresh : ∀ storage, Kept (fresh storage) := fun storage =>
    kept_of_verified rfl rfl (fun _ => rfl)
  cases start with
  | new storage prepared nowMs =>
    have hmoves : Moves (fresh storage)
        ⟨.quiet,RuntimePersistenceCoordinator.new storage prepared nowMs⟩ := by
      unfold RuntimePersistenceCoordinator.new
      cases storage.ensureRoot prepared with
      | error failure => exact @Moves.starts (fresh storage) failure nowMs rfl
      | ok u => exact @Moves.keeps (fresh storage) _ (fresh storage) rfl rfl rfl rfl rfl (.inr rfl)
    exact rootTruth_of_follows (hfresh storage)
      ⟨hmoves,follows_history ((hfresh storage).moves hmoves) calls⟩
  | unavailable storage failure nowMs =>
    have hkept : Kept (Start.unavailable storage failure nowMs).state :=
      kept_of_masked rfl (fun _ => ⟨.inr rfl,rfl,nowMs,rfl⟩)
    exact rootTruth_of_follows hkept (follows_history hkept calls)

/-- After a failure of the root, a component that was tried shows that failure until its own next
success. -/
def ShownUntilSuccess (points : List Point) : Prop := ∀ a b episode r rest z c failure,
  points=a++b::(episode++r::(rest++z)) → b.state.rootFailure=none →
  (∀ p∈episode, p.state.rootFailure≠none) → r.state.rootFailure=none →
  (∃ p∈episode, p.act.component=some c) → (finalState b.state episode).rootFailure=some failure →
  (∀ p∈rest, p.act≠.outcome c true) → ∀ p∈rest, Masked failure (p.state.components c)

/-- The warm cache is written; then it and the settings meet a root that is not private, and the
settings a full disk after that. -/
theorem own_failure_shown : ¬ShownUntilSuccess
    (life (.new { directory := "/batcave" } (.ok .verifiedCurrentUser) 0)
      [(1,.writeJson .warmCache ⟨.ok .verifiedCurrentUser,.ok (),.ok .verifiedCurrentUser⟩),
        (2,.writeJson .settings ⟨.ok .invalid,.ok (),.ok .verifiedCurrentUser⟩),
        (3,.writeJson .warmCache ⟨.ok .invalid,.ok (),.ok .verifiedCurrentUser⟩),
        (4,.writeJson .settings ⟨.ok .verifiedCurrentUser,
          .error ⟨.storageFull,.write,none,true,.notCommitted,"disk full"⟩,
          .ok .verifiedCurrentUser⟩)]) := by
  intro h
  have hshown := h [_,_,_] _ [_,_] _ [_] [] .settings _ rfl rfl
    (List.forall_mem_cons.mpr ⟨Option.some_ne_none _,
      List.forall_mem_singleton.mpr (Option.some_ne_none _)⟩) rfl
    ⟨_,List.mem_cons_self,rfl⟩ rfl (List.forall_mem_singleton.mpr (by decide)) _
    (List.mem_singleton_self _)
  obtain ⟨_,_,nowMs,hfailure⟩ := hshown
  have hcode : some "storage_full"=some "permission_denied" :=
    congrArg (Option.map RuntimePersistenceFailure.code) hfailure
  exact absurd hcode (by decide)

end BatCave.Persistence
