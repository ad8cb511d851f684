import BatCave.Persistence.Coordinator

/-! The background writer: callers queue jobs under a lock, one thread runs them on the
coordinator. Taking, running and losing a job are steps of their own, and the health a
caller reads lays the queue over the health the writer last left. -/
namespace BatCave.Persistence
open BatCave.Contracts BatCave.Lib.Text BatCave.Lib.Word

inductive JobOperation where
  | write (component : UserStorageComponent)
  | remove (component : UserStorageComponent)
  | recordDiagnostic
  | retryDiagnostics
  /-- The removal of an earlier helper's files, with the time it was asked for. -/
  | migration (nowMs : Nat)
  deriving DecidableEq, Repr

structure Job where
  generation : Nat
  atMs : Nat
  component : Option UserStorageComponent
  coalescible : Bool
  operation : JobOperation
  deriving DecidableEq, Repr

/-- The time that a job hands on to the coordinator. -/
def Job.nowMs (job : Job) : Nat :=
  match job.operation with
  | .migration nowMs => nowMs
  | _ => job.atMs

/-- The public operations that queue a job. -/
inductive Request where
  | writeJson (component : UserStorageComponent)
  | remove (component : UserStorageComponent)
  | recordDiagnostic
  | retryDiagnostics
  | migration
  deriving DecidableEq, Repr

/-- The job of an operation; only the cache's writes coalesce. -/
def Request.job (nowMs : Nat) : Request → Job
  | .writeJson component => ⟨0,nowMs,some component,component==.warmCache,.write component⟩
  | .remove component => ⟨0,nowMs,some component,false,.remove component⟩
  | .recordDiagnostic => ⟨0,nowMs,some .diagnostics,false,.recordDiagnostic⟩
  | .retryDiagnostics => ⟨0,0,none,false,.retryDiagnostics⟩
  | .migration => ⟨0,0,none,false,.migration nowMs⟩

structure Queue where
  generation : Nat := 0
  rejected : UserStorageComponent → Option (Nat × Nat × PersistenceFailure) := fun _ => none
  failedWrites : UserStorageComponent → Bool := fun _ => false
  jobs : List Job := []
  active : Option (Option UserStorageComponent) := none
  health : RuntimePersistence
  closed : Bool := false
  completed : Bool := false

def queueCapacity : Nat := 32

def queueFailure (summary : String) : PersistenceFailure where
  code := .ioFailure
  operation := .write
  path := none
  retryable := true
  writeEffect := .notCommitted
  summary := summary

def matchesKind : Option UserStorageComponent → RuntimePersistenceKind → Bool
  | some .settings,.settings => true
  | some .warmCache,.warmCache => true
  | some .diagnostics,.diagnostics => true
  | _,_ => false

/-- `iter_mut().find(..)` and the assignment to what it finds. -/
def modifyFirst {α : Type} (p : α → Bool) (f : α → α) : List α → List α
  | [] => []
  | a::as => if p a then f a::as else a::modifyFirst p f as

namespace Queue

/-- A component that a queued or running job writes is not durable yet. -/
def overlayPending (queue : Queue) (component : RuntimePersistenceComponent) :
    RuntimePersistenceComponent :=
  if queue.jobs.any (fun job => matchesKind job.component component.kind) ||
      queue.active.any (fun active => matchesKind active component.kind) then
    { component with durability := .sessionOnly }
  else component

/-- A rejected job leaves its component degraded. -/
def overlayRejected (queue : Queue) (components : List RuntimePersistenceComponent)
    (kind : UserStorageComponent) : List RuntimePersistenceComponent :=
  match queue.rejected kind with
  | none => components
  | some (_,failedAtMs,failure) =>
    modifyFirst (fun component => matchesKind (some kind) component.kind)
      (fun component => { component with
        state := .degraded
        durability := .sessionOnly
        activeFailure := some (runtimeFailure failure failedAtMs) }) components

def hasRejected (queue : Queue) : Bool :=
  [UserStorageComponent.settings,.warmCache,.diagnostics].any
    (fun kind => (queue.rejected kind).isSome)

/-- `BackgroundPersistence::health` once the writer runs. -/
def overlaidHealth (queue : Queue) : RuntimePersistence :=
  let pending := queue.health.components.map queue.overlayPending
  { queue.health with
    components := [UserStorageComponent.settings,.warmCache,.diagnostics].foldl
      queue.overlayRejected pending
    state := if queue.hasRejected ∧ queue.health.state=.healthy then .degraded
      else queue.health.state }

def reject (queue : Queue) (component : UserStorageComponent) (generation atMs : Nat)
    (failure : PersistenceFailure) : Queue :=
  { queue with rejected := fun c =>
      if c=component then some (generation,atMs,failure) else queue.rejected c }

def rejectJob (queue : Queue) (job : Job) (failure : PersistenceFailure) : Queue :=
  match job.component with
  | some component => queue.reject component job.generation job.atMs failure
  | none => queue

/-- Only disposable cache writes coalesce; the replacement moves to the tail. -/
def coalesce (queue : Queue) (job : Job) : Queue :=
  if job.coalescible then
    { queue with jobs := queue.jobs.filter (fun pending => !pending.coalescible) }
  else queue

def enqueue (queue : Queue) (job : Job) : Option PersistenceFailure × Queue :=
  if queueCapacity ≤ queue.jobs.length then
    (some (queueFailure "writer queue full"),
      queue.rejectJob job (queueFailure "writer queue full"))
  else (none,{ queue with jobs := queue.jobs++[job] })

/-- `submit` while a writer runs: a job refused is recorded against its component. -/
def submit (queue : Queue) (job : Job) : Option PersistenceFailure × Queue :=
  let queue := { queue with generation := satAdd queue.generation 1 }
  let job := { job with generation := queue.generation }
  if queue.closed then
    (some (queueFailure "writer closed"),queue.rejectJob job (queueFailure "writer closed"))
  else (queue.coalesce job).enqueue job

/-- The component is healthy in the health last published. -/
def isHealthy (queue : Queue) (component : UserStorageComponent) : Bool :=
  queue.health.components.any
    (fun state => matchesKind (some component) state.kind && state.state==.healthy)

/-- The writer's second lock section after a job that returned. -/
def finishJob (queue : Queue) (job : Job) (health : RuntimePersistence) : Queue :=
  let queue := { queue with health := health, active := none }
  match job.component with
  | none => queue
  | some component =>
    let queue := { queue with failedWrites := fun c =>
      if c=component then !queue.isHealthy component else queue.failedWrites c }
    if (queue.rejected component).any (fun rejected => rejected.1 < job.generation) ∧
        queue.isHealthy component then
      { queue with rejected := fun c => if c=component then none else queue.rejected c }
    else queue

/-- The writer's second lock section after a job that panicked. -/
def panicJob (queue : Queue) (job : Job) (health : RuntimePersistence) : Queue :=
  { queue with
    health := health
    active := none
    closed := true
    completed := true
    rejected := fun _ => some (queue.generation,job.atMs,queueFailure "writer panicked")
    jobs := [] }

end Queue

/-- One call of a coordinator operation, with what the backend answers. -/
inductive Call where
  | loadJson (component : UserStorageComponent) (answers : Answers Bool)
  | loadJsonMigrating (component : UserStorageComponent) (answers : Answers Bool)
  | writeJson (component : UserStorageComponent) (answers : Answers Unit)
  | remove (component : UserStorageComponent) (answers : Answers Bool)
  | recordDiagnostic (answers : Answers Unit)
  | retryDiagnostics
  | verifyCurrentUserRoot (prepared : Except PersistenceFailure PermissionVerification)

def Call.run (call : Call) (nowMs : Nat) (s : RuntimePersistenceCoordinator) :
    RuntimePersistenceCoordinator :=
  match call with
  | .loadJson component answers => (s.loadJson component nowMs answers).2
  | .loadJsonMigrating component answers => (s.loadJsonMigrating component nowMs answers).2
  | .writeJson component answers => (s.writeJson component nowMs answers).2
  | .remove component answers => (s.remove component nowMs answers).2
  | .recordDiagnostic answers => (s.recordDiagnostic nowMs answers).2
  | .retryDiagnostics => s.retryDiagnostics
  | .verifyCurrentUserRoot prepared => (s.revalidateRoot .settings nowMs prepared).2

/-- A call that panics in the backend has at most checked the root. -/
def Call.interrupted (call : Call) (nowMs : Nat) (s : RuntimePersistenceCoordinator) :
    RuntimePersistenceCoordinator :=
  match call with
  | .loadJson component answers => (s.revalidateRoot component nowMs answers.root).2
  | .loadJsonMigrating component answers => (s.revalidateRoot component nowMs answers.root).2
  | .writeJson component answers => (s.revalidateRoot component nowMs answers.root).2
  | .remove component answers => (s.revalidateRoot component nowMs answers.root).2
  | .recordDiagnostic answers => (s.revalidateRoot .diagnostics nowMs answers.root).2
  | .retryDiagnostics => s
  | .verifyCurrentUserRoot prepared => (s.revalidateRoot .settings nowMs prepared).2

/-- The calls that a job makes: saved settings are followed by a diagnostic, a migration
checks the root unless it has nothing to do. -/
inductive Makes (nowMs : Nat) (s : RuntimePersistenceCoordinator) :
    JobOperation → List Call → Prop where
  | write (component : UserStorageComponent) (answers : Answers Unit) :
      component≠.settings ∨ (s.writeJson component nowMs answers).1.isOk=false →
      Makes nowMs s (.write component) [.writeJson component answers]
  | settings (answers diagnostic : Answers Unit) :
      (s.writeJson .settings nowMs answers).1.isOk=true →
      Makes nowMs s (.write .settings)
        [.writeJson .settings answers,.retryDiagnostics,.recordDiagnostic diagnostic]
  | remove (component : UserStorageComponent) (answers : Answers Bool) :
      Makes nowMs s (.remove component) [.remove component answers]
  | recordDiagnostic (answers : Answers Unit) :
      Makes nowMs s .recordDiagnostic [.recordDiagnostic answers]
  | retryDiagnostics : Makes nowMs s .retryDiagnostics [.retryDiagnostics]
  | nothingToMigrate (askedAtMs : Nat) : Makes nowMs s (.migration askedAtMs) []
  | migration (askedAtMs : Nat) (prepared : Except PersistenceFailure PermissionVerification) :
      Makes nowMs s (.migration askedAtMs) [.verifyCurrentUserRoot prepared]

/-- The coordinator is used inline until the writer starts; then the writer's thread owns
it, with the job it is running. -/
inductive BackgroundPersistence where
  | inline (coordinator : RuntimePersistenceCoordinator)
  | background (coordinator : RuntimePersistenceCoordinator) (running : Option Job)
      (queue : Queue)

/-- `BackgroundPersistence::health` -/
def BackgroundPersistence.health : BackgroundPersistence → RuntimePersistence
  | .inline coordinator => coordinator.health
  | .background _ _ queue => queue.overlaidHealth

structure State where
  clock : Nat
  persistence : BackgroundPersistence

section Steps
-- What is known of every call at the state it meets.
variable (Allowed : RuntimePersistenceCoordinator → Call → Prop)

/-- The calls run one after the other, each allowed where it starts. -/
inductive Runs (nowMs : Nat) : RuntimePersistenceCoordinator → List Call →
    RuntimePersistenceCoordinator → Prop where
  | nil (s : RuntimePersistenceCoordinator) : Runs nowMs s [] s
  | cons (s s' : RuntimePersistenceCoordinator) (call : Call) (calls : List Call) :
      Allowed s call → Runs nowMs (call.run nowMs s) calls s' → Runs nowMs s (call::calls) s'

inductive Step : State → State → Prop where
  | tick (s : State) (clock : Nat) : s.clock ≤ clock → Step s { s with clock := clock }
  | call (clock : Nat) (c : RuntimePersistenceCoordinator) (call : Call) : Allowed c call →
      Step ⟨clock,.inline c⟩ ⟨clock,.inline (call.run clock c)⟩
  | start (clock : Nat) (c : RuntimePersistenceCoordinator) :
      Step ⟨clock,.inline c⟩ ⟨clock,.background c none { health := c.health }⟩
  /-- The caller reads the clock before it gets the lock. -/
  | submit (clock : Nat) (c : RuntimePersistenceCoordinator) (running : Option Job)
      (queue : Queue) (request : Request) (nowMs : Nat) : nowMs ≤ clock →
      Step ⟨clock,.background c running queue⟩
        ⟨clock,.background c running (queue.submit (request.job nowMs)).2⟩
  | take (clock : Nat) (c : RuntimePersistenceCoordinator) (queue : Queue) (job : Job)
      (jobs : List Job) : queue.jobs=job::jobs → queue.completed=false →
      Step ⟨clock,.background c none queue⟩
        ⟨clock,.background c (some job) { queue with jobs := jobs, active := some job.component }⟩
  | finish (clock : Nat) (c c' : RuntimePersistenceCoordinator) (queue : Queue) (job : Job)
      (calls : List Call) : Makes job.nowMs c job.operation calls →
      Runs Allowed job.nowMs c calls c' →
      Step ⟨clock,.background c (some job) queue⟩
        ⟨clock,.background c' none (queue.finishJob job c'.health)⟩
  /-- The job panics in one of its calls. -/
  | panic (clock : Nat) (c c' : RuntimePersistenceCoordinator) (queue : Queue) (job : Job)
      (done : List Call) (call : Call) (rest : List Call) :
      Makes job.nowMs c job.operation (done++call::rest) → Runs Allowed job.nowMs c done c' →
      Allowed c' call →
      Step ⟨clock,.background c (some job) queue⟩
        ⟨clock,.background (call.interrupted job.nowMs c') none
          (queue.panicJob job (call.interrupted job.nowMs c').health)⟩
  | drained (clock : Nat) (c : RuntimePersistenceCoordinator) (queue : Queue) :
      queue.jobs=[] → queue.closed=true →
      Step ⟨clock,.background c none queue⟩
        ⟨clock,.background c none { queue with completed := true }⟩
  | close (clock : Nat) (c : RuntimePersistenceCoordinator) (running : Option Job)
      (queue : Queue) :
      Step ⟨clock,.background c running queue⟩
        ⟨clock,.background c running { queue with closed := true }⟩

/-- A failure with something to say. -/
def Spoken (failure : PersistenceFailure) : Prop := trim failure.summary≠""

/-- What the backend answers of the root has something to say when it fails. -/
def SpokenAnswer {α : Type} : Except PersistenceFailure α → Prop
  | .error failure => Spoken failure
  | .ok _ => True

inductive Reachable : State → Prop where
  | new (directory : String) (prepared : Except PersistenceFailure PermissionVerification)
      (clock : Nat) : trim directory≠"" → SpokenAnswer prepared →
      Reachable ⟨clock,.inline (.new { directory := directory } prepared clock)⟩
  | unavailable (directory : String) (failure : PersistenceFailure) (clock : Nat) :
      Spoken failure →
      Reachable ⟨clock,.inline (.unavailable { directory := directory } failure clock)⟩
  | step {s s' : State} : Reachable s → Step Allowed s s' → Reachable s'

end Steps
end BatCave.Persistence
