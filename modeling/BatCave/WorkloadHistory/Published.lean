import BatCave.WorkloadHistory.Steps

/-! Inspections of the published runtime. The worker advances the archive under its lock and
then swaps the snapshot; a reader holds the archive while it reads which snapshot is published. -/
namespace BatCave.WorkloadHistory
open BatCave.Lib.Word

variable {ν κ ρ : Type}

section Model

/-- What the store has beside the snapshot when it publishes. -/
structure Shown (ρ : Type) where
  liveProcessSnapshot : Bool
  previousProcesses : List ProcessSample
  fullViewRows : List (ProcessViewRow ρ)

/-- `publish_workload_archive`, with whether the archive took the publication in. -/
def publishWorkloadArchive [Zero ν] [Add ν] (L : Layout) (enc : Encoder ν κ ρ) (h : Heap ν κ)
    (snapshot : RuntimeSnapshot) (shown : Shown ρ) (a : WorkloadArchive ν κ) :
    Bool × WorkloadArchive ν κ :=
  if shown.liveProcessSnapshot && decide (a.sampleSeq < snapshot.sampleSeq) then
    match a.beginIngress L h shown.previousProcesses with
    | (.ok _,a) => (true,(a.observe L h enc snapshot shown.fullViewRows true).2.endIngress)
    | (.error _,a) => (false,a)
  else (true,(a.observe L h enc snapshot [] false).2)

/-- How far the worker is. -/
inductive Worker where
  /-- The store has a snapshot to publish. -/
  | staged
  | idle
  | archived (snapshot : RuntimeSnapshot) (admitted : Bool)
  /-- After a panic, with whether a publication was abandoned before its swap. -/
  | panicked (abandoned : Bool)
  | fatalArchived (snapshot : RuntimeSnapshot)
  | ended

structure Runtime (ν κ : Type) where
  published : RuntimeSnapshot
  archive : WorkloadArchive ν κ
  store : RuntimeSnapshot
  worker : Worker
  /-- Not in the source: the snapshot that the archive took in last. -/
  observed : Option RuntimeSnapshot
  /-- Not in the source: the archive refused the published snapshot. -/
  refused : Bool

/-- One call of `inspect_published_workload`; `moment` is the runtime when the published
snapshot was read. -/
inductive Reader (ν κ : Type) where
  | idle
  | waiting (id : String) (pointLimit : Nat)
  | holding (id : String) (pointLimit : Nat)
  | compared (id : String) (pointLimit : Nat) (moment : Runtime ν κ)
  | returned (moment : Runtime ν κ) (archive : WorkloadArchive ν κ)
      (result : Except String (WorkloadInspection ν κ))

structure Inspections (ν κ : Type) where
  runtime : Runtime ν κ
  readers : Nat → Reader ν κ
  /-- The reader that holds the lock of the archive. -/
  holder : Option Nat

inductive PublishEvent (ν κ ρ : Type) where
  | stage (snapshot : RuntimeSnapshot)
  | archive (h : Heap ν κ) (shown : Shown ρ)
  | swap
  | panic
  | fatalArchive (h : Heap ν κ) (occurredAtMs : Nat)
  | fatalSwap
  | begin (reader : Nat) (id : String) (pointLimit : Nat)
  | lock (reader : Nat)
  | read (reader : Nat)
  | answer (reader : Nat)
  | acknowledge (token : String)

/-- The snapshot of `publish_fatal_from_latest`. -/
def fatalSnapshot (current : RuntimeSnapshot) (occurredAtMs : Nat) : RuntimeSnapshot :=
  { current with
    publicationSeq := satAdd current.publicationSeq 1
    publishedAtMs := max occurredAtMs (current.sampledAtMs.getD 0) }

namespace Runtime

def start (snapshot : RuntimeSnapshot) : Runtime ν κ where
  published := snapshot
  archive := .withBudget historyBudgetBytes
  store := snapshot
  worker := .staged
  observed := none
  refused := false

/-- Every change of the store counts one more publication. -/
def stage (r : Runtime ν κ) (snapshot : RuntimeSnapshot) : Option (Runtime ν κ) :=
  match r.worker with
  | .staged | .idle => some { r with
      store := { snapshot with publicationSeq := satAdd r.store.publicationSeq 1 }
      worker := .staged }
  | _ => none

def swap (r : Runtime ν κ) : Option (Runtime ν κ) :=
  match r.worker with
  | .archived snapshot admitted => some { r with
      published := snapshot
      refused := !admitted
      worker := .idle }
  | _ => none

def panic (r : Runtime ν κ) : Option (Runtime ν κ) :=
  match r.worker with
  | .staged | .idle => some { r with worker := .panicked false }
  | .archived _ admitted => some { r with worker := .panicked admitted }
  | _ => none

def fatalSwap (r : Runtime ν κ) : Option (Runtime ν κ) :=
  match r.worker with
  | .fatalArchived snapshot => some { r with
      published := snapshot
      refused := false
      worker := .ended }
  | _ => none

variable [Zero ν] [Add ν] (L : Layout) (enc : Encoder ν κ ρ)

/-- The archive's half of `publish_store`. -/
def archiveStore (h : Heap ν κ) (shown : Shown ρ) (r : Runtime ν κ) : Option (Runtime ν κ) :=
  match r.worker with
  | .staged =>
    let (admitted,archive) := publishWorkloadArchive L enc h r.store shown r.archive
    some { r with
      archive := archive
      worker := .archived r.store admitted
      observed := if admitted then some r.store else r.observed }
  | _ => none

/-- The archive's half of `publish_fatal_from_latest`. -/
def archiveFatal (h : Heap ν κ) (occurredAtMs : Nat) (r : Runtime ν κ) : Option (Runtime ν κ) :=
  match r.worker with
  | .panicked _ =>
    let snapshot := fatalSnapshot r.published occurredAtMs
    some { r with
      archive := (r.archive.observe L h enc snapshot [] false).2
      worker := .fatalArchived snapshot
      observed := some snapshot }
  | _ => none

end Runtime

namespace Inspections

def start (snapshot : RuntimeSnapshot) : Inspections ν κ where
  runtime := .start snapshot
  readers := fun _ => .idle
  holder := none

def setReader (s : Inspections ν κ) (reader : Nat) (state : Reader ν κ) : Inspections ν κ :=
  { s with readers := Function.update s.readers reader state }

def setRuntime (s : Inspections ν κ) (runtime : Runtime ν κ) : Inspections ν κ :=
  { s with runtime := runtime }

/-- The answer of a reader that has the archive and knows what is published. -/
def answered (s : Inspections ν κ) (reader : Nat) (id : String) (pointLimit : Nat)
    (moment : Runtime ν κ) : Inspections ν κ :=
  let archive := s.runtime.archive
  let (result,archive') := archive.inspectPublished id pointLimit moment.published.publicationSeq
  { s with
    runtime := { s.runtime with archive := archive' }
    readers := Function.update s.readers reader (.returned moment archive result)
    holder := none }

variable [Zero ν] [Add ν] (L : Layout) (enc : Encoder ν κ ρ)

def step (s : Inspections ν κ) : PublishEvent ν κ ρ → Option (Inspections ν κ)
  | .stage snapshot => (s.runtime.stage snapshot).map s.setRuntime
  | .archive h shown =>
    if s.holder=none then (s.runtime.archiveStore L enc h shown).map s.setRuntime else none
  | .swap => s.runtime.swap.map s.setRuntime
  | .panic => s.runtime.panic.map s.setRuntime
  | .fatalArchive h occurredAtMs =>
    if s.holder=none then (s.runtime.archiveFatal L enc h occurredAtMs).map s.setRuntime else none
  | .fatalSwap => s.runtime.fatalSwap.map s.setRuntime
  | .begin reader id pointLimit =>
    match s.readers reader with
    | .idle | .returned _ _ _ => some (s.setReader reader (.waiting id pointLimit))
    | _ => none
  | .lock reader =>
    match s.readers reader with
    | .waiting id pointLimit =>
      if s.holder=none then
        some { s.setReader reader (.holding id pointLimit) with holder := some reader }
      else none
    | _ => none
  | .read reader =>
    match s.readers reader with
    | .holding id pointLimit => some (s.setReader reader (.compared id pointLimit s.runtime))
    | _ => none
  | .answer reader =>
    match s.readers reader with
    | .compared id pointLimit moment => some (s.answered reader id pointLimit moment)
    | _ => none
  | .acknowledge token =>
    if s.holder=none then
      some (s.setRuntime { s.runtime with archive := (s.runtime.archive.acknowledge token).2 })
    else none

/-- Every interleaving of the worker and the readers. -/
def run (s : Inspections ν κ) (events : List (PublishEvent ν κ ρ)) : Option (Inspections ν κ) :=
  events.foldlM (step L enc) s

end Inspections

/-- The archive took in a snapshot of which the swap is still to come. -/
def Runtime.Straddled (r : Runtime ν κ) : Prop :=
  (∃ snapshot, r.worker=.archived snapshot true) ∨ ∃ snapshot, r.worker=.fatalArchived snapshot

/-- What the archive took in last is the published snapshot, or it took nothing in yet and
that has no number. -/
def Runtime.Visible (r : Runtime ν κ) : Prop :=
  r.observed=some r.published ∨ (r.observed=none ∧ r.published.publicationSeq=0)

end Model
end BatCave.WorkloadHistory
