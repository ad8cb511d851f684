import BatCave.WorkloadHistory.Points
import BatCave.Lib.Text
import BatCave.Lib.Word
import Mathlib.Data.List.AList
import Mathlib.Data.List.Sort

/-! The workload archive as the runtime keeps it. Sizes are naturals: every saturating
sum of the source is only compared with a budget below the word size. Capacities and
the order of a hash map are whatever the heap of the operation says. -/
namespace BatCave.WorkloadHistory
open BatCave.Lib.Text BatCave.Lib.Word

def maxPoints : Nat := 360
def replyBudgetBytes : Nat := 8*1024*1024
def maxTombstones : Nat := 1024
def minTrimmedPoints : Nat := 30
def historyBudgetBytes : Nat := 64*1024*1024

structure Entry (ν : Type) where
  bundleId : Nat
  lastSampleSeq : Nat
  identityStability : ProcessIdentityStabilityV4
  history : List (WorkloadHistoryPoint ν)
  historyCapacity : Nat
  truncated : Bool

structure Bundle (ν κ : Type) where
  catalog : InspectionCatalog ν κ
  references : Nat
  bytes : Nat

/-- The id of a workload the archive let go, in a string of some capacity. -/
structure Tombstone where
  id : String
  capacity : Nat
  deriving DecidableEq, Repr

structure ResponseCredits where
  used : Nat
  nextId : Nat
  pending : AList (fun _ : Nat => Nat)

structure WorkloadArchive (ν κ : Type) where
  entries : AList (fun _ : String => Entry ν)
  entriesCapacity : Nat
  bundles : AList (fun _ : Nat => Bundle ν κ)
  bundlesCapacity : Nat
  evicted : List Tombstone
  evictedCapacity : Nat
  evictedBytes : Nat
  budget : Nat
  allocated : Nat
  nextBundle : Nat
  publicationSeq : Nat
  sampleSeq : Nat
  lastSampledAtMs : Option Nat
  failedSample : Bool
  ingressReserved : Nat
  replies : ResponseCredits
  /-- Not in the source: some `-=` had more to take than there was. -/
  underflow : Bool
  /-- Not in the source: the ids `evict_id` found an entry for, oldest first. -/
  released : List String

/-- `size_of` of the types whose slots are counted. -/
structure Layout where
  string : Nat
  entrySlot : Nat
  bundleSlot : Nat
  bundle : Nat
  point : Nat
  processSample : Nat
  processViewRow : Nat

/-- What the allocator and the hasher decide during one operation. Only the three
laws are relied on. -/
structure Heap (ν κ : Type) where
  /-- Iteration order of `entries`. -/
  entryOrder : WorkloadArchive ν κ → List String
  /-- Iteration order of a set of ids. -/
  idOrder : WorkloadArchive ν κ → List String → List String
  /-- Capacity of a formatted string. -/
  formatCapacity : String → Nat
  /-- Capacity of a hash map that had one and now holds so many. -/
  mapCapacity : WorkloadArchive ν κ → Nat → Nat → Nat
  /-- Capacity of a deque of a length and a capacity after a `push_back`. -/
  pushCapacity : Nat → Nat → Nat
  /-- The same after a `reserve_exact`. -/
  reserveCapacity : Nat → Nat → Nat → Nat
  /-- The same after a `shrink_to`. -/
  shrinkToCapacity : Nat → Nat → Nat → Nat
  /-- Capacity of a container of a length and a capacity after a `shrink_to_fit`. -/
  shrinkCapacity : Nat → Nat → Nat
  entryOrder_perm : ∀ a, (entryOrder a).Perm a.entries.keys
  idOrder_perm : ∀ a ids, (idOrder a ids).Perm ids
  shrinkCapacity_le : ∀ len capacity, shrinkCapacity len capacity ≤ capacity
  shrinkCapacity_empty : ∀ capacity, shrinkCapacity 0 capacity=0

/-- The encoder of one family and the sizes of what it encodes. It gives one workload
a row, under the row's own id. -/
structure Encoder (ν κ ρ : Type) where
  rowSizeBound : ProcessViewRow ρ → Except String Nat
  encodeWorkloads : List (ProcessViewRow ρ) → (sampleSeq sampledAtMs : Nat) → RuntimePlatform →
    (intervalMs : Nat) → Except String (List (WorkloadDetailV4 ν κ) × CatalogBuilder κ)
  catalogSizeBound : InspectionCatalog ν κ → Except String Nat
  catalogHeapBytes : InspectionCatalog ν κ → Nat
  encode_ids : ∀ {rows sampleSeq sampledAtMs platform intervalMs workloads catalog},
    encodeWorkloads rows sampleSeq sampledAtMs platform intervalMs=.ok (workloads,catalog) →
      workloads.map stableId=rows.map (rowId · sampleSeq)

structure RuntimeSnapshot where
  publicationSeq : Nat
  sampleSeq : Nat
  sampledAtMs : Option Nat
  publishedAtMs : Nat
  sampleIntervalMs : Nat
  platform : RuntimePlatform

/-- The texts of a process; `messages` are those of its quality notes. -/
structure ProcessSample where
  pid : String
  parentPid : Option String
  name : String
  exe : String
  status : String
  messages : List (Option String)

variable {ν κ ρ : Type}

def entryHeap (L : Layout) (id : String) (entry : Entry ν) : Nat :=
  id.utf8ByteSize+entry.historyCapacity*L.point

namespace WorkloadArchive

def withBudget (budget : Nat) : WorkloadArchive ν κ where
  entries := ∅
  entriesCapacity := 0
  bundles := ∅
  bundlesCapacity := 0
  evicted := []
  evictedCapacity := 0
  evictedBytes := 0
  budget := budget
  allocated := 0
  nextBundle := 0
  publicationSeq := 0
  sampleSeq := 0
  lastSampledAtMs := none
  failedSample := false
  ingressReserved := 0
  replies := ⟨0,0,∅⟩
  underflow := false
  released := []

/-- `allocated -= n`. -/
def subAllocated (a : WorkloadArchive ν κ) (n : Nat) : WorkloadArchive ν κ :=
  {a with
    allocated := a.allocated-n
    underflow := a.underflow || decide (a.allocated < n)}

def popEvicted (a : WorkloadArchive ν κ) : Option (Tombstone × WorkloadArchive ν κ) :=
  match a.evicted with
  | [] => none
  | t::rest => some (t,{a with evicted := rest, evictedBytes := a.evictedBytes-t.capacity})

def retainedBytes (L : Layout) (a : WorkloadArchive ν κ) : Nat :=
  a.allocated+a.entriesCapacity*(L.entrySlot+32)+a.bundlesCapacity*(L.bundleSlot+32)+
    a.evictedCapacity*L.string+a.evictedBytes

def replyReserve (a : WorkloadArchive ν κ) : Nat := min replyBudgetBytes (a.budget/8)

/-- What the archive may retain beside the replies and the ingress. -/
def target (a : WorkloadArchive ν κ) : Nat := a.budget-a.replyReserve-a.ingressReserved

section
variable (L : Layout) (h : Heap ν κ)

def releaseBundle (a : WorkloadArchive ν κ) (id : Nat) : WorkloadArchive ν κ :=
  match a.bundles.lookup id with
  | none => a
  | some bundle =>
    let a := {a with underflow := a.underflow || decide (bundle.references < 1)}
    if bundle.references-1=0 then
      let a := {a with
        bundles := a.bundles.erase id
        bundlesCapacity := h.mapCapacity a a.bundlesCapacity (a.bundles.erase id).keys.length}
      a.subAllocated bundle.bytes
    else {a with bundles := a.bundles.insert id {bundle with references := bundle.references-1}}

/-- Take an entry out of the map, with its own bytes and its share of a bundle. -/
def takeEntry (a : WorkloadArchive ν κ) (id : String) : Option (Entry ν × WorkloadArchive ν κ) :=
  match a.entries.lookup id with
  | none => none
  | some entry =>
    let a := {a with
      entries := a.entries.erase id
      entriesCapacity := h.mapCapacity a a.entriesCapacity (a.entries.erase id).keys.length}
    some (entry,releaseBundle h (a.subAllocated (entryHeap L id entry)) entry.bundleId)

def pushTombstone (a : WorkloadArchive ν κ) (t : Tombstone) : WorkloadArchive ν κ :=
  if a.evicted.any (·.id=t.id) then a
  else {a with
    evicted := a.evicted++[t]
    evictedCapacity := h.pushCapacity a.evicted.length a.evictedCapacity
    evictedBytes := a.evictedBytes+t.capacity}

def rememberEvicted (a : WorkloadArchive ν κ) (t : Tombstone) : WorkloadArchive ν κ :=
  let a := pushTombstone h a t
  if a.evicted.length>maxTombstones then (a.popEvicted).elim a (·.2) else a

def evictId (a : WorkloadArchive ν κ) (id : String) : WorkloadArchive ν κ :=
  match takeEntry L h a id with
  | none => a
  | some (_,a) => rememberEvicted h {a with released := a.released++[id]} ⟨id,id.utf8ByteSize⟩

/-- Evict in the order given while more than the target is retained. -/
def evictWhile (target : Nat) : List String → WorkloadArchive ν κ → WorkloadArchive ν κ
  | [],a => a
  | id::ids,a =>
    if a.retainedBytes L ≤ target then a else evictWhile target ids (evictId L h a id)

def staleKey (entry : Entry ν) : Bool × Nat :=
  (decide (entry.identityStability≠.publication),entry.lastSampleSeq)

/-- The order of `(bool, u64)` on the sort keys. -/
def staleBefore (x y : (Bool × Nat) × String) : Prop :=
  (x.1.1=false ∧ y.1.1=true) ∨ (x.1.1=y.1.1 ∧ x.1.2 ≤ y.1.2)

instance : DecidableRel staleBefore := fun x y =>
  inferInstanceAs (Decidable ((x.1.1=false ∧ y.1.1=true) ∨ (x.1.1=y.1.1 ∧ x.1.2 ≤ y.1.2)))

/-- Entries missing from the latest sample, stalest first, unknown starts before all. -/
def staleIds (a : WorkloadArchive ν κ) : List String :=
  let stale := (h.entryOrder a).filterMap (fun id =>
    (a.entries.lookup id).bind (fun entry =>
      if entry.lastSampleSeq < a.sampleSeq then some (staleKey entry,id) else none))
  (stale.insertionSort staleBefore).map (·.2)

def trimEntry (cap : Nat) (entry : Entry ν) : Entry ν :=
  {entry with
    history := entry.history.drop (entry.history.length-cap)
    historyCapacity := h.shrinkToCapacity cap entry.historyCapacity (cap+cap/8+1)
    truncated := true}

def trimOne (cap : Nat) (a : WorkloadArchive ν κ) (id : String) : WorkloadArchive ν κ :=
  match a.entries.lookup id with
  | none => a
  | some entry =>
    if entry.history.length ≤ cap then a
    else
      let trimmed := trimEntry h cap entry
      let a := a.subAllocated (entryHeap L id entry)
      {a with
        allocated := a.allocated+entryHeap L id trimmed
        entries := a.entries.insert id trimmed}

def trimHistories (cap : Nat) (a : WorkloadArchive ν κ) : WorkloadArchive ν κ :=
  (h.entryOrder a).foldl (trimOne L h cap) a

def longestHistory (a : WorkloadArchive ν κ) : Nat :=
  (a.entries.entries.map (fun e => e.2.history.length)).foldr max 0

def nextCap (cap : Nat) : Nat := max (cap-max (cap/32) 1) minTrimmedPoints

/-- Trim to a shrinking cap. The cap falls with every turn, so it bounds them. -/
def trimWhile (target : Nat) : (turns : Nat) → (cap : Nat) → WorkloadArchive ν κ →
    WorkloadArchive ν κ
  | 0,_,a => a
  | turns+1,cap,a =>
    if a.retainedBytes L>target ∧ cap>minTrimmedPoints then
      trimWhile target turns (nextCap cap) (trimHistories L h (nextCap cap) a)
    else a

def liveBefore (x y : Nat × String) : Prop := x.1 < y.1 ∨ (x.1=y.1 ∧ x.2 ≤ y.2)

instance : DecidableRel liveBefore := fun x y =>
  inferInstanceAs (Decidable (x.1 < y.1 ∨ (x.1=y.1 ∧ x.2 ≤ y.2)))

/-- All entries, longest history first. -/
def liveIds (a : WorkloadArchive ν κ) : List String :=
  let live := (h.entryOrder a).filterMap (fun id =>
    (a.entries.lookup id).map (fun entry => (u64Max-entry.history.length,id)))
  (live.insertionSort liveBefore).map (·.2)

def popWhile (target : Nat) : (turns : Nat) → WorkloadArchive ν κ → WorkloadArchive ν κ
  | 0,a => a
  | turns+1,a =>
    if a.retainedBytes L>target then
      match a.popEvicted with
      | none => a
      | some (_,a) => popWhile target turns a
    else a

/-- A container used to less than a quarter gives its spare capacity back. -/
def shrunk (len capacity : Nat) : Nat :=
  if len*4 < capacity then h.shrinkCapacity len capacity else capacity

def shrinkContainers (a : WorkloadArchive ν κ) : WorkloadArchive ν κ :=
  {a with
    entriesCapacity := shrunk h a.entries.keys.length a.entriesCapacity
    bundlesCapacity := shrunk h a.bundles.keys.length a.bundlesCapacity
    evictedCapacity := shrunk h a.evicted.length a.evictedCapacity}

/-- Phase 1: workloads missing from the latest sample go first. -/
def evictStale (target : Nat) (a : WorkloadArchive ν κ) : WorkloadArchive ν κ :=
  evictWhile L h target (staleIds h a) a

/-- Phase 2: long histories are trimmed to a shared cap. -/
def trimLong (target : Nat) (a : WorkloadArchive ν κ) : WorkloadArchive ν κ :=
  trimWhile L h target a.longestHistory a.longestHistory a

/-- Phase 3: a live workload goes, longest history first. -/
def evictLive (target : Nat) (a : WorkloadArchive ν κ) : WorkloadArchive ν κ :=
  evictWhile L h target (liveIds h a) a

def popTombstones (target : Nat) (a : WorkloadArchive ν κ) : WorkloadArchive ν κ :=
  popWhile L target a.evicted.length a

def enforceBudget (a : WorkloadArchive ν κ) : WorkloadArchive ν κ :=
  let target := a.target
  if a.retainedBytes L ≤ target then a
  else
    let a := evictStale L h target a
    let a := trimLong L h target a
    let a := evictLive L h target a
    let a := popTombstones L target a
    shrinkContainers h a

end

end WorkloadArchive

end BatCave.WorkloadHistory
