import BatCave.WorkloadHistory.Archive

/-! The archive's public operations and their runs. A failing `observe` keeps what
its earlier families left, as the source's `?` does. -/
namespace BatCave.WorkloadHistory
open BatCave.Lib.Text BatCave.Lib.Word

variable {ν κ ρ : Type}

/-- `CatalogBuilder::new`. -/
def checkSampleInterval (intervalMs : Nat) : Except String Unit :=
  if intervalMs=0 then .error "protocol_sample_interval_zero" else .ok ()

namespace ProcessSample

def optionLength (text : Option String) : Nat := text.elim 0 (·.utf8ByteSize)

def label (process : ProcessSample) : Nat :=
  process.name.utf8ByteSize+process.exe.utf8ByteSize

end ProcessSample

open ProcessSample in
def processTextBytes (process : ProcessSample) : Nat :=
  process.pid.utf8ByteSize+optionLength process.parentPid+process.name.utf8ByteSize+
    process.exe.utf8ByteSize+process.status.utf8ByteSize+(process.messages.map optionLength).sum

inductive InspectionStatus where
  | current | exited | evicted | unknown
  deriving DecidableEq, Repr

def runtimeProtocolVersion : Nat := 4

structure WorkloadInspection (ν κ : Type) where
  responseToken : String
  inspectionVersion : Nat
  runtimeProtocolVersion : Nat
  stableId : String
  publicationSeq : Nat
  sampleSeq : Nat
  status : InspectionStatus
  catalog : Option (InspectionCatalog ν κ)
  retainedPoints : Nat
  historyTruncated : Bool
  history : List (WorkloadHistoryPoint ν)

def responseToken (id : Nat) : String := s!"inspection:{id}"

def ResponseCredits.reserve (pool : ResponseCredits) (bytes budget : Nat) :
    Except String (String × ResponseCredits) :=
  if pool.used+bytes>budget then .error "workload_inspection_reply_budget_exceeded"
  else
    match checkedAdd pool.nextId 1 with
    | none => .error "workload_inspection_response_tokens_exhausted"
    | some id =>
      .ok (responseToken id,⟨pool.used+bytes,id,pool.pending.insert id bytes⟩)

/-- The id of a token in its canonical form. -/
def parseToken (token : String) : Option Nat :=
  ((List.isPrefixOf? "inspection:".toList token.toList).bind
    (fun id => parseU64 (String.ofList id))).filter (fun id => responseToken id=token)

namespace WorkloadArchive
variable (L : Layout) (h : Heap ν κ)

/-- `pop_front` at the limit, bounded growth, then `push_back`. -/
def pushPoint (entry : Entry ν) (point : WorkloadHistoryPoint ν) : Entry ν :=
  let full := entry.history.length=maxPoints
  let history := if full then entry.history.drop 1 else entry.history
  let capacity :=
    if history.length=entry.historyCapacity ∧ entry.historyCapacity*2>maxPoints then
      h.reserveCapacity history.length entry.historyCapacity (maxPoints-history.length)
    else entry.historyCapacity
  {entry with
    history := history++[point]
    historyCapacity := h.pushCapacity history.length capacity
    truncated := entry.truncated || decide full}

/-- An id that has an entry again is no tombstone any more. -/
def forgetTombstone (a : WorkloadArchive ν κ) (id : String) : WorkloadArchive ν κ :=
  match a.evicted.find? (·.id=id) with
  | none => a
  | some t =>
    {a with
      evicted := a.evicted.eraseP (·.id=id)
      evictedBytes := a.evictedBytes-t.capacity}

/-- The entry a new point goes to, the point as it is stored, and the archive without
the entry. -/
def openEntry (bundleId : Nat) (id : String) (stability : ProcessIdentityStabilityV4)
    (point : WorkloadHistoryPoint ν) (a : WorkloadArchive ν κ) :
    Entry ν × WorkloadHistoryPoint ν × WorkloadArchive ν κ :=
  match takeEntry L h a id with
  | some (previous,a) =>
    ({previous with
        bundleId := bundleId
        lastSampleSeq := point.sampleSeq
        identityStability := stability},
      {point with gapBefore := gapAfter previous.history.getLast? point},a)
  | none =>
    (⟨bundleId,point.sampleSeq,stability,[],0,a.evicted.any (·.id=id)⟩,point,a)

/-- Account an entry and put it into the map. -/
def putEntry (a : WorkloadArchive ν κ) (id : String) (entry : Entry ν) : WorkloadArchive ν κ :=
  {a with
    allocated := a.allocated+entryHeap L id entry
    entries := a.entries.insert id entry
    entriesCapacity := h.mapCapacity a a.entriesCapacity (a.entries.insert id entry).keys.length}

def recordPoint (bundleId : Nat) (a : WorkloadArchive ν κ)
    (p : String × ProcessIdentityStabilityV4 × WorkloadHistoryPoint ν) : WorkloadArchive ν κ :=
  let (id,stability,point) := p
  let (entry,point,a) := openEntry L h bundleId id stability point a
  forgetTombstone (putEntry L h a id (pushPoint h entry point)) id

/-- Drop a workload too large to keep and remember that it was. -/
def reject (a : WorkloadArchive ν κ) (t : Tombstone) : WorkloadArchive ν κ :=
  rememberEvicted h (evictId L h a t.id) t

def rowTombstone (sampleSeq : Nat) (row : ProcessViewRow ρ) : Tombstone :=
  match row with
  | .group .. => ⟨rowId row sampleSeq,(rowId row sampleSeq).utf8ByteSize⟩
  | .process .. => ⟨rowId row sampleSeq,h.formatCapacity (rowId row sampleSeq)⟩

/-- A new bundle, owed to as many entries as it has workloads. -/
def openBundle (a : WorkloadArchive ν κ) (catalog : InspectionCatalog ν κ) (bytes : Nat) :
    WorkloadArchive ν κ :=
  let bundles := a.bundles.insert (a.nextBundle+1) ⟨catalog,catalog.workloads.length,bytes⟩
  {a with
    nextBundle := a.nextBundle+1
    allocated := a.allocated+bytes
    bundles := bundles
    bundlesCapacity := h.mapCapacity a a.bundlesCapacity bundles.keys.length}

variable [Zero ν] [Add ν]

def familyPoints (catalog : InspectionCatalog ν κ) (intervalMs : Nat) :
    List (String × ProcessIdentityStabilityV4 × WorkloadHistoryPoint ν) :=
  catalog.workloads.map (fun row =>
    (stableId row,identityStability row,historyPoint row catalog intervalMs))

def familyCatalog (workloads : List (WorkloadDetailV4 ν κ)) (source : CatalogBuilder κ)
    (snapshot : RuntimeSnapshot) (sampledAtMs : Nat) : InspectionCatalog ν κ where
  sampleSeq := snapshot.sampleSeq
  sampledAtMs := sampledAtMs
  publishedAtMs := snapshot.publishedAtMs
  descriptors := source.descriptors
  qualityCodes := qualityCodes
  limitations := source.limitations
  workloads := workloads.map (clearForeignParent (workloads.map stableId))

variable (enc : Encoder ν κ ρ)

def bundleBytes (catalog : InspectionCatalog ν κ) : Except String Nat :=
  (enc.catalogSizeBound catalog).map (fun bound =>
    max bound (enc.catalogHeapBytes catalog)*4+(L.bundle+512))

/-- `insert_family` up to its pass over the budget. -/
def recordFamily (workloads : List (WorkloadDetailV4 ν κ)) (source : CatalogBuilder κ)
    (snapshot : RuntimeSnapshot) (sampledAtMs : Nat) (a : WorkloadArchive ν κ) :
    Except String (WorkloadArchive ν κ) :=
  let catalog := familyCatalog workloads source snapshot sampledAtMs
  match bundleBytes L enc catalog with
  | .error e => .error e
  | .ok bytes =>
    if bytes>a.budget/8 then
      let ids := h.idOrder a (workloads.map stableId).dedup
      .ok ((ids.map (fun id => ⟨id,id.utf8ByteSize⟩)).foldl (reject L h) a)
    else
      .ok ((familyPoints catalog snapshot.sampleIntervalMs).foldl
        (recordPoint L h (a.nextBundle+1)) (openBundle h a catalog bytes))

/-- The size of a family's rows, summed in order. -/
def familySizeBound (family : List (ProcessViewRow ρ)) : Except String Nat :=
  family.foldlM (fun bytes row => (enc.rowSizeBound row).map (bytes+·)) 0

/-- What a row that opens a family does up to the pass over the budget. -/
def recordRow (snapshot : RuntimeSnapshot) (sampledAtMs : Nat) (rows : List (ProcessViewRow ρ))
    (row : ProcessViewRow ρ) (a : WorkloadArchive ν κ) : Except String (WorkloadArchive ν κ) := do
  let family := row.family rows
  checkSampleInterval snapshot.sampleIntervalMs
  let bytes ← familySizeBound enc family
  if bytes*4>a.budget/8 then
    return (family.map (rowTombstone h snapshot.sampleSeq)).foldl (reject L h) a
  else
    let (workloads,source) ← enc.encodeWorkloads family snapshot.sampleSeq sampledAtMs
      snapshot.platform snapshot.sampleIntervalMs
    recordFamily L h enc workloads source snapshot sampledAtMs a

def observeRow (snapshot : RuntimeSnapshot) (sampledAtMs : Nat) (rows : List (ProcessViewRow ρ))
    (row : ProcessViewRow ρ) (a : WorkloadArchive ν κ) : Except String Unit × WorkloadArchive ν κ :=
  if row.isGroupedProcess then (.ok (),a)
  else
    match recordRow L h enc snapshot sampledAtMs rows row a with
    | .error e => (.error e,a)
    | .ok a => (.ok (),enforceBudget L h a)

def observeRows (snapshot : RuntimeSnapshot) (sampledAtMs : Nat) (rows : List (ProcessViewRow ρ)) :
    List (ProcessViewRow ρ) → WorkloadArchive ν κ → Except String Unit × WorkloadArchive ν κ
  | [],a => (.ok (),enforceBudget L h a)
  | row::rest,a =>
    match observeRow L h enc snapshot sampledAtMs rows row a with
    | (.error e,a) => (.error e,a)
    | (.ok _,a) => observeRows snapshot sampledAtMs rows rest a

def observeInner (snapshot : RuntimeSnapshot) (rows : List (ProcessViewRow ρ)) (live : Bool)
    (a : WorkloadArchive ν κ) : Except String Unit × WorkloadArchive ν κ :=
  let a := {a with publicationSeq := snapshot.publicationSeq}
  match snapshot.sampledAtMs with
  | none => (.ok (),a)
  | some sampledAtMs =>
    if live=false ∨ snapshot.sampleSeq ≤ a.sampleSeq then (.ok (),a)
    else if a.lastSampledAtMs.any (fun last => sampledAtMs < last) then
      (.error "workload_inspection_clock_regressed",a)
    else
      observeRows L h enc snapshot sampledAtMs rows rows
        {a with
          lastSampledAtMs := some sampledAtMs
          sampleSeq := snapshot.sampleSeq}

def observe (snapshot : RuntimeSnapshot) (rows : List (ProcessViewRow ρ)) (live : Bool)
    (a : WorkloadArchive ν κ) : Except String Unit × WorkloadArchive ν κ :=
  let newSample := live && snapshot.sampledAtMs.isSome && decide (snapshot.sampleSeq>a.sampleSeq)
  let a := if newSample then {a with failedSample := true} else a
  let (result,a) := observeInner L h enc snapshot rows live a
  if newSample && result.toBool then (result,{a with failedSample := false}) else (result,a)

omit [Zero ν] [Add ν]

def beginIngress (processes : List ProcessSample) (a : WorkloadArchive ν κ) :
    Except String Unit × WorkloadArchive ν κ :=
  let maxLabel := (processes.map (·.label)).foldr max 0
  let fixed := processes.length*
    (L.processSample*4+L.processViewRow*4+4096+maxLabel*8)
  let strings := (processes.map processTextBytes).sum*8
  let required := fixed+strings+a.budget/8
  if required>a.budget-a.replyReserve then
    (.error "workload_inspection_ingress_budget_exceeded",{a with failedSample := true})
  else (.ok (),enforceBudget L h {a with ingressReserved := required})

def endIngress (a : WorkloadArchive ν κ) : WorkloadArchive ν κ := {a with ingressReserved := 0}

def acknowledge (token : String) (a : WorkloadArchive ν κ) :
    Except String Unit × WorkloadArchive ν κ :=
  match parseToken token with
  | none => (.error "workload_inspection_response_token_invalid",a)
  | some id =>
    match a.replies.pending.lookup id with
    | none => (.ok (),a)
    | some bytes =>
      (.ok (),{a with
        replies := {a.replies with
          used := a.replies.used-bytes
          pending := a.replies.pending.erase id}
        underflow := a.underflow || decide (a.replies.used < bytes)})

def inspectionStatus (a : WorkloadArchive ν κ) (id : String) : InspectionStatus :=
  match a.entries.lookup id with
  | some entry => if entry.lastSampleSeq=a.sampleSeq then .current else .exited
  | none => if a.evicted.any (·.id=id) then .evicted else .unknown

/-- The bundle that holds an id's latest catalog. -/
def entryBundle (a : WorkloadArchive ν κ) (id : String) : Option (Bundle ν κ) :=
  (a.entries.lookup id).bind (fun entry => a.bundles.lookup entry.bundleId)

def replyBytes (a : WorkloadArchive ν κ) (id : String) (pointLimit : Nat) : Nat :=
  (a.entryBundle id).elim 0 (·.bytes)+
    (a.entries.lookup id).elim 0 (fun entry => min entry.history.length pointLimit)*4096+
    id.utf8ByteSize*4+512

def inspect (id : String) (pointLimit : Nat) (a : WorkloadArchive ν κ) :
    Except String (WorkloadInspection ν κ) × WorkloadArchive ν κ :=
  if a.failedSample then (.error "workload_inspection_sample_failed",a)
  else if pointLimit∉[30,72,180,360] ∨ id="" ∨ id.utf8ByteSize>1024 then
    (.error "workload_inspection_request_invalid",a)
  else
    match a.replies.reserve (a.replyBytes id pointLimit) a.replyReserve with
    | .error e => (.error e,a)
    | .ok (token,replies) =>
      let history := (a.entries.lookup id).elim [] (·.history)
      (.ok {
        responseToken := token
        inspectionVersion := 1
        runtimeProtocolVersion := runtimeProtocolVersion
        stableId := id
        publicationSeq := a.publicationSeq
        sampleSeq := a.sampleSeq
        status := a.inspectionStatus id
        catalog := (a.entryBundle id).map (·.catalog)
        retainedPoints := history.length
        historyTruncated :=
          (a.entries.lookup id).elim false (·.truncated) || decide (history.length>pointLimit)
        history := history.drop (history.length-pointLimit)},{a with replies := replies})

def inspectPublished (id : String) (pointLimit publicationSeq : Nat) (a : WorkloadArchive ν κ) :
    Except String (WorkloadInspection ν κ) × WorkloadArchive ν κ :=
  if a.publicationSeq≠publicationSeq then (.error "workload_inspection_publication_pending",a)
  else a.inspect id pointLimit

end WorkloadArchive

/-- The public operations. -/
inductive Operation (ρ : Type) where
  | beginIngress (processes : List ProcessSample)
  | endIngress
  | observe (snapshot : RuntimeSnapshot) (rows : List (ProcessViewRow ρ)) (live : Bool)
  | inspect (id : String) (pointLimit : Nat)
  | acknowledge (token : String)

namespace WorkloadArchive
variable [Zero ν] [Add ν] (L : Layout) (enc : Encoder ν κ ρ)

def apply (a : WorkloadArchive ν κ) (step : Heap ν κ × Operation ρ) : WorkloadArchive ν κ :=
  match step.2 with
  | .beginIngress processes => (a.beginIngress L step.1 processes).2
  | .endIngress => a.endIngress
  | .observe snapshot rows live => (a.observe L step.1 enc snapshot rows live).2
  | .inspect id pointLimit => (a.inspect id pointLimit).2
  | .acknowledge token => (a.acknowledge token).2

/-- A run of operations, each with the heap it meets. -/
def run (steps : List (Heap ν κ × Operation ρ)) (a : WorkloadArchive ν κ) : WorkloadArchive ν κ :=
  steps.foldl (apply L enc) a

end WorkloadArchive

/-- A 64-bit build. -/
def Layout.x64 : Layout where
  string := 24
  entrySlot := 80
  bundleSlot := 144
  bundle := 136
  point := 152
  processSample := 744
  processViewRow := 144

/-- Capacity of a fresh hash map that holds so many. -/
def hashCapacity (len : Nat) : Nat :=
  if len=0 then 0 else if len ≤ 3 then 3 else if len ≤ 7 then 7
  else ((len*8+6)/7).nextPowerOfTwo*7/8

/-- Maps iterated as listed, strings without spare, containers that double. -/
def Heap.plain (ν κ : Type) : Heap ν κ where
  entryOrder a := a.entries.keys
  idOrder _ ids := ids
  formatCapacity id := id.utf8ByteSize
  mapCapacity _ capacity len := max capacity (hashCapacity len)
  pushCapacity len capacity := if len < capacity then capacity else max 4 (capacity*2)
  reserveCapacity len capacity additional := max capacity (len+additional)
  shrinkToCapacity len capacity least := min capacity (max len least)
  shrinkCapacity len capacity := min capacity (hashCapacity len)
  entryOrder_perm _ := .refl _
  idOrder_perm _ _ := .refl _
  shrinkCapacity_le _ _ := Nat.min_le_left _ _
  shrinkCapacity_empty _ := Nat.min_zero _

/-- Rows of two kilobytes, each with one metric, in catalogs of four. -/
def Encoder.plain : Encoder Nat Unit Unit where
  rowSizeBound _ := .ok 2048
  encodeWorkloads rows sampleSeq _ _ _ :=
    .ok (rows.map (fun row =>
      match row with
      | .group _ _ _ => .group ⟨rowId row sampleSeq,[],[⟨0,some 1,0⟩],[],()⟩
      | .process _ _ _ startTimeMs _ =>
        .process ⟨rowId row sampleSeq,if startTimeMs=0 then .publication else .stable,none,
          [⟨0,some 1,0⟩],()⟩),⟨[⟨.cpuUsage,none,.procfs⟩],()⟩)
  catalogSizeBound _ := .ok 4096
  catalogHeapBytes _ := 2048
  encode_ids h := by
    obtain ⟨rfl,-⟩ := Prod.mk.inj (Except.ok.inj h)
    rw [List.map_map]
    refine List.map_congr_left (fun row _ => ?_)
    cases row <;> rfl

namespace Plain

def row (pid : String) : ProcessViewRow Unit := .process "worker" false pid 1000 ()

def process (pid : String) : ProcessSample :=
  ⟨pid,none,"worker","/usr/bin/worker","running",[]⟩

def snapshot (k : Nat) : RuntimeSnapshot := ⟨k,k,some (k*1000),k*1000,1000,.linux⟩

/-- A sample of workers as the runtime feeds it in. -/
def sample (k : Nat) (pids : List String) : List (Heap Nat Unit × Operation Unit) :=
  [(.plain _ _,.beginIngress (pids.map process)),
    (.plain _ _,.observe (snapshot k) (pids.map row) true),(.plain _ _,.endIngress)]

end Plain

end BatCave.WorkloadHistory
