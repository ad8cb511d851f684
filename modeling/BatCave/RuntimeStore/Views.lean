import BatCave.ProcessView.Members
import BatCave.RuntimeStore.Store

/-! The cached views agree with the views computed anew, after every sequence of operations. -/
namespace BatCave.RuntimeStore
open BatCave.Contracts BatCave.ProcessView BatCave.Lib BatCave.Lib.Text
open BatCave.WorkloadIdentity (BatCaveWorkloadContext)

section FullView
variable {lower : Lowercase} {query : RuntimeQuery}

/-- The full view does not ask who is busy. -/
theorem emitProcessView_attention (groups : List ProcessAppGroup)
    (attention attention' : Finset Generation) :
    emitProcessView lower groups fullViewQuery attention=
      emitProcessView lower groups fullViewQuery attention' := by
  have hmatches : groupMatches lower fullViewQuery attention=
      groupMatches lower fullViewQuery attention' := by
    funext group
    rw [groupMatches_full,groupMatches_full]
  simp only [emitProcessView,hmatches]

/-- The rows for everything are those of the full view. -/
theorem emitProcessView_full {groups : List ProcessAppGroup}
    (h : queryIsFullView query groups.length=true) (attention : Finset Generation) :
    emitProcessView lower groups query attention=
      emitProcessView lower groups fullViewQuery attention := by
  simp only [queryIsFullView,Bool.and_eq_true,beq_iff_eq,decide_eq_true_eq] at h
  obtain ⟨⟨⟨⟨htext,hfocus⟩,hcolumn⟩,hdirection⟩,hlimit⟩ := h
  have hmatches :
      groupMatches lower query attention=groupMatches lower fullViewQuery attention := by
    funext group
    rw [groupMatches_all htext hfocus,groupMatches_full]
  have hrows : groupRows lower query=groupRows lower fullViewQuery := by
    funext group
    simp only [groupRows,hcolumn,hdirection]
    rfl
  have hbound : query.limit.toNat ≤ fullViewQuery.limit.toNat :=
    Nat.le_of_lt_succ query.limit.toNat_lt
  have hlength := List.length_filter_le (groupMatches lower fullViewQuery attention) groups
  simp only [emitProcessView,hmatches,hrows,hcolumn,hdirection]
  rw [List.take_of_length_le,List.take_of_length_le]
  · rfl
  · rw [length_sortBy]
    omega
  · rw [length_sortBy]
    omega

/-- A group of several members has its row in the full view. -/
theorem groupRow_mem_fullView {groups : List ProcessAppGroup} (hlength : groups.length < 2^64)
    {group : ProcessAppGroup} (hgroup : group∈groups) (hmany : 1 < group.processes.length)
    (attention : Finset Generation) :
    groupRow group∈emitProcessView lower groups fullViewQuery attention := by
  have hselected : groupMatches lower fullViewQuery attention group=true := by
    rw [groupMatches_full]
    cases hp : group.processes with
    | nil => simp [hp] at hmany
    | cons process processes => rfl
  have hbound := List.length_filter_le (groupMatches lower fullViewQuery attention) groups
  have hlimit : fullViewQuery.limit.toNat=2^64-1 := rfl
  refine List.mem_flatMap.mpr ⟨group,?_,?_⟩
  · rw [List.take_of_length_le (by rw [length_sortBy]; omega)]
    exact List.mem_mergeSort.mpr (List.mem_filter.mpr ⟨hgroup,hselected⟩)
  · rw [groupRows,if_pos hmany]
    exact List.mem_append_left _ (List.mem_singleton_self _)

end FullView

namespace Store
variable (lower : Lowercase) (sha256 : List UInt8 → List UInt8)

/-- The caches hold what would be computed from the rows, their history and their context. -/
structure Coherent (s : Store) : Prop where
  groups : s.processGroups=buildProcessGroupsWithContext lower sha256 s.previousProcesses
    s.rankingHistory s.batcaveWorkload
  rows : s.fullViewRows=emitProcessView lower s.processGroups fullViewQuery s.attentionMembers

variable {lower sha256} {s s' : Store}

/-- Nothing that the caches depend on has changed, nor the caches. -/
structure SameViews (s s' : Store) : Prop where
  processes : s'.previousProcesses=s.previousProcesses
  history : s'.rankingHistory=s.rankingHistory
  context : s'.batcaveWorkload=s.batcaveWorkload
  attention : s'.attentionMembers=s.attentionMembers
  groups : s'.processGroups=s.processGroups
  rows : s'.fullViewRows=s.fullViewRows

theorem Coherent.of_same (h : Coherent lower sha256 s) (same : SameViews s s') :
    Coherent lower sha256 s' := by
  constructor
  · rw [same.groups,same.processes,same.history,same.context]
    exact h.groups
  · rw [same.rows,same.groups,same.attention]
    exact h.rows

theorem Coherent.publish (h : Coherent lower sha256 s) (answers : Answers) :
    Coherent lower sha256 (publishSnapshotOnly lower s answers) :=
  h.of_same ⟨rfl,rfl,rfl,rfl,rfl,rfl⟩

theorem Coherent.refresh (h : Coherent lower sha256 s) (answers : Answers) :
    Coherent lower sha256 (refreshSnapshotHealth s answers) :=
  h.of_same ⟨rfl,rfl,rfl,rfl,rfl,rfl⟩

/-- Whatever came before, a rebuild makes the caches right. -/
theorem coherent_rebuild (s : Store) : Coherent lower sha256 (rebuildProcessViews lower sha256 s) :=
  ⟨rfl,rfl⟩

theorem coherent_unbind (s : Store) : Coherent lower sha256 (unbind lower sha256 s) :=
  (coherent_rebuild _).of_same ⟨rfl,rfl,rfl,rfl,rfl,rfl⟩

theorem coherent_applyCollectorServiceStatus (h : Coherent lower sha256 s)
    (status : Option RuntimeCollectorServiceStatus) (sampleTsMs : Nat) :
    Coherent lower sha256 (applyCollectorServiceStatus lower sha256 s status sampleTsMs).2 := by
  cases status with
  | none => exact h
  | some status =>
    simp only [applyCollectorServiceStatus]
    split
    · exact (coherent_unbind s).of_same ⟨rfl,rfl,rfl,rfl,rfl,rfl⟩
    · exact h.of_same ⟨rfl,rfl,rfl,rfl,rfl,rfl⟩

theorem coherent_takeSample (s : Store) (sample : TelemetrySample) (completedAtMs : Nat)
    (answers : Answers) :
    Coherent lower sha256 (takeSample lower sha256 s sample completedAtMs answers) :=
  (coherent_rebuild _).of_same ⟨rfl,rfl,rfl,rfl,rfl,rfl⟩

theorem coherent_applyRawSample (h : Coherent lower sha256 s) (sample : TelemetrySample)
    (completedAtMs : Nat) (answers : Answers) :
    Coherent lower sha256 (applyRawSample lower sha256 s sample completedAtMs answers) := by
  simp only [applyRawSample]
  split
  · exact (coherent_applyCollectorServiceStatus h _ _).of_same ⟨rfl,rfl,rfl,rfl,rfl,rfl⟩
  · exact coherent_takeSample _ _ _ _

/-- Held marks change what the groups add up to; the views are built again for them. -/
theorem coherent_holdRetainedTelemetry (h : Coherent lower sha256 s) (heldAtMs : Nat) :
    Coherent lower sha256 (holdRetainedTelemetry lower sha256 s heldAtMs) := by
  simp only [holdRetainedTelemetry]
  split
  · exact h
  · exact coherent_rebuild _

/-- The full view of a warm cache was emitted for its busy generations; it is the same for
the empty set that the store starts with. -/
theorem coherent_fromWarmCache (provenance : RuntimeProvenance) (settings : RuntimeSettings)
    (seq : Nat) (rows : List ProcessSample) (answers : Answers) :
    Coherent lower sha256 (fromWarmCache lower sha256 provenance settings seq rows answers) := by
  exact ⟨rfl,emitProcessView_attention _ _ _⟩

/-- Everything that changes the store after its construction. -/
inductive Operation where
  | applyRawSample (sample : TelemetrySample) (completedAtMs : Nat) (answers : Answers)
  | publishCollectorUnavailable (answers : Answers)
  | markEngineFatal (code message : String) (occurredAtMs : Nat) (answers : Answers)
  | setPaused (paused : Bool) (answers : Answers)
  | setQueryWithIntent (query : RuntimeQuery) (intent : QueryWriteIntent) (answers : Answers)
  | setSampleInterval (sampleIntervalMs : Nat) (answers : Answers)
  | setUiPreferences (preferences : RuntimeUiPreferences) (answers : Answers)
  | setEngineState (state : RuntimeEngineState)
  | noteHeartbeat (occurredAtMs : Nat)
  | updateScheduleHealth (deadlineMisses recentDeadlineMisses : Nat)
      (deadlineLatenessP95Ms : Float) (answers : Answers)
  | recordPublicationLatency (latencyMs : Float) (answers : Answers)

variable (lower sha256) in
def Operation.apply (s : Store) : Operation → Store
  | .applyRawSample sample completedAtMs answers =>
    s.applyRawSample lower sha256 sample completedAtMs answers
  | .publishCollectorUnavailable answers => s.publishCollectorUnavailable lower sha256 answers
  | .markEngineFatal code message occurredAtMs answers =>
    s.markEngineFatal lower sha256 code message occurredAtMs answers
  | .setPaused paused answers => s.setPaused lower paused answers
  | .setQueryWithIntent query intent answers => s.setQueryWithIntent lower query intent answers
  | .setSampleInterval sampleIntervalMs answers =>
    s.setSampleInterval lower sampleIntervalMs answers
  | .setUiPreferences preferences answers => s.setUiPreferences lower preferences answers
  | .setEngineState state => s.setEngineState state
  | .noteHeartbeat occurredAtMs => s.noteHeartbeat occurredAtMs
  | .updateScheduleHealth misses recentMisses lateness answers =>
    s.updateScheduleHealth misses recentMisses lateness answers
  | .recordPublicationLatency latencyMs answers => s.recordPublicationLatency latencyMs answers

variable (lower sha256) in
/-- A store after its operations, one after the other. -/
def run (s : Store) (operations : List Operation) : Store :=
  operations.foldl (Operation.apply lower sha256) s

/-- No operation leaves the caches behind. -/
theorem coherent_apply (h : Coherent lower sha256 s) (operation : Operation) :
    Coherent lower sha256 (operation.apply lower sha256 s) := by
  cases operation with
  | applyRawSample sample completedAtMs answers =>
    exact coherent_applyRawSample h sample completedAtMs answers
  | publishCollectorUnavailable answers =>
    have hmarked : Coherent lower sha256
        { s with collectorState := some .unavailable, liveProcessSnapshot := false } :=
      h.of_same ⟨rfl,rfl,rfl,rfl,rfl,rfl⟩
    exact (coherent_holdRetainedTelemetry hmarked answers.heldAtMs).publish answers
  | markEngineFatal code message occurredAtMs answers =>
    have hmarked : Coherent lower sha256
        { s with
          engineState := .fatal
          collectorState := some .unavailable
          liveProcessSnapshot := false } := h.of_same ⟨rfl,rfl,rfl,rfl,rfl,rfl⟩
    have hfatal : Coherent lower sha256
        { holdRetainedTelemetry lower sha256
            { s with
              engineState := .fatal
              collectorState := some .unavailable
              liveProcessSnapshot := false } answers.heldAtMs with
          fatalError := some ⟨code,message,occurredAtMs⟩ } :=
      (coherent_holdRetainedTelemetry hmarked answers.heldAtMs).of_same ⟨rfl,rfl,rfl,rfl,rfl,rfl⟩
    exact hfatal.publish answers
  | setPaused paused answers =>
    have hset : Coherent lower sha256
        { s with
          settings := { s.settings with paused := paused }
          liveProcessSnapshot := s.liveProcessSnapshot && !paused } :=
      h.of_same ⟨rfl,rfl,rfl,rfl,rfl,rfl⟩
    exact hset.publish answers
  | setQueryWithIntent query intent answers =>
    have hset : Coherent lower sha256
        { s with
          settings := { s.settings with query := normalizeQuery query }
          durableQuery := if intent=.userMutation then normalizeQuery query else s.durableQuery } :=
      h.of_same ⟨rfl,rfl,rfl,rfl,rfl,rfl⟩
    exact hset.publish answers
  | setSampleInterval sampleIntervalMs answers =>
    have hset : Coherent lower sha256
        { s with
          settings := { s.settings with
            sampleIntervalMs := max 500 (min sampleIntervalMs 5000) } } :=
      h.of_same ⟨rfl,rfl,rfl,rfl,rfl,rfl⟩
    exact hset.publish answers
  | setUiPreferences preferences answers =>
    have hset : Coherent lower sha256
        { s with settings := { s.settings with uiPreferences := some preferences } } :=
      h.of_same ⟨rfl,rfl,rfl,rfl,rfl,rfl⟩
    exact hset.publish answers
  | setEngineState state =>
    exact h.of_same ⟨rfl,rfl,rfl,rfl,rfl,rfl⟩
  | noteHeartbeat occurredAtMs => exact h.of_same ⟨rfl,rfl,rfl,rfl,rfl,rfl⟩
  | updateScheduleHealth misses recentMisses lateness answers =>
    have hset : Coherent lower sha256
        { s with
          deadlineMisses := misses
          recentDeadlineMisses := recentMisses
          deadlineLatenessP95Ms := lateness } := h.of_same ⟨rfl,rfl,rfl,rfl,rfl,rfl⟩
    exact hset.refresh answers
  | recordPublicationLatency latencyMs answers =>
    have hset : Coherent lower sha256 { s with publicationLatencyMs := some latencyMs } :=
      h.of_same ⟨rfl,rfl,rfl,rfl,rfl,rfl⟩
    exact hset.refresh answers

theorem coherent_run (h : Coherent lower sha256 s) (operations : List Operation) :
    Coherent lower sha256 (run lower sha256 s operations) := by
  induction operations generalizing s with
  | nil => exact h
  | cons operation operations ih => exact ih (coherent_apply h operation)

/-- With caches that are right, the short cut makes no difference. -/
theorem Coherent.currentProcessViewRows (h : Coherent lower sha256 s) :
    s.currentProcessViewRows lower=
      emitProcessView lower s.processGroups s.settings.query s.attentionMembers := by
  rw [Store.currentProcessViewRows]
  split
  · next hfull => rw [emitProcessView_full hfull,h.rows]
  · rfl

/-- In every state that a store reaches, from whatever cache it was constructed, the cached
groups and rows are those computed anew, and the rows served for a query are those that the
query selects. -/
theorem cached_views_agree (lower : Lowercase) (sha256 : List UInt8 → List UInt8)
    (provenance : RuntimeProvenance) (settings : RuntimeSettings) (seq : Nat)
    (rows : List ProcessSample) (answers : Answers) (operations : List Operation) :
    let s := run lower sha256 (fromWarmCache lower sha256 provenance settings seq rows answers)
      operations
    s.processGroups=buildProcessGroupsWithContext lower sha256 s.previousProcesses s.rankingHistory
        s.batcaveWorkload ∧
      s.fullViewRows=emitProcessView lower s.processGroups fullViewQuery s.attentionMembers ∧
      ∀ query, Store.currentProcessViewRows lower
          { s with settings := { s.settings with query := query } }=
        emitProcessView lower s.processGroups query s.attentionMembers := by
  intro s
  have h : Coherent lower sha256 s := coherent_run (coherent_fromWarmCache _ _ _ _ _) operations
  refine ⟨h.groups,h.rows,?_⟩
  intro query
  have hquery : Coherent lower sha256
      { s with settings := { s.settings with query := query } } :=
        h.of_same ⟨rfl,rfl,rfl,rfl,rfl,rfl⟩
  exact hquery.currentProcessViewRows

end Store
end BatCave.RuntimeStore
