import BatCave.RuntimeStore.Views
import BatCave.WorkloadHistory.Published

/-! The store's operations as the worker of the published runtime takes them: each that makes
a snapshot counts one more publication, and the others leave what the archive reads of it. -/
namespace BatCave.RuntimeStore.Store
open BatCave.Contracts BatCave.ProcessView BatCave.Lib BatCave.Lib.Word BatCave.Lib.Text

variable {s s' : Store}
variable {lower : Lowercase} {sha256 : List UInt8 → List UInt8}

/-- What the archive reads of a snapshot. -/
def archived (s : Store) : WorkloadHistory.RuntimeSnapshot where
  publicationSeq := s.snapshot.publicationSeq
  sampleSeq := s.snapshot.sampleSeq
  sampledAtMs := s.snapshot.sampledAtMs
  publishedAtMs := s.snapshot.publishedAtMs
  sampleIntervalMs := s.snapshot.settings.sampleIntervalMs
  platform := match s.snapshot.environment.platform with
    | .windows => .windows
    | .linux => .linux
    | .macos => .macos
    | .fixture => .fixture

/-- A new snapshot has the next number. -/
structure Counted (s s' : Store) : Prop where
  snapshot : s'.snapshot.publicationSeq=s'.publicationSeq
  next : s'.publicationSeq=satAdd s.publicationSeq 1

theorem counted_publishSnapshotOnly (s : Store) (answers : Answers) :
    Counted s (s.publishSnapshotOnly lower answers) := by
  rw [publishSnapshotOnly,publish]
  exact ⟨rfl,rfl⟩

theorem Counted.of_seq {s₀ : Store} (h : Counted s s') (hseq : s.publicationSeq=s₀.publicationSeq) :
    Counted s₀ s' := ⟨h.snapshot,hseq ▸ h.next⟩

theorem applyCollectorServiceStatus_seq (s : Store) (status : Option RuntimeCollectorServiceStatus)
    (sampleTsMs : Nat) :
    (s.applyCollectorServiceStatus lower sha256 status sampleTsMs).2.publicationSeq=
      s.publicationSeq := by
  cases status with
  | none => rfl
  | some status =>
    simp only [applyCollectorServiceStatus]
    split
    · rfl
    · rfl

theorem holdRetainedTelemetry_seq (s : Store) (heldAtMs : Nat) :
    (s.holdRetainedTelemetry lower sha256 heldAtMs).publicationSeq=s.publicationSeq := by
  rw [holdRetainedTelemetry]
  split
  · rfl
  · rfl

theorem counted_takeSample (s : Store) (sample : TelemetrySample) (completedAtMs : Nat)
    (answers : Answers) : Counted s (s.takeSample lower sha256 sample completedAtMs answers) := by
  simp only [takeSample,publish]
  exact ⟨rfl,rfl⟩

theorem counted_applyRawSample (s : Store) (sample : TelemetrySample) (completedAtMs : Nat)
    (answers : Answers) :
    Counted s (s.applyRawSample lower sha256 sample completedAtMs answers) := by
  simp only [applyRawSample]
  split
  · refine (counted_publishSnapshotOnly _ answers).of_seq ?_
    exact applyCollectorServiceStatus_seq s _ _
  · refine (counted_takeSample _ sample completedAtMs answers).of_seq ?_
    exact applyCollectorServiceStatus_seq s _ _

theorem refreshSnapshotHealth_archived (s : Store) (answers : Answers) :
    (s.refreshSnapshotHealth answers).archived=s.archived ∧
      (s.refreshSnapshotHealth answers).publicationSeq=s.publicationSeq := by
  rw [refreshSnapshotHealth]
  exact ⟨rfl,rfl⟩

variable (lower sha256) in
theorem operation_counted (s : Store) (operation : Operation) :
    Counted s (operation.apply lower sha256 s) ∨
      ((operation.apply lower sha256 s).archived=s.archived ∧
        (operation.apply lower sha256 s).publicationSeq=s.publicationSeq) := by
  cases operation with
  | applyRawSample sample completedAtMs answers =>
    exact .inl (counted_applyRawSample s sample completedAtMs answers)
  | publishCollectorUnavailable answers =>
    exact .inl ((counted_publishSnapshotOnly _ answers).of_seq (holdRetainedTelemetry_seq _ _))
  | markEngineFatal code message occurredAtMs answers =>
    exact .inl ((counted_publishSnapshotOnly _ answers).of_seq (holdRetainedTelemetry_seq _ _))
  | setPaused paused answers => exact .inl ((counted_publishSnapshotOnly _ answers).of_seq rfl)
  | setQueryWithIntent query intent answers =>
    exact .inl ((counted_publishSnapshotOnly _ answers).of_seq rfl)
  | setSampleInterval sampleIntervalMs answers =>
    exact .inl ((counted_publishSnapshotOnly _ answers).of_seq rfl)
  | setUiPreferences preferences answers =>
    exact .inl ((counted_publishSnapshotOnly _ answers).of_seq rfl)
  | setEngineState state => exact .inr ⟨rfl,rfl⟩
  | noteHeartbeat occurredAtMs => exact .inr ⟨rfl,rfl⟩
  | updateScheduleHealth misses recentMisses lateness answers =>
    exact .inr (refreshSnapshotHealth_archived _ answers)
  | recordPublicationLatency latencyMs answers =>
    exact .inr (refreshSnapshotHealth_archived _ answers)

/-- Every operation of the store is a step of the published runtime's worker, or none. -/
theorem operation_stages {ν κ : Type} {r : WorkloadHistory.Runtime ν κ}
    (hworker : r.worker=.staged ∨ r.worker=.idle) (hstore : r.store=s.archived)
    (hs : s.snapshot.publicationSeq=s.publicationSeq) (operation : Operation) :
    (operation.apply lower sha256 s).snapshot.publicationSeq=
        (operation.apply lower sha256 s).publicationSeq ∧
      ((operation.apply lower sha256 s).archived=s.archived ∨
        r.stage (operation.apply lower sha256 s).archived=some { r with
          store := (operation.apply lower sha256 s).archived
          worker := .staged }) := by
  cases operation_counted lower sha256 s operation with
  | inl hcounted =>
    refine ⟨hcounted.snapshot,.inr ?_⟩
    have hnext : satAdd r.store.publicationSeq 1=
        (operation.apply lower sha256 s).archived.publicationSeq := by
      rw [hstore]
      change satAdd s.snapshot.publicationSeq 1=
        (operation.apply lower sha256 s).snapshot.publicationSeq
      rw [hs,hcounted.snapshot,hcounted.next]
    cases hworker with
    | inl hat => rw [WorkloadHistory.Runtime.stage,hat,hnext]
    | inr hat => rw [WorkloadHistory.Runtime.stage,hat,hnext]
  | inr hsame =>
    refine ⟨?_,.inl hsame.1⟩
    have hnumber : (operation.apply lower sha256 s).snapshot.publicationSeq=
        s.snapshot.publicationSeq :=
      congrArg WorkloadHistory.RuntimeSnapshot.publicationSeq hsame.1
    rw [hnumber,hs,hsame.2]

end BatCave.RuntimeStore.Store
