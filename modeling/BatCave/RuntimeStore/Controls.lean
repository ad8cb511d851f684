import BatCave.RuntimeStore.Engine
import BatCave.RuntimeStore.Fatal

/-! Control requests across the two engines: along a run in which every control is answered
and no resumption fails, requests are atomic and the two loops keep the same settings. -/
namespace BatCave.RuntimeStore
open BatCave.Contracts BatCave.ProcessView BatCave.Lib BatCave.Lib.Word BatCave.Lib.Text

namespace Store
variable {lower : Lowercase} {sha256 : List UInt8 → List UInt8} {s s' s'' : Store}

/-- The settings and the state of the engine are as they were. -/
structure SameControls (s s' : Store) : Prop where
  settings : s'.settings=s.settings
  durableQuery : s'.durableQuery=s.durableQuery
  engineState : s'.engineState=s.engineState

theorem SameControls.trans (h : SameControls s s') (h' : SameControls s' s'') :
    SameControls s s'' :=
  ⟨h'.settings.trans h.settings,h'.durableQuery.trans h.durableQuery,
    h'.engineState.trans h.engineState⟩

variable (lower sha256)

theorem publish_controls (s : Store) (answers : Answers) (latencyMs : Nat)
    (system : SystemMetricsSnapshot) :
    SameControls s (s.publish lower answers latencyMs system) := by
  rw [publish]
  exact ⟨rfl,rfl,rfl⟩

theorem publishSnapshotOnly_controls (s : Store) (answers : Answers) :
    SameControls s (s.publishSnapshotOnly lower answers) := by
  have hpublished := publish_controls lower
    { s with publicationSeq := satAdd s.publicationSeq 1, warnings := answers.warnings } answers 0
    s.snapshot.system
  exact ⟨hpublished.settings,hpublished.durableQuery,hpublished.engineState⟩

theorem refreshSnapshotHealth_controls (s : Store) (answers : Answers) :
    SameControls s (s.refreshSnapshotHealth answers) := by
  rw [refreshSnapshotHealth]
  exact ⟨rfl,rfl,rfl⟩

theorem setQueryWithIntent_settings (s : Store) (query : RuntimeQuery) (intent : QueryWriteIntent)
    (answers : Answers) :
    (s.setQueryWithIntent lower query intent answers).settings=
      { s.settings with query := normalizeQuery query } := by
  rw [setQueryWithIntent]
  exact (publishSnapshotOnly_controls lower _ answers).settings

theorem setUiPreferences_settings (s : Store) (preferences : RuntimeUiPreferences)
    (answers : Answers) :
    (s.setUiPreferences lower preferences answers).settings=
      { s.settings with uiPreferences := some preferences } := by
  rw [setUiPreferences]
  exact (publishSnapshotOnly_controls lower _ answers).settings

theorem holdRetainedTelemetry_controls (s : Store) (heldAtMs : Nat) :
    SameControls s (s.holdRetainedTelemetry lower sha256 heldAtMs) := by
  rw [holdRetainedTelemetry]
  split
  · exact ⟨rfl,rfl,rfl⟩
  · exact ⟨rfl,rfl,rfl⟩

theorem applyCollectorServiceStatus_controls (s : Store)
    (status : Option RuntimeCollectorServiceStatus) (sampleTsMs : Nat) :
    SameControls s (s.applyCollectorServiceStatus lower sha256 status sampleTsMs).2 := by
  cases status with
  | none => exact ⟨rfl,rfl,rfl⟩
  | some status =>
    simp only [applyCollectorServiceStatus]
    split
    · exact ⟨rfl,rfl,rfl⟩
    · exact ⟨rfl,rfl,rfl⟩

theorem takeSample_controls (s : Store) (sample : TelemetrySample) (completedAtMs : Nat)
    (answers : Answers) :
    SameControls s (s.takeSample lower sha256 sample completedAtMs answers) := by
  simp only [takeSample]
  exact ⟨rfl,rfl,rfl⟩

theorem applyRawSample_controls (s : Store) (sample : TelemetrySample) (completedAtMs : Nat)
    (answers : Answers) :
    SameControls s (s.applyRawSample lower sha256 sample completedAtMs answers) := by
  simp only [applyRawSample]
  split
  · have hbound := applyCollectorServiceStatus_controls lower sha256 s
      sample.collectorService (s.sampledAtMs.getD completedAtMs)
    refine SameControls.trans ?_ (publishSnapshotOnly_controls lower _ answers)
    exact ⟨hbound.settings,hbound.durableQuery,hbound.engineState⟩
  · have hbound := applyCollectorServiceStatus_controls lower sha256 s
      sample.collectorService completedAtMs
    refine SameControls.trans ?_ (takeSample_controls lower sha256 _ sample completedAtMs answers)
    exact ⟨hbound.settings,hbound.durableQuery,hbound.engineState⟩

theorem publishCollectorUnavailable_controls (s : Store) (answers : Answers) :
    SameControls s (s.publishCollectorUnavailable lower sha256 answers) := by
  have hheld := holdRetainedTelemetry_controls lower sha256
    { s with collectorState := some .unavailable, liveProcessSnapshot := false } answers.heldAtMs
  refine SameControls.trans ?_ (publishSnapshotOnly_controls lower _ answers)
  exact ⟨hheld.settings,hheld.durableQuery,hheld.engineState⟩

/-- A fatal error leaves the settings. -/
theorem markEngineFatal_settings (s : Store) (code message : String) (occurredAtMs : Nat)
    (answers : Answers) :
    (s.markEngineFatal lower sha256 code message occurredAtMs answers).settings=s.settings := by
  have hheld := holdRetainedTelemetry_controls lower sha256
    { s with
      engineState := .fatal
      collectorState := some .unavailable
      liveProcessSnapshot := false } answers.heldAtMs
  rw [markEngineFatal,(publishSnapshotOnly_controls lower _ answers).settings]
  exact hheld.settings

theorem markEngineFatal_durable (s : Store) (code message : String) (occurredAtMs : Nat)
    (answers : Answers) :
    (s.markEngineFatal lower sha256 code message occurredAtMs answers).durableQuery=
      s.durableQuery := by
  have hheld := holdRetainedTelemetry_controls lower sha256
    { s with
      engineState := .fatal
      collectorState := some .unavailable
      liveProcessSnapshot := false } answers.heldAtMs
  rw [markEngineFatal,(publishSnapshotOnly_controls lower _ answers).durableQuery]
  exact hheld.durableQuery

end Store

namespace Engine
variable {lower : Lowercase} {sha256 : List UInt8 → List UInt8} {e e' : Engine}

theorem publishStore_controls (s : Store) (answers measured : Answers) (latencyMs : Float) :
    Store.SameControls s (publishStore s answers measured latencyMs) := by
  have hrefreshed := s.refreshSnapshotHealth_controls answers
  have hmeasured := Store.refreshSnapshotHealth_controls
    { s.refreshSnapshotHealth answers with publicationLatencyMs := some latencyMs } measured
  exact ⟨hmeasured.settings.trans hrefreshed.settings,
    hmeasured.durableQuery.trans hrefreshed.durableQuery,
    hmeasured.engineState.trans hrefreshed.engineState⟩

theorem publishReply_settings (s : Store) (outside : Outside) :
    (publishReply s outside).settings=s.settings :=
  (publishStore_controls s outside.answers outside.measured outside.publicationLatencyMs).settings

theorem heard_controls (s : Store) (publication : CollectorPublication) (answers : Answers) :
    Store.SameControls s (heard s publication answers) := by
  have hrefreshed := Store.refreshSnapshotHealth_controls
    { (s.noteHeartbeat publication.completedAtMs) with
      deadlineMisses := publication.cadence.deadlineMisses
      recentDeadlineMisses := publication.cadence.recentDeadlineMisses
      deadlineLatenessP95Ms := publication.cadence.deadlineLatenessP95Ms } answers
  exact ⟨hrefreshed.settings,hrefreshed.durableQuery,hrefreshed.engineState⟩

theorem running_settings (s : Store) : (running s).settings=s.settings := by
  rw [running]
  split
  · rfl
  · rfl

/-- What no publication of the collector changes. -/
structure Applied (e e' : Engine) : Prop where
  settings : e'.store.settings=e.store.settings
  persisted : e'.persisted=e.persisted
  collector : e'.collector=e.collector
  revision : e'.lastCollectorRevision ≤ e.collector.revision

variable (lower sha256) in
theorem applied (publication : CollectorPublication) (answers : PublicationAnswers)
    (hpublication : publication.revision ≤ e.collector.revision)
    (hlast : e.lastCollectorRevision ≤ e.collector.revision) :
    Applied e (e.applyCollectorPublication lower sha256 publication answers).2 := by
  have hheard := heard_controls e.store publication answers.schedule
  have hrunning : (running (heard e.store publication answers.schedule)).settings=
      e.store.settings := (running_settings _).trans hheard.settings
  simp only [applyCollectorPublication]
  split
  · exact ⟨rfl,rfl,rfl,hlast⟩
  · split
    · refine ⟨?_,rfl,rfl,hpublication⟩
      exact (publishStore_controls _ _ _ _).settings.trans
        ((Store.publishSnapshotOnly_controls lower _ _).settings.trans hheard.settings)
    · refine ⟨?_,rfl,rfl,hpublication⟩
      exact (publishStore_controls _ _ _ _).settings.trans
        ((Store.applyRawSample_controls lower sha256 _ _ _ _).settings.trans hrunning)
    · refine ⟨?_,rfl,rfl,hpublication⟩
      exact (publishStore_controls _ _ _ _).settings.trans
        ((Store.publishCollectorUnavailable_controls lower sha256 _ _).settings.trans hrunning)
    · refine ⟨?_,rfl,rfl,hpublication⟩
      exact (publishStore_controls _ _ _ _).settings.trans
        ((Store.markEngineFatal_settings lower sha256 _ _ _ _ _).trans hrunning)

variable (lower sha256) in
/-- A publication that is refused has ended the engine. -/
theorem applied_error (publication : CollectorPublication) (answers : PublicationAnswers)
    {error : String}
    (h : (e.applyCollectorPublication lower sha256 publication answers).1=.error error) :
    (e.applyCollectorPublication lower sha256 publication answers).2.ended=true := by
  simp only [applyCollectorPublication] at h ⊢
  split at h
  · cases h
  · next hnew =>
    rw [if_neg hnew]
    cases hevent : publication.event with
    | fatal code message => rfl
    | pausedHeartbeat => rw [hevent] at h; cases h
    | sample sample => rw [hevent] at h; cases h
    | unavailable message => rw [hevent] at h; cases h

end Engine

namespace CollectorLoop
variable {c : CollectorLoop}

/-- The revision counts the publications, of which the latest is kept. -/
structure Counted (c : CollectorLoop) : Prop where
  revision : c.revision ≤ u64Max
  published : ∀ publication, c.published=some publication → publication.revision ≤ c.revision

/-- A turn of the collector's own. -/
structure Turned (c c' : CollectorLoop) : Prop where
  paused : c'.paused=c.paused
  intervalMs : c'.intervalMs=c.intervalMs
  queue : c'.queue=c.queue
  revision : c.revision ≤ c'.revision
  counted : c'.Counted

theorem le_satAdd_one {n : Nat} (h : n ≤ u64Max) : n ≤ satAdd n 1 := by
  rw [satAdd]
  omega

theorem Counted.publish (h : c.Counted) (event : CollectorEvent) (work : Work) :
    Turned c (c.publish event work) := by
  refine ⟨rfl,rfl,rfl,le_satAdd_one h.revision,Nat.min_le_right _ _,?_⟩
  intro publication hpublication
  rw [← Option.some.inj hpublication]
  exact Nat.le_refl _

theorem Counted.collectAndPublish (h : c.Counted) (work : Work) :
    Turned c (c.collectAndPublish work) := by
  have hpublished := h.publish work.collection.event work
  exact ⟨rfl,rfl,rfl,hpublished.revision,hpublished.counted.revision,hpublished.counted.published⟩

theorem Counted.turn (h : c.Counted) (heartbeat : Bool) (work : Work) :
    Turned c (c.turn heartbeat work) := by
  rw [CollectorLoop.turn]
  split
  · exact ⟨rfl,rfl,rfl,Nat.le_refl _,h⟩
  · split
    · exact h.publish _ work
    · exact h.collectAndPublish work

theorem Counted.turns (h : c.Counted) (turns : List (Bool × Work)) :
    Turned c (turns.foldl (fun c turn => c.turn turn.1 turn.2) c) := by
  induction turns generalizing c with
  | nil => exact ⟨rfl,rfl,rfl,Nat.le_refl _,h⟩
  | cons turn turns ih =>
    have hfirst := h.turn turn.1 turn.2
    have hrest := ih hfirst.counted
    exact ⟨hrest.paused.trans hfirst.paused,hrest.intervalMs.trans hfirst.intervalMs,
      hrest.queue.trans hfirst.queue,hfirst.revision.trans hrest.revision,hrest.counted⟩

theorem serve_live (hfatal : c.fatal=false) (work : Work) (control : CollectorControl) :
    c.serve work control=match control with
      | .pause => { c with paused := true }
      | .resume => CollectorLoop.collectAndPublish { c with paused := false } work
      | .setInterval intervalMs => { c with intervalMs := intervalMs } := by
  exact if_neg (ne_true_of_eq_false hfatal)

/-- With nothing queued, a control is served at once or changes nothing. -/
theorem call_cases (hqueue : c.queue=[]) (control : CollectorControl) {answer : Answer}
    (hanswer : answer≠.timeout) :
    (∃ error, c.call control answer=(.error error,c)) ∨
      (c.fatal=false ∧ ∃ work, c.call control answer=
        (if (c.serve work control).fatal then .error "collector_engine_fatal" else .ok (),
          c.serve work control)) := by
  cases answer with
  | shuttingDown => exact .inl ⟨_,rfl⟩
  | busy => exact .inl ⟨_,rfl⟩
  | unavailable => exact .inl ⟨_,rfl⟩
  | timeout => exact absurd rfl hanswer
  | served work =>
    have hcall : c.call control (.served work)=
        (if (c.serve work control).fatal then .error "collector_engine_fatal" else .ok (),
          c.serve work control) := by
      have hself : { c with queue := [] }=c := by rw [← hqueue]
      simp only [call,hqueue,List.nil_append,List.foldl_cons,List.foldl_nil,hself]
    cases hfatal : c.fatal with
    | true =>
      refine .inl ⟨"collector_engine_fatal",?_⟩
      rw [hcall]
      simp only [serve,hfatal,if_true]
    | false => exact .inr ⟨rfl,work,hcall⟩

end CollectorLoop

namespace Engine
variable {lower : Lowercase} {sha256 : List UInt8 → List UInt8} {e e' : Engine}

/-- Both loops have the same settings, no control is under way, and the sampling loop is not
ahead of the collector. -/
structure Synced (e : Engine) : Prop where
  agrees : Agrees e
  queue : e.collector.queue=[]
  counted : e.collector.Counted
  last : e.lastCollectorRevision ≤ e.collector.revision

theorem Synced.of_applied (h : e.Synced) (happlied : Applied e e') : e'.Synced := by
  obtain ⟨hsettings,_,hcollector,hrevision⟩ := happlied
  refine ⟨⟨?_,?_⟩,?_,?_,?_⟩
  · rw [hsettings,hcollector]
    exact h.agrees.paused
  · rw [hsettings,hcollector]
    exact h.agrees.sampleIntervalMs
  · rw [hcollector]
    exact h.queue
  · rw [hcollector]
    exact h.counted
  · rw [hcollector]
    exact hrevision

variable (lower sha256) in
theorem latest_applied (hcounted : e.collector.Counted)
    (hlast : e.lastCollectorRevision ≤ e.collector.revision) (answers : PublicationAnswers) :
    Applied e (e.applyLatest lower sha256 answers).2 := by
  rw [applyLatest]
  split
  · exact ⟨rfl,rfl,rfl,hlast⟩
  · next publication hpublished =>
    exact applied lower sha256 publication answers (hcounted.published publication hpublished) hlast

variable (lower sha256) in
theorem latest_error {answers : PublicationAnswers} {error : String}
    (h : (e.applyLatest lower sha256 answers).1=.error error) :
    (e.applyLatest lower sha256 answers).2.ended=true := by
  rw [applyLatest] at h ⊢
  split at h
  · cases h
  · exact applied_error lower sha256 _ answers h

variable (lower) in
/-- What `Pause` and `Resume` do to the store. -/
theorem paused_controls (s : Store) (nowMs : Nat) (state : RuntimeEngineState) (paused : Bool)
    (answers : Answers) :
    Store.SameControls
      { s with settings := { s.settings with paused := paused }, engineState := state }
      (((s.noteHeartbeat nowMs).setEngineState state).setPaused lower paused answers) := by
  have hpublished := Store.publishSnapshotOnly_controls lower
    { (s.noteHeartbeat nowMs).setEngineState state with
      settings := { s.settings with paused := paused }
      liveProcessSnapshot := s.liveProcessSnapshot && !paused } answers
  exact ⟨hpublished.settings,hpublished.durableQuery,hpublished.engineState⟩

/-- A request keeps both loops in step, or the engine has ended. -/
structure Kept (e : Engine) (result : Except String Unit × Engine) : Prop where
  atomic : Atomic e result
  synced : result.2.ended=true ∨ result.2.Synced

variable (lower) in
/-- The rest of `Pause` once the collector is paused. -/
theorem Synced.pause_rest (h : e.Synced) {collector : CollectorLoop}
    (hturned : CollectorLoop.Turned { e.collector with paused := true } collector)
    {latest : Engine} (outside : Outside)
    (happlied : Applied { e with collector := collector } latest) :
    let s := ((latest.store.noteHeartbeat outside.nowMs).setEngineState .paused).setPaused lower
      true outside.answers
    (persist { latest with store := publishReply s outside } outside.persists).Synced := by
  intro s
  have hcontrols := paused_controls lower latest.store outside.nowMs .paused true outside.answers
  have hsettings : (publishReply s outside).settings=
      { latest.store.settings with paused := true } :=
    (publishReply_settings s outside).trans hcontrols.settings
  have hcollector : latest.collector=collector := happlied.collector
  refine ⟨⟨?_,?_⟩,?_,?_,?_⟩
  · change (publishReply s outside).settings.paused=latest.collector.paused
    rw [hsettings,hcollector,hturned.paused]
  · change (publishReply s outside).settings.sampleIntervalMs=latest.collector.intervalMs
    rw [hsettings,hcollector,hturned.intervalMs,happlied.settings]
    exact h.agrees.sampleIntervalMs
  · change latest.collector.queue=[]
    rw [hcollector,hturned.queue]
    exact h.queue
  · change latest.collector.Counted
    rw [hcollector]
    exact hturned.counted
  · change latest.lastCollectorRevision ≤ latest.collector.revision
    rw [hcollector]
    exact happlied.revision

variable (lower sha256) in
theorem Synced.pause (h : e.Synced) {answer : CollectorLoop.Answer} (hanswer : answer≠.timeout)
    (outside : Outside) : Kept e (e.pause lower sha256 answer outside) := by
  cases CollectorLoop.call_cases h.queue .pause hanswer with
  | inl hrefused =>
    obtain ⟨error,hcall⟩ := hrefused
    rw [Engine.pause,hcall]
    exact ⟨.inr ⟨rfl,rfl,rfl,rfl⟩,.inr h⟩
  | inr hserved =>
    obtain ⟨hfatal,work,hcall⟩ := hserved
    rw [CollectorLoop.serve_live hfatal,if_neg (ne_true_of_eq_false hfatal)] at hcall
    have hcounted : CollectorLoop.Counted { e.collector with paused := true } :=
      ⟨h.counted.revision,h.counted.published⟩
    have hturned := hcounted.turns outside.turns
    rw [Engine.pause,hcall]
    dsimp only
    generalize outside.turns.foldl (fun c turn => c.turn turn.1 turn.2)
      { e.collector with paused := true }=collector at hturned ⊢
    have happlied := latest_applied lower sha256 (e := { e with collector := collector })
      hturned.counted (h.last.trans hturned.revision) outside.latest
    cases hlatest : Engine.applyLatest lower sha256 { e with collector := collector }
        outside.latest with
    | mk reply latest =>
      rw [hlatest] at happlied
      cases reply with
      | error error =>
        have hended := latest_error lower sha256 (congrArg Prod.fst hlatest)
        rw [hlatest] at hended
        exact ⟨.inl hended,.inl hended⟩
      | ok measured =>
        have hsynced := h.pause_rest lower hturned outside happlied
        exact ⟨hsynced.agrees,.inr hsynced⟩

variable (lower sha256) in
/-- A collection that is new is a measurement. -/
theorem applied_collection {publication : CollectorPublication} {collection : Collection}
    (hevent : publication.event=collection.event) (hcollection : collection.isFatal=false)
    (answers : PublicationAnswers) :
    (e.applyCollectorPublication lower sha256 publication answers).1=.ok true ∨
      (publication.revision ≤ e.lastCollectorRevision ∧
        e.applyCollectorPublication lower sha256 publication answers=(.ok false,e)) := by
  simp only [applyCollectorPublication]
  split
  · next hold => exact .inr ⟨hold,rfl⟩
  · left
    rw [hevent]
    cases collection with
    | sample sample => rfl
    | unavailable error => rfl
    | fatal message => cases hcollection

/-- The store of `Resume`, before the collector is asked. -/
def reopened (lower : Lowercase) (e : Engine) (outside : Outside) : Engine :=
  persist { e with
    store := ((e.store.noteHeartbeat outside.nowMs).setEngineState .running).setPaused lower false
      outside.answers } outside.persists

variable (lower) in
theorem reopened_settings (e : Engine) (outside : Outside) :
    (reopened lower e outside).store.settings={ e.store.settings with paused := false } :=
  (paused_controls lower e.store outside.nowMs .running false outside.answers).settings

variable (lower) in
/-- With everything running already nothing is changed by it. -/
theorem Resumed.unchanged (h : Resumed e) (outside : Outside) :
    Unchanged e (reopened lower e outside) := by
  have hcontrols := paused_controls lower e.store outside.nowMs .running false outside.answers
  have hsettings : { e.store.settings with paused := false }=e.store.settings := by
    rw [← h.paused]
  have hsame : (reopened lower e outside).store.settings=e.store.settings :=
    hcontrols.settings.trans hsettings
  refine ⟨congrArg _ hsame,congrArg _ hsame,hcontrols.engineState.trans h.running.symm,?_⟩
  change (if outside.persists then _ else e.persisted)=e.persisted
  split
  · rw [hcontrols.settings,hcontrols.durableQuery,hsettings]
    exact h.persisted.symm
  · rfl

/-- The collector's loop as `Resume` leaves it. -/
theorem Synced.collected (h : e.Synced) {e' : Engine} {work : Work}
    (hsettings : e'.store.settings={ e.store.settings with paused := false })
    (hcollector : e'.collector=
      CollectorLoop.collectAndPublish { e.collector with paused := false } work)
    (hlast : e'.lastCollectorRevision ≤ e'.collector.revision) : e'.Synced := by
  have hcounted : CollectorLoop.Counted { e.collector with paused := false } :=
    ⟨h.counted.revision,h.counted.published⟩
  have hturned := hcounted.collectAndPublish work
  refine ⟨⟨?_,?_⟩,?_,?_,hlast⟩
  · rw [hsettings,hcollector]
    exact hturned.paused.symm
  · rw [hsettings,hcollector]
    exact h.agrees.sampleIntervalMs
  · rw [hcollector]
    exact h.queue
  · rw [hcollector]
    exact hturned.counted

variable (lower) in
theorem Resumed.synced (h : Resumed e) (hsynced : e.Synced) (outside : Outside) :
    (reopened lower e outside).Synced := by
  have hunchanged := h.unchanged lower outside
  refine ⟨⟨?_,?_⟩,hsynced.queue,hsynced.counted,hsynced.last⟩
  · exact hunchanged.paused.trans hsynced.agrees.paused
  · exact hunchanged.sampleIntervalMs.trans hsynced.agrees.sampleIntervalMs

variable (lower sha256) in
theorem resume_collected {answer : CollectorLoop.Answer} {work : Work}
    (hcall : e.collector.call .resume answer=
      (.ok (),CollectorLoop.collectAndPublish { e.collector with paused := false } work))
    (outside : Outside) : e.resume lower sha256 answer outside=
      match { reopened lower e outside with
          collector := CollectorLoop.collectAndPublish { e.collector with paused := false } work
        }.applyLatest lower sha256 outside.latest with
      | (.error error,e) => (.error error,e)
      | (.ok true,e) => (.ok (),e)
      | (.ok false,e) => (.error "runtime_refresh_result_unavailable",e) := by
  simp only [Engine.resume,persist,hcall]
  rfl

variable (lower sha256) in
/-- The rest of `Resume` once the collector has collected. -/
theorem Synced.resume_rest (h : e.Synced) {answer : CollectorLoop.Answer} {work : Work}
    (hwork : work.collection.isFatal=false)
    (hcall : e.collector.call .resume answer=
      (.ok (),CollectorLoop.collectAndPublish { e.collector with paused := false } work))
    (hroom : e.collector.revision < u64Max ∨ Resumed e) (outside : Outside) :
    Kept e (e.resume lower sha256 answer outside) := by
  let collector := CollectorLoop.collectAndPublish { e.collector with paused := false } work
  let collected : Engine := { reopened lower e outside with collector := collector }
  have hrevision : e.collector.revision ≤ collector.revision :=
    CollectorLoop.le_satAdd_one h.counted.revision
  have hsynced : collected.Synced :=
    h.collected (reopened_settings lower e outside) rfl (h.last.trans hrevision)
  have hresume := resume_collected lower sha256 hcall outside
  have happlied := latest_applied lower sha256 hsynced.counted hsynced.last outside.latest
  let publication : CollectorPublication := ⟨collector.revision,work.completedAtMs,
    work.collection.event,work.collectionLatencyMs,work.cadence⟩
  have hcollection : (collected.applyLatest lower sha256 outside.latest).1=.ok true ∨
      (publication.revision ≤ collected.lastCollectorRevision ∧
        collected.applyLatest lower sha256 outside.latest=(.ok false,collected)) :=
    applied_collection lower sha256 (show publication.event=_ from rfl) hwork outside.latest
  rw [hresume]
  cases hcollection with
  | inl hmeasured =>
    generalize collected.applyLatest lower sha256 outside.latest=latest at happlied hmeasured ⊢
    obtain ⟨reply,latest⟩ := latest
    cases hmeasured
    have hlatest := hsynced.of_applied happlied
    exact ⟨hlatest.agrees,.inr hlatest⟩
  | inr hold =>
    obtain ⟨hold,hsame⟩ := hold
    rw [hsame]
    cases hroom with
    | inl hroom =>
      have hnext : collector.revision=e.collector.revision+1 := by
        change satAdd e.collector.revision 1=_
        rw [satAdd]
        omega
      have hlast := h.last
      change collector.revision ≤ e.lastCollectorRevision at hold
      omega
    | inr hresumed =>
      have hunchanged := hresumed.unchanged lower outside
      exact ⟨.inr ⟨hunchanged.paused,hunchanged.sampleIntervalMs,hunchanged.engineState,
        hunchanged.persisted⟩,.inr hsynced⟩

variable (lower sha256) in
theorem Synced.resume (h : e.Synced) {answer : CollectorLoop.Answer}
    (hsmooth : Smooth e .resume answer) (outside : Outside) :
    Kept e (e.resume lower sha256 answer outside) := by
  have hsmooth' := hsmooth.2 rfl
  have hrefused {error : String} {collector : CollectorLoop}
      (hcall : e.collector.call .resume answer=(.error error,collector)) : Resumed e := by
    cases hsmooth' with
    | inl hok =>
      rw [hcall] at hok
      cases hok.1
    | inr hresumed => exact hresumed
  have hanswer {error : String} {collector : CollectorLoop}
      (hcall : e.collector.call .resume answer=(.error error,collector)) :
      e.resume lower sha256 answer outside=
        (.error error,{ reopened lower e outside with collector := collector }) := by
    simp only [Engine.resume,persist,hcall]
    rfl
  cases CollectorLoop.call_cases h.queue .resume hsmooth.1 with
  | inl herror =>
    obtain ⟨error,hcall⟩ := herror
    have hresumed := hrefused hcall
    rw [hanswer hcall]
    exact ⟨.inr (hresumed.unchanged lower outside),.inr (hresumed.synced lower h outside)⟩
  | inr hserved =>
    obtain ⟨hfatal,work,hcall⟩ := hserved
    rw [CollectorLoop.serve_live hfatal] at hcall
    cases hwork : work.collection.isFatal with
    | true =>
      have hended : (CollectorLoop.collectAndPublish { e.collector with paused := false }
          work).fatal=true := hwork
      rw [if_pos hended] at hcall
      have hunchanged := (hrefused hcall).unchanged lower outside
      rw [hanswer hcall]
      refine ⟨.inr ⟨hunchanged.paused,hunchanged.sampleIntervalMs,hunchanged.engineState,
        hunchanged.persisted⟩,.inr ?_⟩
      exact h.collected (reopened_settings lower e outside) rfl
        (h.last.trans (CollectorLoop.le_satAdd_one h.counted.revision))
    | false =>
      have hlive : ¬(CollectorLoop.collectAndPublish { e.collector with paused := false }
          work).fatal=true := ne_true_of_eq_false hwork
      rw [if_neg hlive] at hcall
      exact h.resume_rest lower sha256 hwork hcall (hsmooth'.imp And.right id) outside

variable (lower) in
/-- The rest of `SetSampleInterval` once the collector has the interval. -/
theorem Synced.interval_rest (h : e.Synced) (sampleIntervalMs : Nat) (outside : Outside)
    (hinterval : max 500 (min sampleIntervalMs 5000)=sampleIntervalMs) :
    let s := (e.store.noteHeartbeat outside.nowMs).setSampleInterval lower sampleIntervalMs
      outside.answers
    (persist
      { e with
        store := publishReply s outside
        collector := { e.collector with intervalMs := sampleIntervalMs } }
      outside.persists).Synced := by
  intro s
  have hpublished := Store.publishSnapshotOnly_controls lower
    { e.store.noteHeartbeat outside.nowMs with
      settings := { e.store.settings with
        sampleIntervalMs := max 500 (min sampleIntervalMs 5000) } } outside.answers
  have hsettings : (publishReply s outside).settings=
      { e.store.settings with sampleIntervalMs := max 500 (min sampleIntervalMs 5000) } :=
    (publishReply_settings s outside).trans hpublished.settings
  refine ⟨⟨?_,?_⟩,h.queue,⟨h.counted.revision,h.counted.published⟩,h.last⟩
  · exact (congrArg RuntimeSettings.paused hsettings).trans h.agrees.paused
  · exact (congrArg RuntimeSettings.sampleIntervalMs hsettings).trans hinterval

theorem clamp_clamp (n : Nat) : max 500 (min (max 500 (min n 5000)) 5000)=max 500 (min n 5000) := by
  omega

theorem heartbeat_interval (s : Store) (nowMs : Nat) :
    (s.noteHeartbeat nowMs).settings.sampleIntervalMs=s.settings.sampleIntervalMs := rfl

variable (lower) in
/-- The collector is not asked for the interval that it has. -/
theorem Synced.same_interval (h : e.Synced) {sampleIntervalMs : Nat}
    (hsame : max 500 (min sampleIntervalMs 5000)=e.store.settings.sampleIntervalMs)
    (answer : CollectorLoop.Answer) (outside : Outside) :
    Kept e (e.setSampleInterval lower sampleIntervalMs answer outside) := by
  have hrest := h.interval_rest lower (max 500 (min sampleIntervalMs 5000)) outside
    (clamp_clamp sampleIntervalMs)
  have hcollector : { e.collector with intervalMs := max 500 (min sampleIntervalMs 5000) }=
      e.collector := by rw [hsame,h.agrees.sampleIntervalMs]
  rw [hcollector] at hrest
  simp only [Engine.setSampleInterval]
  rw [heartbeat_interval,if_neg (not_not_intro hsame)]
  exact ⟨hrest.agrees,.inr hrest⟩

variable (lower) in
theorem Synced.setSampleInterval (h : e.Synced) (sampleIntervalMs : Nat)
    {answer : CollectorLoop.Answer} (hanswer : answer≠.timeout) (outside : Outside) :
    Kept e (e.setSampleInterval lower sampleIntervalMs answer outside) := by
  by_cases hsame : max 500 (min sampleIntervalMs 5000)=e.store.settings.sampleIntervalMs
  · exact h.same_interval lower hsame answer outside
  · have hrest := h.interval_rest lower (max 500 (min sampleIntervalMs 5000)) outside
      (clamp_clamp sampleIntervalMs)
    simp only [Engine.setSampleInterval]
    rw [heartbeat_interval,if_pos hsame]
    cases CollectorLoop.call_cases h.queue (.setInterval (max 500 (min sampleIntervalMs 5000)))
        hanswer with
    | inl hrefused =>
      obtain ⟨error,hcall⟩ := hrefused
      rw [hcall]
      exact ⟨.inr ⟨rfl,rfl,rfl,rfl⟩,
        .inr ⟨⟨h.agrees.paused,h.agrees.sampleIntervalMs⟩,h.queue,h.counted,h.last⟩⟩
    | inr hserved =>
      obtain ⟨hfatal,work,hcall⟩ := hserved
      rw [CollectorLoop.serve_live hfatal,if_neg (ne_true_of_eq_false hfatal)] at hcall
      rw [hcall]
      exact ⟨hrest.agrees,.inr hrest⟩

variable (lower sha256) in
theorem request_kept (h : e.ended=true ∨ e.Synced) {request : ControlRequest}
    {answer : CollectorLoop.Answer} (hsmooth : e.ended=false → Smooth e request answer)
    (outside : Outside) : Kept e (e.request lower sha256 request answer outside) := by
  rw [Engine.request.eq_def]
  cases hended : e.ended with
  | true =>
    rw [if_pos rfl]
    exact ⟨.inl hended,.inl hended⟩
  | false =>
    rw [if_neg Bool.false_ne_true]
    have hsmooth := hsmooth hended
    have hsynced : e.Synced := h.resolve_left (ne_true_of_eq_false hended)
    cases request with
    | pause => exact hsynced.pause lower sha256 hsmooth.1 outside
    | resume => exact hsynced.resume lower sha256 hsmooth outside
    | setSampleInterval sampleIntervalMs =>
      exact hsynced.setSampleInterval lower sampleIntervalMs hsmooth.1 outside

/-- A change of the settings that the collector does not know of. -/
theorem Synced.of_settings (h : e.Synced) {s : Store} {persists : Bool}
    (hpaused : s.settings.paused=e.store.settings.paused)
    (hinterval : s.settings.sampleIntervalMs=e.store.settings.sampleIntervalMs) :
    (persist { e with store := s } persists).Synced :=
  ⟨⟨hpaused.trans h.agrees.paused,hinterval.trans h.agrees.sampleIntervalMs⟩,h.queue,h.counted,
    h.last⟩

/-- An engine that has ended stays so. -/
theorem step_ended (h : e.ended=true) (event : Event) : (e.step lower sha256 event).ended=true := by
  cases event with
  | request request answer outside =>
    rw [step,Engine.request.eq_def,if_pos h]
    exact h
  | turn heartbeat work => exact h
  | serve work =>
    rw [step]
    split
    · exact h
    · exact h
  | apply publication answers =>
    rw [step,if_pos (.inl h)]
    exact h
  | setQuery query intent outside =>
    rw [step,if_pos h]
    exact h
  | setUiPreferences preferences outside =>
    rw [step,if_pos h]
    exact h

variable (lower sha256) in
/-- Everything but a request keeps the loops in step. -/
theorem Synced.step (h : e.Synced) {event : Event}
    (hother : ∀ request answer outside, event≠.request request answer outside) :
    (e.step lower sha256 event).Synced := by
  cases event with
  | request request answer outside => exact absurd rfl (hother request answer outside)
  | turn heartbeat work =>
    have hturned := h.counted.turn heartbeat work
    exact ⟨⟨h.agrees.paused.trans hturned.paused.symm,
      h.agrees.sampleIntervalMs.trans hturned.intervalMs.symm⟩,hturned.queue.trans h.queue,
      hturned.counted,h.last.trans hturned.revision⟩
  | serve work =>
    rw [Engine.step,h.queue]
    exact h
  | apply publication answers =>
    rw [Engine.step]
    split
    · exact h
    · next hguard =>
      have hold := Nat.le_of_not_lt (not_or.1 hguard).2
      exact h.of_applied (applied lower sha256 publication answers hold h.last)
  | setQuery query intent outside =>
    rw [Engine.step]
    split
    · exact h
    · refine h.of_settings ?_ ?_
      · rw [publishReply_settings,Store.setQueryWithIntent_settings]
        rfl
      · rw [publishReply_settings,Store.setQueryWithIntent_settings]
        rfl
  | setUiPreferences preferences outside =>
    rw [Engine.step]
    split
    · exact h
    · refine h.of_settings ?_ ?_
      · rw [publishReply_settings,Store.setUiPreferences_settings]
        rfl
      · rw [publishReply_settings,Store.setUiPreferences_settings]
        rfl

variable (lower sha256) in
/-- However the collector answers, a request other than a resumption is atomic by itself. -/
theorem unanswered_atomic (h : e.Synced) {request : ControlRequest} (hrequest : request≠.resume)
    (answer : CollectorLoop.Answer) (outside : Outside) :
    Atomic e (e.request lower sha256 request answer outside) := by
  by_cases hanswer : answer=.timeout
  · subst hanswer
    rw [Engine.request.eq_def]
    split
    · next hended => exact .inl hended
    · cases request with
      | pause => exact .inr ⟨rfl,rfl,rfl,rfl⟩
      | resume => exact absurd rfl hrequest
      | setSampleInterval sampleIntervalMs =>
        by_cases hsame : max 500 (min sampleIntervalMs 5000)=e.store.settings.sampleIntervalMs
        · exact (h.same_interval lower hsame .timeout outside).atomic
        · simp only [Engine.setSampleInterval]
          rw [heartbeat_interval,if_pos hsame]
          exact .inr ⟨rfl,rfl,rfl,rfl⟩
  · have hsmooth : Smooth e request answer := ⟨hanswer,fun heq => absurd heq hrequest⟩
    exact (request_kept lower sha256 (.inr h) (fun _ => hsmooth) outside).atomic

variable (lower sha256) in
/-- A run without a request has nothing to be atomic. -/
theorem atomic_of_no_request {events : List Event} (h : ∀ event∈events, event.isRequest=false) :
    RunAtomic lower sha256 e events := by
  induction events generalizing e with
  | nil => exact trivial
  | cons event events ih =>
    refine ⟨?_,ih (fun later hlater => h later (List.mem_cons_of_mem _ hlater))⟩
    have hother := h event List.mem_cons_self
    split
    · cases hother
    · trivial

variable (lower sha256) in
theorem RunSmooth.atomic (h : e.ended=true ∨ e.Synced) {events : List Event}
    (hsmooth : RunSmooth lower sha256 e events) : RunAtomic lower sha256 e events := by
  induction events generalizing e with
  | nil => exact trivial
  | cons event events ih =>
    obtain ⟨hevent,hrest⟩ := hsmooth
    by_cases hrequest : ∃ request answer outside, event=.request request answer outside
    · obtain ⟨request,answer,outside,hrequest⟩ := hrequest
      subst hrequest
      by_cases hlast : e.ended=false ∧ LastRequest request events
      · have hsynced := h.resolve_left (ne_true_of_eq_false hlast.1)
        exact ⟨unanswered_atomic lower sha256 hsynced hlast.2.1 answer outside,
          atomic_of_no_request lower sha256 hlast.2.2⟩
      · have hkept := request_kept lower sha256 h
          (fun hlive => (hevent hlive).resolve_right (fun hl => hlast ⟨hlive,hl⟩)) outside
        exact ⟨hkept.atomic,ih hkept.synced hrest⟩
    · have hother : ∀ request answer outside, event≠.request request answer outside := by
        intro request answer outside heq
        exact hrequest ⟨request,answer,outside,heq⟩
      refine ⟨?_,ih ?_ hrest⟩
      · split
        · exact absurd rfl (hother _ _ _)
        · trivial
      · exact h.imp (fun hended => step_ended hended event)
          (fun hsynced => hsynced.step lower sha256 hother)

variable (lower sha256) in
/-- A pause that was not answered in time is served late: the collector is paused then, and the
sampling loop has not heard of it. -/
theorem late_pause (hended : e.ended=false) (hlive : e.collector.fatal=false)
    (hqueue : e.collector.queue=[]) (outside : Outside) (work : Work) :
    let late := (e.request lower sha256 .pause .timeout outside).2.step lower sha256 (.serve work)
    late.collector.paused=true ∧ late.store=e.store ∧ late.persisted=e.persisted := by
  have hcall : (e.request lower sha256 .pause .timeout outside).2=
      { e with collector := { e.collector with queue := [.pause] } } := by
    rw [Engine.request.eq_def,if_neg (ne_true_of_eq_false hended)]
    simp only [Engine.pause,CollectorLoop.call,hqueue,List.nil_append]
  intro late
  have hlate : late={ e with collector := { e.collector with queue := [], paused := true } } := by
    change Engine.step lower sha256 _ (.serve work)=_
    rw [hcall,Engine.step]
    simp only [CollectorLoop.serve,hlive,Bool.false_eq_true,if_false]
  rw [hlate]
  exact ⟨rfl,rfl,rfl⟩

theorem synced_start (s : Store) (persisted : RuntimeSettings)
    (hinterval : max 500 (min s.settings.sampleIntervalMs 5000)=s.settings.sampleIntervalMs) :
    (start s persisted).Synced := by
  refine ⟨⟨rfl,hinterval.symm⟩,rfl,⟨Nat.zero_le _,?_⟩,Nat.zero_le _⟩
  intro publication hpublication
  cases hpublication

/-- In a run of the two loops in which no control but a last one times out and every resumption
is answered by the collector or has nothing to change, every control request is atomic. -/
theorem controls_atomic (lower : Lowercase) (sha256 : List UInt8 → List UInt8)
    (provenance : RuntimeProvenance) (settings persisted : RuntimeSettings) (seq : Nat)
    (rows : List ProcessSample) (answers : Answers) (events : List Event)
    (hsmooth : RunSmooth lower sha256
      (start (Store.fromWarmCache lower sha256 provenance settings seq rows answers) persisted)
      events) :
    RunAtomic lower sha256
      (start (Store.fromWarmCache lower sha256 provenance settings seq rows answers) persisted)
      events := by
  have hsettings : (Store.fromWarmCache lower sha256 provenance settings seq rows
      answers).settings=normalizeSettings settings := rfl
  refine hsmooth.atomic lower sha256 (.inr (synced_start _ persisted ?_))
  rw [hsettings]
  exact clamp_clamp settings.sampleIntervalMs

def measuredWork : Work := ⟨.sample mixedSample,5000,0.0,⟨0,0,0.0⟩⟩

def desktopOutside : Outside where
  nowMs := 5000
  persists := true
  latest := ⟨5000,desktopAnswers 5000,desktopAnswers 5000,desktopAnswers 5000,0.0⟩
  answers := desktopAnswers 5000
  measured := desktopAnswers 5000
  publicationLatencyMs := 0.0

def desktopStart (settings : RuntimeSettings) : Engine :=
  start (Store.fromWarmCache .ascii id linuxProvenance settings 0 [] (desktopAnswers 1)) settings

/-- A pause, a resumption and another interval, which the collector is late to serve. -/
def desktopEvents : List Event :=
  [.request .pause (.served measuredWork) desktopOutside,
    .request .resume (.served measuredWork) desktopOutside,
    .request (.setSampleInterval 3000) .timeout desktopOutside,.serve measuredWork]

theorem requests_atomic : RunSmooth .ascii id (desktopStart {}) desktopEvents ∧
    RunAtomic .ascii id (desktopStart {}) desktopEvents := by
  have hlast : LastRequest (.setSampleInterval 3000) [.serve measuredWork] :=
    ⟨by simp,List.forall_mem_singleton.mpr rfl⟩
  have hsmooth : RunSmooth .ascii id (desktopStart {}) desktopEvents :=
    ⟨fun _ => .inl ⟨nofun,nofun⟩,fun _ => .inl ⟨nofun,fun _ => .inl ⟨rfl,by decide⟩⟩,
      fun _ => .inr hlast,trivial,trivial⟩
  exact ⟨hsmooth,controls_atomic .ascii id linuxProvenance {} {} 0 [] (desktopAnswers 1) _ hsmooth⟩

/-- A resumption that the collector is too busy for is refused, and still the store runs and
keeps that it does. -/
theorem busy_resume_not_atomic :
    ¬RunAtomic .ascii id (desktopStart { paused := true })
      [.request .resume .busy desktopOutside] := by
  intro hatomic
  cases hatomic.1 with
  | inl hended => cases hended
  | inr hunchanged => cases hunchanged.paused

end Engine
end BatCave.RuntimeStore
