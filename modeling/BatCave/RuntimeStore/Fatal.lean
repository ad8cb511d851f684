import BatCave.ProcessView.Members
import BatCave.RuntimeStore.Views

/-! What is published once sampling has failed. A store that still runs holds what it keeps
and builds its snapshot again; after a panic the last snapshot is marked in place. Neither
shows a value as live that nobody measures any more. -/
namespace BatCave.RuntimeStore
open BatCave.Contracts BatCave.ProcessView BatCave.Lib BatCave.Lib.Word BatCave.Lib.Text

/-- `publish_fatal_from_latest`: what replaces the snapshot that readers got last. -/
def publishFatalFromLatest (current : RuntimeSnapshot) (code message : String)
    (occurredAtMs : Nat) : RuntimeSnapshot :=
  let snapshot := holdSnapshot occurredAtMs current
  let publishedAtMs := max occurredAtMs (snapshot.sampledAtMs.getD 0)
  { snapshot with
    publicationSeq := satAdd snapshot.publicationSeq 1
    publishedAtMs := publishedAtMs
    health := { snapshot.health with
      engineState := some .fatal
      collectorState := some .unavailable
      degraded := true
      statusSummary := fatalSummary
      updatedAtMs := publishedAtMs
      fatalError := some ⟨code,message,publishedAtMs⟩ } }

/-- A mark after a failure: what was unavailable still is, everything else is held since the
time it was observed. -/
def HeldFrom (sampledAtMs : Nat) (before after : MetricQualityInfo) : Prop :=
  if before.quality=.unavailable then after=before
  else after.quality=.held ∧ after.limitationCode=some .heldValue ∧
    after.updatedAtMs=some (before.updatedAtMs.getD sampledAtMs)

def processMetrics : List (ProcessMetricQuality → Option MetricQualityInfo) :=
  [(·.cpu),(·.memory),(·.io),(·.otherIo),(·.network),(·.threads),(·.handles)]

def systemMetrics : List (SystemMetricQuality → Option MetricQualityInfo) :=
  [(·.cpu),(·.kernelCpu),(·.logicalCpu),(·.memory),(·.swap),(·.disk),(·.network)]

def groupQuality (quality : GroupMetricQuality) : GroupMetric → MetricQualityInfo
  | .cpu => quality.cpu
  | .memory => quality.memory
  | .io => quality.io
  | .otherIo => quality.otherIo
  | .network => quality.network
  | .threads => quality.threads

def ProcessHeld (sampledAtMs : Nat) (before after : ProcessSample) : Prop :=
  ∀ metric∈processMetrics,
    Option.Rel (HeldFrom sampledAtMs) (before.quality.bind metric) (after.quality.bind metric)

def SystemHeld (sampledAtMs : Nat) (before after : SystemMetricsSnapshot) : Prop :=
  ∀ metric∈systemMetrics,
    Option.Rel (HeldFrom sampledAtMs) (before.quality.bind metric) (after.quality.bind metric)

section Marks
variable {sampledAtMs heldAtMs : Nat}

theorem holdMetric_held (quality : MetricQualityInfo) :
    HeldFrom sampledAtMs quality (holdMetric sampledAtMs heldAtMs quality) := by
  by_cases h : quality.quality=.unavailable
  · simp [HeldFrom,holdMetric,h]
  · simp [HeldFrom,holdMetric,h]

theorem HeldFrom.not_live {before after : MetricQualityInfo}
    (h : HeldFrom sampledAtMs before after) :
    liveQuality after=false := by
  rw [HeldFrom] at h
  split at h
  · next hu => simp [h,liveQuality,hu]
  · simp [liveQuality,h.1]

theorem map_holdMetric_held (quality : Option MetricQualityInfo) :
    Option.Rel (HeldFrom sampledAtMs) quality
      (quality.map (holdMetric sampledAtMs heldAtMs)) := by
  cases quality with
  | none => exact .none
  | some quality => exact .some (holdMetric_held quality)

theorem holdProcess_held (process : ProcessSample) :
    ProcessHeld sampledAtMs process (holdProcess sampledAtMs heldAtMs process) := by
  intro metric hmetric
  cases hq : process.quality with
  | none =>
    simp only [holdProcess,hq,Option.map_none,Option.bind_none]
    exact .none
  | some quality =>
    simp only [holdProcess,hq,Option.map_some,Option.bind_some]
    simp only [processMetrics,List.mem_cons,List.not_mem_nil,or_false] at hmetric
    obtain rfl | rfl | rfl | rfl | rfl | rfl | rfl := hmetric <;> exact map_holdMetric_held _

theorem holdSystem_held (system : SystemMetricsSnapshot) :
    SystemHeld sampledAtMs system (holdSystem sampledAtMs heldAtMs system) := by
  intro metric hmetric
  cases hq : system.quality with
  | none =>
    simp only [holdSystem,hq,Option.map_none,Option.bind_none]
    exact .none
  | some quality =>
    simp only [holdSystem,hq,Option.map_some,Option.bind_some]
    simp only [systemMetrics,List.mem_cons,List.not_mem_nil,or_false] at hmetric
    obtain rfl | rfl | rfl | rfl | rfl | rfl | rfl := hmetric <;> exact map_holdMetric_held _

theorem rel_not_live {before after : Option MetricQualityInfo}
    (h : Option.Rel (HeldFrom sampledAtMs) before after) {quality : MetricQualityInfo}
    (hq : after=some quality) : liveQuality quality=false := by
  cases h with
  | none => cases hq
  | some h =>
    cases hq
    exact h.not_live

/-- No metric of a held process is live any more. -/
theorem ProcessHeld.not_live {before after : ProcessSample}
    (h : ProcessHeld sampledAtMs before after)
    {metric : ProcessMetricQuality → Option MetricQualityInfo} (hm : metric∈processMetrics)
    {quality : MetricQualityInfo} (hq : after.quality.bind metric=some quality) :
    liveQuality quality=false := rel_not_live (h metric hm) hq

end Marks

section Panic

def RowHeld (sampledAtMs : Nat) (before after : ProcessViewRow) : Prop :=
  match before,after with
  | .process detail _ _ _ _ _ _ _ _,.process detail' _ _ _ _ _ _ _ _ =>
    ProcessHeld sampledAtMs detail.process detail'.process
  | .group detail _ _ _ _,.group detail' _ _ _ _ =>
    ∀ metric, HeldFrom sampledAtMs (groupQuality detail.quality metric)
      (groupQuality detail'.quality metric)
  | _,_ => False

theorem holdRow_held {sampledAtMs heldAtMs : Nat} (row : ProcessViewRow) :
    RowHeld sampledAtMs row (holdRow sampledAtMs heldAtMs row) := by
  cases row with
  | process detail => exact holdProcess_held detail.process
  | group detail =>
    intro metric
    cases metric <;> exact holdMetric_held _

def contributors (summary : ProcessContributorSummary) : List ProcessContributor :=
  [summary.cpu,summary.memory,summary.io,summary.network]

/-- What a snapshot that was marked in place says of every metric outside its overview. -/
structure MarkedInPlace (sampledAtMs : Nat) (before after : RuntimeSnapshot) : Prop where
  system : SystemHeld sampledAtMs before.system after.system
  processes : List.Forall₂ (ProcessHeld sampledAtMs) before.processes after.processes
  rows : List.Forall₂ (RowHeld sampledAtMs) before.processViewRows after.processViewRows
  contributors : List.Forall₂ (fun contributor contributor' =>
      Option.Rel (HeldFrom sampledAtMs) contributor.quality contributor'.quality)
    (contributors before.processContributors) (contributors after.processContributors)

theorem forall₂_map {α : Type} {R : α → α → Prop} {f : α → α} (h : ∀ a, R a (f a)) (xs : List α) :
    List.Forall₂ R xs (xs.map f) := by
  induction xs with
  | nil => exact .nil
  | cons x xs ih => exact .cons (h x) ih

theorem markedInPlace_publishFatal {current : RuntimeSnapshot} {sampledAtMs : Nat}
    (h : current.sampledAtMs=some sampledAtMs) (code message : String) (occurredAtMs : Nat) :
    MarkedInPlace sampledAtMs current
      (publishFatalFromLatest current code message occurredAtMs) := by
  simp only [publishFatalFromLatest,holdSnapshot,h]
  refine ⟨holdSystem_held _,forall₂_map holdProcess_held _,forall₂_map holdRow_held _,?_⟩
  exact forall₂_map (f := holdContributor sampledAtMs occurredAtMs)
    (fun contributor => map_holdMetric_held contributor.quality)
    (contributors current.processContributors)

end Panic

section Aggregates
variable {processes : List ProcessSample} {metric : GroupMetric}

def reports (processes : List ProcessSample) (metric : GroupMetric) (quality : MetricQuality) :
    Prop :=
  ∃ process∈processes, ∃ info, groupMetricQuality process metric=some info ∧ info.quality=quality

/-- An aggregate over members that are all held or unavailable is no longer live, except
that it counts as partial when a member says nothing of the metric, or when some members
are held and others unavailable. -/
def GroupHeld (processes : List ProcessSample) (metric : GroupMetric)
    (quality : MetricQualityInfo) : Prop :=
  liveQuality quality=true → quality.quality=.partialQuality ∧
    ((∃ process∈processes, groupMetricQuality process metric=none) ∨
      (reports processes metric .held ∧ reports processes metric .unavailable))

theorem groupMetric_accessor (metric : GroupMetric) : ∃ accessor∈processMetrics,
    ∀ process, groupMetricQuality process metric=process.quality.bind accessor := by
  cases metric with
  | cpu => exact ⟨(·.cpu),by simp [processMetrics],fun _ => rfl⟩
  | memory => exact ⟨(·.memory),by simp [processMetrics],fun _ => rfl⟩
  | io => exact ⟨(·.io),by simp [processMetrics],fun _ => rfl⟩
  | otherIo => exact ⟨(·.otherIo),by simp [processMetrics],fun _ => rfl⟩
  | network => exact ⟨(·.network),by simp [processMetrics],fun _ => rfl⟩
  | threads => exact ⟨(·.threads),by simp [processMetrics],fun _ => rfl⟩

theorem not_live_cases {quality : MetricQualityInfo} (h : liveQuality quality=false) :
    quality.quality=.held ∨ quality.quality=.unavailable := by
  cases hq : quality.quality <;> simp_all [liveQuality]

/-- A member whose quality is not the one asked for has the other one. -/
theorem reports_other {quality : MetricQuality} (hq : quality=.held ∨ quality=.unavailable)
    (hdead : ∀ info∈reportedQualities processes metric, liveQuality info=false)
    (hnot : ((reportedQualities processes metric).map MetricQualityInfo.quality).all
      (· ==quality)=false) :
    reports processes metric (if quality=.held then .unavailable else .held) := by
  rw [List.all_eq_false] at hnot
  obtain ⟨other,hother,hne⟩ := hnot
  obtain ⟨info,hinfo,rfl⟩ := List.mem_map.mp hother
  obtain ⟨process,hprocess,hreported⟩ := List.mem_filterMap.mp hinfo
  refine ⟨process,hprocess,info,hreported,?_⟩
  have hcases := not_live_cases (hdead info hinfo)
  obtain rfl | rfl := hq
  · obtain h | h := hcases
    · simp [h] at hne
    · simpa using h
  · obtain h | h := hcases
    · simpa using h
    · simp [h] at hne

theorem exists_unreported
    (h : 0 < processes.length-(reportedQualities processes metric).length) :
    ∃ process∈processes, groupMetricQuality process metric=none := by
  by_contra hnone
  have hlength : (reportedQualities processes metric).length=processes.length := by
    rw [reportedQualities,List.length_filterMap_eq_countP,List.countP_eq_length]
    intro process hprocess
    exact Option.isSome_iff_ne_none.mpr (fun h => hnone ⟨process,hprocess,h⟩)
  omega

theorem groupMetricSummary_held
    (hdead : ∀ process∈processes, ∀ info, groupMetricQuality process metric=some info →
      liveQuality info=false) :
    GroupHeld processes metric (groupMetricSummary processes metric).1 := by
  have hreported : ∀ info∈reportedQualities processes metric, liveQuality info=false := by
    intro info hinfo
    obtain ⟨process,hprocess,h⟩ := List.mem_filterMap.mp hinfo
    exact hdead process hprocess info h
  have hnone : availableCount processes metric=0 := by
    rw [availableCount,List.countP_eq_zero]
    intro process hprocess havailable
    simp only [groupMetricAvailable,Bool.and_eq_true,Option.any_eq_true_iff_get] at havailable
    obtain ⟨_,hsome,hquality⟩ := havailable
    have hcases := not_live_cases (hdead process hprocess _ (Option.some_get hsome).symm)
    simp_all
  intro hlive
  have hquality : (groupMetricSummary processes metric).1.quality=summaryQuality processes metric :=
    rfl
  rw [liveQuality,hquality] at hlive
  rw [hquality]
  simp only [summaryQuality,hnone] at hlive ⊢
  split at hlive
  · simp at hlive
  · next hvalue =>
    simp only [if_neg hvalue,if_true] at hlive ⊢
    split at hlive
    · next hmissing =>
      rw [List.length_map] at hmissing
      exact ⟨if_pos (by simpa using hmissing),.inl (exists_unreported hmissing)⟩
    · next hmissing =>
      split at hlive
      · simp at hlive
      · next hheld =>
        split at hlive
        · simp at hlive
        · next hunavailable =>
          simp only [Bool.not_eq_true] at hheld hunavailable
          refine ⟨by simp [hheld,hunavailable],.inr ⟨?_,?_⟩⟩
          · exact reports_other (.inr rfl) hreported hunavailable
          · exact reports_other (.inl rfl) hreported hheld

end Aggregates

section Rebuilt

/-- The process is one that the store kept, held. -/
def Kept (sampledAtMs : Nat) (previous : List ProcessSample) (process : ProcessSample) : Prop :=
  ∃ before∈previous, ProcessHeld sampledAtMs before process

/-- A row of a snapshot that was built from held processes. -/
def RebuiltRow (sampledAtMs : Nat) (previous : List ProcessSample) (groups : List ProcessAppGroup) :
    ProcessViewRow → Prop
  | .process detail _ _ _ _ _ _ _ _ => Kept sampledAtMs previous detail.process
  | .group detail _ _ _ _ => ∃ group∈groups, detail.groupKey=group.key ∧
      (∀ process∈group.processes, Kept sampledAtMs previous process) ∧
      ∀ metric, GroupHeld group.processes metric (groupQuality detail.quality metric)

/-- What the snapshot of a store that holds its telemetry says of every metric. -/
structure RebuiltHeld (sampledAtMs : Nat) (before after : Store) : Prop where
  system : SystemHeld sampledAtMs before.snapshot.system after.snapshot.system
  processes : ∀ process∈after.snapshot.processes,
    Kept sampledAtMs before.previousProcesses process
  rows : ∀ row∈after.snapshot.processViewRows++after.snapshot.overviewRows,
    RebuiltRow sampledAtMs before.previousProcesses after.processGroups row
  contributors : ∀ contributor∈contributors after.snapshot.processContributors, ∀ quality,
    contributor.quality=some quality → liveQuality quality=false

variable {lower : Lowercase} {sha256 : List UInt8 → List UInt8} {sampledAtMs : Nat}
  {previous : List ProcessSample}

theorem Kept.groupMetric_not_live {process : ProcessSample} (h : Kept sampledAtMs previous process)
    {metric : GroupMetric} {info : MetricQualityInfo}
    (hinfo : groupMetricQuality process metric=some info) : liveQuality info=false := by
  obtain ⟨before,_,hheld⟩ := h
  obtain ⟨accessor,haccessor,heq⟩ := groupMetric_accessor metric
  rw [heq] at hinfo
  exact hheld.not_live haccessor hinfo

theorem groupQuality_groupDetail (group : ProcessAppGroup) (metric : GroupMetric) :
    groupQuality (groupDetail group).quality metric=
      (groupMetricSummary group.processes metric).1 := by
  cases metric <;> rfl

theorem rebuiltRow_of_standsFor {groups : List ProcessAppGroup} {group : ProcessAppGroup}
    (hgroup : group∈groups)
    (hkept : ∀ process∈group.processes, Kept sampledAtMs previous process)
    {row : ProcessViewRow} (h : StandsFor lower group row) :
    RebuiltRow sampledAtMs previous groups row := by
  obtain rfl | ⟨process,hprocess,rfl⟩ := h
  · refine ⟨group,hgroup,rfl,hkept,?_⟩
    intro metric
    rw [groupQuality_groupDetail]
    exact groupMetricSummary_held
      (fun process hprocess info hinfo => (hkept process hprocess).groupMetric_not_live hinfo)
  · exact hkept process hprocess

/-- The values that a row shows say nothing of its qualities. -/
theorem rebuiltRow_display {groups : List ProcessAppGroup} {display : ValuesByWorkload}
    {row : ProcessViewRow} (h : RebuiltRow sampledAtMs previous groups row) :
    RebuiltRow sampledAtMs previous groups (displayRow display row) := by
  cases row with
  | process detail =>
    simp only [displayRow,RebuiltRow]
    split
    · exact h
    · exact h
  | group detail =>
    simp only [displayRow,RebuiltRow]
    split
    · exact h
    · exact h

/-- Without a live process there is nobody to name, and the summary is not live either. -/
theorem topProcessContributor_not_live {τ : Type} {cmp : τ → τ → Ordering} {zero : τ}
    {value : ProcessSample → τ} {accessor : ProcessSample → Option MetricQualityInfo}
    {processes : List ProcessSample} {label : String}
    (hdead : ∀ process∈processes, ∀ info, accessor process=some info → liveQuality info=false)
    {quality : MetricQualityInfo}
    (h : (topProcessContributor processes cmp zero value accessor label).quality=some quality) :
    liveQuality quality=false := by
  have hnone : processes.filter (contributes accessor)=[] := by
    rw [List.filter_eq_nil_iff]
    intro process hprocess hcontributes
    simp only [contributes,Option.any_eq_true_iff_get] at hcontributes
    obtain ⟨hsome,hpublishable⟩ := hcontributes
    have hcases := not_live_cases (hdead process hprocess _ (Option.some_get hsome).symm)
    simp only [contributorQualityIsPublishable,Option.any_some,Bool.not_eq_true',
      decide_eq_false_iff_not] at hpublishable
    exact hpublishable hcases.symm
  simp only [topProcessContributor,hnone,maxBy,Option.filter_none,
    processContributorCoverageQuality] at h
  split at h
  · cases h
  · obtain ⟨process,hprocess,hq⟩ := List.mem_filterMap.mp (mem_of_maxBy h)
    exact hdead process hprocess quality hq

/-- A publication from held processes and views that are up to date. -/
theorem publishSnapshotOnly_rebuilt {s t : Store} (hcoherent : Store.Coherent lower sha256 t)
    (hkept : ∀ process∈t.previousProcesses, Kept sampledAtMs s.previousProcesses process)
    (hsystem : SystemHeld sampledAtMs s.snapshot.system t.snapshot.system) (answers : Answers) :
    RebuiltHeld sampledAtMs s (t.publishSnapshotOnly lower answers) := by
  have hgroup : ∀ group∈t.processGroups, ∀ process∈group.processes,
      Kept sampledAtMs s.previousProcesses process := by
    intro group hg process hprocess
    rw [hcoherent.groups] at hg
    exact hkept process (mem_of_mem_group hg hprocess)
  have hemitted : ∀ query attention, ∀ row∈emitProcessView lower t.processGroups query attention,
      RebuiltRow sampledAtMs s.previousProcesses t.processGroups row := by
    intro query attention row hrow
    obtain ⟨group,hg,hstands⟩ := mem_emitProcessView hrow
    exact rebuiltRow_of_standsFor hg (hgroup group hg) hstands
  refine ⟨hsystem,?_,?_,?_⟩
  · intro process hprocess
    exact hkept process (mem_of_mem_shapeRows hprocess)
  · intro row hrow
    cases List.mem_append.mp hrow with
    | inl hview =>
      obtain ⟨shown,hshown,rfl⟩ := List.mem_map.mp hview
      have hviews : Store.currentProcessViewRows lower t=
          emitProcessView lower t.processGroups t.settings.query t.attentionMembers :=
        hcoherent.currentProcessViewRows
      exact rebuiltRow_display (hemitted _ _ shown (hviews ▸ hshown))
    | inr hoverview =>
      obtain ⟨shown,hshown,rfl⟩ := List.mem_map.mp hoverview
      have hfull : shown∈t.fullViewRows := mem_of_mem_overview hshown
      rw [hcoherent.rows] at hfull
      exact rebuiltRow_display (hemitted _ _ shown hfull)
  · have hdead : ∀ metric : GroupMetric, ∀ process∈t.previousProcesses, ∀ info,
        groupMetricQuality process metric=some info → liveQuality info=false := by
      intro metric process hprocess info hinfo
      exact (hkept process hprocess).groupMetric_not_live hinfo
    intro contributor hcontributor quality hquality
    simp only [contributors,List.mem_cons,List.not_mem_nil,or_false] at hcontributor
    obtain rfl | rfl | rfl | rfl := hcontributor
    · exact topProcessContributor_not_live (hdead .cpu) hquality
    · exact topProcessContributor_not_live (hdead .memory) hquality
    · exact topProcessContributor_not_live (hdead .io) hquality
    · exact topProcessContributor_not_live (hdead .network) hquality

variable (lower sha256) in
theorem holdRetainedTelemetry_held (s : Store) (hs : s.sampledAtMs=some sampledAtMs)
    (heldAtMs : Nat) :
    Store.Coherent lower sha256 (s.holdRetainedTelemetry lower sha256 heldAtMs) ∧
      (∀ process∈(s.holdRetainedTelemetry lower sha256 heldAtMs).previousProcesses,
        Kept sampledAtMs s.previousProcesses process) ∧
      SystemHeld sampledAtMs s.snapshot.system
        (s.holdRetainedTelemetry lower sha256 heldAtMs).snapshot.system := by
  rw [Store.holdRetainedTelemetry,hs]
  refine ⟨Store.coherent_rebuild _,?_,holdSystem_held _⟩
  intro process hprocess
  obtain ⟨before,hbefore,rfl⟩ := List.mem_map.mp hprocess
  exact ⟨before,hbefore,holdProcess_held before⟩

/-- Once sampling has failed, what a store publishes shows nothing as live but the aggregates
that count as partial, and what replaces the last snapshot after a panic shows nothing as
live outside its overview. -/
theorem failed_sampling_holds (lower : Lowercase) (sha256 : List UInt8 → List UInt8)
    (code message : String) (occurredAtMs : Nat) :
    (∀ (s : Store) (sampledAtMs : Nat) (answers : Answers), s.sampledAtMs=some sampledAtMs →
      RebuiltHeld sampledAtMs s
        (s.markEngineFatal lower sha256 code message occurredAtMs answers) ∧
      RebuiltHeld sampledAtMs s (s.publishCollectorUnavailable lower sha256 answers)) ∧
    ∀ (current : RuntimeSnapshot) (sampledAtMs : Nat), current.sampledAtMs=some sampledAtMs →
      MarkedInPlace sampledAtMs current
        (publishFatalFromLatest current code message occurredAtMs) := by
  constructor
  · intro s sampledAtMs answers hs
    constructor
    · let marked : Store := { s with
        engineState := .fatal
        collectorState := some .unavailable
        liveProcessSnapshot := false }
      obtain ⟨hcoherent,hkept,hsystem⟩ :=
        holdRetainedTelemetry_held lower sha256 marked hs answers.heldAtMs
      let failed : Store := { marked.holdRetainedTelemetry lower sha256 answers.heldAtMs with
        fatalError := some ⟨code,message,occurredAtMs⟩ }
      have hfailed : Store.Coherent lower sha256 failed :=
        hcoherent.of_same ⟨rfl,rfl,rfl,rfl,rfl,rfl⟩
      exact publishSnapshotOnly_rebuilt (s := s) hfailed hkept hsystem answers
    · let marked : Store := { s with
        collectorState := some .unavailable
        liveProcessSnapshot := false }
      obtain ⟨hcoherent,hkept,hsystem⟩ :=
        holdRetainedTelemetry_held lower sha256 marked hs answers.heldAtMs
      exact publishSnapshotOnly_rebuilt (s := s) hcoherent hkept hsystem answers
  · intro current sampledAtMs h
    exact markedInPlace_publishFatal h code message occurredAtMs

end Rebuilt

section Mixed

def desktopAnswers (nowMs : Nat) : Answers where
  heldAtMs := nowMs
  healthAtMs := nowMs
  publishedAtMs := nowMs
  warnings := []
  persistence := ⟨.healthy,[],[],0⟩
  appPid := "1"
  collectionLatencyMs := 0.0
  tickP95Ms := 0.0
  sortP95Ms := 0.0
  publicationP95Ms := 0.0

def appProcess (pid : String) (parentPid : Option String) (startTimeMs : Nat)
    (cpu : MetricQualityInfo) : ProcessSample where
  pid := pid
  parentPid := parentPid
  startTimeMs := startTimeMs
  name := "app"
  exe := "/opt/app"
  status := "Running"
  cpuPercent := 1.0
  memoryBytes := 4096
  privateBytes := 4096
  ioReadTotalBytes := 0
  ioWriteTotalBytes := 0
  ioReadBps := 0
  ioWriteBps := 0
  threads := 1
  handles := 1
  accessState := .full
  quality := some { cpu := some cpu }

/-- A process whose CPU time is measured, and its child, of which it cannot be read. -/
def mixedSample : TelemetrySample where
  latencyMs := 0
  collectorState := .healthy
  system := emptySystem
  processes := [appProcess "10" none 1000 (.new .native .procfs),
    appProcess "11" (some "10") 2000
      ((MetricQualityInfo.new .unavailable .procfs).withLimitation .accessDenied "denied")]
  warnings := []
  collectorService := none
  sourceProvenance := none
  batcaveWorkload := none
  standardFallbackProcessEtwDisabled := false

def linuxProvenance : RuntimeProvenance where
  environment := ⟨.linux,false,.notApplicable,.development,none⟩
  adminModeStatus := { state := .unavailable, source := .none }

def mixedStore : Store :=
  (Store.fromWarmCache .ascii id linuxProvenance {} 0 [] (desktopAnswers 1)).applyRawSample .ascii
    id mixedSample 5000 (desktopAnswers 5000)

theorem mixed_store_held : mixedStore.sampledAtMs=some 5000 ∧
    RebuiltHeld 5000 mixedStore (mixedStore.markEngineFatal .ascii id "fatal" "poisoned" 6000
      (desktopAnswers 6000)) ∧
    MarkedInPlace 5000 mixedStore.snapshot
      (publishFatalFromLatest mixedStore.snapshot "fatal" "poisoned" 6000) :=
  ⟨rfl,((failed_sampling_holds .ascii id "fatal" "poisoned" 6000).1 mixedStore 5000
    (desktopAnswers 6000) rfl).1,
    (failed_sampling_holds .ascii id "fatal" "poisoned" 6000).2 mixedStore.snapshot 5000 rfl⟩

def failedMixed : Store :=
  mixedStore.markEngineFatal .ascii id "fatal" "poisoned" 6000 (desktopAnswers 6000)

/-- Every process of the store says how well its CPU time is known, and still the group of
both counts as partial after the failure. -/
theorem mixed_group_stays_partial : mixedStore.sampledAtMs=some 5000 ∧
    (∀ process∈failedMixed.previousProcesses, (cpuQuality process).isSome=true) ∧
    ∃ detail iconKind iconSource exampleLabel label,
      ProcessViewRow.group detail iconKind iconSource exampleLabel label∈
          failedMixed.snapshot.processViewRows ∧
        detail.quality.cpu.quality=.partialQuality := by
  have hgroups : ∃ group∈failedMixed.processGroups, 1 < group.processes.length ∧
      (groupMetricSummary group.processes .cpu).1.quality=.partialQuality := by decide
  obtain ⟨group,hgroup,hmany,hsome⟩ := hgroups
  have hlength : failedMixed.processGroups.length < 2^64 := by decide
  have hfull : queryIsFullView mixedStore.settings.query failedMixed.processGroups.length=true := by
    decide
  have hview : groupRow group∈failedMixed.fullViewRows :=
    groupRow_mem_fullView hlength hgroup hmany _
  have hrows : failedMixed.snapshot.processViewRows=
      applyDisplayValues failedMixed.fullViewRows (displayByWorkload failedMixed.processGroups) :=
    congrArg (fun rows => applyDisplayValues rows (displayByWorkload failedMixed.processGroups))
      (if_pos hfull)
  refine ⟨rfl,by decide,?_⟩
  rw [hrows]
  have hshown := List.mem_map_of_mem (f := displayRow (displayByWorkload failedMixed.processGroups))
    hview
  rw [groupRow,displayRow] at hshown
  refine ⟨_,_,_,_,_,hshown,?_⟩
  split
  · exact hsome
  · exact hsome

end Mixed
end BatCave.RuntimeStore
