import BatCave.RuntimeStore.NetworkRates

/-! Process read and write rates: a rate that is presented as measured continues the counters
of the sample before, and nothing came between the two samples that could break them. -/
namespace BatCave.RuntimeStore
open BatCave.Contracts BatCave.ProcessView BatCave.Lib BatCave.Lib.Text

section Rows

/-- The row goes on with the counters of an earlier one: the same generation, the same known
source, counters that were readable before and have not gone back. -/
structure Continues (before process : ProcessSample) : Prop where
  generation : generation before=generation process
  started : process.startTimeMs≠0
  quality : ∃ earlier later source, ioQuality before=some earlier ∧ ioQuality process=some later ∧
    (liveQuality earlier=true ∨ metricIsPendingBaseline earlier=true) ∧
    earlier.source=some source ∧ later.source=some source
  read : before.ioReadTotalBytes ≤ process.ioReadTotalBytes
  write : before.ioWriteTotalBytes ≤ process.ioWriteTotalBytes

/-- What a row says of its counters, kept when the store pends its quality. -/
structure Stems (process stored : ProcessSample) : Prop where
  generation : generation stored=generation process
  read : stored.ioReadTotalBytes=process.ioReadTotalBytes
  write : stored.ioWriteTotalBytes=process.ioWriteTotalBytes
  quality : ioQuality stored=ioQuality process ∨
    ioQuality stored=(ioQuality process).map
      (pendQuality "Process read/write I/O rates need a fresh prior sample.")

/-- The rates of a row come from an earlier row, or the row has none. -/
inductive IoRates (previousProcesses : List ProcessSample) (baselineIsLive : Bool)
    (elapsedSeconds : Float) (process stored : ProcessSample) : Prop where
  | measured (previous : ProcessSample) (hprevious : previous∈previousProcesses)
      (hlive : baselineIsLive=true) (hcontinues : Continues previous process)
      (hvalid : cumulativeSampleIsValid (ioQuality process)=true)
      (hquality : ioQuality stored=ioQuality process)
      (hread : stored.ioReadBps=
        byteRate process.ioReadTotalBytes previous.ioReadTotalBytes elapsedSeconds)
      (hwrite : stored.ioWriteBps=
        byteRate process.ioWriteTotalBytes previous.ioWriteTotalBytes elapsedSeconds)
  | held (hquality : ioQuality stored=(ioQuality process).map
        (pendQuality "Process read/write I/O rates need a fresh prior sample."))
      (hread : stored.ioReadBps=0) (hwrite : stored.ioWriteBps=0)

variable {previousProcesses : List ProcessSample} {baselineIsLive : Bool} {elapsedSeconds : Float}
  {process stored : ProcessSample}

theorem pendQuality_source (message : String) (quality : MetricQualityInfo) :
    (pendQuality message quality).source=quality.source := by
  rw [pendQuality]
  split
  · rfl
  · rfl

theorem pendQuality_not_live (message : String) (quality : MetricQualityInfo) :
    liveQuality (pendQuality message quality)=false := by
  rw [pendQuality]
  split
  · rfl
  · next h => exact Bool.eq_false_of_not_eq_true h

theorem pendQuality_pending {quality : MetricQualityInfo} (h : liveQuality quality=true)
    (message : String) : metricIsPendingBaseline (pendQuality message quality)=true := by
  rw [pendQuality,if_pos h]
  rfl

/-- Compatible baselines, as the rows show them. -/
theorem cumulativeBaselineIsCompatible_iff {current previous : Option MetricQualityInfo} :
    cumulativeBaselineIsCompatible current previous=true ↔
      ∃ earlier later source, previous=some earlier ∧ current=some later ∧
        liveQuality later=true ∧
        (liveQuality earlier=true ∨ metricIsPendingBaseline earlier=true) ∧
        earlier.source=some source ∧ later.source=some source := by
  cases current with
  | none => simp [cumulativeBaselineIsCompatible]
  | some later =>
    cases previous with
    | none => simp [cumulativeBaselineIsCompatible]
    | some earlier =>
      cases hlater : later.source with
      | none => simp [cumulativeBaselineIsCompatible,hlater]
      | some source =>
        cases hearlier : earlier.source with
        | none => simp [cumulativeBaselineIsCompatible,hlater,hearlier]
        | some other =>
          have hsource : (source==other)=true ↔ other=source := by
            rw [beq_iff_eq]
            exact ⟨Eq.symm,Eq.symm⟩
          simp [cumulativeBaselineIsCompatible,cumulativeSampleIsValid,hlater,hearlier,and_assoc,
            hsource]

theorem previousGeneration_some {previous : ProcessSample}
    (h : previousGeneration previousProcesses baselineIsLive process=some previous) :
    previous∈previousProcesses ∧ baselineIsLive=true ∧ process.startTimeMs≠0 ∧
      generation previous=generation process := by
  rw [previousGeneration] at h
  split at h
  · next hlive =>
    have hmember := List.mem_of_find?_eq_some h
    have hsame := List.find?_some h
    simp only [Bool.and_eq_true,beq_iff_eq] at hsame
    exact ⟨List.mem_reverse.mp hmember,hlive.1,hlive.2,hsame.2⟩
  · cases h

/-- The other rate leaves what the row says of reads and writes. -/
structure SameIo (process process' : ProcessSample) : Prop where
  generation : generation process'=generation process
  readTotal : process'.ioReadTotalBytes=process.ioReadTotalBytes
  writeTotal : process'.ioWriteTotalBytes=process.ioWriteTotalBytes
  read : process'.ioReadBps=process.ioReadBps
  write : process'.ioWriteBps=process.ioWriteBps
  quality : ioQuality process'=ioQuality process

theorem holdProcessOtherIoRateQuality_io (process : ProcessSample) :
    SameIo process (holdProcessOtherIoRateQuality { process with otherIoBps := none }) := by
  refine ⟨rfl,rfl,rfl,rfl,rfl,?_⟩
  simp only [holdProcessOtherIoRateQuality,ioQuality]
  cases process.quality <;> rfl

theorem addOtherIoRate_io (previous : Option ProcessSample) (elapsedSeconds : Float)
    (current process : ProcessSample) :
    SameIo process (addOtherIoRate previous elapsedSeconds current process) := by
  have hcleared : SameIo process { process with otherIoBps := none } := ⟨rfl,rfl,rfl,rfl,rfl,rfl⟩
  have hheld := holdProcessOtherIoRateQuality_io process
  simp only [addOtherIoRate]
  split
  · split
    · exact ⟨rfl,rfl,rfl,rfl,rfl,rfl⟩
    · split
      · exact hheld
      · exact hcleared
  · split
    · exact hheld
    · exact hcleared
  · exact hcleared

theorem holdProcessIoRateQuality_io (process : ProcessSample) :
    ioQuality (holdProcessIoRateQuality process)=(ioQuality process).map
      (pendQuality "Process read/write I/O rates need a fresh prior sample.") := by
  simp only [holdProcessIoRateQuality,ioQuality]
  cases process.quality <;> rfl

/-- A quality that is not valid has nothing to pend. -/
theorem pend_invalid {quality : Option MetricQualityInfo}
    (h : cumulativeSampleIsValid quality=false) (message : String) :
    quality.map (pendQuality message)=quality := by
  cases quality with
  | none => rfl
  | some quality =>
    have hlive : liveQuality quality=false := h
    rw [Option.map_some,pendQuality,if_neg (by rw [hlive]; exact Bool.false_ne_true)]

variable (previousProcesses baselineIsLive elapsedSeconds process) in
/-- What the read and write rates of a row are made of. -/
theorem addIoRates_rates :
    IoRates previousProcesses baselineIsLive elapsedSeconds process
      (addIoRates (previousGeneration previousProcesses baselineIsLive process) elapsedSeconds
        process) := by
  rw [addIoRates]
  split
  · next previous hfilter =>
    obtain ⟨hprevious,hvalid⟩ := Option.filter_eq_some_iff.mp hfilter
    obtain ⟨hmember,hlive,hstarted,hsame⟩ := previousGeneration_some hprevious
    simp only [Bool.and_eq_true,decide_eq_true_eq] at hvalid
    obtain ⟨⟨hcompatible,hread⟩,hwrite⟩ := hvalid
    obtain ⟨earlier,later,source,hearlier,hlater,hvalid,hcounted,hsources⟩ :=
      cumulativeBaselineIsCompatible_iff.mp hcompatible
    have hcontinues : Continues previous process :=
      ⟨hsame,hstarted,⟨earlier,later,source,hearlier,hlater,hcounted,hsources⟩,hread,hwrite⟩
    exact .measured previous hmember hlive hcontinues (by rw [hlater]; exact hvalid) rfl rfl rfl
  · by_cases hvalid : cumulativeSampleIsValid (ioQuality process)=true
    · rw [if_pos hvalid]
      exact .held (holdProcessIoRateQuality_io _) rfl rfl
    · rw [if_neg hvalid]
      rw [Bool.not_eq_true] at hvalid
      exact .held (pend_invalid hvalid _).symm rfl rfl

theorem addIoRates_stems (previous : Option ProcessSample) :
    Stems process (addIoRates previous elapsedSeconds process) := by
  rw [addIoRates]
  split
  · exact ⟨rfl,rfl,rfl,.inl rfl⟩
  · split
    · exact ⟨rfl,rfl,rfl,.inr (holdProcessIoRateQuality_io _)⟩
    · exact ⟨rfl,rfl,rfl,.inl rfl⟩

theorem IoRates.of_same {stored' : ProcessSample} (hsame : SameIo stored stored')
    (h : IoRates previousProcesses baselineIsLive elapsedSeconds process stored) :
    IoRates previousProcesses baselineIsLive elapsedSeconds process stored' := by
  cases h with
  | measured previous hprevious hlive hcontinues hvalid hquality hread hwrite =>
    exact .measured previous hprevious hlive hcontinues hvalid (hsame.quality.trans hquality)
      (hsame.read.trans hread) (hsame.write.trans hwrite)
  | held hquality hread hwrite =>
    exact .held (hsame.quality.trans hquality) (hsame.read.trans hread) (hsame.write.trans hwrite)

theorem Stems.of_same {stored' : ProcessSample} (hsame : SameIo stored stored')
    (h : Stems process stored) : Stems process stored' := by
  refine ⟨hsame.generation.trans h.generation,hsame.readTotal.trans h.read,
    hsame.writeTotal.trans h.write,?_⟩
  rw [hsame.quality]
  exact h.quality

/-- Every row of a sample, beside the row that is stored for it. -/
theorem addProcessRates_rows (processes previousProcesses : List ProcessSample)
    (elapsedSeconds : Float) (baselineIsLive : Bool) :
    List.Forall₂ (fun process stored => Stems process stored ∧
        IoRates previousProcesses baselineIsLive elapsedSeconds process stored)
      processes (addProcessRates processes previousProcesses elapsedSeconds baselineIsLive) := by
  rw [addProcessRates,List.forall₂_map_right_iff,List.forall₂_same]
  intro process _
  have hsame := addOtherIoRate_io (previousGeneration previousProcesses baselineIsLive process)
    elapsedSeconds process (addIoRates (previousGeneration previousProcesses baselineIsLive process)
      elapsedSeconds process)
  exact ⟨(addIoRates_stems _).of_same hsame,
    (addIoRates_rates previousProcesses baselineIsLive elapsedSeconds process).of_same hsame⟩

/-- A row that continues what was stored continues what the sample had. -/
theorem Continues.of_stored {sampled : ProcessSample} (h : Continues stored process)
    (hstems : Stems sampled stored) : Continues sampled process := by
  obtain ⟨earlier,later,source,hearlier,hlater,hcounted,hsource,hsources⟩ := h.quality
  have hquality : ∃ earlier later source, ioQuality sampled=some earlier ∧
      ioQuality process=some later ∧
      (liveQuality earlier=true ∨ metricIsPendingBaseline earlier=true) ∧
      earlier.source=some source ∧ later.source=some source := by
    cases hstems.quality with
    | inl hsame =>
      exact ⟨earlier,later,source,hsame.symm.trans hearlier,hlater,hcounted,hsource,hsources⟩
    | inr hpended =>
      rw [hearlier] at hpended
      obtain ⟨quality,hsampled,hpend⟩ := Option.map_eq_some_iff.mp hpended.symm
      refine ⟨quality,later,source,hsampled,hlater,?_,?_,hsources⟩
      · by_cases hlive : liveQuality quality=true
        · exact .inl hlive
        · rw [pendQuality,if_neg hlive] at hpend
          rw [hpend]
          exact hcounted
      · rw [← pendQuality_source,hpend]
        exact hsource
  refine ⟨hstems.generation.symm.trans h.generation,h.started,hquality,?_,?_⟩
  · rw [← hstems.read]
    exact h.read
  · rw [← hstems.write]
    exact h.write

end Rows

namespace Store
variable (lower : Lowercase) (sha256 : List UInt8 → List UInt8)

/-- The operation takes a sample of a source that has moved on. -/
def Takes (s : Store) : Operation → Prop
  | .applyRawSample sample _ _ => s.sourceUnchanged sample=false
  | _ => False

/-- The operation is a gap: the collector is lost, the engine fails, sampling is paused or the
service is another instance. -/
def Breaks (s : Store) : Operation → Prop
  | .applyRawSample sample _ _ => s.bindingChanged sample=true
  | .publishCollectorUnavailable _ => True
  | .markEngineFatal _ _ _ _ => True
  | .setPaused paused _ => paused=true
  | _ => False

/-- What holds at every operation of a run. -/
def Along (P : Store → Operation → Prop) (s : Store) : List Operation → Prop
  | [] => True
  | operation::operations =>
    P s operation ∧ Along P (operation.apply lower sha256 s) operations

def Quiet (s : Store) (operation : Operation) : Prop := ¬Takes s operation ∧ ¬Breaks s operation

/-- The last sample that was taken, with no gap since. -/
def Preceding (start : Store) (operations : List Operation) (earlier : TelemetrySample) : Prop :=
  ∃ before completedAtMs answers after,
    operations=before++.applyRawSample earlier completedAtMs answers::after ∧
      (run lower sha256 start before).sourceUnchanged earlier=false ∧
      Along lower sha256 Quiet
        (run lower sha256 start (before++[.applyRawSample earlier completedAtMs answers])) after

variable {lower sha256} {s start : Store} {operations : List Operation}

theorem run_append (s : Store) (first second : List Operation) :
    run lower sha256 s (first++second)=run lower sha256 (run lower sha256 s first) second := by
  rw [run,List.foldl_append,run,run]

theorem along_append {P : Store → Operation → Prop} {operation : Operation} :
    Along lower sha256 P s (operations++[operation]) ↔
      Along lower sha256 P s operations ∧ P (run lower sha256 s operations) operation := by
  induction operations generalizing s with
  | nil => simp [Along,run]
  | cons first operations ih =>
    rw [List.cons_append,Along,Along,ih,and_assoc]
    rfl

theorem Preceding.append {earlier : TelemetrySample} {operation : Operation}
    (h : Preceding lower sha256 start operations earlier)
    (hquiet : Quiet (run lower sha256 start operations) operation) :
    Preceding lower sha256 start (operations++[operation]) earlier := by
  obtain ⟨before,completedAtMs,answers,after,hsplit,htaken,halong⟩ := h
  refine ⟨before,completedAtMs,answers,after++[operation],?_,htaken,?_⟩
  · rw [hsplit,List.append_assoc,List.cons_append]
  · refine along_append.mpr ⟨halong,?_⟩
    rw [← run_append,List.append_assoc,List.singleton_append,← hsplit]
    exact hquiet

variable (lower sha256) in
/-- What a status of the service leaves of the rows. -/
theorem applyCollectorServiceStatus_rows (sample : TelemetrySample) (sampleTsMs : Nat) :
    (applyCollectorServiceStatus lower sha256 s sample.collectorService
        sampleTsMs).2.previousProcesses=
      (if s.bindingChanged sample then [] else s.previousProcesses) ∧
    (applyCollectorServiceStatus lower sha256 s sample.collectorService
        sampleTsMs).2.liveProcessSnapshot=
      (!s.bindingChanged sample && s.liveProcessSnapshot) := by
  cases hstatus : sample.collectorService with
  | none => simp [applyCollectorServiceStatus,bindingChanged,hstatus]
  | some status =>
    simp only [applyCollectorServiceStatus,bindingChanged,hstatus,Option.any_some]
    by_cases hbinding : s.adminMode.collectorService.bind binding≠binding status
    · simp only [if_pos hbinding,decide_eq_true hbinding]
      exact ⟨rfl,rfl⟩
    · simp only [if_neg hbinding,decide_eq_false hbinding]
      exact ⟨rfl,rfl⟩

variable (lower sha256) in
theorem applyRawSample_repeated {sample : TelemetrySample} (h : s.sourceUnchanged sample=true)
    (completedAtMs : Nat) (answers : Answers) :
    (applyRawSample lower sha256 s sample completedAtMs answers).previousProcesses=
      (if s.bindingChanged sample then [] else s.previousProcesses) ∧
    (applyRawSample lower sha256 s sample completedAtMs answers).liveProcessSnapshot=
      (!s.bindingChanged sample && s.liveProcessSnapshot) := by
  have hrows := applyCollectorServiceStatus_rows lower sha256 (s := s) sample
    (s.sampledAtMs.getD completedAtMs)
  simp only [sourceUnchanged] at h
  simp only [applyRawSample,h,if_true]
  exact hrows

variable (lower sha256) in
theorem applyRawSample_taken {sample : TelemetrySample} (h : s.sourceUnchanged sample=false)
    (completedAtMs : Nat) (answers : Answers) :
    (∃ elapsedSeconds,
      (applyRawSample lower sha256 s sample completedAtMs answers).previousProcesses=
        addProcessRates sample.processes (if s.bindingChanged sample then [] else
          s.previousProcesses) elapsedSeconds (!s.bindingChanged sample && s.liveProcessSnapshot)) ∧
    (applyRawSample lower sha256 s sample completedAtMs answers).liveProcessSnapshot=true := by
  obtain ⟨hrows,hlive⟩ :=
    applyCollectorServiceStatus_rows lower sha256 (s := s) sample completedAtMs
  rw [← hrows,← hlive]
  simp only [sourceUnchanged] at h
  simp only [applyRawSample,h,Bool.false_eq_true,if_false]
  exact ⟨⟨_,rfl⟩,rfl⟩

theorem holdRetainedTelemetry_live (heldAtMs : Nat) :
    (holdRetainedTelemetry lower sha256 s heldAtMs).liveProcessSnapshot=s.liveProcessSnapshot := by
  rw [holdRetainedTelemetry]
  split
  · rfl
  · rfl

theorem publishSnapshotOnly_live (s : Store) (answers : Answers) :
    (publishSnapshotOnly lower s answers).liveProcessSnapshot=s.liveProcessSnapshot := by
  rw [publishSnapshotOnly,publish]

theorem publishSnapshotOnly_rows (s : Store) (answers : Answers) :
    (publishSnapshotOnly lower s answers).previousProcesses=s.previousProcesses := by
  rw [publishSnapshotOnly,publish]

theorem refreshSnapshotHealth_rows (s : Store) (answers : Answers) :
    (refreshSnapshotHealth s answers).liveProcessSnapshot=s.liveProcessSnapshot ∧
      (refreshSnapshotHealth s answers).previousProcesses=s.previousProcesses := by
  rw [refreshSnapshotHealth]
  exact ⟨rfl,rfl⟩

/-- Rows that are still live after an operation were live before, and are the same. -/
theorem rows_stay {operation : Operation} (htakes : ¬Takes s operation)
    (hlive : (operation.apply lower sha256 s).liveProcessSnapshot=true) :
    Quiet s operation ∧ s.liveProcessSnapshot=true ∧
      (operation.apply lower sha256 s).previousProcesses=s.previousProcesses := by
  cases operation with
  | applyRawSample sample completedAtMs answers =>
    have hrepeated : s.sourceUnchanged sample=true := by
      rw [Takes,Bool.not_eq_false] at htakes
      exact htakes
    obtain ⟨hrows,hstill⟩ := applyRawSample_repeated lower sha256 hrepeated completedAtMs answers
    rw [Operation.apply] at hlive ⊢
    rw [hstill,Bool.and_eq_true,Bool.not_eq_true_eq_eq_false] at hlive
    rw [hrows,hlive.1]
    refine ⟨⟨htakes,?_⟩,hlive.2,rfl⟩
    rw [Breaks,hlive.1]
    exact Bool.false_ne_true
  | publishCollectorUnavailable answers =>
    rw [Operation.apply,publishCollectorUnavailable,publishSnapshotOnly_live,
      holdRetainedTelemetry_live] at hlive
    cases hlive
  | markEngineFatal code message occurredAtMs answers =>
    rw [Operation.apply,markEngineFatal,publishSnapshotOnly_live] at hlive
    have hheld := hlive.symm.trans (holdRetainedTelemetry_live answers.heldAtMs)
    cases hheld
  | setPaused paused answers =>
    rw [Operation.apply,setPaused,publishSnapshotOnly_live,Bool.and_eq_true] at hlive
    refine ⟨⟨htakes,?_⟩,hlive.1,publishSnapshotOnly_rows _ answers⟩
    rw [Breaks]
    intro hpaused
    rw [hpaused] at hlive
    cases hlive.2
  | setQueryWithIntent query intent answers =>
    rw [Operation.apply,setQueryWithIntent,publishSnapshotOnly_live] at hlive
    exact ⟨⟨htakes,id⟩,hlive,publishSnapshotOnly_rows _ answers⟩
  | setSampleInterval sampleIntervalMs answers =>
    rw [Operation.apply,setSampleInterval,publishSnapshotOnly_live] at hlive
    exact ⟨⟨htakes,id⟩,hlive,publishSnapshotOnly_rows _ answers⟩
  | setUiPreferences preferences answers =>
    rw [Operation.apply,setUiPreferences,publishSnapshotOnly_live] at hlive
    exact ⟨⟨htakes,id⟩,hlive,publishSnapshotOnly_rows _ answers⟩
  | setEngineState state => exact ⟨⟨htakes,id⟩,hlive,rfl⟩
  | noteHeartbeat occurredAtMs => exact ⟨⟨htakes,id⟩,hlive,rfl⟩
  | updateScheduleHealth misses recentMisses lateness answers =>
    rw [Operation.apply,updateScheduleHealth,(refreshSnapshotHealth_rows _ answers).1] at hlive
    exact ⟨⟨htakes,id⟩,hlive,(refreshSnapshotHealth_rows _ answers).2⟩
  | recordPublicationLatency latencyMs answers =>
    rw [Operation.apply,recordPublicationLatency,(refreshSnapshotHealth_rows _ answers).1] at hlive
    exact ⟨⟨htakes,id⟩,hlive,(refreshSnapshotHealth_rows _ answers).2⟩

/-- Live rows are those of the last sample, and there was no gap since. -/
theorem live_rows (hstart : start.liveProcessSnapshot=false) (operations : List Operation)
    (hlive : (run lower sha256 start operations).liveProcessSnapshot=true) :
    ∃ earlier, Preceding lower sha256 start operations earlier ∧
      List.Forall₂ Stems earlier.processes
        (run lower sha256 start operations).previousProcesses := by
  induction operations using List.reverseRecOn with
  | nil =>
    rw [run,List.foldl_nil,hstart] at hlive
    cases hlive
  | append_singleton operations operation ih =>
    have hstep : run lower sha256 start (operations++[operation])=
        operation.apply lower sha256 (run lower sha256 start operations) :=
      run_append start operations [operation]
    rw [hstep] at hlive ⊢
    by_cases htakes : Takes (run lower sha256 start operations) operation
    · cases operation with
      | applyRawSample sample completedAtMs answers =>
        obtain ⟨⟨elapsedSeconds,hrows⟩,-⟩ := applyRawSample_taken lower sha256 htakes
          completedAtMs answers
        refine ⟨sample,⟨operations,completedAtMs,answers,[],rfl,htakes,trivial⟩,?_⟩
        rw [Operation.apply,hrows]
        exact (addProcessRates_rows _ _ _ _).imp (fun _ _ h => h.1)
      | _ => cases htakes
    · obtain ⟨hquiet,hbefore,hrows⟩ := rows_stay htakes hlive
      obtain ⟨earlier,hpreceding,hstems⟩ := ih hbefore
      rw [hrows]
      exact ⟨earlier,hpreceding.append hquiet,hstems⟩

/-- What a stored row says of its read and write rates: they are presented as measured only
with an earlier row to continue, and without one they are zero and marked. -/
structure StoredRates (earlier : ProcessSample → Prop) (process stored : ProcessSample) : Prop where
  generation : generation stored=generation process
  read : stored.ioReadTotalBytes=process.ioReadTotalBytes
  write : stored.ioWriteTotalBytes=process.ioWriteTotalBytes
  measured : cumulativeSampleIsValid (ioQuality stored)=true → ∃ before, earlier before ∧
    Continues before process ∧ ∃ elapsedSeconds,
      stored.ioReadBps=byteRate process.ioReadTotalBytes before.ioReadTotalBytes elapsedSeconds ∧
      stored.ioWriteBps=byteRate process.ioWriteTotalBytes before.ioWriteTotalBytes elapsedSeconds
  held : ¬(cumulativeSampleIsValid (ioQuality stored)=true ∧
      ∃ before, earlier before ∧ Continues before process) →
    stored.ioReadBps=0 ∧ stored.ioWriteBps=0 ∧ cumulativeSampleIsValid (ioQuality stored)=false ∧
      (cumulativeSampleIsValid (ioQuality process)=true →
        (ioQuality stored).any metricIsPendingBaseline=true)

theorem storedRates_of {earlier : ProcessSample → Prop} {previousProcesses : List ProcessSample}
    {baselineIsLive : Bool} {elapsedSeconds : Float} {process stored : ProcessSample}
    (hstems : Stems process stored)
    (hrates : IoRates previousProcesses baselineIsLive elapsedSeconds process stored)
    (hearlier : baselineIsLive=true → ∀ previous∈previousProcesses, ∃ before, earlier before ∧
      Stems before previous) : StoredRates earlier process stored := by
  refine ⟨hstems.generation,hstems.read,hstems.write,?_,?_⟩
  · intro hstored
    cases hrates with
    | measured previous hprevious hlive hcontinues hvalid hquality hread hwrite =>
      obtain ⟨before,hbefore,hkept⟩ := hearlier hlive previous hprevious
      refine ⟨before,hbefore,hcontinues.of_stored hkept,elapsedSeconds,?_,?_⟩
      · rw [hread,hkept.read]
      · rw [hwrite,hkept.write]
    | held hquality hread hwrite =>
      rw [hquality] at hstored
      cases hprocess : ioQuality process with
      | none =>
        rw [hprocess] at hstored
        cases hstored
      | some quality =>
        rw [hprocess,Option.map_some,cumulativeSampleIsValid,Option.any_some,
          pendQuality_not_live] at hstored
        cases hstored
  · intro hnone
    cases hrates with
    | measured previous hprevious hlive hcontinues hvalid hquality hread hwrite =>
      obtain ⟨before,hbefore,hkept⟩ := hearlier hlive previous hprevious
      rw [← hquality] at hvalid
      exact absurd ⟨hvalid,before,hbefore,hcontinues.of_stored hkept⟩ hnone
    | held hquality hread hwrite =>
      refine ⟨hread,hwrite,?_,?_⟩
      · rw [hquality]
        cases ioQuality process with
        | none => rfl
        | some quality => exact pendQuality_not_live _ quality
      · intro hvalid
        rw [hquality]
        cases hprocess : ioQuality process with
        | none =>
          rw [hprocess] at hvalid
          cases hvalid
        | some quality =>
          rw [hprocess] at hvalid
          exact pendQuality_pending hvalid _

/-- The row of a live sample that an earlier row was stored for. -/
theorem stems_of_mem {processes stored : List ProcessSample}
    (h : List.Forall₂ Stems processes stored) {row : ProcessSample} (hrow : row∈stored) :
    ∃ process∈processes, Stems process row := by
  induction h with
  | nil => cases hrow
  | cons hhead htail ih =>
    cases hrow with
    | head => exact ⟨_,List.mem_cons_self,hhead⟩
    | tail _ hrow =>
      obtain ⟨process,hprocess,hstems⟩ := ih hrow
      exact ⟨process,List.mem_cons_of_mem _ hprocess,hstems⟩

/-- Over every run, a new sample stores rates as measured only for rows that continue a row of
the sample taken just before, with no gap since and for the same instance of the service; in
all other cases they are zero, and a valid quality waits for its baseline. A sample that
repeats the last one stores no rows. -/
theorem io_rates_continue (lower : Lowercase) (sha256 : List UInt8 → List UInt8)
    (provenance : RuntimeProvenance) (settings : RuntimeSettings) (seq : Nat)
    (rows : List ProcessSample) (startAnswers : Answers) (operations : List Operation)
    (sample : TelemetrySample) (completedAtMs : Nat) (answers : Answers) :
    let start := fromWarmCache lower sha256 provenance settings seq rows startAnswers
    let s := run lower sha256 start operations
    let applied := s.applyRawSample lower sha256 sample completedAtMs answers
    (s.sourceUnchanged sample=false → List.Forall₂
      (StoredRates (fun before => s.bindingChanged sample=false ∧
        ∃ earlier, Preceding lower sha256 start operations earlier ∧ before∈earlier.processes))
      sample.processes applied.previousProcesses) ∧
    (s.sourceUnchanged sample=true → applied.previousProcesses=
      if s.bindingChanged sample then [] else s.previousProcesses) := by
  intro start s applied
  constructor
  · intro hnew
    obtain ⟨⟨elapsedSeconds,hstored⟩,-⟩ := applyRawSample_taken lower sha256 hnew completedAtMs
      answers
    rw [hstored]
    refine (addProcessRates_rows _ _ _ _).imp ?_
    intro process stored ⟨hstems,hrates⟩
    refine storedRates_of hstems hrates ?_
    intro hlive previous hprevious
    rw [Bool.and_eq_true,Bool.not_eq_true_eq_eq_false] at hlive
    rw [hlive.1] at hprevious
    obtain ⟨earlier,hpreceding,hrows⟩ := live_rows rfl operations hlive.2
    obtain ⟨before,hbefore,hkept⟩ := stems_of_mem hrows hprevious
    exact ⟨before,⟨hlive.1,earlier,hpreceding,hbefore⟩,hkept⟩
  · intro hrepeated
    exact (applyRawSample_repeated lower sha256 hrepeated completedAtMs answers).1

section Copying

def boundService : RuntimeCollectorServiceStatus where
  state := .active
  serviceVersion := some "1.4.0"
  negotiatedProtocolVersion := some 1
  instanceId := some "service-7f3a"
  lastConnectedAtMs := some 4000

/-- The sample of a bound service, of one process that has read so much. -/
def readerSample (sourceSampleSeq ioReadTotalBytes : Nat) : TelemetrySample :=
  { mixedSample with
    collectorService := some boundService
    processes := [{ appProcess "10" none 1000 (.new .native .procfs) with
      ioReadTotalBytes := ioReadTotalBytes
      quality := some { io := some (.new .native .procfs) } }]
    sourceProvenance := some ⟨"service-7f3a",sourceSampleSeq,1000*sourceSampleSeq⟩ }

def firstRead : Operation := .applyRawSample (readerSample 1 1000) 5000 (desktopAnswers 5000)

def secondRead : Operation := .applyRawSample (readerSample 2 9000) 6000 (desktopAnswers 6000)

def afterFirst : Store := run .ascii id linuxStart.store [firstRead]

theorem second_read_continues : afterFirst.sourceUnchanged (readerSample 2 9000)=false ∧
    List.Forall₂ (StoredRates (fun before => afterFirst.bindingChanged (readerSample 2 9000)=false ∧
        ∃ earlier, Preceding .ascii id linuxStart.store [firstRead] earlier ∧
          before∈earlier.processes))
      (readerSample 2 9000).processes
      (afterFirst.applyRawSample .ascii id (readerSample 2 9000) 6000
        (desktopAnswers 6000)).previousProcesses :=
  ⟨rfl,(io_rates_continue .ascii id linuxProvenance {} 0 [] (desktopAnswers 1) [firstRead]
    (readerSample 2 9000) 6000 (desktopAnswers 6000)).1 rfl⟩

/-- Sampling is paused after the second sample and goes on before the service has a third. -/
def pausedRun : List Operation :=
  [firstRead,secondRead,.setPaused true (desktopAnswers 6500),
    .setPaused false (desktopAnswers 7000)]

theorem unbroken_after_pause {before after : List Operation} {earlier : TelemetrySample}
    {completedAtMs : Nat} {answers : Answers} {s : Store}
    (hsplit : pausedRun=before++.applyRawSample earlier completedAtMs answers::after) :
    ¬Along .ascii id (fun s operation => ¬Breaks s operation) s after := by
  intro halong
  rw [pausedRun,firstRead,secondRead] at hsplit
  match before,hsplit with
  | [],hsplit =>
    simp only [List.nil_append,List.cons.injEq] at hsplit
    rw [← hsplit.2] at halong
    exact halong.2.1 rfl
  | [_],hsplit =>
    simp only [List.cons_append,List.nil_append,List.cons.injEq] at hsplit
    rw [← hsplit.2.2] at halong
    exact halong.1 rfl
  | [_,_],hsplit => simp at hsplit
  | [_,_,_],hsplit => simp at hsplit
  | _::_::_::_::_,hsplit => simp at hsplit

/-- When the second sample comes again, its row is still presented as measured; every sample
has the pause behind it. -/
theorem repeated_sample_after_pause : ¬∀ (lower : Lowercase) (sha256 : List UInt8 → List UInt8)
    (provenance : RuntimeProvenance) (settings : RuntimeSettings) (seq : Nat)
    (rows : List ProcessSample) (startAnswers : Answers) (operations : List Operation)
    (sample : TelemetrySample) (completedAtMs : Nat) (answers : Answers),
    let start := fromWarmCache lower sha256 provenance settings seq rows startAnswers
    let s := run lower sha256 start operations
    ∀ stored∈(s.applyRawSample lower sha256 sample completedAtMs answers).previousProcesses,
      cumulativeSampleIsValid (ioQuality stored)=true →
      ∃ before earlier completedAtMs answers after,
        operations=before++.applyRawSample earlier completedAtMs answers::after ∧
          Along lower sha256 (fun s operation => ¬Breaks s operation)
            (run lower sha256 start (before++[.applyRawSample earlier completedAtMs answers]))
            after ∧
          ∃ previous∈earlier.processes, Continues previous stored := by
  intro h
  have hstored : ∃ stored∈((run .ascii id linuxStart.store pausedRun).applyRawSample .ascii id
      (readerSample 2 9000) 7500 (desktopAnswers 7500)).previousProcesses,
      cumulativeSampleIsValid (ioQuality stored)=true := by
    decide
  obtain ⟨stored,hmember,hvalid⟩ := hstored
  obtain ⟨before,earlier,completedAtMs,answers,after,hsplit,hunbroken,-⟩ := h .ascii id
    linuxProvenance {} 0 [] (desktopAnswers 1) pausedRun (readerSample 2 9000) 7500
    (desktopAnswers 7500) stored hmember hvalid
  exact unbroken_after_pause hsplit hunbroken

end Copying
end Store
end BatCave.RuntimeStore
