import BatCave.ProcessView.Displays
import BatCave.Protocol.CatalogRuns
import BatCave.Protocol.WorkloadChecks

/-! The metrics of the rows of a view: what processes and groups report is accepted by the
reader, and the coverage of a group agrees with the quality of its metric. -/
namespace BatCave.Protocol
open BatCave.Contracts BatCave.Lib BatCave.Lib.Binary64 BatCave.Lib.Result BatCave.Lib.Text
open BatCave.ProcessView CatalogBuilder
open BatCave.WorkloadHistory (RuntimePlatform)

/-- A quality that names a limitation the policy has for it and says why, and a time that is not
after the sample. A native one says nothing. -/
structure QualitySound (sampledAtMs : Option Nat) (publishedAtMs : Nat)
    (quality : MetricQualityInfo) : Prop where
  policy : (qualityLimitationPolicy (qualityV4 quality.quality)).allows
    (quality.limitationCode.map metricLimitationCode)=true
  worded : (qualityLimitationPolicy (qualityV4 quality.quality)).requiresLimitation=true →
    quality.message.isSome
  spoken : ∀ message, quality.message=some message → trim message≠""
  plain : quality.quality=.native → quality.message=none
  time : ∀ updated, quality.updatedAtMs=some updated →
    updated ≤ sampledAtMs.getD publishedAtMs

/-- The qualities that a process reports. -/
def processQualities (process : ProcessSample) : List MetricQualityInfo :=
  (process.quality.elim [] (fun quality => [quality.cpu,quality.memory,quality.io,quality.otherIo,
    quality.network,quality.threads,quality.handles])).filterMap id

/-- The metrics of a process: sound qualities, and shares of the processor not below zero. -/
structure MetricsSound (sampledAtMs : Option Nat) (publishedAtMs : Nat)
    (process : ProcessSample) : Prop where
  qualities : ∀ quality∈processQualities process, QualitySound sampledAtMs publishedAtMs quality
  cpu : NotBelow process.cpuPercent
  kernel : ∀ kernel, process.kernelCpuPercent=some kernel → NotBelow kernel

section Requests
variable {sampledAtMs : Option Nat} {publishedAtMs : Nat}

/-- A request that the reader accepts the reading of. -/
structure RequestAccepted (sampledAtMs : Option Nat) (publishedAtMs : Nat) (r : Request) :
    Prop where
  canonical : r.definition.Canonical
  value : ∀ v, r.value=some v → NotBelow v
  quality : ∀ q, r.quality=some q → QualitySound sampledAtMs publishedAtMs q

theorem RequestAccepted.accepted {r : Request} (h : RequestAccepted sampledAtMs publishedAtMs r)
    (htime : ∀ sampled, sampledAtMs=some sampled → sampled ≤ publishedAtMs) :
    (r.reading sampledAtMs).Accepted (sourceOf r.quality) publishedAtMs sampledAtMs := by
  have hlate : ∀ q updated, r.quality=some q → q.updatedAtMs=some updated →
      updated ≤ sampledAtMs.getD publishedAtMs :=
    fun q updated hq hupdated => (h.quality q hq).time updated hupdated
  have hadmissible : r.Admissible sampledAtMs publishedAtMs := by
    refine ⟨h.canonical.1,?_,?_,?_,?_,?_⟩
    · exact fun v hv _ => notBelow_iff.mp (h.value v hv)
    · exact fun q hq _ => (h.quality q hq).policy
    · intro q hq _ hrequires
      obtain ⟨message,hmessage⟩ := Option.isSome_iff_exists.mp ((h.quality q hq).worded hrequires)
      exact ⟨message,hmessage,(h.quality q hq).spoken message hmessage⟩
    · intro q updated sampled hq _ hupdated hsampled
      have hle := hlate q updated hq hupdated
      rwa [hsampled,Option.getD_some] at hle
    · intro q updated hq _ hupdated
      have hle := hlate q updated hq hupdated
      cases hsampled : sampledAtMs with
      | none => rwa [hsampled,Option.getD_none] at hle
      | some sampled =>
        rw [hsampled,Option.getD_some] at hle
        exact hle.trans (htime sampled hsampled)
  have hplain : r.explainedNative sampledAtMs=false := by
    cases hq : r.quality with
    | none => simp [Request.explainedNative,hq]
    | some q =>
      by_cases hnative : q.quality=.native
      · simp [Request.explainedNative,hq,(h.quality q hq).plain hnative]
      · simp [Request.explainedNative,hq,hnative]
  exact (accepted_iff hadmissible htime).mpr hplain

theorem notBelow_ofUnsigned (n : Nat) : NotBelow (ofUnsigned n) := .inl (nonNeg_ofUnsigned n)

theorem notBelow_asF64 (n : Nat) : ∀ v, asF64 n=some v → NotBelow v := by
  intro v hv
  cases hv
  exact notBelow_ofUnsigned n

theorem notBelow_optionAsF64 (n : Option Nat) : ∀ v, optionAsF64 n=some v → NotBelow v := by
  intro v hv
  obtain ⟨m,_,rfl⟩ := Option.map_eq_some_iff.mp hv
  exact notBelow_ofUnsigned m

/-- A total that is known before its rate has the time of the rate and says nothing. -/
theorem ioTotal_sound {rate : Option MetricQualityInfo}
    (h : ∀ q, rate=some q → QualitySound sampledAtMs publishedAtMs q) :
    ∀ q, (ioTotalQuality rate).or rate=some q → QualitySound sampledAtMs publishedAtMs q := by
  intro q hq
  cases htotal : ioTotalQuality rate with
  | none =>
    rw [htotal,Option.none_or] at hq
    exact h q hq
  | some total =>
    rw [htotal,Option.some_or,Option.some.injEq] at hq
    obtain ⟨quality,hquality,rfl⟩ := Option.map_eq_some_iff.mp htotal
    obtain ⟨hrate,_⟩ := Option.filter_eq_some_iff.mp hquality
    rw [← hq]
    refine ⟨?_,?_,?_,fun _ => rfl,?_⟩
    · split <;> rfl
    · split <;> exact nofun
    · exact nofun
    · exact (h quality hrate).time

theorem mem_processQualities {process : ProcessSample} {quality : MetricQualityInfo}
    (field : ProcessMetricQuality → Option MetricQualityInfo)
    (hfield : ∀ q : ProcessMetricQuality, field q∈[q.cpu,q.memory,q.io,q.otherIo,q.network,
      q.threads,q.handles])
    (h : process.quality.bind field=some quality) : quality∈processQualities process := by
  obtain ⟨qualities,hqualities,hsome⟩ := Option.bind_eq_some_iff.mp h
  rw [processQualities,hqualities,Option.elim_some,List.mem_filterMap]
  exact ⟨some quality,by rw [← hsome]; exact hfield qualities,rfl⟩

/-- What a process reports is accepted. -/
theorem processRequests_accepted {process : ProcessSample}
    (h : MetricsSound sampledAtMs publishedAtMs process) (platform : RuntimePlatform) :
    ∀ r∈processRequests platform process, RequestAccepted sampledAtMs publishedAtMs r := by
  have hcanonical := canonical_processRequests platform process
  have hquality : ∀ field : ProcessMetricQuality → Option MetricQualityInfo,
      (∀ q : ProcessMetricQuality, field q∈[q.cpu,q.memory,q.io,q.otherIo,q.network,
        q.threads,q.handles]) →
      ∀ q, process.quality.bind field=some q → QualitySound sampledAtMs publishedAtMs q :=
    fun field hfield q hq => h.qualities q (mem_processQualities field hfield hq)
  have hcpu := hquality ProcessMetricQuality.cpu (by simp)
  have hmemory := hquality ProcessMetricQuality.memory (by simp)
  have hio := hquality ProcessMetricQuality.io (by simp)
  have hother := hquality ProcessMetricQuality.otherIo (by simp)
  have hnetwork := hquality ProcessMetricQuality.network (by simp)
  have hthreads := hquality ProcessMetricQuality.threads (by simp)
  have hhandles := hquality ProcessMetricQuality.handles (by simp)
  have hshare : ∀ v, some process.cpuPercent=some v → NotBelow v := by
    intro v hv
    cases hv
    exact h.cpu
  have hprivate : ∀ v, privateValue platform process=some v → NotBelow v := by
    intro v hv
    simp only [privateValue] at hv
    split at hv
    · cases hv
    · exact notBelow_asF64 _ v hv
  intro r hr
  have hshape := hcanonical r hr
  simp only [processRequests,processRequestsWith,List.mem_cons,List.not_mem_nil,or_false] at hr
  obtain rfl | rfl | rfl | rfl | rfl | rfl | rfl | rfl | rfl | rfl | rfl | rfl | rfl | rfl | rfl :=
    hr
  · exact ⟨hshape,hshare,hcpu⟩
  · exact ⟨hshape,h.kernel,hcpu⟩
  · exact ⟨hshape,notBelow_asF64 _,hmemory⟩
  · exact ⟨hshape,hprivate,hmemory⟩
  · exact ⟨hshape,notBelow_optionAsF64 _,hmemory⟩
  · exact ⟨hshape,notBelow_asF64 _,ioTotal_sound hio⟩
  · exact ⟨hshape,notBelow_asF64 _,ioTotal_sound hio⟩
  · exact ⟨hshape,notBelow_optionAsF64 _,ioTotal_sound hother⟩
  · exact ⟨hshape,notBelow_asF64 _,hio⟩
  · exact ⟨hshape,notBelow_asF64 _,hio⟩
  · exact ⟨hshape,notBelow_optionAsF64 _,hother⟩
  · exact ⟨hshape,notBelow_optionAsF64 _,hnetwork⟩
  · exact ⟨hshape,notBelow_optionAsF64 _,hnetwork⟩
  · exact ⟨hshape,notBelow_asF64 _,hthreads⟩
  · exact ⟨hshape,notBelow_asF64 _,hhandles⟩

end Requests

section Summary
variable {processes : List ProcessSample} {metric : GroupMetric}

theorem availableCount_le : availableCount processes metric ≤ processes.length :=
  List.countP_le_length

/-- Nobody contributes to a metric that nobody has a value of. -/
theorem availableCount_zero
    (h : metric=.otherIo ∨ processes.countP (fun process => groupMetricHasValue process metric)=0) :
    availableCount processes metric=0 := by
  have hvalue : processes.countP (fun process => groupMetricHasValue process metric)=0 := by
    cases h with
    | inl hother =>
      rw [hother,List.countP_eq_zero]
      exact fun process _ => nofun
    | inr hzero => exact hzero
  rw [availableCount,List.countP_eq_zero]
  intro process hprocess havailable
  rw [groupMetricAvailable,Bool.and_eq_true] at havailable
  exact List.countP_eq_zero.mp hvalue process hprocess havailable.1

/-- Native and estimated sums are complete. -/
theorem summaryQuality_complete (h : summaryQuality processes metric=.native ∨
    summaryQuality processes metric=.estimated) :
    availableCount processes metric=processes.length ∧
      .partialQuality∉availableQualities processes metric := by
  have hle : availableCount processes metric ≤ processes.length := availableCount_le
  simp only [summaryQuality] at h
  by_cases hnone : metric=.otherIo ∨
      processes.countP (fun process => groupMetricHasValue process metric)=0
  · rw [if_pos hnone] at h
    simp at h
  · rw [if_neg hnone] at h
    by_cases hzero : availableCount processes metric=0
    · rw [if_pos hzero] at h
      split at h
      · simp at h
      · split at h
        · simp at h
        · split at h <;> simp at h
    · rw [if_neg hzero] at h
      by_cases hsome : availableCount processes metric < processes.length ∨
          .partialQuality∈availableQualities processes metric
      · simp [if_pos hsome] at h
      · rw [not_or] at hsome
        exact ⟨by omega,hsome.2⟩

/-- Partial sums and those that are missing say why. -/
theorem summaryQuality_limited (hne : processes≠[])
    (h : summaryQuality processes metric=.partialQuality ∨
      summaryQuality processes metric=.unavailable) :
    availableCount processes metric < processes.length ∨
      (.partialQuality∈availableQualities processes metric ∧
        summaryQuality processes metric=.partialQuality) := by
  have hpositive := List.length_pos_iff.mpr hne
  by_cases hnone : metric=.otherIo ∨
      processes.countP (fun process => groupMetricHasValue process metric)=0
  · left
    rw [availableCount_zero hnone]
    exact hpositive
  · by_cases hzero : availableCount processes metric=0
    · left
      omega
    · by_cases hsome : availableCount processes metric < processes.length ∨
          .partialQuality∈availableQualities processes metric
      · cases hsome with
        | inl hless => exact .inl hless
        | inr hlimits =>
          refine .inr ⟨hlimits,?_⟩
          simp only [summaryQuality]
          rw [if_neg hnone,if_neg hzero,if_pos (.inr hlimits)]
      · simp only [summaryQuality] at h
        rw [if_neg hnone,if_neg hzero,if_neg hsome] at h
        split at h <;> simp at h

theorem mem_of_groupMetricQuality {process : ProcessSample} {quality : MetricQualityInfo}
    (h : groupMetricQuality process metric=some quality) : quality∈processQualities process := by
  cases metric with
  | cpu => exact mem_processQualities ProcessMetricQuality.cpu (by simp) h
  | memory => exact mem_processQualities ProcessMetricQuality.memory (by simp) h
  | io => exact mem_processQualities ProcessMetricQuality.io (by simp) h
  | otherIo => exact mem_processQualities ProcessMetricQuality.otherIo (by simp) h
  | network => exact mem_processQualities ProcessMetricQuality.network (by simp) h
  | threads => exact mem_processQualities ProcessMetricQuality.threads (by simp) h

/-- What a group says of a metric, by the quality of the sum. -/
inductive SummaryTells (processes : List ProcessSample) (metric : GroupMetric)
    (quality : MetricQualityInfo) : Prop where
  | complete (complete : quality.quality=.native ∨ quality.quality=.estimated)
      (code : quality.limitationCode=none) (message : quality.message=none)
  | held (held : quality.quality=.held) (code : quality.limitationCode=some .heldValue)
      (message : String) (tells : quality.message=some message)
      (spoken : message=collectorHeldMessage ∨
        ∃ q∈reportedQualities processes metric, q.message=some message)
  | counted (limited : quality.quality=.partialQuality ∨ quality.quality=.unavailable)
      (code : quality.limitationCode=some .groupPartialCoverage) (counts : String)
      (tells : quality.message=some (counts++" processes contribute to this aggregate."))
  | limited (limited : quality.quality=.partialQuality)
      (code : quality.limitationCode=some .partialCoverage)
      (tells : quality.message=some "At least one process contributes partial-quality data.")

theorem summary_tells (hne : processes≠[]) (metric : GroupMetric) :
    SummaryTells processes metric (groupMetricSummary processes metric).1 := by
  have hcomplete := @summaryQuality_complete processes metric
  have hlimited := @summaryQuality_limited processes metric hne
  have hquality : (groupMetricSummary processes metric).1.quality=
    summaryQuality processes metric := rfl
  by_cases hheld : summaryQuality processes metric=.held
  · refine .held hheld ?_ ((((reportedQualities processes metric).find?
      (fun quality => quality.quality==.held)).bind MetricQualityInfo.message).getD
        collectorHeldMessage) ?_ ?_
    · simp only [groupMetricSummary,if_pos hheld]
      rfl
    · simp only [groupMetricSummary,if_pos hheld]
      rfl
    · cases hfound : ((reportedQualities processes metric).find?
          (fun quality => quality.quality==.held)).bind MetricQualityInfo.message with
      | none => exact .inl rfl
      | some message =>
        obtain ⟨quality,hquality,hmessage⟩ := Option.bind_eq_some_iff.mp hfound
        exact .inr ⟨quality,List.mem_of_find?_eq_some hquality,hmessage⟩
  · by_cases hless : availableCount processes metric < processes.length
    · refine .counted ?_ ?_ (toString (availableCount processes metric)++" of "++
        toString processes.length) ?_
      · rw [hquality]
        cases hq : summaryQuality processes metric with
        | native => exact absurd (hcomplete (.inl hq)).1 (by omega)
        | estimated => exact absurd (hcomplete (.inr hq)).1 (by omega)
        | held => exact absurd hq hheld
        | partialQuality => exact .inl rfl
        | unavailable => exact .inr rfl
      · simp only [groupMetricSummary,if_neg hheld,if_pos hless]
        rfl
      · simp only [groupMetricSummary,if_neg hheld,if_pos hless]
        rfl
    · by_cases hlimits : .partialQuality∈availableQualities processes metric
      · refine .limited ?_ ?_ ?_
        · rw [hquality]
          cases hq : summaryQuality processes metric with
          | native => exact absurd hlimits (hcomplete (.inl hq)).2
          | estimated => exact absurd hlimits (hcomplete (.inr hq)).2
          | held => exact absurd hq hheld
          | partialQuality => rfl
          | unavailable =>
            cases hlimited (.inr hq) with
            | inl hcount => exact absurd hcount hless
            | inr hother => exact hq.symm.trans hother.2
        · simp only [groupMetricSummary,if_neg hheld,if_neg hless,if_pos hlimits]
          rfl
        · simp only [groupMetricSummary,if_neg hheld,if_neg hless,if_pos hlimits]
          rfl
      · refine .complete ?_ ?_ ?_
        · rw [hquality]
          cases hq : summaryQuality processes metric with
          | native => exact .inl rfl
          | estimated => exact .inr rfl
          | held => exact absurd hq hheld
          | partialQuality =>
            cases hlimited (.inl hq) with
            | inl hcount => exact absurd hcount hless
            | inr hother => exact absurd hother.1 hlimits
          | unavailable =>
            cases hlimited (.inr hq) with
            | inl hcount => exact absurd hcount hless
            | inr hother => exact absurd hother.1 hlimits
        · simp only [groupMetricSummary,if_neg hheld,if_neg hless,if_neg hlimits]
          rfl
        · simp only [groupMetricSummary,if_neg hheld,if_neg hless,if_neg hlimits]
          rfl

/-- Sums that not every member contributes to are neither native nor estimated. -/
theorem summary_covered (hless : (groupMetricSummary processes metric).2.available <
    (groupMetricSummary processes metric).2.total) :
    (groupMetricSummary processes metric).1.quality≠.native ∧
      (groupMetricSummary processes metric).1.quality≠.estimated := by
  have hcount : availableCount processes metric < processes.length := hless
  have hquality : (groupMetricSummary processes metric).1.quality=
    summaryQuality processes metric := rfl
  rw [hquality]
  constructor
  · intro hnative
    have hall := (summaryQuality_complete (.inl hnative)).1
    omega
  · intro hestimated
    have hall := (summaryQuality_complete (.inr hestimated)).1
    omega

variable {sampledAtMs : Option Nat} {publishedAtMs : Nat}

/-- What a group says of a metric keeps to the policy if its members do. -/
theorem summary_sound (hne : processes≠[])
    (h : ∀ process∈processes, ∀ quality∈processQualities process,
      QualitySound sampledAtMs publishedAtMs quality) (metric : GroupMetric) :
    QualitySound sampledAtMs publishedAtMs (groupMetricSummary processes metric).1 := by
  have hreported : ∀ quality∈reportedQualities processes metric,
      QualitySound sampledAtMs publishedAtMs quality := by
    intro quality hquality
    obtain ⟨process,hprocess,hsome⟩ := List.mem_filterMap.mp hquality
    exact h process hprocess quality (mem_of_groupMetricQuality hsome)
  have htime : ∀ updated, (groupMetricSummary processes metric).1.updatedAtMs=some updated →
      updated ≤ sampledAtMs.getD publishedAtMs := by
    intro updated hupdated
    obtain ⟨quality,hquality,hsome⟩ := Option.bind_eq_some_iff.mp hupdated
    split at hquality
    · exact (hreported quality (List.mem_of_find?_eq_some hquality)).time updated hsome
    · cases hquality
  generalize hsummary : (groupMetricSummary processes metric).1=quality at htime
  have htells := summary_tells hne metric
  rw [hsummary] at htells
  cases htells with
  | complete hcomplete hcode hmessage =>
    refine ⟨?_,?_,?_,fun _ => hmessage,htime⟩
    · rw [hcode]
      cases hcomplete with
      | inl hq => rw [hq]; rfl
      | inr hq => rw [hq]; rfl
    · cases hcomplete with
      | inl hq => rw [hq]; exact nofun
      | inr hq => rw [hq]; exact nofun
    · intro message hsome
      rw [hmessage] at hsome
      cases hsome
  | held hheld hcode message hmessage hspoken =>
    refine ⟨by rw [hheld,hcode]; rfl,fun _ => by rw [hmessage]; rfl,?_,?_,htime⟩
    · intro other hother
      rw [hmessage,Option.some.injEq] at hother
      rw [← hother]
      cases hspoken with
      | inl hown =>
        rw [hown]
        decide
      | inr hmember =>
        obtain ⟨q,hq,hsome⟩ := hmember
        exact (hreported q hq).spoken message hsome
    · intro hnative
      rw [hheld] at hnative
      cases hnative
  | counted hlimited hcode counts hmessage =>
    refine ⟨?_,fun _ => by rw [hmessage]; rfl,?_,?_,htime⟩
    · rw [hcode]
      cases hlimited with
      | inl hq => rw [hq]; decide
      | inr hq => rw [hq]; decide
    · intro other hother
      rw [hmessage,Option.some.injEq] at hother
      rw [← hother]
      exact trim_append_ne_empty (by decide)
    · intro hnative
      cases hlimited with
      | inl hq => rw [hq] at hnative; cases hnative
      | inr hq => rw [hq] at hnative; cases hnative
  | limited hlimited hcode hmessage =>
    refine ⟨by rw [hlimited,hcode]; decide,fun _ => by rw [hmessage]; rfl,?_,?_,htime⟩
    · intro other hother
      rw [hmessage,Option.some.injEq] at hother
      rw [← hother]
      decide
    · intro hnative
      rw [hlimited] at hnative
      cases hnative

end Summary

section Groups
variable {processes : List ProcessSample} {sampledAtMs : Option Nat} {publishedAtMs interval : Nat}

/-- A row of a group that reports what its members make of each metric. -/
structure Summarizes (processes : List ProcessSample) (detail : GroupDetail) : Prop where
  quality : detail.quality={
    cpu := (groupMetricSummary processes .cpu).1
    memory := (groupMetricSummary processes .memory).1
    io := (groupMetricSummary processes .io).1
    otherIo := (groupMetricSummary processes .otherIo).1
    network := (groupMetricSummary processes .network).1
    threads := (groupMetricSummary processes .threads).1 }
  coverage : detail.coverage={
    cpu := (groupMetricSummary processes .cpu).2
    memory := (groupMetricSummary processes .memory).2
    io := (groupMetricSummary processes .io).2
    otherIo := (groupMetricSummary processes .otherIo).2
    network := (groupMetricSummary processes .network).2
    threads := (groupMetricSummary processes .threads).2 }
  cpu : NotBelow detail.cpuPercent

/-- A metric of a group that is accepted, with the coverage that goes with its quality. -/
structure SpecSound (processes : List ProcessSample) (sampledAtMs : Option Nat)
    (publishedAtMs : Nat) (spec : Request × MetricCoverage) : Prop where
  accepted : RequestAccepted sampledAtMs publishedAtMs spec.1
  summary : ∃ metric, spec.1.quality=some (groupMetricSummary processes metric).1 ∧
    spec.2=(groupMetricSummary processes metric).2

theorem groupSpecs_sound (hne : processes≠[])
    (h : ∀ process∈processes, ∀ quality∈processQualities process,
      QualitySound sampledAtMs publishedAtMs quality)
    {detail : GroupDetail} (hdetail : Summarizes processes detail) :
    ∀ spec∈groupSpecs detail, SpecSound processes sampledAtMs publishedAtMs spec := by
  have hcanonical := canonical_groupRequests detail
  have hquality : ∀ metric, ∀ q, some (groupMetricSummary processes metric).1=some q →
      QualitySound sampledAtMs publishedAtMs q := by
    intro metric q hq
    cases hq
    exact summary_sound hne h metric
  have hshare : ∀ v, some detail.cpuPercent=some v → NotBelow v := by
    intro v hv
    cases hv
    exact hdetail.cpu
  intro spec hspec
  have hshape := hcanonical spec.1 (List.mem_map_of_mem hspec)
  simp only [groupSpecs,hdetail.quality,hdetail.coverage,List.mem_cons,List.not_mem_nil,
    or_false] at hspec
  obtain rfl | rfl | rfl | rfl | rfl | rfl := hspec
  · exact ⟨⟨hshape,hshare,hquality .cpu⟩,.cpu,rfl,rfl⟩
  · exact ⟨⟨hshape,notBelow_asF64 _,hquality .memory⟩,.memory,rfl,rfl⟩
  · exact ⟨⟨hshape,notBelow_asF64 _,hquality .io⟩,.io,rfl,rfl⟩
  · exact ⟨⟨hshape,notBelow_optionAsF64 _,hquality .otherIo⟩,.otherIo,rfl,rfl⟩
  · exact ⟨⟨hshape,notBelow_asF64 _,hquality .network⟩,.network,rfl,rfl⟩
  · exact ⟨⟨hshape,notBelow_asF64 _,hquality .threads⟩,.threads,rfl,rfl⟩

/-- A reading keeps the quality or has none. -/
theorem reading_code (unit : MetricUnit) (value : Option Float) (quality : MetricQualityInfo) :
    (reading unit value (some quality) sampledAtMs).qualityCode=metricQualityCode quality.quality ∨
      (reading unit value (some quality) sampledAtMs).qualityCode=
        metricQualityCode .unavailable := by
  cases hsource : quality.source with
  | none =>
    rw [reading_unsourced unit value sampledAtMs (by rw [Option.bind_some,hsource])]
    split <;> exact .inr rfl
  | some source =>
    have hsome : quality.source.isSome := by rw [hsource]; rfl
    obtain hq | hq | hq | hq := quality_kinds quality
    · rw [reading_live unit value sampledAtMs hsome hq]
      split
      · exact .inr rfl
      · split
        · exact .inr rfl
        · split
          · exact .inr rfl
          · exact .inl rfl
    · have hheld : quality.quality=.held := by
        simp only [awaitsBaseline,Bool.and_eq_true,beq_iff_eq] at hq
        exact hq.1
      rw [reading_pending unit value sampledAtMs hsome hq,hheld]
      split
      · exact .inr rfl
      · exact .inl rfl
    · rw [reading_held unit value sampledAtMs hsome hq.1 hq.2,hq.1]
      split
      · exact .inr rfl
      · split
        · exact .inr rfl
        · split
          · exact .inr rfl
          · exact .inl rfl
    · rw [reading_unavailable unit value sampledAtMs hsome hq]
      split <;> exact .inr rfl

/-- Of the elements with distinct keys one has the key of a given one. -/
theorem filter_key {α κ : Type} [DecidableEq κ] (key : α → κ) {xs : List α}
    (hnodup : (xs.map key).Nodup) {x : α} (hx : x∈xs) :
    xs.filter (fun y => key y==key x)=[x] := by
  induction xs with
  | nil => cases hx
  | cons y ys ih =>
    rw [List.map_cons,List.nodup_cons] at hnodup
    cases List.mem_cons.mp hx with
    | inl heq =>
      rw [← heq] at hnodup ⊢
      rw [List.filter_cons_of_pos (by simp),List.filter_eq_nil_iff.mpr]
      intro z hz hkey
      exact hnodup.1 (List.mem_map.mpr ⟨z,hz,beq_iff_eq.mp hkey⟩)
    | inr hmem =>
      have hne : key y≠key x := fun heq => hnodup.1 (List.mem_map.mpr ⟨x,hmem,heq.symm⟩)
      rw [List.filter_cons_of_neg (by simpa using hne),ih hnodup.2 hmem]

theorem forall₂_right {α β : Type} {R : α → β → Prop} {xs : List α} {ys : List β}
    (h : List.Forall₂ R xs ys) {y : β} (hy : y∈ys) : ∃ x∈xs, R x y := by
  induction h with
  | nil => cases hy
  | @cons x y' xs ys hr _ ih =>
    cases List.mem_cons.mp hy with
    | inl heq => exact ⟨x,List.mem_cons_self,by rw [heq]; exact hr⟩
    | inr hmem =>
      obtain ⟨x',hx',hr'⟩ := ih hmem
      exact ⟨x',List.mem_cons_of_mem _ hx',hr'⟩

variable {payload : PublicationFacts}

/-- Requests for different metrics have different descriptors. -/
theorem descriptorIndex_nodup {specs : List (Request × MetricCoverage)}
    {os : List (MetricObservation × GroupMetricCoverageV4)}
    (hsemantics : (specs.map (fun spec => spec.1.definition.semantic)).Nodup)
    (h : List.Forall₂ (SpecRecorded interval sampledAtMs payload.toCatalogs) specs os) :
    (os.map (fun o => o.1.descriptorIndex)).Nodup := by
  induction h with
  | nil => exact List.nodup_nil
  | @cons spec o specs os hspec hrest ih =>
    rw [List.map_cons,List.nodup_cons] at hsemantics ⊢
    refine ⟨?_,ih hsemantics.2⟩
    intro hmem
    obtain ⟨other,hother,hindex⟩ := List.mem_map.mp hmem
    obtain ⟨spec',hspec',hrecorded⟩ := forall₂_right hrest hother
    obtain ⟨d,hd,_,hsemantic,_⟩ := hspec.observation.named
    obtain ⟨d',hd',_,hsemantic',_⟩ := hrecorded.observation.named
    rw [hindex,hd,Option.some.injEq] at hd'
    rw [hd',hsemantic'] at hsemantic
    exact hsemantics.1 (List.mem_map.mpr ⟨spec',hspec',hsemantic⟩)

/-- The coverage of a group passes: every member is counted, and a sum that not every member
contributes to is limited and says so. -/
theorem validateCoverage_sound (hcodes : payload.qualityCodes=qualityCodes)
    (htime : ∀ sampled, sampledAtMs=some sampled → sampled ≤ payload.publishedAtMs)
    {specs : List (Request × MetricCoverage)}
    (hsound : ∀ spec∈specs, SpecSound processes sampledAtMs payload.publishedAtMs spec)
    (hsemantics : (specs.map (fun spec => spec.1.definition.semantic)).Nodup)
    {os : List (MetricObservation × GroupMetricCoverageV4)}
    (h : List.Forall₂ (SpecRecorded interval sampledAtMs payload.toCatalogs) specs os)
    {detail : GroupDetailV4} (hcoverage : detail.coverage=os.map Prod.snd)
    (hmembers : detail.memberIds.length=processes.length) :
    ∀ o∈os.map Prod.fst, validateCoverage payload detail o=.ok () := by
  intro o ho
  obtain ⟨pair,hpair,rfl⟩ := List.mem_map.mp ho
  obtain ⟨spec,hspec,hrecorded⟩ := forall₂_right h hpair
  obtain ⟨haccepted,metric,hquality,hcover⟩ := hsound spec hspec
  have hown := hrecorded.coverage
  have hfilter : detail.coverage.filter (fun coverage =>
      coverage.descriptorIndex==pair.1.descriptorIndex)=[pair.2] := by
    have hkeys : (os.map Prod.snd).map GroupMetricCoverageV4.descriptorIndex=
        os.map (fun o => o.1.descriptorIndex) := by
      rw [List.map_map]
      refine List.map_congr_left ?_
      intro other hother
      obtain ⟨_,_,hother'⟩ := forall₂_right h hother
      rw [Function.comp_apply,hother'.coverage]
    have hnodup := descriptorIndex_nodup hsemantics h
    rw [← hkeys] at hnodup
    have hone := filter_key _ hnodup (List.mem_map_of_mem (f := Prod.snd) hpair)
    have hindex : pair.2.descriptorIndex=pair.1.descriptorIndex := by rw [hown]
    rw [hindex] at hone
    rw [hcoverage]
    exact hone
  have hreading := haccepted.accepted htime
  have hcode := @reading_code sampledAtMs spec.1.definition.unit spec.1.value
    (groupMetricSummary processes metric).1
  rw [← hquality] at hcode
  obtain ⟨quality,hfits⟩ := hreading
  have hquality' : qualityCodes[pair.1.qualityCode]?=some quality := by
    rw [hrecorded.observation.qualityCode]
    exact hfits.code
  have hlimitation : pair.1.limitationIndex.isSome=
      (spec.1.reading sampledAtMs).limitation.isSome := rel_isSome hrecorded.observation.limitation
  have hlive : spec.2.available < spec.2.total → quality≠.native ∧ quality≠.estimated := by
    intro hless
    rw [hcover] at hless
    obtain ⟨hnative,hestimated⟩ := summary_covered hless
    have hfound := hfits.code
    have hcode' : (spec.1.reading sampledAtMs).qualityCode=
        metricQualityCode (groupMetricSummary processes metric).1.quality ∨
        (spec.1.reading sampledAtMs).qualityCode=metricQualityCode .unavailable := hcode
    cases hcode' with
    | inl hkept =>
      rw [hkept,qualityCodes_code,Option.some.injEq] at hfound
      rw [← hfound]
      cases hq : (groupMetricSummary processes metric).1.quality with
      | native => exact absurd hq hnative
      | estimated => exact absurd hq hestimated
      | held => exact ⟨nofun,nofun⟩
      | partialQuality => exact ⟨nofun,nofun⟩
      | unavailable => exact ⟨nofun,nofun⟩
    | inr hnone =>
      rw [hnone,qualityCodes_code,Option.some.injEq] at hfound
      rw [← hfound]
      exact ⟨nofun,nofun⟩
  have hexplained : spec.2.available < spec.2.total → pair.1.limitationIndex.isSome := by
    intro hless
    obtain ⟨hnative,hestimated⟩ := hlive hless
    rw [hlimitation]
    have hallows := hfits.explained
    cases hentry : (spec.1.reading sampledAtMs).limitation with
    | some entry => rfl
    | none =>
      rw [hentry] at hallows
      cases quality with
      | native => exact absurd rfl hnative
      | estimated => exact absurd rfl hestimated
      | held => cases hallows
      | partialQuality => cases hallows
      | unavailable => cases hallows
  have htotal : spec.2.total=processes.length := by rw [hcover]; rfl
  have hle : spec.2.available ≤ spec.2.total := by
    rw [hcover]
    exact availableCount_le
  rw [validateCoverage,hfilter]
  simp only [unit_bind_ok,reject_ok,hown,hcodes,hquality',hmembers,htotal,
    validateLimitationIndex_of_rel hrecorded.observation.limitation]
  rw [htotal] at hle hlive hexplained
  refine ⟨by simpa using hle,trivial,by simp,?_,?_⟩
  · by_cases hless : spec.2.available < processes.length
    · have hsome := hexplained hless
      simp [hless,hsome]
    · simp [hless]
  · by_cases hless : spec.2.available < processes.length
    · obtain ⟨hnative,hestimated⟩ := hlive hless
      simp [hless,hnative,hestimated]
    · simp [hless]

end Groups
end BatCave.Protocol
