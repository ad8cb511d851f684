import BatCave.Protocol.System

/-! What each kind of quality makes of a value, and which readings a reader accepts. -/
namespace BatCave.Protocol
open BatCave.Contracts BatCave.Lib BatCave.Lib.Text CatalogBuilder

/-- The value is beyond what a reader's integers hold. -/
def outOfRange (unit : MetricUnit) (value : Float) : Bool :=
  unit.safeInteger && decide (Binary64.ofUnsigned jsMaxSafeInteger < value)

def numericRangeReading : Reading :=
  .unavailable .numericRange "Metric value exceeds the JavaScript safe integer range."

def missingTimeReading : Reading :=
  .unavailable .missingMetadata "Metric observation time was not reported by the collector."

def missingHeldTimeReading : Reading :=
  .unavailable .missingMetadata "Held metric is missing its original observation time."

def missingSourceReading : Reading :=
  .unavailable .missingMetadata "Metric source provenance was not reported by the collector."

section Kinds
variable (unit : MetricUnit) (value : Option Float) (sampledAtMs : Option Nat)

theorem reading_unsourced {quality : Option MetricQualityInfo}
    (h : quality.bind MetricQualityInfo.source=none) :
    reading unit value quality sampledAtMs=
      if quality.any (fun quality => quality.quality==.held && !awaitsBaseline quality) then
        missingHeldTimeReading
      else missingSourceReading := by
  cases quality with
  | none => simp [reading,missingSourceReading,Reading.unavailable,metricQualityCode]
  | some quality =>
    rw [Option.bind_some] at h
    cases hh : quality.quality==.held && !awaitsBaseline quality with
    | true =>
      simp [reading,h,hh,missingHeldTimeReading,Reading.unavailable,metricQualityCode]
    | false =>
      simp [reading,h,hh,missingSourceReading,Reading.unavailable,metricQualityCode]

variable {quality : MetricQualityInfo} (hs : quality.source.isSome)
include hs

/-- A live reading keeps a value in range whose time is known. -/
theorem reading_live (hq : live quality) :
    reading unit value (some quality) sampledAtMs=
      match value.filter Float.isFinite with
      | none => ⟨none,metricQualityCode .unavailable,(reportedLimitation quality).or
          (some ⟨.unsupportedMetric,"Metric value was not reported by the collector."⟩),none⟩
      | some x =>
        if outOfRange unit x then numericRangeReading
        else match quality.updatedAtMs.or sampledAtMs with
          | none => missingTimeReading
          | some observed =>
            ⟨some x,metricQualityCode quality.quality,reportedLimitation quality,
              some observed⟩ := by
  obtain ⟨source,hsource⟩ := Option.isSome_iff_exists.mp hs
  have hne : metricQualityCode quality.quality≠metricQualityCode .unavailable := by
    simp only [live,List.mem_cons,List.not_mem_nil,or_false,decide_eq_true_eq] at hq
    obtain h | h | h := hq <;> rw [h] <;> decide
  have hheld : (quality.quality==.held)=false := by
    simp only [live,List.mem_cons,List.not_mem_nil,or_false,decide_eq_true_eq] at hq
    obtain h | h | h := hq <;> rw [h] <;> decide
  have hpending : awaitsBaseline quality=false := by simp [awaitsBaseline,hheld]
  cases hv : value.filter Float.isFinite with
  | none => simp [reading,hv,hsource,hq,hpending,hheld]
  | some x =>
    cases hr : outOfRange unit x with
    | true =>
      have hr' := hr
      simp only [outOfRange] at hr'
      simp [reading,hv,hsource,hq,hpending,hheld,hr,hr',numericRangeReading,Reading.unavailable]
    | false =>
      have hr' := hr
      simp only [outOfRange] at hr'
      cases ho : quality.updatedAtMs.or sampledAtMs with
      | none =>
        simp [reading,hv,hsource,hq,hpending,hheld,hr,hr',hne,ho,missingTimeReading,
          Reading.unavailable]
      | some observed =>
        simp [reading,hv,hsource,hq,hpending,hheld,hr,hr',hne,ho]

/-- A reading that waits for its baseline has no value yet. -/
theorem reading_pending (hq : awaitsBaseline quality=true) :
    reading unit value (some quality) sampledAtMs=
      if (value.filter Float.isFinite).any (outOfRange unit) then numericRangeReading
      else ⟨none,metricQualityCode .held,reportedLimitation quality,none⟩ := by
  obtain ⟨source,hsource⟩ := Option.isSome_iff_exists.mp hs
  have hheld : quality.quality=.held := by
    simp only [awaitsBaseline,Bool.and_eq_true,beq_iff_eq] at hq
    exact hq.1
  have hlive : live quality=false := by simp [live,hheld]
  cases hv : value.filter Float.isFinite with
  | none => simp [reading,hv,hsource,hq,hlive,hheld,metricQualityCode]
  | some x =>
    cases hr : outOfRange unit x with
    | true =>
      have hr' := hr
      simp only [outOfRange] at hr'
      simp [reading,hv,hsource,hq,hlive,hheld,hr,hr',numericRangeReading,Reading.unavailable,
        metricQualityCode]
    | false =>
      have hr' := hr
      simp only [outOfRange] at hr'
      simp [reading,hv,hsource,hq,hlive,hheld,hr,hr',metricQualityCode]

/-- A held reading keeps a value in range and the time it was first observed. -/
theorem reading_held (hheld : quality.quality=.held) (hq : awaitsBaseline quality=false) :
    reading unit value (some quality) sampledAtMs=
      match value.filter Float.isFinite with
      | none => missingHeldTimeReading
      | some x =>
        if outOfRange unit x then missingHeldTimeReading
        else match quality.updatedAtMs with
          | none => missingHeldTimeReading
          | some observed =>
            ⟨some x,metricQualityCode .held,reportedLimitation quality,some observed⟩ := by
  obtain ⟨source,hsource⟩ := Option.isSome_iff_exists.mp hs
  have hlive : live quality=false := by simp [live,hheld]
  cases hv : value.filter Float.isFinite with
  | none =>
    simp [reading,hv,hsource,hq,hlive,hheld,missingHeldTimeReading,Reading.unavailable,
      metricQualityCode]
  | some x =>
    cases hr : outOfRange unit x with
    | true =>
      have hr' := hr
      simp only [outOfRange] at hr'
      simp [reading,hv,hsource,hq,hlive,hheld,hr,hr',missingHeldTimeReading,Reading.unavailable,
        metricQualityCode]
    | false =>
      have hr' := hr
      simp only [outOfRange] at hr'
      cases ho : quality.updatedAtMs with
      | none =>
        simp [reading,hv,hsource,hq,hlive,hheld,hr,hr',ho,missingHeldTimeReading,
          Reading.unavailable,metricQualityCode]
      | some observed => simp [reading,hv,hsource,hq,hlive,hheld,hr,hr',ho,metricQualityCode]

theorem reading_unavailable (hq : quality.quality=.unavailable) :
    reading unit value (some quality) sampledAtMs=
      if (value.filter Float.isFinite).any (outOfRange unit) then numericRangeReading
      else ⟨none,metricQualityCode .unavailable,(reportedLimitation quality).or
        (some ⟨.unsupportedMetric,"Metric is unavailable on this source."⟩),none⟩ := by
  obtain ⟨source,hsource⟩ := Option.isSome_iff_exists.mp hs
  have hlive : live quality=false := by simp [live,hq]
  have hpending : awaitsBaseline quality=false := by simp [awaitsBaseline,hq]
  cases hv : value.filter Float.isFinite with
  | none => simp [reading,hv,hsource,hq,hlive,hpending,metricQualityCode]
  | some x =>
    cases hr : outOfRange unit x with
    | true =>
      have hr' := hr
      simp only [outOfRange] at hr'
      simp [reading,hv,hsource,hq,hlive,hpending,hr,hr',numericRangeReading,Reading.unavailable,
        metricQualityCode]
    | false =>
      have hr' := hr
      simp only [outOfRange] at hr'
      simp [reading,hv,hsource,hq,hlive,hpending,hr,hr',metricQualityCode]

end Kinds

/-- The texts that the catalog writes itself. -/
def ownLimitations : List LimitationEntry :=
  [⟨.missingMetadata,"Metric source provenance was not reported by the collector."⟩,
    ⟨.unsupportedMetric,"Metric value was not reported by the collector."⟩,
    ⟨.numericRange,"Metric value exceeds the JavaScript safe integer range."⟩,
    ⟨.unsupportedMetric,"Metric is unavailable on this source."⟩,
    ⟨.missingMetadata,"Held metric is missing its original observation time."⟩,
    ⟨.missingMetadata,"Metric observation time was not reported by the collector."⟩]

theorem ownLimitations_spoken : ∀ entry∈ownLimitations, trim entry.message≠"" := by
  decide

/-- The four kinds of reading that the catalog tells apart. -/
theorem quality_kinds (quality : MetricQualityInfo) : live quality=true ∨
    awaitsBaseline quality=true ∨ (quality.quality=.held ∧ awaitsBaseline quality=false) ∨
    quality.quality=.unavailable := by
  cases hq : quality.quality with
  | native => simp [live,hq]
  | estimated => simp [live,hq]
  | held =>
    cases hb : awaitsBaseline quality with
    | true => simp
    | false => simp
  | partialQuality => simp [live,hq]
  | unavailable => simp

theorem or_own {reported : Option LimitationEntry} {own entry : LimitationEntry}
    (hown : own∈ownLimitations) (h : reported.or (some own)=some entry) :
    entry∈ownLimitations ∨ reported=some entry := by
  cases reported with
  | none =>
    cases h
    exact .inl hown
  | some r => exact .inr h

/-- A limitation is the collector's own or one of the catalog's. -/
theorem reading_limitation {unit : MetricUnit} {value : Option Float}
    {quality : Option MetricQualityInfo} {sampledAtMs : Option Nat} {entry : LimitationEntry}
    (h : (reading unit value quality sampledAtMs).limitation=some entry) :
    entry∈ownLimitations ∨ quality.bind reportedLimitation=some entry := by
  cases hs : quality.bind MetricQualityInfo.source with
  | none =>
    rw [reading_unsourced unit value sampledAtMs hs] at h
    left
    split at h
    · cases h
      decide
    · cases h
      decide
  | some source =>
    cases quality with
    | none => cases hs
    | some quality =>
      have hsome : quality.source.isSome := by
        rw [Option.bind_some] at hs
        rw [hs]
        rfl
      obtain hq | hq | hq | hq := quality_kinds quality
      · rw [reading_live unit value sampledAtMs hsome hq] at h
        split at h
        · exact or_own (by decide) h
        · split at h
          · cases h
            exact .inl (by decide)
          · split at h
            · cases h
              exact .inl (by decide)
            · exact .inr h
      · rw [reading_pending unit value sampledAtMs hsome hq] at h
        split at h
        · cases h
          exact .inl (by decide)
        · exact .inr h
      · rw [reading_held unit value sampledAtMs hsome hq.1 hq.2] at h
        split at h
        · cases h
          exact .inl (by decide)
        · split at h
          · cases h
            exact .inl (by decide)
          · split at h
            · cases h
              exact .inl (by decide)
            · exact .inr h
      · rw [reading_unavailable unit value sampledAtMs hsome hq] at h
        split at h
        · cases h
          exact .inl (by decide)
        · exact or_own (by decide) h

/-- The quality that a code stands for. -/
def qualityV4 : MetricQuality → MetricQualityV4
  | .native => .native
  | .estimated => .estimated
  | .held => .held
  | .partialQuality => .partialQuality
  | .unavailable => .unavailable

theorem qualityCodes_code (quality : MetricQuality) :
    qualityCodes[metricQualityCode quality]?=some (qualityV4 quality) := by
  cases quality <;> rfl

section Accepted
variable {source : MetricSourceV4} {publishedAtMs : Nat} {sampledAtMs : Option Nat}
  {limitation : Option LimitationEntry}

theorem accepted_unavailable_iff :
    (⟨none,metricQualityCode .unavailable,limitation,none⟩ : Reading).Accepted source publishedAtMs
        sampledAtMs ↔
      (qualityLimitationPolicy .unavailable).allows (limitation.map LimitationEntry.code)=true ∧
        (source=.unknown → limitation.map LimitationEntry.code=some .missingMetadata) := by
  constructor
  · intro ⟨quality,h⟩
    have hcode := h.code
    cases hcode
    exact ⟨h.explained,fun hs => (h.sourced hs).2⟩
  · intro ⟨hallows,hsource⟩
    refine ⟨.unavailable,rfl,?_,?_,?_,rfl,?_,?_,hallows,fun hs => ⟨rfl,hsource hs⟩⟩
    · exact fun _ => rfl
    · exact fun _ => .inl rfl
    · intro v hv
      cases hv
    · intro observed ho
      cases ho
    · intro hq
      cases hq

theorem accepted_pending_iff (hsource : source≠.unknown) :
    (⟨none,metricQualityCode .held,limitation,none⟩ : Reading).Accepted source publishedAtMs
        sampledAtMs ↔
      (qualityLimitationPolicy .held).allows (limitation.map LimitationEntry.code)=true := by
  constructor
  · intro ⟨quality,h⟩
    have hcode := h.code
    cases hcode
    exact h.explained
  · intro hallows
    have hsome : limitation.isSome := by
      cases limitation with
      | none => cases hallows
      | some entry => rfl
    refine ⟨.held,rfl,?_,?_,?_,rfl,?_,?_,hallows,fun hs => absurd hs hsource⟩
    · intro hq
      cases hq
    · exact fun _ => .inr ⟨rfl,hsome⟩
    · intro v hv
      cases hv
    · intro observed ho
      cases ho
    · intro _ observed sampled ho
      cases ho

theorem accepted_value_iff {quality : MetricQuality} {x : Float} {observed : Nat}
    (hq : quality≠.unavailable) (hsource : source≠.unknown) (hx : x.isFinite=true) :
    (⟨some x,metricQualityCode quality,limitation,some observed⟩ : Reading).Accepted source
        publishedAtMs sampledAtMs ↔
      ¬x < 0.0 ∧ observed ≤ publishedAtMs ∧
        (quality=.held → ∀ sampled, sampledAtMs=some sampled → observed ≤ sampled) ∧
        (qualityLimitationPolicy (qualityV4 quality)).allows
          (limitation.map LimitationEntry.code)=true := by
  have hheld : qualityV4 quality=.held ↔ quality=.held := by cases quality <;> simp [qualityV4]
  have havail : qualityV4 quality≠.unavailable := by cases quality <;> simp_all [qualityV4]
  constructor
  · intro ⟨q,h⟩
    have hcode := h.code
    rw [qualityCodes_code,Option.some.injEq] at hcode
    subst hcode
    exact ⟨(h.value x rfl).2,h.published observed rfl,
      fun hhold sampled hs => h.held (hheld.mpr hhold) observed sampled rfl hs,h.explained⟩
  · intro ⟨hneg,hpub,hhold,hallows⟩
    refine ⟨qualityV4 quality,qualityCodes_code quality,fun h => absurd h havail,?_,?_,rfl,?_,?_,
      hallows,fun hs => absurd hs hsource⟩
    · intro hv
      cases hv
    · intro v hv
      cases hv
      exact ⟨hx,hneg⟩
    · intro at' ho
      cases ho
      exact hpub
    · intro hq' at' sampled ho hs
      cases ho
      exact hhold (hheld.mp hq') sampled hs

theorem metricSource_ne_unknown (source : MetricSource) : metricSource source≠.unknown := by
  cases source <;> decide

theorem accepted_numericRange (hsource : source≠.unknown) :
    numericRangeReading.Accepted source publishedAtMs sampledAtMs :=
  accepted_unavailable_iff.mpr ⟨rfl,fun hs => absurd hs hsource⟩

theorem accepted_missingHeldTime :
    missingHeldTimeReading.Accepted source publishedAtMs sampledAtMs :=
  accepted_unavailable_iff.mpr ⟨rfl,fun _ => rfl⟩

theorem accepted_missingSource : missingSourceReading.Accepted source publishedAtMs sampledAtMs :=
  accepted_unavailable_iff.mpr ⟨rfl,fun _ => rfl⟩

/-- An accepted time is one that a reader can hold. -/
theorem Reading.Accepted.timeSafe {r : Reading} (h : r.Accepted source publishedAtMs sampledAtMs)
    (hp : publishedAtMs ≤ jsMaxSafeInteger) : r.observedTooLate=false := by
  obtain ⟨quality,h⟩ := h
  simp only [Reading.observedTooLate]
  cases ho : r.observedAtMs with
  | none => rfl
  | some observed =>
    have hle := h.published observed ho
    simp only [Option.any_some,decide_eq_false_iff_not]
    omega

/-- The value lies beyond the integers of a reader, which is shown none. -/
def unshown (value : Nat) : Bool := ((asF64 value).filter Float.isFinite).any (outOfRange .bytes)

theorem outOfRange_eq {unit : MetricUnit} (h : unit.safeInteger=true) :
    outOfRange unit=outOfRange .bytes := by
  funext value
  simp only [outOfRange,h]
  rfl

/-- A partial reading that waits for its baseline is accepted only when it shows nothing. -/
theorem partial_accepted_iff {unit : MetricUnit} (hunit : unit.safeInteger=true)
    (own : MetricSource) (value : Nat) (message : String) {sampled : Nat} :
    (reading unit (asF64 value) (some ((MetricQualityInfo.new .partialQuality own).withLimitation
        .pendingBaseline message)) (some sampled)).Accepted (metricSource own) publishedAtMs
        (some sampled) ↔ unshown value=true := by
  have hsource := metricSource_ne_unknown own
  rw [reading_live unit _ (some sampled) rfl rfl,unshown]
  cases hvalue : (asF64 value).filter Float.isFinite with
  | none =>
    constructor
    · intro h
      cases (accepted_unavailable_iff.mp h).1
    · intro h
      cases h
  | some x =>
    rw [Option.any_some,← outOfRange_eq hunit]
    cases hrange : outOfRange unit x with
    | true =>
      simp only [hrange,if_true]
      exact ⟨fun _ => trivial,fun _ => accepted_numericRange hsource⟩
    | false =>
      simp only [hrange,Bool.false_eq_true,if_false]
      constructor
      · intro h
        obtain ⟨quality,hfits⟩ := h
        have hcode := hfits.code
        cases hcode
        have hallows := hfits.explained
        cases hallows
      · intro h
        cases h

end Accepted

/-- The system section, the first that a publication encodes, passes: it finds room in the
catalogs, every limitation in them says something, and its observations are accepted whatever
else the catalogs come to hold. -/
def SystemPublishable (system : SystemMetricsSnapshot) (interval sampledAtMs publishedAtMs : Nat) :
    Prop :=
  ∃ c detail c', CatalogBuilder.new interval=.ok c ∧
    encodeSystem system (some sampledAtMs) c=.ok (detail,c') ∧
    (∀ entry∈c'.limitations, trim entry.message≠"") ∧
    ∀ payload : PublicationFacts, c'.Within payload.toCatalogs →
      payload.qualityCodes=qualityCodes → payload.sampledAtMs=some sampledAtMs →
      payload.publishedAtMs=publishedAtMs →
      validateObservations payload .system detail.metrics=.ok () ∧
      (∀ logical∈detail.logicalCpus, validateObservations payload .system logical.metrics=.ok ()) ∧
      ∀ tag∈detail.kernelPoolTags, validateObservations payload .system tag.metrics=.ok ()

theorem scope_systemRequests (system : SystemMetricsSnapshot) :
    ∀ r∈allSystemRequests system, r.definition.scope=.system := by
  have hmachine : ∀ r∈machineRequests system, r.definition.scope=.system := by
    simp [machineRequests,systemRequest]
  have haccounting : ∀ accounting, ∀ r∈accountingRequests (memoryQuality system) accounting,
      r.definition.scope=.system := by
    simp [accountingRequests,systemRequest]
  intro r hr
  simp only [allSystemRequests,systemRequests,List.mem_append,List.mem_map,List.mem_flatMap] at hr
  obtain (hr | hr) | ⟨v,_,rfl⟩ | ⟨tag,_,hr⟩ := hr
  · exact hmachine r hr
  · cases ha : system.memoryAccounting with
    | none => simp [ha] at hr
    | some accounting =>
      rw [ha,Option.elim_some] at hr
      exact haccounting accounting r hr
  · rfl
  · simp only [poolTagRequests,List.mem_cons,List.not_mem_nil,or_false] at hr
    obtain rfl | rfl | rfl := hr <;> rfl

theorem nodup_systemRequests (system : SystemMetricsSnapshot) :
    ((systemRequests system).map (fun r => r.definition.semantic)).Nodup := by
  cases ha : system.memoryAccounting with
  | none =>
    rw [systemRequests,ha]
    exact (by decide : [MetricSemantic.cpuUsage,.kernelCpuUsage,.memoryUsed,.memoryCapacity,
      .memoryAvailable,.swapUsed,.swapCapacity,.processCount,.physicalDiskReadTotal,
      .physicalDiskWriteTotal,.physicalDiskReadRate,.physicalDiskWriteRate,.networkReceiveTotal,
      .networkTransmitTotal,.networkReceiveRate,.networkTransmitRate].Nodup)
  | some accounting =>
    rw [systemRequests,ha]
    exact (by decide : [MetricSemantic.cpuUsage,.kernelCpuUsage,.memoryUsed,.memoryCapacity,
      .memoryAvailable,.swapUsed,.swapCapacity,.processCount,.physicalDiskReadTotal,
      .physicalDiskWriteTotal,.physicalDiskReadRate,.physicalDiskWriteRate,.networkReceiveTotal,
      .networkTransmitTotal,.networkReceiveRate,.networkTransmitRate,.processWorkingSetMemory,
      .processPrivateMemory,.deniedProcessCount,.partialProcessCount,.commitUsed,.commitLimit,
      .systemCache,.kernelMemory,.kernelPagedPool,.kernelNonpagedPool].Nodup)

theorem exists_of_mem_right {α β : Type} {R : α → β → Prop} {xs : List α} {ys : List β}
    (h : List.Forall₂ R xs ys) {y : β} (hy : y∈ys) : ∃ x∈xs, R x y := by
  induction h with
  | nil => cases hy
  | @cons a b xs ys hab _ ih =>
    cases List.mem_cons.mp hy with
    | inl heq =>
      rw [heq]
      exact ⟨a,List.mem_cons_self,hab⟩
    | inr hmem =>
      obtain ⟨x,hx,hr⟩ := ih hmem
      exact ⟨x,List.mem_cons_of_mem _ hx,hr⟩

theorem exists_of_mem_left {α β : Type} {R : α → β → Prop} {xs : List α} {ys : List β}
    (h : List.Forall₂ R xs ys) {x : α} (hx : x∈xs) : ∃ y∈ys, R x y :=
  exists_of_mem_right h.flip hx

/-- Readings that are accepted one by one, in catalogs that have room for them, make a
section that passes. -/
theorem systemPublishable_of_accepted {system : SystemMetricsSnapshot}
    {interval sampledAtMs publishedAtMs : Nat} (hi : interval≠0)
    (hp : publishedAtMs ≤ jsMaxSafeInteger) (hcpus : system.logicalCpuPercent.length ≤ 2^16)
    (hdescriptors :
      ((allSystemRequests system).map (fun r => r.descriptor interval)).toFinset.card ≤
      catalogSize)
    (hlimitations : (limitationsOf (some sampledAtMs) (allSystemRequests system)).toFinset.card ≤
      catalogSize)
    (haccepted : ∀ r∈allSystemRequests system, (r.reading (some sampledAtMs)).Accepted
      (sourceOf r.quality) publishedAtMs (some sampledAtMs))
    (hspoken : ∀ entry∈limitationsOf (some sampledAtMs) (allSystemRequests system),
      trim entry.message≠"") :
    SystemPublishable system interval sampledAtMs publishedAtMs := by
  have hencodes := encodeSystem_encodes (some sampledAtMs) hi system
  have hnew : CatalogBuilder.new interval=.ok ⟨⟨[],[]⟩,interval⟩ := if_neg hi
  have hok := ok_new hnew
  have hroom : CatalogBuilder.Room ⟨⟨[],[]⟩,interval⟩
      ((allSystemRequests system).map (fun r => r.descriptor interval))
      (limitationsOf (some sampledAtMs) (allSystemRequests system)) :=
    ⟨by simpa [Interner.keys] using hdescriptors,by simpa [Interner.keys] using hlimitations⟩
  obtain ⟨⟨detail,c'⟩,hrun⟩ := (hencodes.runs _ hok rfl).mpr
    ⟨⟨hcpus,fun r hr => (haccepted r hr).timeSafe hp⟩,hroom⟩
  obtain ⟨hgrown,hpost⟩ := hencodes.result _ _ _ hok rfl hrun
  refine ⟨_,detail,c',hnew,hrun,?_,?_⟩
  · intro entry hentry
    apply hspoken
    have hkey : entry∈Interner.keys id c'.limitations := by simpa [Interner.keys] using hentry
    rw [hgrown.limitations] at hkey
    simpa [Interner.keys] using hkey
  · intro payload hwithin hcodes hsampled hpublished
    have hrecorded := hpost payload.toCatalogs hwithin
    have hlist : ∀ requests observations,
        (∀ r∈requests, r∈allSystemRequests system) →
        (requests.map (fun r : Request => r.definition.semantic)).Nodup →
        List.Forall₂
          (fun r o => Request.Recorded r interval (some sampledAtMs) payload.toCatalogs o)
          requests observations → validateObservations payload .system observations=.ok () := by
      intro requests observations hmem hnodup hall
      refine (validateObservations_ok hcodes
        (fun r hr => scope_systemRequests system r (hmem r hr)) hall).mpr ⟨hnodup,?_⟩
      intro r hr
      rw [hpublished,hsampled]
      exact haccepted r (hmem r hr)
    refine ⟨?_,?_,?_⟩
    · refine hlist _ _ ?_ (nodup_systemRequests system) hrecorded.metrics
      exact fun r hr => List.mem_append_left _ hr
    · intro logical hlogical
      obtain ⟨cpu,hcpu,hrec⟩ := exists_of_mem_right hrecorded.logicalCpus hlogical
      refine hlist [logicalRequest system cpu.1] _ ?_ (List.nodup_singleton _) hrec.metrics
      intro r hr
      obtain rfl := List.mem_singleton.mp hr
      have hvalue : cpu.1∈system.logicalCpuPercent :=
        List.mem_of_getElem? (List.mem_zipIdx_iff_getElem?.mp hcpu)
      exact List.mem_append_right _ (List.mem_append_left _ (List.mem_map_of_mem hvalue))
    · intro tag htag
      obtain ⟨pool,hpool,hrec⟩ := exists_of_mem_right hrecorded.kernelPoolTags htag
      refine hlist _ _ ?_ ?_ hrec.metrics
      · intro r hr
        exact List.mem_append_right _ (List.mem_append_right _
          (List.mem_flatMap.mpr ⟨pool,hpool,hr⟩))
      · exact (by decide : [MetricSemantic.kernelPoolBytes,.kernelPoolAllocations,
          .kernelPoolFrees].Nodup)

section Distinct
variable {system : SystemMetricsSnapshot} {interval sampledAtMs publishedAtMs : Nat}

/-- The requests that differ in more than the processor or the pool tag they are for. -/
def distinctRequests (system : SystemMetricsSnapshot) : List Request :=
  systemRequests system++logicalRequest system 0.0::
    poolTagRequests (memoryQuality system) ⟨"",.paged,0,0,0,[],false⟩

theorem distinct_of_mem {r : Request} (hr : r∈allSystemRequests system) :
    ∃ r'∈distinctRequests system, r'.definition=r.definition ∧ r'.quality=r.quality := by
  rw [distinctRequests]
  simp only [allSystemRequests,List.mem_append,List.mem_map,List.mem_flatMap] at hr
  cases hr with
  | inl hmachine => exact ⟨r,List.mem_append_left _ hmachine,rfl,rfl⟩
  | inr hrest =>
    cases hrest with
    | inl hlogical =>
      obtain ⟨value,_,rfl⟩ := hlogical
      exact ⟨logicalRequest system 0.0,by simp,rfl,rfl⟩
    | inr htag =>
      obtain ⟨tag,_,htag⟩ := htag
      simp only [poolTagRequests,List.mem_cons,List.not_mem_nil,or_false] at htag ⊢
      obtain rfl | rfl | rfl := htag
      · exact ⟨_,List.mem_append_right _ (.tail _ (.head _)),rfl,rfl⟩
      · exact ⟨_,List.mem_append_right _ (.tail _ (.tail _ (.head _))),rfl,rfl⟩
      · exact ⟨_,List.mem_append_right _ (.tail _ (.tail _ (.tail _ (.head _)))),rfl,rfl⟩

theorem length_distinctRequests (system : SystemMetricsSnapshot) :
    (distinctRequests system).length ≤ 30 := by
  rw [distinctRequests,systemRequests]
  cases system.memoryAccounting with
  | none => exact (by decide : 20 ≤ 30)
  | some accounting => exact Nat.le_refl 30

/-- One section never fills the catalogs. -/
theorem systemRequests_room (system : SystemMetricsSnapshot) (interval : Nat)
    (sampledAtMs : Option Nat) :
    ((allSystemRequests system).map (fun r => r.descriptor interval)).toFinset.card ≤ catalogSize ∧
      (limitationsOf sampledAtMs (allSystemRequests system)).toFinset.card ≤ catalogSize := by
  have hlength := length_distinctRequests system
  have hsize : catalogSize=65536 := rfl
  constructor
  · have hsub : ((allSystemRequests system).map (fun r => r.descriptor interval)).toFinset ⊆
        ((distinctRequests system).map (fun r => r.descriptor interval)).toFinset := by
      intro d hd
      rw [List.mem_toFinset] at hd ⊢
      obtain ⟨r,hr,rfl⟩ := List.mem_map.mp hd
      obtain ⟨kept,hkept,hdef,hqual⟩ := distinct_of_mem hr
      refine List.mem_map.mpr ⟨kept,hkept,?_⟩
      simp only [Request.descriptor,hdef,hqual]
    have hcard := (Finset.card_le_card hsub).trans (List.toFinset_card_le _)
    rw [List.length_map] at hcard
    omega
  · have hsub : (limitationsOf sampledAtMs (allSystemRequests system)).toFinset ⊆
        (ownLimitations++(distinctRequests system).filterMap
          (fun r => r.quality.bind reportedLimitation)).toFinset := by
      intro entry hentry
      rw [List.mem_toFinset] at hentry ⊢
      obtain ⟨r,hr,hlim⟩ := List.mem_flatMap.mp hentry
      rw [Option.mem_toList] at hlim
      cases reading_limitation hlim with
      | inl hown => exact List.mem_append_left _ hown
      | inr hreported =>
        obtain ⟨kept,hkept,_,hqual⟩ := distinct_of_mem hr
        refine List.mem_append_right _ (List.mem_filterMap.mpr ⟨kept,hkept,?_⟩)
        rw [hqual]
        exact hreported
    have hcard := (Finset.card_le_card hsub).trans (List.toFinset_card_le _)
    have hfilter := List.length_filterMap_le (fun r : Request => r.quality.bind reportedLimitation)
      (distinctRequests system)
    have hown : ownLimitations.length=6 := rfl
    rw [List.length_append] at hcard
    omega

/-- What a section that passes has shown of its readings. -/
structure SystemAccepted (system : SystemMetricsSnapshot) (sampledAtMs publishedAtMs : Nat) :
    Prop where
  cpus : system.logicalCpuPercent.length ≤ 2^16
  accepted : ∀ r∈allSystemRequests system, (r.reading (some sampledAtMs)).Accepted
    (sourceOf r.quality) publishedAtMs (some sampledAtMs)
  spoken : ∀ entry∈limitationsOf (some sampledAtMs) (allSystemRequests system),
    trim entry.message≠""

theorem SystemPublishable.interval_ne (h : SystemPublishable system interval sampledAtMs
    publishedAtMs) : interval≠0 := by
  obtain ⟨c,detail,c',hnew,_⟩ := h
  intro hzero
  rw [hzero] at hnew
  cases hnew

theorem SystemPublishable.accepted
    (h : SystemPublishable system interval sampledAtMs publishedAtMs) :
    SystemAccepted system sampledAtMs publishedAtMs := by
  have hi := h.interval_ne
  obtain ⟨c,detail,c',hnew,hrun,hspoken,hvalid⟩ := h
  have hc : c.sampleIntervalMs=interval := by
    simp only [CatalogBuilder.new,if_neg hi] at hnew
    cases hnew
    rfl
  have hencodes := encodeSystem_encodes (some sampledAtMs) hi system
  obtain ⟨hgrown,hpost⟩ := hencodes.result c detail c' (ok_new hnew) hc hrun
  have hrecorded := hpost c'.toCatalogs (Catalogs.Within.refl _)
  obtain ⟨hmetrics,hlogicals,htags⟩ := hvalid
    ⟨c'.toCatalogs,publishedAtMs,some sampledAtMs,qualityCodes⟩ (Catalogs.Within.refl _) rfl rfl rfl
  constructor
  · exact ((hencodes.runs c (ok_new hnew) hc).mp ⟨_,hrun⟩).1.1
  · intro r hr
    have hlist : ∀ requests observations,
        (∀ r∈requests, r∈allSystemRequests system) →
        List.Forall₂ (fun r o => Request.Recorded r interval (some sampledAtMs) c'.toCatalogs o)
          requests observations →
        validateObservations ⟨c'.toCatalogs,publishedAtMs,some sampledAtMs,qualityCodes⟩ .system
          observations=.ok () → r∈requests →
        (r.reading (some sampledAtMs)).Accepted (sourceOf r.quality) publishedAtMs
          (some sampledAtMs) := by
      intro requests observations hmem hall hok hr
      exact ((validateObservations_ok rfl
        (fun r hr => scope_systemRequests system r (hmem r hr)) hall).mp hok).2 r hr
    have hr' := hr
    simp only [allSystemRequests,List.mem_append,List.mem_map,List.mem_flatMap] at hr'
    cases hr' with
    | inl hmachine =>
      exact hlist _ _ (fun r hr => List.mem_append_left _ hr) hrecorded.metrics hmetrics hmachine
    | inr hrest =>
      cases hrest with
      | inl hlogical =>
        obtain ⟨value,hvalue,rfl⟩ := hlogical
        obtain ⟨index,hindex⟩ := List.getElem?_of_mem hvalue
        have hcpu : (value,index)∈system.logicalCpuPercent.zipIdx :=
          List.mem_zipIdx_iff_getElem?.mpr hindex
        obtain ⟨logical,hlogical,hrec⟩ := exists_of_mem_left hrecorded.logicalCpus hcpu
        refine hlist [logicalRequest system value] _ ?_ hrec.metrics (hlogicals logical hlogical)
          (List.mem_singleton_self _)
        intro r hr
        rw [List.mem_singleton.mp hr]
        exact List.mem_append_right _ (List.mem_append_left _ (List.mem_map_of_mem hvalue))
      | inr htag =>
        obtain ⟨pool,hpool,hr⟩ := htag
        obtain ⟨tag,htag,hrec⟩ := exists_of_mem_left hrecorded.kernelPoolTags hpool
        refine hlist _ _ ?_ hrec.metrics (htags tag htag) hr
        intro r hr
        exact List.mem_append_right _ (List.mem_append_right _
          (List.mem_flatMap.mpr ⟨pool,hpool,hr⟩))
  · intro entry hentry
    apply hspoken
    have hkey : entry∈Interner.keys id c'.limitations := by
      rw [hgrown.limitations]
      simpa [Interner.keys] using .inr hentry
    simpa [Interner.keys] using hkey

/-- A section passes exactly when its readings do. -/
theorem systemPublishable_iff (hp : publishedAtMs ≤ jsMaxSafeInteger) :
    SystemPublishable system interval sampledAtMs publishedAtMs ↔
      interval≠0 ∧ SystemAccepted system sampledAtMs publishedAtMs := by
  constructor
  · intro h
    exact ⟨h.interval_ne,h.accepted⟩
  · intro ⟨hi,h⟩
    obtain ⟨hdescriptors,hlimitations⟩ := systemRequests_room system interval (some sampledAtMs)
    exact systemPublishable_of_accepted hi hp h.cpus hdescriptors hlimitations h.accepted h.spoken

end Distinct
end BatCave.Protocol
