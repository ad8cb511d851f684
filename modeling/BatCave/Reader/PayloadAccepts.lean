import BatCave.Reader.SnapshotAccepts

/-! What the reader accepts of a whole snapshot of the writer's: the sections put together.
What the writer hands out is read in a locale exactly where its texts are as the reader takes
them there. -/
namespace BatCave.Reader
open BatCave.Contracts BatCave.Lib BatCave.Lib.Js BatCave.Lib.Js.Value BatCave.Lib.Result
open BatCave.Protocol (KernelPoolTagDetailV4 LogicalCpuDetailV4 MetricObservation PublicationFacts
  RuntimeSnapshotPayloadV4 SystemDetailV4 SystemShape TextRules WarningsShape jsMaxSafeInteger
  warningTexts)
open BatCave.RuntimeStore.Warnings (RuntimeWarning)

section System
variable {v : Value} {payload : RuntimeSnapshotPayloadV4}

/-- The integers of the system fit their places. -/
@[mk_iff]
structure SystemSized (system : SystemDetailV4) : Prop where
  metrics : ∀ o∈system.metrics, ObservationSized o
  indexes : ∀ logical∈system.logicalCpus, logical.index < 2^16
  logical : ∀ logical∈system.logicalCpus, ∀ o∈logical.metrics, ObservationSized o
  tags : ∀ tag∈system.kernelPoolTags, ∀ o∈tag.metrics, ObservationSized o

instance : DecidablePred SystemSized := fun system =>
  decidable_of_iff' _ (systemSized_iff system)

abbrev LogicalSeen := List String × List Nat

def seeLogical (seen : LogicalSeen) (logical : LogicalCpuDetailV4) : LogicalSeen :=
  (logical.stableId::seen.1,logical.index::seen.2)

def logicalWritten (seen : LogicalSeen) : List String × List Value := (seen.1,seen.2.map .nat)

theorem any_same_nat (n : Nat) (ns : List Nat) :
    (ns.map Value.nat).any (Value.nat n).same=ns.contains n := by
  rw [List.any_map,List.contains_eq_any_beq]
  rfl

/-- What the writer makes of the observations of the system, part by part. -/
theorem systemObservations_ok {facts : PublicationFacts} {system : SystemDetailV4} :
    Protocol.validateSystemObservations facts system=.ok () ↔
      Protocol.validateObservations facts .system system.metrics=.ok () ∧
      (∀ logical∈system.logicalCpus,
        Protocol.validateObservations facts .system logical.metrics=.ok ()) ∧
      ∀ tag∈system.kernelPoolTags,
        Protocol.validateObservations facts .system tag.metrics=.ok () := by
  rw [Protocol.validateSystemObservations,unit_bind_ok,unit_bind_ok,forM_ok,forM_ok]

theorem validateObservations_system (hreads : Reads v payload.toPublicationFacts)
    (hpublished : payload.publishedAtMs ≤ jsMaxSafeInteger) {os : List MetricObservation}
    (hsized : ∀ o∈os, ObservationSized o)
    (hmeasured : Protocol.validateObservations payload.toPublicationFacts .system os=.ok ()) :
    validateObservations v (metricsWire os) "system"=.ok () := by
  have hname : scopeName .system="system" := rfl
  rw [← hname,validateObservations_wire hreads hpublished hsized]
  exact hmeasured

theorem readLogicalCpu_wire (hreads : Reads v payload.toPublicationFacts)
    (hpublished : payload.publishedAtMs ≤ jsMaxSafeInteger) {seen : LogicalSeen}
    {logical : LogicalCpuDetailV4} (hid : logical.stableId=Protocol.logicalCpuId logical.index)
    (hnew : logical.stableId∉seen.1) (hnewIndex : logical.index∉seen.2)
    (hindex : logical.index < 2^16) (hsized : ∀ o∈logical.metrics, ObservationSized o)
    (hmeasured : Protocol.validateObservations payload.toPublicationFacts .system
      logical.metrics=.ok ()) (seen' : List String × List Value) :
    readLogicalCpu v (logicalWritten seen) (logicalCpuWire logical)=.ok seen' ↔
      True ∧ seen'=logicalWritten (seeLogical seen logical) := by
  have hsafe : safeInteger (.nat logical.index)=true := safeInteger_of_lt (by omega)
  have hname : (str logical.stableId).isStr ("system:local:cpu:"++(Value.nat logical.index).shown)=
      true := by
    rw [hid]
    exact beq_self_eq_true (Protocol.logicalCpuId logical.index)
  have hunseen : seen.1.contains logical.stableId=false := Distinct.contains_eq_false.2 hnew
  have hunseen' : (seen.2.map Value.nat).any (Value.nat logical.index).same=false := by
    rw [any_same_nat]
    exact Distinct.contains_eq_false.2 hnewIndex
  have hobserved : validateObservations v (metricsWire logical.metrics) "system"=.ok () :=
    validateObservations_system hreads hpublished hsized hmeasured
  rw [readLogicalCpu,unit_bind_ok,unit_bind_ok,reject_ok,pure_ok,eq_comm (b := seen')]
  change (false || !safeInteger (.nat logical.index) ||
      !(str logical.stableId).isStr ("system:local:cpu:"++(Value.nat logical.index).shown) ||
      seen.1.contains logical.stableId ||
      (seen.2.map Value.nat).any (Value.nat logical.index).same)=false ∧
    validateObservations v (metricsWire logical.metrics) "system"=.ok () ∧
    seen'=logicalWritten (seeLogical seen logical) ↔ _
  rw [hsafe,hname,hunseen,hunseen',hobserved]
  simp

/-- The loop over the logical processors of a system of the right shape passes. -/
theorem readLogicalCpus_wire (hreads : Reads v payload.toPublicationFacts)
    (hpublished : payload.publishedAtMs ≤ jsMaxSafeInteger) (hshape : SystemShape payload)
    (hsized : SystemSized payload.system) :
    ∃ seen, (payload.system.logicalCpus.map logicalCpuWire).foldlM (readLogicalCpu v) ([],[])=
      .ok seen := by
  have hmeasured := (systemObservations_ok.1 hshape.measured).2.1
  -- what is still to come is new and one of the system's
  let fits (seen : LogicalSeen) (logicalCpus : List LogicalCpuDetailV4) : Prop :=
    ((logicalCpus.map LogicalCpuDetailV4.stableId).Nodup ∧
        ∀ logical∈logicalCpus, logical.stableId∉seen.1) ∧
      ((logicalCpus.map LogicalCpuDetailV4.index).Nodup ∧
        ∀ logical∈logicalCpus, logical.index∉seen.2) ∧
      ∀ logical∈logicalCpus, logical∈payload.system.logicalCpus
  have hstep : ∀ seen logical rest, fits seen (logical::rest) →
      (∀ s', readLogicalCpu v (logicalWritten seen) (logicalCpuWire logical)=.ok s' ↔
        True ∧ s'=logicalWritten (seeLogical seen logical)) ∧
          fits (seeLogical seen logical) rest := by
    intro seen logical rest h
    obtain ⟨⟨hids,hnewId⟩,⟨hindexes,hnewIndex⟩,hall⟩ := h
    have hmem := hall logical List.mem_cons_self
    refine ⟨fun s' => readLogicalCpu_wire hreads hpublished (hshape.logical logical hmem)
      (hnewId logical List.mem_cons_self) (hnewIndex logical List.mem_cons_self)
      (hsized.indexes logical hmem) (hsized.logical logical hmem) (hmeasured logical hmem) s',
      Distinct.fresh_cons hids hnewId,Distinct.fresh_cons hindexes hnewIndex,
      fun other hother => hall other (List.mem_cons_of_mem logical hother)⟩
  have hfits : fits ([],[]) payload.system.logicalCpus :=
    ⟨⟨hshape.logicalIds,fun _ _ => List.not_mem_nil⟩,
      ⟨hshape.logicalIndexes,fun _ _ => List.not_mem_nil⟩,fun _ h => h⟩
  have hrun := foldlM_written_ok fits hstep payload.system.logicalCpus ([],[])
    (logicalWritten (payload.system.logicalCpus.foldl seeLogical ([],[]))) hfits
  exact ⟨_,hrun.2 ⟨fun _ _ => trivial,rfl⟩⟩

/-- A pool tag passes where its texts do and its id is spelt as the locale has it. -/
theorem readPoolTag_wire {locale : HostLocale} (hreads : Reads v payload.toPublicationFacts)
    (hpublished : payload.publishedAtMs ≤ jsMaxSafeInteger) {tag : KernelPoolTagDetailV4}
    (hsized : ∀ o∈tag.metrics, ObservationSized o)
    (hmeasured : Protocol.validateObservations payload.toPublicationFacts .system tag.metrics=
      .ok ()) (ids ids' : List String) :
    readPoolTag locale v ids (poolTagWire tag)=.ok ids' ↔
      ((∀ text∈tag.texts, blank text=false) ∧
        tag.stableId=(readerRules locale).poolId tag.tag tag.kind) ∧
      tag.stableId∉ids ∧ ids'=tag.stableId::ids := by
  have hkind : (str (poolKindName tag.kind)).isIn kernelPoolKinds=true := by
    cases tag.kind <;> decide
  have hid : (!(str tag.stableId).isStr ((readerRules locale).poolId tag.tag tag.kind))=false ↔
      tag.stableId=(readerRules locale).poolId tag.tag tag.kind := by
    rw [Bool.not_eq_false']
    exact beq_iff_eq
  have hcandidates : (tag.driverCandidates.map Value.str).any
      (fun candidate => !nonEmptyString candidate)=false ↔
      ∀ text∈tag.driverCandidates, blank text=false := by
    rw [List.any_map,List.any_eq_false]
    simp only [Function.comp_apply,nonEmptyString_str,Bool.not_not,Bool.not_eq_true]
  have hobserved : validateObservations v (metricsWire tag.metrics) "system"=.ok () :=
    validateObservations_system hreads hpublished hsized hmeasured
  rw [readPoolTag,unit_bind_ok,unit_bind_ok,reject_ok,pure_ok,eq_comm (b := ids')]
  change (false || !nonEmptyString (.str tag.tag) ||
      !(str (poolKindName tag.kind)).isIn kernelPoolKinds ||
      !(str tag.stableId).isStr ((readerRules locale).poolId tag.tag tag.kind) ||
      ids.contains tag.stableId || false ||
      (tag.driverCandidates.map Value.str).any (fun candidate => !nonEmptyString candidate) ||
      false)=false ∧
    validateObservations v (metricsWire tag.metrics) "system"=.ok () ∧
    ids'=tag.stableId::ids ↔ _
  rw [nonEmptyString_str,hkind,hobserved,KernelPoolTagDetailV4.texts,List.forall_mem_cons]
  simp only [Bool.or_eq_false_iff,Bool.not_not,Bool.not_true,Distinct.contains_eq_false,hid,
    hcandidates,true_and,and_true]
  constructor
  · intro h
    obtain ⟨⟨⟨⟨htag,hid⟩,hnew⟩,htexts⟩,hids⟩ := h
    exact ⟨⟨⟨htag,htexts⟩,hid⟩,hnew,hids⟩
  · intro h
    obtain ⟨⟨⟨htag,htexts⟩,hid⟩,hnew,hids⟩ := h
    exact ⟨⟨⟨⟨htag,hid⟩,hnew⟩,htexts⟩,hids⟩

/-- A system of the right shape passes where the texts and the ids of its pool tags do. -/
theorem validateSystem_wire {locale : HostLocale} (hreads : Reads v payload.toPublicationFacts)
    (hpublished : payload.publishedAtMs ≤ jsMaxSafeInteger) (hshape : SystemShape payload)
    (hsized : SystemSized payload.system) :
    validateSystem locale v (systemWire payload.system)=.ok () ↔
      (∀ text∈payload.system.kernelPoolTags.flatMap KernelPoolTagDetailV4.texts,
        blank text=false) ∧
      ∀ tag∈payload.system.kernelPoolTags,
        tag.stableId=(readerRules locale).poolId tag.tag tag.kind := by
  obtain ⟨hsystem,_,htags⟩ := systemObservations_ok.1 hshape.measured
  have hidentity : (str payload.system.stableId).isStr "system:local"=true := by
    rw [hshape.identity]
    rfl
  have hobserved : validateObservations v (metricsWire payload.system.metrics) "system"=.ok () :=
    validateObservations_system hreads hpublished hsized.metrics hsystem
  obtain ⟨logical,hlogical⟩ := readLogicalCpus_wire hreads hpublished hshape hsized
  have hstep : ∀ tag∈payload.system.kernelPoolTags, ∀ s s',
      readPoolTag locale v s (poolTagWire tag)=.ok s' ↔
        ((∀ text∈tag.texts, blank text=false) ∧
          tag.stableId=(readerRules locale).poolId tag.tag tag.kind) ∧
        tag.stableId∉s ∧ s'=tag.stableId::s :=
    fun tag hmem => readPoolTag_wire hreads hpublished (hsized.tags tag hmem) (htags tag hmem)
  have hlogicalItems : ((systemWire payload.system).get "logical_cpus").items=
      payload.system.logicalCpus.map logicalCpuWire := rfl
  have htagItems : ((systemWire payload.system).get "kernel_pool_tags").items=
      payload.system.kernelPoolTags.map poolTagWire := rfl
  have hmetrics : (systemWire payload.system).get "metrics"=metricsWire payload.system.metrics :=
    rfl
  have hmalformed : (!(systemWire payload.system).isRecord ||
      !((systemWire payload.system).get "stable_id").isStr "system:local" ||
      !((systemWire payload.system).get "logical_cpus").isArray ||
      !((systemWire payload.system).get "kernel_pool_tags").isArray)=false := by
    change (false || !(str payload.system.stableId).isStr "system:local" || false || false)=false
    rw [hidentity]
    rfl
  rw [validateSystem,unit_bind_ok,unit_bind_ok,reject_ok,hlogicalItems,htagItems,hmetrics]
  simp only [bind_ok,pure_ok,List.foldlM_map,Distinct.foldlM_seen_ok hstep,
    List.forall_mem_flatMap,hobserved,hmalformed,true_and]
  rw [← List.foldlM_map]
  constructor
  · intro h
    obtain ⟨_,_,_,⟨hgood,_⟩,_⟩ := h
    exact ⟨fun tag hmem => (hgood tag hmem).1,fun tag hmem => (hgood tag hmem).2⟩
  · intro h
    exact ⟨logical,hlogical,_,⟨fun tag hmem => ⟨h.1 tag hmem,h.2 tag hmem⟩,hshape.tagIds,rfl⟩,
      trivial⟩

end System

section Warnings
variable {v : Value} {payload : RuntimeSnapshotPayloadV4}

/-- Warnings of the right shape pass where their texts do. -/
theorem readWarnings_wire (hreads : ReadsContext v payload) (hshape : WarningsShape payload) :
    (∃ keys, (payload.warnings.map warningWire).foldlM (readWarning v) []=.ok keys) ↔
      ∀ text∈payload.warnings.flatMap warningTexts, blank text=false := by
  have hstep : ∀ warning∈payload.warnings, ∀ s s',
      readWarning v s (warningWire warning)=.ok s' ↔
        (∀ text∈warningTexts warning, blank text=false) ∧
        warning.key∉s ∧ s'=warning.key::s := by
    intro warning hmem s s'
    obtain ⟨hseq,hbefore⟩ := hshape.seq warning hmem
    obtain ⟨htime,hafter⟩ := hshape.time warning hmem
    have hsafeSeq : safeInteger (.nat warning.publicationSeq)=true := by
      rw [safeInteger_nat,decide_eq_true hseq]
    have hsafeTime : safeInteger (.nat warning.occurredAtMs)=true := by
      rw [safeInteger_nat,decide_eq_true htime]
    have hseqLt : (Value.nat payload.publicationSeq).lt (.nat warning.publicationSeq)=false :=
      decide_eq_false (Nat.not_lt.2 hbefore)
    have htimeLt : (Value.nat payload.publishedAtMs).lt (.nat warning.occurredAtMs)=false :=
      decide_eq_false (Nat.not_lt.2 hafter)
    rw [readWarning,unit_bind_ok,reject_ok,pure_ok,eq_comm (b := s'),hreads.publicationSeq,
      hreads.published]
    change (false || !nonEmptyString (.str warning.key) || s.contains warning.key ||
        !safeInteger (.nat warning.publicationSeq) ||
        (Value.nat payload.publicationSeq).lt (.nat warning.publicationSeq) ||
        !safeInteger (.nat warning.occurredAtMs) ||
        (Value.nat payload.publishedAtMs).lt (.nat warning.occurredAtMs) ||
        !nonEmptyString (.str warning.category) || !nonEmptyString (.str warning.message))=false ∧
      s'=warning.key::s ↔ _
    rw [hsafeSeq,hsafeTime,hseqLt,htimeLt]
    simp only [nonEmptyString_str,Bool.or_eq_false_iff,Bool.not_not,Bool.not_true,
      Distinct.contains_eq_false,warningTexts,List.forall_mem_cons,List.not_mem_nil,false_imp_iff,
      implies_true,true_and,and_true]
    constructor
    · intro h
      obtain ⟨⟨⟨⟨hkey,hnew⟩,hcategory⟩,hmessage⟩,hs'⟩ := h
      exact ⟨⟨hkey,hcategory,hmessage⟩,hnew,hs'⟩
    · intro h
      obtain ⟨⟨hkey,hcategory,hmessage⟩,hnew,hs'⟩ := h
      exact ⟨⟨⟨⟨hkey,hnew⟩,hcategory⟩,hmessage⟩,hs'⟩
  simp only [List.foldlM_map,Distinct.foldlM_seen_ok hstep,List.forall_mem_flatMap]
  constructor
  · intro h
    obtain ⟨_,htexts,_⟩ := h
    exact htexts
  · intro h
    exact ⟨_,h,hshape.keys,rfl⟩

end Warnings

section Payload
variable {v : Value} {payload : RuntimeSnapshotPayloadV4}

/-- The integers of a snapshot fit the types of their fields. -/
@[mk_iff]
structure PayloadSized (payload : RuntimeSnapshotPayloadV4) : Prop where
  negotiated : ∀ service∈payload.privilegedCollection.collectorService,
    ∀ version∈service.negotiatedProtocolVersion, version < 2^16
  settings : SettingsSized payload.settings
  warnings : payload.health.collectorWarningCount < 2^32
  intervals : ∀ descriptor∈payload.descriptors, ∀ interval∈descriptor.intervalMs, interval < 2^32
  system : SystemSized payload.system
  workloads : WorkloadsSized payload.workloads
  overviewWorkloads : WorkloadsSized payload.overviewWorkloads
  contributors : ∀ contributor∈payload.contributors, ContributorSized contributor
  total : payload.totalProcessCount < 2^32

instance : DecidablePred PayloadSized := fun payload =>
  decidable_of_iff' _ (payloadSized_iff payload)

theorem reads_payload (payload : RuntimeSnapshotPayloadV4) :
    ReadsContext (payloadWire payload) payload := by
  constructor <;> rfl

theorem readsFacts_payload (payload : RuntimeSnapshotPayloadV4) :
    Reads (payloadWire payload) payload.toPublicationFacts := by
  constructor <;> rfl

theorem readsContributors_payload (payload : RuntimeSnapshotPayloadV4) :
    ReadsContributors (payloadWire payload) payload :=
  ⟨readsFacts_payload payload,rfl,rfl,rfl⟩

theorem readsFacts_visible (payload : RuntimeSnapshotPayloadV4) (visible : Nat) :
    Reads (withVisible (payloadWire payload) visible) payload.toPublicationFacts := by
  constructor <;> rfl

theorem readsContributors_visible (payload : RuntimeSnapshotPayloadV4) (visible : Nat) :
    ReadsContributors (withVisible (payloadWire payload) visible) payload :=
  ⟨readsFacts_visible payload visible,rfl,rfl,rfl⟩

theorem validateMetadata_wire (hreads : ReadsContext v payload)
    (hmetadata : Protocol.validateMetadata payload=.ok ()) : validateMetadata v=.ok () := by
  simp only [Protocol.validateMetadata,unit_bind_ok,reject_ok,Bool.or_eq_false_iff,
    decide_eq_false_iff_not,not_lt] at hmetadata
  obtain ⟨⟨⟨⟨hseq,hpublished⟩,hsample⟩,hsafe⟩,hlate⟩ := hmetadata
  have hsampled : refused (orNull .nat payload.sampledAtMs) safeInteger=false := by
    rw [refused_safeInteger]
    exact hsafe
  have hbefore : (!(orNull Value.nat payload.sampledAtMs).isNull &&
      (Value.nat payload.publishedAtMs).lt (orNull .nat payload.sampledAtMs))=false := by
    rw [and_orNull (fun _ => rfl)]
    exact hlate
  simp only [validateMetadata,unit_bind_ok,reject_ok,hreads.publicationSeq,hreads.published,
    hreads.sampleSeq,hreads.sampled,safeInteger_nat,decide_eq_true hseq,decide_eq_true hpublished,
    decide_eq_true hsample,hsampled,hbefore,Bool.not_true,Bool.or_false,true_and]

/-- What the reader's rules come to. -/
theorem readerRules_take {locale : HostLocale} : (readerRules locale).Take payload ↔
    (∀ text∈payload.texts, blank text=false) ∧
    (∀ version∈payload.versions, readerVersion version=true) ∧ blank payload.source=false ∧
    ∀ tag∈payload.system.kernelPoolTags,
      tag.stableId=(readerRules locale).poolId tag.tag tag.kind := by
  have hblank : (readerRules locale).blank=blank := by simp only [readerRules]
  have hversion : (readerRules locale).version=readerVersion := by simp only [readerRules]
  have hsource : (readerRules locale).source payload.source=true ↔ blank payload.source=false := by
    simp only [readerRules,Bool.not_eq_true']
  constructor
  · intro h
    have htexts := h.texts
    have hversions := h.versions
    rw [hblank] at htexts
    rw [hversion] at hversions
    exact ⟨htexts,hversions,hsource.1 h.source,h.tags⟩
  · intro h
    obtain ⟨htexts,hversions,hsaid,htags⟩ := h
    rw [← hblank] at htexts
    rw [← hversion] at hversions
    exact ⟨htexts,hversions,hsource.2 hsaid,htags⟩

/-- The environment is well formed where the source says something. -/
theorem environmentMalformed_wire (hreads : ReadsContext v payload) :
    environmentMalformed v=false ↔ blank payload.source=false := by
  have hplatform : (str (platformName payload.environment.platform)).isIn platforms=true := by
    cases payload.environment.platform <;> decide
  have harchitecture : (str (architectureName payload.environment.architecture)).isIn
      architectures=true := by
    cases payload.environment.architecture <;> decide
  have helevation : (str (elevationName payload.environment.processElevation)).isIn elevations=
      true := by
    cases payload.environment.processElevation <;> decide
  have hkind : (str (installKindName payload.environment.installKind)).isIn installKinds=true := by
    cases payload.environment.installKind <;> decide
  rw [environmentMalformed,hreads.source,hreads.environment]
  change (!nonEmptyString (.str payload.source) ||
    !(str (platformName payload.environment.platform)).isIn platforms ||
    !(str (architectureName payload.environment.architecture)).isIn architectures ||
    !(str (elevationName payload.environment.processElevation)).isIn elevations ||
    !(str (installKindName payload.environment.installKind)).isIn installKinds ||
    refused (orNull .str payload.environment.dataDirectory) isString)=false ↔ _
  rw [nonEmptyString_str,hplatform,harchitecture,helevation,hkind,refused_isString]
  simp only [Bool.not_not,Bool.not_true,Bool.or_false]

/-- Both sets of workloads and the contributors. -/
theorem validateWorkloadSets_wire (hshape : Protocol.SnapshotShape payload)
    (hsized : PayloadSized payload) :
    validateWorkloads ((payloadWire payload).get "workloads") (payloadWire payload) true=.ok () ∧
      validateWorkloads ((payloadWire payload).get "overview_workloads")
        (withVisible (payloadWire payload)
          (processesOf ((payloadWire payload).get "overview_workloads").items).length) true=.ok () ↔
      (∀ text∈Protocol.workloadTexts payload.workloads, blank text=false) ∧
      (∀ text∈Protocol.workloadTexts payload.overviewWorkloads, blank text=false) ∧
      ∀ text∈payload.contributors.flatMap Protocol.ProcessContributorV4.texts,
        blank text=false := by
  have hmetadata := hshape.metadata
  simp only [Protocol.validateMetadata,unit_bind_ok,reject_ok,Bool.or_eq_false_iff,
    decide_eq_false_iff_not,not_lt] at hmetadata
  have hpublished : payload.publishedAtMs ≤ jsMaxSafeInteger := hmetadata.1.1.1.2
  have htotal : payload.totalProcessCount ≤ jsMaxSafeInteger := by
    have hlt := hsized.total
    simp only [jsMaxSafeInteger]
    omega
  have hworkloads : (payloadWire payload).get "workloads"=workloadsWire payload.workloads := rfl
  have hoverview : (payloadWire payload).get "overview_workloads"=
      workloadsWire payload.overviewWorkloads := rfl
  have hcount : (processesOf (workloadsWire payload.overviewWorkloads).items).length=
      Protocol.processCount payload.overviewWorkloads := by
    have hitems : (workloadsWire payload.overviewWorkloads).items=
        payload.overviewWorkloads.map workloadWire := rfl
    rw [hitems,processesOf_wire,List.length_map,hshape.overviewWorkloads.visible]
  rw [hworkloads,hoverview,hcount,validateWorkloads_wire (readsFacts_payload payload) hpublished rfl
    rfl rfl htotal hshape.workloads hsized.workloads,validateWorkloads_wire
    (readsFacts_visible payload _) hpublished rfl rfl rfl htotal hshape.overviewWorkloads
    hsized.overviewWorkloads,readContributors_wire (readsContributors_payload payload)
    hshape.contributors hsized.contributors,readContributors_wire
    (readsContributors_visible payload _) hshape.contributors hsized.contributors]
  tauto

/-- A snapshot of the right shape is read in a locale exactly where its texts are as the reader
takes them there. -/
theorem validatePayload_wire {locale : HostLocale} (hshape : Protocol.SnapshotShape payload)
    (hsized : PayloadSized payload) :
    validatePayload locale (payloadWire payload)=.ok () ↔ (readerRules locale).Take payload := by
  have hmetadata := hshape.metadata
  simp only [Protocol.validateMetadata,unit_bind_ok,reject_ok,Bool.or_eq_false_iff,
    decide_eq_false_iff_not,not_lt] at hmetadata
  have hpublished : payload.publishedAtMs ≤ jsMaxSafeInteger := hmetadata.1.1.1.2
  have hcontext := reads_payload payload
  have hfacts := readsFacts_payload payload
  have hdesktop := validReleaseIdentity_wire hshape.commit
  have hprivileged := validatePrivileged_wire hcontext hshape.privileged hsized.negotiated
  have hsets := validateWorkloadSets_wire hshape hsized
  have hcatalog := validateMeasurementCatalog_wire hfacts hshape.qualityCodes hshape.descriptors
    hsized.intervals
  have hrecord : (!(payloadWire payload).isRecord)=false := rfl
  have hrecords : (!((payloadWire payload).get "environment").isRecord ||
      !((payloadWire payload).get "privileged_collection").isRecord ||
      !((payloadWire payload).get "settings").isRecord ||
      !(((payloadWire payload).get "settings").get "query").isRecord ||
      !((payloadWire payload).get "health").isRecord)=false := by
    rw [hcontext.environment,hcontext.privileged,hcontext.settings,hcontext.health]
    rfl
  have hsystemWire : (payloadWire payload).get "system"=systemWire payload.system := rfl
  have hworkloads : (payloadWire payload).get "workloads"=workloadsWire payload.workloads := rfl
  have hoverview : (payloadWire payload).get "overview_workloads"=
      workloadsWire payload.overviewWorkloads := rfl
  have hwarningsWire : (payloadWire payload).get "warnings"=
      .arr (payload.warnings.map warningWire) := rfl
  have hcollections : (!((payloadWire payload).get "descriptors").isArray ||
      !((payloadWire payload).get "quality_codes").isArray ||
      !((payloadWire payload).get "limitations").isArray ||
      !((payloadWire payload).get "system").isRecord ||
      !((payloadWire payload).get "workloads").isArray ||
      !((payloadWire payload).get "overview_workloads").isArray ||
      !((payloadWire payload).get "contributors").isArray ||
      !((payloadWire payload).get "warnings").isArray)=false := by
    rw [hfacts.descriptors,hfacts.qualityCodes,hfacts.limitations,hsystemWire,hworkloads,hoverview,
      (readsContributors_payload payload).contributors,hwarningsWire]
    rfl
  have hversion : (!validReleaseIdentity (((payloadWire payload).get "environment").get
      "release_identity"))=false ↔ readerVersion payload.environment.releaseIdentity.appVersion=
        true := by
    rw [Bool.not_eq_false',← hdesktop]
    rfl
  have hsettings := settingsMalformed_wire hshape.settings hsized.settings
  have hhealth := validateHealthFacts_wire hcontext hshape.health hsized.warnings
  have hpersisted : (payloadWire payload).get "persistence"=
      orNull persistenceWire payload.persistence := rfl
  have hevaluated : (healthWire payload.health).get "evaluated_at_ms"=
      .nat payload.health.evaluatedAtMs := rfl
  have hpersistence := validatePersistence_wire hshape.persistence
  have hsystem : validateSystem locale (payloadWire payload) (systemWire payload.system)=
      .ok () ↔ _ :=
    validateSystem_wire hfacts hpublished hshape.system hsized.system
  have hwarnings := readWarnings_wire hcontext hshape.warnings
  rw [validatePayload,unit_bind_ok,unit_bind_ok,unit_bind_ok,unit_bind_ok,unit_bind_ok,
    unit_bind_ok,unit_bind_ok,unit_bind_ok,unit_bind_ok,unit_bind_ok,unit_bind_ok,unit_bind_ok,
    unit_bind_ok,unit_bind_ok,unit_bind_ok,unit_bind_ok]
  simp only [reject_ok,bind_ok,pure_ok,and_true]
  rw [hversion,environmentMalformed_wire hcontext,hhealth,hcatalog,readerRules_take]
  simp only [hsystemWire,hsystem,hwarningsWire,items,hwarnings,hpersisted,hcontext.health,
    hevaluated,hpersistence,hcontext.settings,hsettings]
  constructor
  · intro h
    obtain ⟨_,_,_,hrelease,hsource,hserved,hthemes,herrors,_,_,hroots,_,hmessages,hpools,hrows,
      hoverviewRows,hwarningTexts⟩ := h
    obtain ⟨hservice,hversions⟩ := (hprivileged (hdesktop.trans hrelease)).1 hserved
    obtain ⟨hrowTexts,hoverviewTexts,hnames⟩ := hsets.1 ⟨hrows,hoverviewRows⟩
    refine ⟨?_,?_,?_,hpools.2⟩
    · simp only [RuntimeSnapshotPayloadV4.texts,List.forall_mem_append]
      exact ⟨⟨⟨⟨⟨⟨⟨⟨⟨hthemes,herrors⟩,hservice⟩,hroots⟩,hmessages⟩,hpools.1⟩,hrowTexts⟩,
        hoverviewTexts⟩,hnames⟩,hwarningTexts⟩
    · rw [RuntimeSnapshotPayloadV4.versions,List.forall_mem_cons]
      exact ⟨hrelease,hversions⟩
    · exact hsource
  · intro h
    obtain ⟨htexts,hversions,hsource,htags⟩ := h
    simp only [RuntimeSnapshotPayloadV4.texts,List.forall_mem_append] at htexts
    obtain ⟨⟨⟨⟨⟨⟨⟨⟨⟨hthemes,herrors⟩,hservice⟩,hroots⟩,hmessages⟩,hpoolTexts⟩,hrowTexts⟩,
      hoverviewTexts⟩,hnames⟩,hwarningTexts⟩ := htexts
    rw [RuntimeSnapshotPayloadV4.versions,List.forall_mem_cons] at hversions
    obtain ⟨hrelease,hversions⟩ := hversions
    obtain ⟨hrows,hoverviewRows⟩ := hsets.2 ⟨hrowTexts,hoverviewTexts,hnames⟩
    exact ⟨hrecord,validateMetadata_wire hcontext hshape.metadata,hrecords,hrelease,
      hsource,(hprivileged (hdesktop.trans hrelease)).2 ⟨hservice,hversions⟩,
      hthemes,herrors,validateHealthStates_wire hcontext hshape.health,
      validateHealthReasons_wire hcontext hshape.health,hroots,hcollections,hmessages,
      ⟨hpoolTexts,htags⟩,hrows,hoverviewRows,hwarningTexts⟩

end Payload
end BatCave.Reader
