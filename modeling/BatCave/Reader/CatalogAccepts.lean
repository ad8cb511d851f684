import BatCave.Protocol.Readable
import BatCave.Reader.Catalog
import BatCave.Reader.Wire

/-! What the reader accepts of the writer's catalogs and observations: the same as the writer
does, apart from the texts of the limitations. -/
namespace BatCave.Reader
open BatCave.Contracts BatCave.Lib BatCave.Lib.Js BatCave.Lib.Js.Value BatCave.Lib.Result
open BatCave.Protocol (MetricObservation MetricQualityV4 MetricScope MetricSemantic
  MetricSourceV4 LimitationCode LimitationEntry MeasurementDescriptor PublicationFacts
  SemanticDefinition QualityLimitationPolicy jsMaxSafeInteger limitationCodeAt qualityCodes
  qualityLimitationPolicy semanticDefinition semanticDefinitions networkScopeDefinition)

section Names

theorem limitationName_injective : Function.Injective limitationName := by
  intro a b h
  cases a <;> cases b <;> first | rfl | simp [limitationName] at h

theorem qualityName_injective : Function.Injective qualityName := by
  intro a b h
  cases a <;> cases b <;> first | rfl | simp [qualityName] at h

theorem scopeName_injective : Function.Injective scopeName := by
  intro a b h
  cases a <;> cases b <;> first | rfl | simp [scopeName] at h

theorem sourceName_injective : Function.Injective sourceName := by
  intro a b h
  cases a <;> cases b <;> first | rfl | simp [sourceName] at h

def allSemantics : List MetricSemantic :=
  [.cpuUsage,.kernelCpuUsage,.logicalCpuUsage,.residentMemory,.privateMemory,.virtualMemory,
    .memoryUsed,.memoryCapacity,.memoryAvailable,.swapUsed,.swapCapacity,
    .processWorkingSetMemory,.processPrivateMemory,.deniedProcessCount,.partialProcessCount,
    .commitUsed,.commitLimit,.systemCache,.kernelMemory,.kernelPagedPool,.kernelNonpagedPool,
    .kernelPoolBytes,.kernelPoolAllocations,.kernelPoolFrees,.physicalDiskReadTotal,
    .physicalDiskWriteTotal,.physicalDiskReadRate,.physicalDiskWriteRate,.readIoTotal,
    .writeIoTotal,.otherIoTotal,.readIoRate,.writeIoRate,.otherIoRate,.readWriteIoRate,
    .networkReceiveTotal,.networkTransmitTotal,.networkReceiveRate,.networkTransmitRate,
    .networkRate,.processCount,.threadCount,.handleCount]

theorem mem_allSemantics (semantic : MetricSemantic) : semantic∈allSemantics := by
  cases semantic <;> decide

/-- All names at once: they are too many to be compared case by case. -/
theorem semanticName_injective : Function.Injective semanticName := by
  have hnodup : (allSemantics.map semanticName).Nodup := by decide
  intro a b h
  exact List.inj_on_of_nodup_map hnodup (mem_allSemantics a) (mem_allSemantics b) h

/-- A name is what it says exactly where the values are the same. -/
theorem isStr_name {α : Type} [BEq α] [LawfulBEq α] {name : α → String}
    (hname : Function.Injective name) (a b : α) : (str (name a)).isStr (name b)=(a==b) := by
  rw [Bool.eq_iff_iff,isStr,same_str,beq_iff_eq,beq_iff_eq]
  exact hname.eq_iff

theorem isIn_map_name {α : Type} [BEq α] [LawfulBEq α] {name : α → String}
    (hname : Function.Injective name) (a : α) (as : List α) :
    (str (name a)).isIn (as.map name)=as.contains a := by
  rw [Bool.eq_iff_iff,isIn,List.contains_iff_mem,List.contains_iff_mem]
  exact List.mem_map_of_injective hname

end Names

section Numbers

theorem safeInteger_nat (n : Nat) : safeInteger (.nat n)=decide (n ≤ jsMaxSafeInteger) := rfl

/-- What fits a field of 32 bits is safe. -/
theorem safeInteger_of_lt {n : Nat} (h : n < 2^32) : safeInteger (.nat n)=true := by
  rw [safeInteger_nat,decide_eq_true (by simp only [jsMaxSafeInteger]; omega)]

theorem nonNegativeFiniteNumber_num (x : Float) :
    nonNegativeFiniteNumber (.num x)=!Protocol.unmeasured x := by
  rw [Protocol.unmeasured,Bool.not_or,Bool.not_not]
  rfl

theorem validIndex_orNull (index : Option Nat) (length : Nat)
    (hsized : ∀ i∈index, i ≤ jsMaxSafeInteger) :
    validIndex (orNull .nat index) length=index.all (fun i => i < length) := by
  cases index with
  | none => rfl
  | some i =>
    change (decide (i ≤ jsMaxSafeInteger) && decide (i < length))=decide (i < length)
    rw [decide_eq_true (hsized i rfl),Bool.true_and]

end Numbers

/-- How a value reads where it stands for a publication. -/
structure Reads (v : Value) (payload : PublicationFacts) : Prop where
  descriptors : v.get "descriptors"=.arr (payload.descriptors.map descriptorWire)
  qualityCodes : v.get "quality_codes"=.arr (payload.qualityCodes.map (.str ∘ qualityName))
  limitations : v.get "limitations"=.arr (payload.limitations.map limitationWire)
  published : v.get "published_at_ms"=.nat payload.publishedAtMs
  sampled : v.get "sampled_at_ms"=orNull .nat payload.sampledAtMs

/-- The policy of the reader is the writer's, name by name. -/
theorem limitationPolicy_name (quality : MetricQualityV4) :
    limitationPolicies.find? (fun candidate => (str (qualityName quality)).isStr candidate.quality)=
      some ⟨qualityName quality,(qualityLimitationPolicy quality).requiresLimitation,
        (qualityLimitationPolicy quality).allowedCodes.map limitationName⟩ := by
  cases quality <;> decide

section Limitations
variable {v : Value} {payload : PublicationFacts} (hreads : Reads v payload)
include hreads

theorem limitations_length : (v.get "limitations").items.length=payload.limitations.length := by
  rw [hreads.limitations]
  exact List.length_map _

theorem limitationCode_orNull (index : Option Nat) :
    limitationCode v (orNull .nat index)=
      orNull (.str ∘ limitationName) (limitationCodeAt payload index) := by
  cases index with
  | none => rfl
  | some i =>
    have hitem : (v.get "limitations").atIndex (.nat i)=
        (payload.limitations[i]?.map limitationWire).getD .undefined := by
      rw [hreads.limitations]
      change ((payload.limitations.map limitationWire)[i]?).getD .undefined=_
      rw [List.getElem?_map]
    rw [limitationCode,limitationCodeAt,Option.bind_some,orNull_some,if_neg (by simp),
      hitem]
    cases payload.limitations[i]? with
    | none => rfl
    | some entry => rfl

theorem validateQualityLimitation_wire (quality : MetricQualityV4) (index : Option Nat)
    (hsized : ∀ i∈index, i ≤ jsMaxSafeInteger) :
    validateQualityLimitation v (.str (qualityName quality)) (orNull .nat index)=.ok () ↔
      Protocol.validateQualityLimitation payload quality index=.ok () := by
  have hknown : (str (qualityName quality)).isIn policyQualityCodes=true := by
    cases quality <;> decide
  simp only [validateQualityLimitation,Protocol.validateQualityLimitation,
    Protocol.validateLimitationIndex,unit_bind_ok,okOr_bind_ok,reject_ok,
    limitationPolicy_name,Option.some.injEq,exists_eq_left',limitationCode_orNull hreads,
    validIndex_orNull index _ hsized,limitations_length hreads,hknown,Bool.not_true,true_and]
  have hindex : (!index.all (fun i => decide (i < payload.limitations.length)))=
      index.any (fun i => decide (payload.limitations.length ≤ i)) := by
    cases index with
    | none => rfl
    | some i =>
      change (!decide (i < payload.limitations.length))=decide (payload.limitations.length ≤ i)
      rw [← decide_not,decide_eq_decide]
      exact Nat.not_lt
  rw [hindex]
  refine and_congr Iff.rfl ?_
  cases limitationCodeAt payload index with
  | none => rfl
  | some code =>
    have hcode : (orNull (.str ∘ limitationName) (some code)).isIn
        ((qualityLimitationPolicy quality).allowedCodes.map limitationName)=
          (qualityLimitationPolicy quality).allowedCodes.contains code :=
      isIn_map_name limitationName_injective code _
    have hnull : (orNull (.str ∘ limitationName) (some code)).isNull=false := rfl
    rw [hnull,hcode,QualityLimitationPolicy.allows]
    simp

end Limitations

section Observations
variable {v : Value} {payload : PublicationFacts}

/-- The integers of an observation fit their places. -/
@[mk_iff]
structure ObservationSized (o : MetricObservation) : Prop where
  descriptor : o.descriptorIndex < 2^16
  quality : o.qualityCode < 2^8
  limitation : ∀ i∈o.limitationIndex, i < 2^16

instance : DecidablePred ObservationSized := fun o =>
  decidable_of_iff' _ (observationSized_iff o)

theorem qualityName_truthy (quality : MetricQualityV4) :
    (str (qualityName quality)).truthy=true := by
  cases quality <;> decide

theorem isStr_missingMetadata (code : Option LimitationCode) :
    (orNull (.str ∘ limitationName) code).isStr "missing_metadata"=
      (code==some .missingMetadata) := by
  cases code with
  | none => rfl
  | some code =>
    change (str (limitationName code)).isStr (limitationName .missingMetadata)=_
    rw [isStr_name limitationName_injective]
    rfl

theorem isStr_unavailable (quality : MetricQualityV4) :
    (str (qualityName quality)).isStr "unavailable"=(quality==.unavailable) :=
  isStr_name qualityName_injective quality .unavailable

theorem isStr_held (quality : MetricQualityV4) :
    (str (qualityName quality)).isStr "held"=(quality==.held) :=
  isStr_name qualityName_injective quality .held

theorem isStr_unknown (source : MetricSourceV4) :
    (str (sourceName source)).isStr "unknown"=(source==.unknown) :=
  isStr_name sourceName_injective source .unknown

/-- The two time checks of the reader come to the writer's one: a time that is not after a
safe publication is safe. -/
theorem validateMeasurement_wire (hreads : Reads v payload)
    (hpublished : payload.publishedAtMs ≤ jsMaxSafeInteger) {scope : String}
    {source : MetricSourceV4} {o : MetricObservation} {quality : MetricQualityV4}
    (hquality : payload.qualityCodes[o.qualityCode]?=some quality)
    (hsized : ∀ i∈o.limitationIndex, i ≤ jsMaxSafeInteger) :
    validateMeasurement v scope (.str (sourceName source)) (orNull .num o.value)
        (.str (qualityName quality)) (orNull .nat o.observedAtMs) (orNull .nat o.limitationIndex)=
          .ok () ↔
      Protocol.validateMeasurement payload source o=.ok () := by
  have hnat : ∀ n : Nat, (Value.nat n).isNull=false := fun _ => rfl
  have hnum : ∀ x : Float, (Value.num x).isNull=false := fun _ => rfl
  have hvalue := and_orNull hnum (fun v => !nonNegativeFiniteNumber v) o.value
  have hsafe := and_orNull hnat (fun v => !safeInteger v) o.observedAtMs
  have hlate := and_orNull hnat (fun v => (Value.nat payload.publishedAtMs).lt v) o.observedAtMs
  have hheld : (!o.observedAtMs.isNone && !payload.sampledAtMs.isNone &&
      (orNull .nat payload.sampledAtMs).lt (orNull .nat o.observedAtMs))=
        Protocol.heldAfterSample payload o.observedAtMs := by
    rw [Protocol.heldAfterSample]
    cases o.observedAtMs with
    | none => rfl
    | some observed =>
      cases payload.sampledAtMs with
      | none => rfl
      | some sampled => rfl
  simp only [isNull_orNull hnum,isNull_orNull hnat,nonNegativeFiniteNumber_num,safeInteger_nat,
    Bool.not_not] at hvalue hsafe hlate hheld
  simp only [validateMeasurement,Protocol.validateMeasurement,unit_bind_ok,okOr_bind_ok,reject_ok,
    mapError_ok,hquality,Option.some.injEq,exists_eq_left',isStr_unavailable,isStr_held,
    isStr_unknown,limitationCode_orNull hreads,isStr_missingMetadata,
    validateQualityLimitation_wire hreads quality o.limitationIndex hsized,
    validIndex_orNull _ _ hsized,limitations_length hreads,hreads.published,hreads.sampled,
    isNull_orNull hnum,isNull_orNull hnat,hvalue,hsafe,hlate,Bool.and_assoc]
  rw [Bool.and_assoc] at hheld
  rw [hheld]
  simp only [Option.not_isNone]
  constructor
  · intro h
    obtain ⟨hmeasured,hunavailable,hnull,htimed,_,hafter,hlater,_,hlimited,hsourced⟩ := h
    have hboth : o.value.isNone=o.observedAtMs.isNone := bne_eq_false_iff_eq.1 htimed
    refine ⟨hunavailable,hnull,hmeasured,?_,?_,hafter,hlater,hlimited,hsourced⟩
    · rw [← hboth]
      cases o.value <;> rfl
    · rw [hboth]
      cases o.observedAtMs <;> rfl
  · intro h
    obtain ⟨hunavailable,hnull,hmeasured,htimed,huntimed,hafter,hlater,hlimited,hsourced⟩ := h
    refine ⟨hmeasured,hunavailable,hnull,?_,?_,hafter,hlater,?_,hlimited,hsourced⟩
    · cases hvalue : o.value with
      | none =>
        rw [hvalue] at huntimed
        cases htime : o.observedAtMs with
        | none => rfl
        | some time =>
          rw [htime] at huntimed
          cases huntimed
      | some value =>
        rw [hvalue] at htimed
        cases htime : o.observedAtMs with
        | none =>
          rw [htime] at htimed
          cases htimed
        | some time => rfl
    · cases htime : o.observedAtMs with
      | none => rfl
      | some time =>
        rw [htime,Option.any_some,decide_eq_false_iff_not] at hafter
        rw [Option.any_some,decide_eq_true (by omega)]
        rfl
    · rw [Protocol.validateQualityLimitation,unit_bind_ok,Protocol.validateLimitationIndex,
        reject_ok] at hlimited
      have hindex := hlimited.1
      cases hplace : o.limitationIndex with
      | none => rfl
      | some place =>
        rw [hplace,Option.any_some,decide_eq_false_iff_not] at hindex
        rw [Option.all_some,decide_eq_true (by omega)]
        rfl

/-- One observation passes with the reader where it does with the writer. -/
theorem validateObservation_wire (hreads : Reads v payload)
    (hpublished : payload.publishedAtMs ≤ jsMaxSafeInteger) {scope : MetricScope}
    {o : MetricObservation} (hsized : ObservationSized o) (observed observed' : List Value) :
    validateObservation v (scopeName scope) observed (observationWire o)=.ok observed' ↔
      ∃ descriptor, payload.descriptors[o.descriptorIndex]?=some descriptor ∧
        descriptor.scope=scope ∧
        observed.any (str (semanticName descriptor.semantic)).same=false ∧
        Protocol.validateMeasurement payload descriptor.source o=.ok () ∧
        observed'=.str (semanticName descriptor.semantic)::observed := by
  have hdescriptor : (v.get "descriptors").atIndex (.nat o.descriptorIndex)=
      (payload.descriptors[o.descriptorIndex]?.map descriptorWire).getD .undefined := by
    rw [hreads.descriptors]
    change ((payload.descriptors.map descriptorWire)[o.descriptorIndex]?).getD .undefined=_
    rw [List.getElem?_map]
  have hquality : (v.get "quality_codes").atIndex (.nat o.qualityCode)=
      (payload.qualityCodes[o.qualityCode]?.map (Value.str ∘ qualityName)).getD .undefined := by
    rw [hreads.qualityCodes]
    change ((payload.qualityCodes.map (Value.str ∘ qualityName))[o.qualityCode]?).getD .undefined=_
    rw [List.getElem?_map]
  have hindexes : (!safeInteger (.nat o.descriptorIndex) || !safeInteger (.nat o.qualityCode))=
      false := by
    have hd := hsized.descriptor
    have hq := hsized.quality
    rw [safeInteger_nat,safeInteger_nat,decide_eq_true (by simp only [jsMaxSafeInteger]; omega),
      decide_eq_true (by simp only [jsMaxSafeInteger]; omega)]
    rfl
  have hplace : ∀ i∈o.limitationIndex, i ≤ jsMaxSafeInteger := by
    intro i hi
    have hlt := hsized.limitation i hi
    simp only [jsMaxSafeInteger]
    omega
  rw [validateObservation]
  change (reject false _ >>= fun _ => reject (!safeInteger (.nat o.descriptorIndex) ||
    !safeInteger (.nat o.qualityCode)) _ >>= fun _ => _)=_ ↔ _
  have h0 : (observationWire o).atIndex (.nat 0)=.nat o.descriptorIndex := rfl
  have h1 : (observationWire o).atIndex (.nat 1)=orNull .num o.value := rfl
  have h2 : (observationWire o).atIndex (.nat 2)=.nat o.qualityCode := rfl
  have h3 : (observationWire o).atIndex (.nat 3)=orNull .nat o.observedAtMs := rfl
  have h4 : (observationWire o).atIndex (.nat 4)=orNull .nat o.limitationIndex := rfl
  simp only [h0,h1,h2,h3,h4,hindexes,hdescriptor,hquality,unit_bind_ok,reject_ok,pure_ok,true_and]
  cases hd : payload.descriptors[o.descriptorIndex]? with
  | none => simp [truthy]
  | some descriptor =>
    have hscope : ((descriptorWire descriptor).get "scope").isStr (scopeName scope)=
        (descriptor.scope==scope) := isStr_name scopeName_injective descriptor.scope scope
    have hsource : (descriptorWire descriptor).get "source"=
        .str (sourceName descriptor.source) := rfl
    have hsemantic : (descriptorWire descriptor).get "semantic"=
        .str (semanticName descriptor.semantic) := rfl
    have hrecord : (descriptorWire descriptor).truthy=true := rfl
    simp only [Option.map_some,Option.getD_some,hscope,hsource,hsemantic,hrecord,Option.some.injEq,
      exists_eq_left',Bool.not_true,Bool.false_or,Bool.or_eq_false_iff,Bool.not_eq_false',
      beq_iff_eq]
    cases hq : payload.qualityCodes[o.qualityCode]? with
    | none =>
      simp [truthy,Protocol.validateMeasurement,hq,okOr,bind,Except.bind]
    | some quality =>
      simp only [Option.map_some,Option.getD_some,Function.comp_apply,qualityName_truthy,and_true,
        validateMeasurement_wire hreads hpublished hq hplace,eq_comm (b := observed')]

/-- The observations of a subject pass with the reader where they do with the writer. -/
theorem validateObservations_wire (hreads : Reads v payload)
    (hpublished : payload.publishedAtMs ≤ jsMaxSafeInteger) {scope : MetricScope}
    {os : List MetricObservation} (hsized : ∀ o∈os, ObservationSized o) :
    validateObservations v (metricsWire os) (scopeName scope)=.ok () ↔
      Protocol.validateObservations payload scope os=.ok () := by
  have hfrom : ∀ (semantics : List MetricSemantic),
      (∃ observed, (os.map observationWire).foldlM (validateObservation v (scopeName scope))
        (semantics.map (Value.str ∘ semanticName))=.ok observed) ↔
      Protocol.validateObservationsFrom payload scope semantics os=.ok () := by
    induction os with
    | nil =>
      intro semantics
      simp [Protocol.validateObservationsFrom,pure,Except.pure]
    | cons o os ih =>
      intro semantics
      have ho := hsized o List.mem_cons_self
      have hos := ih (fun o' ho' => hsized o' (List.mem_cons_of_mem o ho'))
      simp only [List.map_cons,List.foldlM_cons,bind_ok,
        validateObservation_wire hreads hpublished ho,Protocol.validateObservationsFrom,
        exists_unit,okOr_ok,reject_ok,bne_eq_false_iff_eq]
      have hsame (semantic : MetricSemantic) :
          (semantics.map (Value.str ∘ semanticName)).any (str (semanticName semantic)).same=
            semantics.contains semantic := by
        rw [Bool.eq_iff_iff,List.any_map,List.any_eq_true,List.contains_iff_mem]
        simp [same_str,semanticName_injective.eq_iff]
      constructor
      · intro h
        obtain ⟨_,_,⟨descriptor,hdescriptor,hscope,hnew,hmeasured,rfl⟩,hrest⟩ := h
        rw [hsame] at hnew
        exact ⟨descriptor,hdescriptor,hscope,hnew,hmeasured,
          (hos (descriptor.semantic::semantics)).1 ⟨_,hrest⟩⟩
      · intro h
        obtain ⟨descriptor,hdescriptor,hscope,hnew,hmeasured,hrest⟩ := h
        obtain ⟨observed,hobserved⟩ := (hos (descriptor.semantic::semantics)).2 hrest
        rw [← hsame] at hnew
        exact ⟨observed,_,⟨descriptor,hdescriptor,hscope,hnew,hmeasured,rfl⟩,hobserved⟩
  rw [Protocol.validateObservations,← hfrom []]
  simp only [validateObservations,metricsWire,isArray,items,bind_ok,exists_unit,pure_ok,reject_ok,
    Bool.not_true,true_and,List.map_nil,and_true]

end Observations

section Catalog
variable {v : Value} {payload : PublicationFacts}

/-- How the reader takes a text that has to say something. -/
def blank (s : String) : Bool := (trim s).length==0

theorem nonEmptyString_str (s : String) : nonEmptyString (.str s)=!blank s := by
  rw [blank,Bool.eq_iff_iff]
  simp [nonEmptyString,Nat.pos_iff_ne_zero]

/-- A definition of the writer as the generator writes it out. -/
def policyOf (definition : SemanticDefinition) : PolicyDefinition where
  semantic := semanticName definition.semantic
  scope := scopeName definition.scope
  unit := unitName definition.unit
  sampledOverInterval := definition.sampledOverInterval
  defaultScope := definition.networkScope.default.map networkScopeName
  sysinfoScope := definition.networkScope.sysinfo.map networkScopeName

def allScopes : List MetricScope := [.system,.process,.group]

/-- Both tables hold the same definitions, found by the same keys. -/
theorem policyDefinition_wire (scope : MetricScope) (semantic : MetricSemantic) :
    policyDefinition (.str (scopeName scope)) (.str (semanticName semantic))=
      (semanticDefinition semantic scope).map policyOf := by
  have hscope : scope∈allScopes := by cases scope <;> decide
  have htable : ∀ scope∈allScopes, ∀ semantic∈allSemantics,
      policyDefinition (.str (scopeName scope)) (.str (semanticName semantic))=
        (semanticDefinition semantic scope).map policyOf := by decide
  exact htable scope hscope semantic (mem_allSemantics semantic)

theorem policyNetworkScope_wire (semantic : MetricSemantic) (scope : MetricScope)
    (source : MetricSourceV4) :
    policyNetworkScope (.str (semanticName semantic)) (.str (scopeName scope))
      (.str (sourceName source))=
        orNull (.str ∘ networkScopeName) (networkScopeDefinition semantic scope source) := by
  have hwrite (network : Option Protocol.NetworkScopeV4) :
      orNull .str (network.map networkScopeName)=orNull (.str ∘ networkScopeName) network := by
    cases network with
    | none => rfl
    | some network => rfl
  have hsysinfo : (str (sourceName source)).isStr "sysinfo"=(source==.sysinfo) :=
    isStr_name sourceName_injective source .sysinfo
  rw [policyNetworkScope,isStr_unknown,policyDefinition_wire,networkScopeDefinition,hsysinfo]
  cases semanticDefinition semantic scope with
  | none => cases source <;> rfl
  | some definition =>
    change (if source==.unknown then Value.null else orNull .str
      (if source==.sysinfo then definition.networkScope.sysinfo.map networkScopeName
        else definition.networkScope.default.map networkScopeName))=
      orNull (.str ∘ networkScopeName) (definition.networkScope.resolve source)
    cases source <;> first | rfl | exact hwrite _

theorem networkScope_same (network : Option Protocol.NetworkScopeV4) :
    (orNull (.str ∘ networkScopeName) network).same (orNull (.str ∘ networkScopeName) network)=
      true := by
  cases network with
  | none => rfl
  | some network => exact beq_self_eq_true (networkScopeName network)

/-- A descriptor of the writer's is one of the reader's. -/
theorem validateDescriptor_wire {entry : MeasurementDescriptor × Nat}
    (h : Protocol.validateDescriptor entry=.ok ())
    (hinterval : ∀ interval∈entry.1.intervalMs, interval < 2^32) :
    validateDescriptor (descriptorWire entry.1,entry.2)=.ok () := by
  obtain ⟨descriptor,place⟩ := entry
  simp only [Protocol.validateDescriptor,unit_bind_ok,okOr_bind_ok,reject_ok,
    bne_eq_false_iff_eq,Bool.or_eq_false_iff,beq_eq_false_iff_ne] at h
  obtain ⟨hid,definition,hdefinition,hunit,hnetwork,hover,hpositive⟩ := h
  have hscope : (descriptorWire descriptor).get "scope"=.str (scopeName descriptor.scope) := rfl
  have hsemantic : (descriptorWire descriptor).get "semantic"=
      .str (semanticName descriptor.semantic) := rfl
  have hsource : (descriptorWire descriptor).get "source"=.str (sourceName descriptor.source) := rfl
  have hwritten : (descriptorWire descriptor).get "network_scope"=
      orNull (.str ∘ networkScopeName) descriptor.networkScope := rfl
  have htimed : (descriptorWire descriptor).get "interval_ms"=
      orNull .nat descriptor.intervalMs := rfl
  have hids : ((descriptorWire descriptor).get "id").same (.nat place)=true := by
    rw [← hid]
    exact beq_self_eq_true descriptor.id
  have hunits : ((descriptorWire descriptor).get "unit").isStr (unitName definition.unit)=true := by
    rw [← hunit]
    exact beq_self_eq_true (unitName descriptor.unit)
  have hknown : (str (sourceName descriptor.source)).isIn sources=true := by
    cases descriptor.source <;> decide
  have hintervals : (if definition.sampledOverInterval then
      !safeInteger (orNull .nat descriptor.intervalMs) ||
        (orNull .nat descriptor.intervalMs).same (.nat 0)
      else !(orNull .nat descriptor.intervalMs).isNull)=false := by
    cases hms : descriptor.intervalMs with
    | none =>
      rw [hms] at hover
      rw [hover]
      rfl
    | some interval =>
      rw [hms] at hover hpositive
      have hbound := hinterval interval hms
      have hne : (interval==0)=false := beq_eq_false_iff_ne.2 (fun h => hpositive (by rw [h]))
      rw [hover,orNull_some,safeInteger_nat,decide_eq_true (by simp only [jsMaxSafeInteger]; omega)]
      change (interval==0)=false
      exact hne
  simp only [validateDescriptor,unit_bind_ok,okOr_bind_ok,reject_ok,hscope,hsemantic,hsource,
    hwritten,htimed,policyDefinition_wire,policyNetworkScope_wire,hdefinition,Option.map_some,
    Option.some.injEq,exists_eq_left',hids,hknown,hnetwork,networkScope_same]
  refine ⟨rfl,?_⟩
  change (!true || !true || !((descriptorWire descriptor).get "unit").isStr
    (unitName definition.unit) || !true || _)=false
  rw [hunits]
  exact hintervals

/-- Of a catalog of the writer's the reader asks only that its limitations say something. -/
theorem validateMeasurementCatalog_wire (hreads : Reads v payload)
    (hcodes : payload.qualityCodes=qualityCodes)
    (hdescriptors : ∀ entry∈payload.descriptors.zipIdx, Protocol.validateDescriptor entry=.ok ())
    (hsized : ∀ descriptor∈payload.descriptors, ∀ interval∈descriptor.intervalMs, interval < 2^32) :
    validateMeasurementCatalog v=.ok () ↔
      ∀ text∈payload.limitations.map LimitationEntry.message, blank text=false := by
  have hquality : (((v.get "quality_codes").items.length != policyQualityCodes.length) ||
      ((v.get "quality_codes").items.zip policyQualityCodes).any
        (fun pair => !pair.1.isStr pair.2))=false := by
    rw [hreads.qualityCodes,hcodes]
    decide
  have hitems : (v.get "descriptors").items.zipIdx=
      payload.descriptors.zipIdx.map (fun entry => (descriptorWire entry.1,entry.2)) := by
    rw [hreads.descriptors]
    change (payload.descriptors.map descriptorWire).zipIdx=_
    rw [List.zipIdx_map]
    rfl
  have hchecked : (v.get "descriptors").items.zipIdx.forM validateDescriptor=.ok () := by
    rw [hitems,forM_ok]
    intro item hitem
    obtain ⟨entry,hentry,rfl⟩ := List.mem_map.1 hitem
    exact validateDescriptor_wire (hdescriptors entry hentry)
      (hsized entry.1 (List.fst_mem_of_mem_zipIdx hentry))
  have hlimitation (entry : LimitationEntry) : (!(limitationWire entry).isRecord ||
      !((limitationWire entry).get "code").isIn limitationCodes ||
      !nonEmptyString ((limitationWire entry).get "message"))=blank entry.message := by
    have hcode : ((limitationWire entry).get "code").isIn limitationCodes=true := by
      change (str (limitationName entry.code)).isIn limitationCodes=true
      cases entry.code <;> decide
    have hmessage : (limitationWire entry).get "message"=.str entry.message := rfl
    rw [hcode,hmessage,nonEmptyString_str,Bool.not_not]
    rfl
  rw [validateMeasurementCatalog,unit_bind_ok,unit_bind_ok,reject_ok,reject_ok,
    and_iff_right hquality,and_iff_right hchecked]
  simp only [hreads.limitations,items,List.any_map,List.any_eq_false,Function.comp_apply,
    hlimitation,List.forall_mem_map,Bool.not_eq_true]

end Catalog
end BatCave.Reader
