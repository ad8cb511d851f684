import BatCave.Protocol.Encoder

/-! What a reader of the envelope accepts of an observation, and which readings the encoder
turns into accepted observations. -/
namespace BatCave.Protocol
open BatCave.Contracts BatCave.Lib BatCave.Lib.Result CatalogBuilder

/-- What of a payload the checks of an observation read. -/
structure PublicationFacts extends Catalogs where
  publishedAtMs : Nat
  sampledAtMs : Option Nat
  qualityCodes : List MetricQualityV4

def validateLimitationIndex (payload : PublicationFacts) (index : Option Nat) :
    Except String Unit :=
  reject (index.any (fun index => payload.limitations.length ≤ index))
    "protocol_limitation_out_of_range"

def limitationCodeAt (payload : PublicationFacts) (index : Option Nat) : Option LimitationCode :=
  index.bind (fun index => payload.limitations[index]?.map LimitationEntry.code)

def QualityLimitationPolicy.allows (policy : QualityLimitationPolicy)
    (code : Option LimitationCode) : Bool :=
  code.elim (!policy.requiresLimitation) (fun code => code∈policy.allowedCodes)

def validateQualityLimitation (payload : PublicationFacts) (quality : MetricQualityV4)
    (limitationIndex : Option Nat) : Except String Unit := do
  validateLimitationIndex payload limitationIndex
  let code := limitationCodeAt payload limitationIndex
  let policy := qualityLimitationPolicy quality
  reject (policy.requiresLimitation && code.isNone) "protocol_quality_explanation_missing"
  reject (!policy.allows code) "protocol_quality_limitation_contradiction"

def heldAfterSample (payload : PublicationFacts) (observedAtMs : Option Nat) : Bool :=
  observedAtMs.any (fun observed => payload.sampledAtMs.any (fun sampled => sampled < observed))

/-- The checks of one observation that do not look at the others of its subject. -/
def validateMeasurement (payload : PublicationFacts) (source : MetricSourceV4)
    (o : MetricObservation) : Except String Unit := do
  let quality ← okOr payload.qualityCodes[o.qualityCode]?
    "protocol_observation_quality_out_of_range"
  reject (quality==.unavailable && o.value.isSome) "protocol_unavailable_observation_has_value"
  reject (o.value.isNone &&
      !(quality==.unavailable || (quality==.held && o.limitationIndex.isSome)))
    "protocol_null_observation_quality_invalid"
  reject (o.value.any (fun value => !value.isFinite || value < 0.0))
    "protocol_observation_not_finite"
  reject (o.value.isSome && o.observedAtMs.isNone) "protocol_observation_time_missing"
  reject (o.value.isNone && o.observedAtMs.isSome) "protocol_null_observation_has_time"
  reject (o.observedAtMs.any (fun observed => payload.publishedAtMs < observed))
    "protocol_observation_after_publication"
  reject (quality==.held && heldAfterSample payload o.observedAtMs)
    "protocol_held_observation_after_sample"
  validateQualityLimitation payload quality o.limitationIndex
  reject (source==.unknown && (quality != .unavailable ||
      limitationCodeAt payload o.limitationIndex != some .missingMetadata))
    "protocol_observation_source_quality_contradiction"

/-- The loop of `validate_observations`, with the semantics seen. -/
def validateObservationsFrom (payload : PublicationFacts) (expectedScope : MetricScope)
    (semantics : List MetricSemantic) : List MetricObservation → Except String Unit
  | [] => .ok ()
  | o::observations => do
    let descriptor ← okOr payload.descriptors[o.descriptorIndex]?
      "protocol_observation_descriptor_out_of_range"
    reject (descriptor.scope != expectedScope) "protocol_observation_scope_mismatch"
    reject (semantics.contains descriptor.semantic) "protocol_duplicate_subject_semantic"
    validateMeasurement payload descriptor.source o
    validateObservationsFrom payload expectedScope (descriptor.semantic::semantics) observations

/-- `validate_observations` -/
def validateObservations (payload : PublicationFacts) (expectedScope : MetricScope)
    (observations : List MetricObservation) : Except String Unit :=
  validateObservationsFrom payload expectedScope [] observations

/-- What the reader asks of a reading of some quality. -/
structure Reading.Fits (r : Reading) (source : MetricSourceV4) (publishedAtMs : Nat)
    (sampledAtMs : Option Nat) (quality : MetricQualityV4) : Prop where
  code : qualityCodes[r.qualityCode]?=some quality
  absent : quality=.unavailable → r.value=none
  present : r.value=none → quality=.unavailable ∨ (quality=.held ∧ r.limitation.isSome)
  value : ∀ v, r.value=some v → v.isFinite=true ∧ ¬v < 0.0
  timed : r.value.isSome=r.observedAtMs.isSome
  published : ∀ observed, r.observedAtMs=some observed → observed ≤ publishedAtMs
  held : quality=.held → ∀ observed sampled, r.observedAtMs=some observed →
    sampledAtMs=some sampled → observed ≤ sampled
  explained : (qualityLimitationPolicy quality).allows (r.limitation.map LimitationEntry.code)=true
  sourced : source=.unknown → quality=.unavailable ∧
    r.limitation.map LimitationEntry.code=some .missingMetadata

def Reading.Accepted (r : Reading) (source : MetricSourceV4) (publishedAtMs : Nat)
    (sampledAtMs : Option Nat) : Prop :=
  ∃ quality, r.Fits source publishedAtMs sampledAtMs quality

section Validate
variable {payload : PublicationFacts} {interval : Nat} {sampledAtMs : Option Nat}

theorem limitationCodeAt_of_rel {index : Option Nat} {entry : Option LimitationEntry}
    (h : Option.Rel (fun i e => payload.limitations[i]?=some e) index entry) :
    limitationCodeAt payload index=entry.map LimitationEntry.code := by
  cases h with
  | none => rfl
  | some h => simp [limitationCodeAt,h]

theorem validateLimitationIndex_of_rel {index : Option Nat} {entry : Option LimitationEntry}
    (h : Option.Rel (fun i e => payload.limitations[i]?=some e) index entry) :
    validateLimitationIndex payload index=.ok () := by
  cases h with
  | none => rfl
  | some h =>
    have hlt := (List.getElem?_eq_some_iff.mp h).1
    simp [validateLimitationIndex,reject,hlt]

/-- A required explanation that is missing is not allowed either. -/
theorem validateQualityLimitation_ok {quality : MetricQualityV4} {index : Option Nat}
    {entry : Option LimitationEntry}
    (h : Option.Rel (fun i e => payload.limitations[i]?=some e) index entry) :
    validateQualityLimitation payload quality index=.ok () ↔
      (qualityLimitationPolicy quality).allows (entry.map LimitationEntry.code)=true := by
  simp only [validateQualityLimitation,unit_bind_ok,reject_ok,limitationCodeAt_of_rel h,
    validateLimitationIndex_of_rel h,Bool.not_eq_false',true_and]
  constructor
  · exact And.right
  · intro hallows
    refine ⟨?_,hallows⟩
    cases entry with
    | none => simpa [QualityLimitationPolicy.allows] using hallows
    | some e => simp

theorem rel_isSome {α β : Type} {R : α → β → Prop} {a : Option α} {b : Option β}
    (h : Option.Rel R a b) : a.isSome=b.isSome := by
  cases h <;> rfl

/-- The checks of an observation are checks of the reading behind it. -/
theorem validateMeasurement_ok {r : Request} {o : MetricObservation} {source : MetricSourceV4}
    (hcodes : payload.qualityCodes=qualityCodes)
    (h : r.Recorded interval sampledAtMs payload.toCatalogs o) :
    validateMeasurement payload source o=.ok () ↔
      (r.reading sampledAtMs).Accepted source payload.publishedAtMs payload.sampledAtMs := by
  have hlim := h.limitation
  simp only [validateMeasurement,unit_bind_ok,reject_ok,okOr_bind_ok,hcodes,h.qualityCode,h.value,
    h.observedAtMs,rel_isSome hlim,limitationCodeAt_of_rel hlim,validateQualityLimitation_ok hlim]
  generalize r.reading sampledAtMs=reading
  constructor
  · intro ⟨quality,hcode,habsent,hpresent,hvalue,htimed,huntimed,hpublished,hheld,hexplained,
      hsourced⟩
    refine ⟨quality,hcode,?_,?_,?_,?_,?_,?_,hexplained,?_⟩
    · intro hq
      simpa [hq] using habsent
    · intro hv
      simpa [hv,or_iff_not_imp_left] using hpresent
    · intro v hv
      simpa [hv] using hvalue
    · cases hv : reading.value <;> simp_all
    · intro observed ho
      simpa [ho] using hpublished
    · intro hq observed sampled ho hs
      simpa [hq,ho,hs,heldAfterSample] using hheld
    · intro hs
      simpa [hs] using hsourced
  · intro ⟨quality,hfits⟩
    refine ⟨quality,hfits.code,?_,?_,?_,?_,?_,?_,?_,hfits.explained,?_⟩
    · cases hq : quality==.unavailable with
      | false => rfl
      | true => simp [hfits.absent (by simpa using hq)]
    · cases hv : reading.value with
      | none => simpa [or_iff_not_imp_left] using hfits.present hv
      | some v => rfl
    · cases hv : reading.value with
      | none => rfl
      | some v => simpa using hfits.value v hv
    · rw [hfits.timed]
      cases reading.observedAtMs <;> rfl
    · rw [← Option.not_isSome,hfits.timed]
      cases reading.observedAtMs <;> rfl
    · cases ho : reading.observedAtMs with
      | none => rfl
      | some observed => simpa using hfits.published observed ho
    · cases hq : quality==.held with
      | false => rfl
      | true =>
        cases ho : reading.observedAtMs with
        | none => rfl
        | some observed =>
          cases hs : payload.sampledAtMs with
          | none => simp [heldAfterSample,hs]
          | some sampled =>
            simpa [heldAfterSample,hs] using hfits.held (by simpa using hq) observed sampled ho hs
    · cases hs : source==.unknown with
      | false => rfl
      | true =>
        have hsource := hfits.sourced (by simpa using hs)
        simp [hsource.1,hsource.2]

/-- What the readings of one subject must be for its observations to be accepted. -/
theorem validateObservationsFrom_ok {scope : MetricScope} {requests : List Request}
    {observations : List MetricObservation} (hcodes : payload.qualityCodes=qualityCodes)
    (hscope : ∀ r∈requests, r.definition.scope=scope)
    (h : List.Forall₂ (fun r o => r.Recorded interval sampledAtMs payload.toCatalogs o) requests
      observations) (semantics : List MetricSemantic) :
    validateObservationsFrom payload scope semantics observations=.ok () ↔
      (requests.map (fun r => r.definition.semantic)).Nodup ∧
      (∀ r∈requests, r.definition.semantic∉semantics) ∧
      ∀ r∈requests, (r.reading sampledAtMs).Accepted (sourceOf r.quality) payload.publishedAtMs
        payload.sampledAtMs := by
  induction h generalizing semantics with
  | nil => simp [validateObservationsFrom]
  | @cons r o requests observations hr _ ih =>
    obtain ⟨d,hd,hdscope,hdsemantic,hdsource⟩ := hr.named
    have hhead := hscope r List.mem_cons_self
    have htail :=
      ih (fun x hx => hscope x (List.mem_cons_of_mem _ hx)) (r.definition.semantic::semantics)
    simp only [validateObservationsFrom,okOr_bind_ok,unit_bind_ok,reject_ok,hd,Option.some.injEq,
      exists_eq_left',hdscope,hdsemantic,hdsource,hhead,validateMeasurement_ok hcodes hr,htail]
    simp only [bne_self_eq_false,true_and,List.contains_eq_mem,decide_eq_false_iff_not,
      List.map_cons,List.nodup_cons,List.mem_map,List.mem_cons,not_or,forall_eq_or_imp]
    constructor
    · intro ⟨hfresh,hacc,hnodup,hothers,haccs⟩
      refine ⟨⟨?_,hnodup⟩,⟨hfresh,fun x hx => (hothers x hx).2⟩,hacc,haccs⟩
      intro ⟨x,hx,heq⟩
      exact (hothers x hx).1 heq
    · intro ⟨⟨hnew,hnodup⟩,⟨hfresh,hothers⟩,hacc,haccs⟩
      refine ⟨hfresh,hacc,hnodup,fun x hx => ⟨?_,hothers x hx⟩,haccs⟩
      exact fun heq => hnew ⟨x,hx,heq⟩

theorem validateObservations_ok {scope : MetricScope} {requests : List Request}
    {observations : List MetricObservation} (hcodes : payload.qualityCodes=qualityCodes)
    (hscope : ∀ r∈requests, r.definition.scope=scope)
    (h : List.Forall₂ (fun r o => r.Recorded interval sampledAtMs payload.toCatalogs o) requests
      observations) :
    validateObservations payload scope observations=.ok () ↔
      (requests.map (fun r => r.definition.semantic)).Nodup ∧
      ∀ r∈requests, (r.reading sampledAtMs).Accepted (sourceOf r.quality) payload.publishedAtMs
        payload.sampledAtMs := by
  rw [validateObservations,validateObservationsFrom_ok hcodes hscope h]
  simp

end Validate
end BatCave.Protocol
