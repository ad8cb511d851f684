import BatCave.Protocol.Readings

/-! Any run of a catalog. Whatever is asked of it before and after an observation, the
observation keeps its meaning, and the reader accepts it unless it is a native value that
the collector explained without naming a limitation. -/
namespace BatCave.Protocol
open BatCave.Contracts BatCave.Lib BatCave.Lib.Interner BatCave.Lib.Text CatalogBuilder

/-- What a catalog may be asked for. -/
inductive Insertion where
  | observation (request : Request) (sampledAtMs : Option Nat)
  | limitation (entry : LimitationEntry)
  | descriptor (definition : MetricDefinition) (source : MetricSourceV4)

namespace CatalogBuilder

/-- The catalogs that are left when nothing is recorded before a failure. -/
def left {α : Type} (c : CatalogBuilder) (m : Encoder α) : CatalogBuilder :=
  match m c with
  | .ok (_,c') => c'
  | .error _ => c

/-- The first half of an observation. -/
def resolvedDescriptor (definition : MetricDefinition) (source : MetricSourceV4) :
    Encoder Nat := do
  let definition ← resolveDefinition (← get).sampleIntervalMs definition
  descriptor definition source

/-- The catalogs after an insertion, whether it succeeds or not: an observation that fails
for its time or its limitation has its descriptor recorded already. -/
def insert (c : CatalogBuilder) : Insertion → CatalogBuilder
  | .observation request sampledAtMs =>
    match request.observe sampledAtMs c with
    | .ok (_,c') => c'
    | .error _ => c.left (resolvedDescriptor request.definition (sourceOf request.quality))
  | .limitation entry => c.left (limitation entry)
  | .descriptor definition source => c.left (descriptor definition source)

def run (c : CatalogBuilder) (insertions : List Insertion) : CatalogBuilder :=
  insertions.foldl insert c

/-- Every descriptor has its place for an id, and nothing is recorded twice. -/
structure Ordered (c : CatalogBuilder) : Prop where
  ids : ∀ place (d : MeasurementDescriptor), c.descriptors[place]?=some d → d.id=place
  descriptors : Interned catalogSize measurement c.descriptors
  limitations : Interned catalogSize id c.limitations

structure Follows (c c' : CatalogBuilder) : Prop where
  ordered : c'.Ordered
  within : c.Within c'.toCatalogs

section Runs
variable {c c' c'' : CatalogBuilder}

theorem ordered_new {interval : Nat} (h : new interval=.ok c) : c.Ordered := by
  have hok := ok_new h
  exact ⟨fun place d hd => (hok.described place d hd).id,hok.descriptors,hok.limitations⟩

theorem Ordered.follows (h : c.Ordered) : c.Follows c := ⟨h,Catalogs.Within.refl _⟩

theorem Follows.trans (h : c.Follows c') (h' : c'.Follows c'') : c.Follows c'' :=
  ⟨h'.ordered,h.within.trans h'.within⟩

theorem limitation_follows {entry : LimitationEntry} {i : Nat} (hc : c.Ordered)
    (h : limitation entry c=.ok (i,c')) :
    c.Follows c' ∧ c'.limitations[i]?=some entry := by
  simp only [limitation] at h
  cases hi : intern catalogSize id entry (fun _ => entry) c.limitations with
  | none =>
    rw [hi] at h
    cases h
  | some found =>
    rw [hi] at h
    cases h
    have hlimitations := hc.limitations.intern (fun _ => rfl) hi
    obtain ⟨x,hx,rfl⟩ := intern_found (fun _ => rfl) hi
    exact ⟨⟨⟨hc.ids,hc.descriptors,hlimitations⟩,⟨List.prefix_refl _,prefix_intern hi⟩⟩,hx⟩

theorem descriptor_follows {definition : MetricDefinition} {source : MetricSourceV4} {i : Nat}
    (hc : c.Ordered) (h : descriptor definition source c=.ok (i,c')) :
    c.Follows c' ∧
      ∃ d, c'.descriptors[i]?=some d ∧ measurement d=descriptorOf definition source 0 := by
  simp only [descriptor] at h
  cases hi : intern catalogSize measurement (descriptorOf definition source 0)
      (descriptorOf definition source) c.descriptors with
  | none =>
    rw [hi] at h
    cases h
  | some found =>
    rw [hi] at h
    cases h
    have hkey : ∀ n, measurement (descriptorOf definition source n)=
      descriptorOf definition source 0 := fun _ => rfl
    have hids := intern_forall (P := fun place (d : MeasurementDescriptor) => d.id=place)
      (fun _ => rfl) hc.ids hi
    have hdescriptors := hc.descriptors.intern hkey hi
    exact ⟨⟨⟨hids,hdescriptors,hc.limitations⟩,⟨prefix_intern hi,List.prefix_refl _⟩⟩,
      intern_found hkey hi⟩

theorem limitationIndex_follows {entry : Option LimitationEntry} {i : Option Nat} (hc : c.Ordered)
    (h : limitationIndex entry c=.ok (i,c')) :
    c.Follows c' ∧ Option.Rel (fun i e => c'.limitations[i]?=some e) i entry := by
  cases entry with
  | none =>
    cases h
    exact ⟨hc.follows,.none⟩
  | some entry =>
    change ((limitation entry c) >>= fun p => .ok (some p.1,p.2))=.ok (i,c') at h
    obtain ⟨⟨j,k⟩,hj,hk⟩ := Result.bind_ok.mp h
    cases hk
    obtain ⟨hfollows,hplace⟩ := limitation_follows hc hj
    exact ⟨hfollows,.some hplace⟩

theorem resolvedDescriptor_ok {definition : MetricDefinition} {source : MetricSourceV4} {i : Nat} :
    resolvedDescriptor definition source c=.ok (i,c') ↔
      ∃ d, resolveDefinition c.sampleIntervalMs definition=.ok d ∧
        descriptor d source c=.ok (i,c') := by
  change ((resolveDefinition c.sampleIntervalMs definition >>= fun d => .ok (d,c)) >>=
    fun p => descriptor p.1 source p.2)=.ok (i,c') ↔ _
  simp only [Result.bind_ok]
  constructor
  · intro ⟨p,⟨d,hd,hp⟩,hi⟩
    cases hp
    exact ⟨d,hd,hi⟩
  · intro ⟨d,hd,hi⟩
    exact ⟨(d,c),⟨d,hd,rfl⟩,hi⟩

/-- What an observation does, in the order it does it. -/
theorem observe_ok {r : Request} {sampledAtMs : Option Nat} {o : MetricObservation}
    (h : r.observe sampledAtMs c=.ok (o,c')) :
    ∃ d i c₁ j, resolveDefinition c.sampleIntervalMs r.definition=.ok d ∧
      descriptor d (sourceOf r.quality) c=.ok (i,c₁) ∧
      limitationIndex (reading d.unit r.value r.quality sampledAtMs).limitation c₁=.ok (j,c') ∧
      o=⟨i,(reading d.unit r.value r.quality sampledAtMs).value,
        (reading d.unit r.value r.quality sampledAtMs).qualityCode,
        (reading d.unit r.value r.quality sampledAtMs).observedAtMs,j⟩ := by
  change ((resolveDefinition c.sampleIntervalMs r.definition >>= fun d => .ok (d,c)) >>=
    fun p => record p.1 (sourceOf r.quality)
      (reading p.1.unit r.value r.quality sampledAtMs) p.2)=.ok (o,c') at h
  obtain ⟨p,hp,h⟩ := Result.bind_ok.mp h
  obtain ⟨d,hd,hp⟩ := Result.bind_ok.mp hp
  cases hp
  generalize hr : reading d.unit r.value r.quality sampledAtMs=found at h
  change (descriptor d (sourceOf r.quality) c >>= fun q =>
    ((Result.reject found.observedTooLate "protocol_timestamp_out_of_range" >>=
        fun u => .ok (u,q.2)) >>= fun u => limitationIndex found.limitation u.2 >>= fun j =>
      .ok (⟨q.1,found.value,found.qualityCode,found.observedAtMs,j.1⟩,j.2)))=.ok (o,c') at h
  obtain ⟨⟨i,c₁⟩,hi,h⟩ := Result.bind_ok.mp h
  obtain ⟨u,hu,h⟩ := Result.bind_ok.mp h
  obtain ⟨_,_,hu⟩ := Result.bind_ok.mp hu
  cases hu
  obtain ⟨⟨j,c₂⟩,hj,h⟩ := Result.bind_ok.mp h
  cases h
  subst hr
  exact ⟨d,i,c₁,j,hd,hi,hj,rfl⟩

theorem left_follows {α : Type} {m : Encoder α} (hc : c.Ordered)
    (h : ∀ a c', m c=.ok (a,c') → c.Follows c') : c.Follows (c.left m) := by
  simp only [left]
  split
  · next hm => exact h _ _ hm
  · exact hc.follows

theorem observe_follows {r : Request} {sampledAtMs : Option Nat} {o : MetricObservation}
    (hc : c.Ordered) (h : r.observe sampledAtMs c=.ok (o,c')) : c.Follows c' := by
  obtain ⟨d,i,c₁,j,_,hi,hj,_⟩ := observe_ok h
  obtain ⟨hdescriptor,_⟩ := descriptor_follows hc hi
  exact hdescriptor.trans (limitationIndex_follows hdescriptor.ordered hj).1

/-- One insertion, successful or not. -/
theorem insert_follows (hc : c.Ordered) (insertion : Insertion) :
    c.Follows (c.insert insertion) := by
  cases insertion with
  | observation request sampledAtMs =>
    simp only [insert]
    split
    · next h => exact observe_follows hc h
    · apply left_follows hc
      intro i c' h
      obtain ⟨d,_,hi⟩ := resolvedDescriptor_ok.mp h
      exact (descriptor_follows hc hi).1
  | limitation entry => exact left_follows hc (fun _ _ h => (limitation_follows hc h).1)
  | descriptor definition source =>
    exact left_follows hc (fun _ _ h => (descriptor_follows hc h).1)

theorem run_follows (hc : c.Ordered) (insertions : List Insertion) :
    c.Follows (c.run insertions) := by
  induction insertions generalizing c with
  | nil => exact hc.follows
  | cons insertion insertions ih =>
    have hstep := insert_follows hc insertion
    exact hstep.trans (ih hstep.ordered)

/-- A definition that was resolved is the one a request resolves to, at its own interval
where it has one. -/
theorem resolveDefinition_ok {interval : Nat} {definition d : MetricDefinition}
    (h : resolveDefinition interval definition=.ok d) :
    d=definition.resolved (definition.intervalMs.getD interval) := by
  simp only [resolveDefinition] at h
  split at h
  · cases h
  · next canonical _ =>
    split at h
    · cases h
    · next hunit =>
      rw [ne_eq,Decidable.not_not] at hunit
      simp only [SemanticDefinition.sampledOverInterval,← hunit] at h
      simp only [MetricDefinition.resolved]
      split at h
      · next hover =>
        rw [if_pos (by simpa using hover)]
        split at h
        · cases h
        · cases h
          rfl
      · next hover =>
        rw [if_neg (by simpa using hover)]
        split at h
        · cases h
        · cases h
          rfl

theorem observe_recorded {r : Request} {sampledAtMs : Option Nat} {o : MetricObservation}
    (hc : c.Ordered) (h : r.observe sampledAtMs c=.ok (o,c')) :
    r.Recorded (r.definition.intervalMs.getD c.sampleIntervalMs) sampledAtMs c'.toCatalogs o := by
  obtain ⟨d,i,c₁,j,hd,hi,hj,rfl⟩ := observe_ok h
  have hresolved := resolveDefinition_ok hd
  have hunit : d.unit=r.definition.unit := by rw [hresolved,Request.resolved_unit]
  obtain ⟨hfollows,k,hk,hkey⟩ := descriptor_follows hc hi
  obtain ⟨hgrown,hrel⟩ := limitationIndex_follows hfollows.ordered hj
  rw [hunit] at hrel
  simp only [hunit]
  refine ⟨⟨k,kept_place hgrown.within.descriptors hk,?_⟩,rfl,rfl,rfl,hrel⟩
  rw [hkey,hresolved]
  rfl

end Runs
end CatalogBuilder

/-- What an observation says of its subject, looked up in the catalogs. -/
def Catalogs.meaning (k : Catalogs) (o : MetricObservation) :
    Option MeasurementDescriptor × Option (Option LimitationEntry) :=
  (k.descriptors[o.descriptorIndex]?,o.limitationIndex.map (fun i => k.limitations[i]?))

/-- The requests that the policy of qualities and limitations has room for. -/
structure Request.Admissible (r : Request) (sampledAtMs : Option Nat) (publishedAtMs : Nat) :
    Prop where
  unit : (semanticDefinition r.definition.semantic r.definition.scope).map SemanticDefinition.unit=
    some r.definition.unit
  value : ∀ v, r.value=some v → v.isFinite=true → ¬v < 0.0
  policy : ∀ q, r.quality=some q → q.source.isSome →
    (qualityLimitationPolicy (qualityV4 q.quality)).allows
      (q.limitationCode.map metricLimitationCode)=true
  message : ∀ q, r.quality=some q → q.source.isSome →
    (qualityLimitationPolicy (qualityV4 q.quality)).requiresLimitation=true →
    ∃ message, q.message=some message ∧ trim message≠""
  sampled : ∀ q updated sampled, r.quality=some q → q.source.isSome →
    q.updatedAtMs=some updated → sampledAtMs=some sampled → updated ≤ sampled
  published : ∀ q updated, r.quality=some q → q.source.isSome → q.updatedAtMs=some updated →
    updated ≤ publishedAtMs

/-- A native value that is kept although the collector sent a message with it: the catalog
explains it by a collector failure. -/
def Request.explainedNative (r : Request) (sampledAtMs : Option Nat) : Bool :=
  r.quality.any (fun q => q.quality==.native && q.source.isSome && q.message.isSome &&
    (q.updatedAtMs.or sampledAtMs).isSome) &&
  r.value.any (fun v => v.isFinite && !outOfRange r.definition.unit v)

section Policy
variable {quality : MetricQualityInfo}
  (hpolicy : (qualityLimitationPolicy (qualityV4 quality.quality)).allows
    (quality.limitationCode.map metricLimitationCode)=true)
include hpolicy

/-- Apart from native, a quality is explained by the code it names or its fallback. -/
theorem policy_reported {entry : LimitationEntry} (hq : quality.quality≠.native)
    (h : reportedLimitation quality=some entry) :
    (qualityLimitationPolicy (qualityV4 quality.quality)).allows (some entry.code)=true := by
  obtain ⟨message,_,rfl⟩ := Option.map_eq_some_iff.mp h
  cases hcode : quality.limitationCode with
  | none =>
    rw [hcode] at hpolicy
    cases hquality : quality.quality <;> simp_all <;> decide
  | some code =>
    rw [hcode] at hpolicy
    exact hpolicy

/-- What explains a value that is not held also explains that there is none. -/
theorem policy_unavailable (hq : quality.quality≠.held) (own : LimitationEntry)
    (hown : (qualityLimitationPolicy .unavailable).allows (some own.code)=true) :
    (qualityLimitationPolicy .unavailable).allows
      (((reportedLimitation quality).or (some own)).map LimitationEntry.code)=true := by
  cases hm : quality.message with
  | none => simpa [reportedLimitation,hm] using hown
  | some message =>
    simp only [reportedLimitation,hm,Option.map_some,Option.some_or]
    cases hcode : quality.limitationCode with
    | none => cases hquality : quality.quality <;> simp_all <;> decide
    | some code =>
      rw [hcode] at hpolicy
      revert hpolicy
      cases hquality : quality.quality with
      | held => exact absurd hquality hq
      | native => simp [qualityV4,qualityLimitationPolicy,QualityLimitationPolicy.allows]
      | estimated => cases code <;> decide
      | partialQuality => cases code <;> decide
      | unavailable => cases code <;> decide

end Policy

section Accepted
variable {r : Request} {sampledAtMs : Option Nat} {publishedAtMs : Nat}

theorem kept_value {value : Option Float} {x : Float} (h : value.filter Float.isFinite=some x) :
    value=some x ∧ x.isFinite=true := by
  rwa [Option.filter_eq_some_iff] at h

theorem live_ne {quality : MetricQualityInfo} (h : live quality=true) :
    quality.quality≠.held ∧ quality.quality≠.unavailable := by
  simp only [live,List.mem_cons,List.not_mem_nil,or_false,decide_eq_true_eq] at h
  obtain h | h | h := h <;> rw [h] <;> decide

/-- A native, estimated or partial value. -/
theorem accepted_live (hr : r.Admissible sampledAtMs publishedAtMs)
    (htime : ∀ sampled, sampledAtMs=some sampled → sampled ≤ publishedAtMs)
    {quality : MetricQualityInfo} (hquality : r.quality=some quality)
    (hs : quality.source.isSome) (hlive : live quality=true) :
    (r.reading sampledAtMs).Accepted (sourceOf r.quality) publishedAtMs sampledAtMs ↔
      r.explainedNative sampledAtMs=false := by
  have hpolicy := hr.policy quality hquality hs
  obtain ⟨hheld,havailable⟩ := live_ne hlive
  obtain ⟨source,hsource⟩ := Option.isSome_iff_exists.mp hs
  have hknown : sourceOf (some quality)≠.unknown := by
    simp only [sourceOf,Option.bind_some,hsource]
    exact metricSource_ne_unknown source
  simp only [Request.reading,hquality,reading_live _ r.value sampledAtMs hs hlive,
    Request.explainedNative,Option.any_some]
  cases hv : r.value.filter Float.isFinite with
  | none =>
    have habsent : r.value.any (fun v => v.isFinite && !outOfRange r.definition.unit v)=false := by
      rw [Option.filter_eq_none_iff] at hv
      cases hvalue : r.value with
      | none => rfl
      | some v => simp [hv v hvalue]
    simp only [habsent,Bool.and_false,iff_true]
    refine accepted_unavailable_iff.mpr ⟨?_,fun h => absurd h hknown⟩
    exact policy_unavailable hpolicy hheld _ rfl
  | some x =>
    obtain ⟨hvalue,hfinite⟩ := kept_value hv
    simp only [hvalue,Option.any_some,hfinite,Bool.true_and]
    cases hrange : outOfRange r.definition.unit x with
    | true =>
      simp only [if_true,Bool.not_true,Bool.and_false,iff_true]
      exact accepted_numericRange hknown
    | false =>
      cases hobserved : quality.updatedAtMs.or sampledAtMs with
      | none =>
        simp only [Bool.false_eq_true,if_false,Option.isSome_none,Bool.and_false,Bool.false_and,
          iff_true]
        exact accepted_unavailable_iff.mpr ⟨rfl,fun h => absurd h hknown⟩
      | some observed =>
        have hpublished : observed ≤ publishedAtMs := by
          rw [Option.or_eq_some_iff] at hobserved
          cases hobserved with
          | inl hupdated => exact hr.published quality observed hquality hs hupdated
          | inr hsampled => exact htime observed hsampled.2
        simp only [Bool.false_eq_true,if_false,accepted_value_iff havailable hknown hfinite,
          hr.value x hvalue hfinite,not_false_eq_true,hpublished,hheld,false_implies,true_and,
          Option.isSome_some,Bool.and_true,Bool.not_false,hs]
        cases hm : quality.message with
        | none =>
          have hcode : reportedLimitation quality=none := by rw [reportedLimitation,hm]; rfl
          simp only [hcode,Option.map_none,Option.isSome_none,Bool.and_false,iff_true]
          have hneed := hr.message quality hquality hs
          simp only [hm] at hneed
          simpa [QualityLimitationPolicy.allows] using hneed
        | some message =>
          simp only [Option.isSome_some,Bool.and_true,beq_eq_false_iff_ne]
          constructor
          · intro hallows hnative
            rw [hnative] at hallows
            simp [reportedLimitation,hm,qualityV4,qualityLimitationPolicy,
              QualityLimitationPolicy.allows] at hallows
          · intro hnative
            have hsome : reportedLimitation quality=some
                ⟨(quality.limitationCode.map metricLimitationCode).getD
                  (fallbackLimitationCode quality.quality),message⟩ := by
              rw [reportedLimitation,hm]
              rfl
            rw [hsome]
            exact policy_reported hpolicy hnative hsome

/-- What the reader accepts of the readings that the policy has room for. -/
theorem accepted_iff (hr : r.Admissible sampledAtMs publishedAtMs)
    (htime : ∀ sampled, sampledAtMs=some sampled → sampled ≤ publishedAtMs) :
    (r.reading sampledAtMs).Accepted (sourceOf r.quality) publishedAtMs sampledAtMs ↔
      r.explainedNative sampledAtMs=false := by
  cases hsource : r.quality.bind MetricQualityInfo.source with
  | none =>
    have hcond : r.explainedNative sampledAtMs=false := by
      cases hquality : r.quality with
      | none => simp [Request.explainedNative,hquality]
      | some quality =>
        rw [hquality,Option.bind_some] at hsource
        simp [Request.explainedNative,hquality,hsource]
    simp only [hcond,iff_true,Request.reading,reading_unsourced _ r.value sampledAtMs hsource]
    split
    · exact accepted_missingHeldTime
    · exact accepted_missingSource
  | some source =>
    obtain ⟨quality,hquality,hs⟩ := Option.bind_eq_some_iff.mp hsource
    have hsome : quality.source.isSome := by rw [hs]; rfl
    have hknown : sourceOf r.quality≠.unknown := by
      simp only [sourceOf,hsource]
      exact metricSource_ne_unknown source
    have hpolicy := hr.policy quality hquality hsome
    have hmessage := hr.message quality hquality hsome
    obtain hkind | hkind | hkind | hkind := quality_kinds quality
    · exact accepted_live hr htime hquality hsome hkind
    · have hheld : quality.quality=.held ∧ quality.limitationCode=some .pendingBaseline := by
        simpa [awaitsBaseline] using hkind
      have hcond : r.explainedNative sampledAtMs=false := by
        simp [Request.explainedNative,hquality,hheld.1]
      rw [hheld.1] at hmessage
      obtain ⟨message,hm,_⟩ := hmessage rfl
      simp only [hcond,iff_true,Request.reading,hquality,
        reading_pending _ r.value sampledAtMs hsome hkind]
      rw [hquality] at hknown
      split
      · exact accepted_numericRange hknown
      · refine (accepted_pending_iff hknown).mpr ?_
        rw [reportedLimitation,hm,hheld.2]
        rfl
    · have hcond : r.explainedNative sampledAtMs=false := by
        simp [Request.explainedNative,hquality,hkind.1]
      simp only [hcond,iff_true,Request.reading,hquality,
        reading_held _ r.value sampledAtMs hsome hkind.1 hkind.2]
      rw [hquality] at hknown
      cases hv : r.value.filter Float.isFinite with
      | none => exact accepted_missingHeldTime
      | some x =>
        obtain ⟨hvalue,hfinite⟩ := kept_value hv
        dsimp only
        split
        · exact accepted_missingHeldTime
        · cases hupdated : quality.updatedAtMs with
          | none => exact accepted_missingHeldTime
          | some observed =>
            have hkept : MetricQuality.held≠.unavailable := by decide
            rw [hkind.1] at hmessage hpolicy
            obtain ⟨message,hm,_⟩ := hmessage rfl
            refine (accepted_value_iff hkept hknown hfinite).mpr
              ⟨hr.value x hvalue hfinite,hr.published quality observed hquality hsome hupdated,
                fun _ sampled hsampled => hr.sampled quality observed sampled hquality hsome
                  hupdated hsampled,?_⟩
            rw [reportedLimitation,hm]
            cases hcode : quality.limitationCode with
            | none =>
              rw [hcode] at hpolicy
              cases hpolicy
            | some code =>
              rw [hcode] at hpolicy
              exact hpolicy
    · have hcond : r.explainedNative sampledAtMs=false := by
        simp [Request.explainedNative,hquality,hkind]
      simp only [hcond,iff_true,Request.reading,hquality,
        reading_unavailable _ r.value sampledAtMs hsome hkind]
      rw [hquality] at hknown
      split
      · exact accepted_numericRange hknown
      · refine accepted_unavailable_iff.mpr ⟨?_,fun h => absurd h hknown⟩
        have hheld : quality.quality≠.held := by rw [hkind]; decide
        exact policy_unavailable hpolicy hheld _ rfl

end Accepted

/-- An observation returned with catalogs `c` stands in the later catalogs `k`. -/
structure Stands (r : Request) (o : MetricObservation) (c k : CatalogBuilder)
    (sampledAtMs : Option Nat) (publishedAtMs : Nat) : Prop where
  accepted : validateObservations ⟨k.toCatalogs,publishedAtMs,sampledAtMs,qualityCodes⟩
    r.definition.scope [o]=.ok ()
  ids : ∀ place (d : MeasurementDescriptor), k.descriptors[place]?=some d → d.id=place
  descriptors : (k.descriptors.map measurement).Nodup
  limitations : k.limitations.Nodup
  meaning : k.toCatalogs.meaning o=c.toCatalogs.meaning o

section Stands
variable {r : Request} {o : MetricObservation} {c k : CatalogBuilder} {interval : Nat}
  {sampledAtMs : Option Nat} {publishedAtMs : Nat}

theorem rel_later {index : Option Nat} {entry : Option LimitationEntry}
    (h : Option.Rel (fun i e => c.limitations[i]?=some e) index entry)
    (hk : c.Within k.toCatalogs) :
    Option.Rel (fun i e => k.limitations[i]?=some e) index entry := by
  cases h with
  | none => exact .none
  | some hentry => exact .some (kept_place hk.limitations hentry)

theorem rel_lookup {index : Option Nat} {entry : Option LimitationEntry}
    (h : Option.Rel (fun i e => c.limitations[i]?=some e) index entry) :
    index.map (fun i => c.limitations[i]?)=entry.map some := by
  cases h with
  | none => rfl
  | some hentry => simp only [Option.map_some,hentry]

theorem recorded_later (h : r.Recorded interval sampledAtMs c.toCatalogs o)
    (hk : c.Within k.toCatalogs) : r.Recorded interval sampledAtMs k.toCatalogs o := by
  obtain ⟨d,hd,hkey⟩ := h.descriptor
  exact ⟨⟨d,kept_place hk.descriptors hd,hkey⟩,h.value,h.qualityCode,h.observedAtMs,
    rel_later h.limitation hk⟩

theorem meaning_later (h : r.Recorded interval sampledAtMs c.toCatalogs o)
    (hk : c.Within k.toCatalogs) : k.toCatalogs.meaning o=c.toCatalogs.meaning o := by
  obtain ⟨d,hd,_⟩ := h.descriptor
  have hlookup := rel_lookup (rel_later h.limitation hk)
  simp only [Catalogs.meaning,hd,kept_place hk.descriptors hd,hlookup,rel_lookup h.limitation]

end Stands

/-- Whatever was asked of a catalog before, an observation of it stands in every later state
exactly when it is no native value with a message. -/
theorem observation_stands {interval : Nat} {c : CatalogBuilder} (hnew : new interval=.ok c)
    (before : List Insertion) {r : Request} {sampledAtMs : Option Nat} {publishedAtMs : Nat}
    (hr : r.Admissible sampledAtMs publishedAtMs)
    (htime : ∀ sampled, sampledAtMs=some sampled → sampled ≤ publishedAtMs)
    {o : MetricObservation} {c' : CatalogBuilder}
    (h : r.observe sampledAtMs (c.run before)=.ok (o,c')) :
    (∀ after, Stands r o c' (c'.run after) sampledAtMs publishedAtMs) ↔
      r.explainedNative sampledAtMs=false := by
  have hordered := (run_follows (ordered_new hnew) before).ordered
  have hrecorded := observe_recorded hordered h
  have hfollows := observe_follows hordered h
  have haccepted : ∀ after, validateObservations
      ⟨(c'.run after).toCatalogs,publishedAtMs,sampledAtMs,qualityCodes⟩ r.definition.scope [o]=
        .ok () ↔ r.explainedNative sampledAtMs=false := by
    intro after
    have hlater := recorded_later hrecorded (run_follows hfollows.ordered after).within
    have hscope : ∀ x∈[r], x.definition.scope=r.definition.scope := by simp
    have hall : List.Forall₂ (fun r o => Request.Recorded r _ sampledAtMs
      (c'.run after).toCatalogs o) [r] [o] := .cons hlater .nil
    rw [@validateObservations_ok ⟨(c'.run after).toCatalogs,publishedAtMs,sampledAtMs,qualityCodes⟩
      _ _ _ _ _ rfl hscope hall,← accepted_iff hr htime]
    simp
  constructor
  · intro hstands
    exact (haccepted []).mp (hstands []).accepted
  · intro hcondition after
    have hlast := run_follows hfollows.ordered after
    refine ⟨(haccepted after).mpr hcondition,hlast.ordered.ids,hlast.ordered.descriptors.nodup,?_,
      meaning_later hrecorded hlast.within⟩
    simpa using hlast.ordered.limitations.nodup

def residentMemory (quality : MetricQuality) : Request where
  definition := ⟨.residentMemory,.process,.bytes,none⟩
  value := some 4096.0
  quality := some
    { quality := quality, source := some .procfs, updatedAtMs := none, ageMs := none,
      limitationCode := none, message := some "Read through a fallback." }

theorem residentMemory_admissible {quality : MetricQuality}
    (h : quality=.native ∨ quality=.estimated) :
    (residentMemory quality).Admissible (some 5) 7 where
  unit := (by decide : (semanticDefinition .residentMemory .process).map SemanticDefinition.unit=
    some .bytes)
  value := by
    intro v hv _
    cases hv
    decide
  policy := by
    intro q hq _
    cases hq
    cases h with
    | inl hnative => rw [hnative]; rfl
    | inr hestimated => rw [hestimated]; rfl
  message := by
    intro q hq _ hrequired
    cases hq
    cases h with
    | inl hnative => rw [hnative] at hrequired; cases hrequired
    | inr hestimated => rw [hestimated] at hrequired; cases hrequired
  sampled := by
    intro q updated sampled hq _ hupdated _
    cases hq
    cases hupdated
  published := by
    intro q updated hq _ hupdated
    cases hq
    cases hupdated

/-- An estimated value with a message, between other insertions. -/
theorem estimated_stands : ∃ o c',
    (residentMemory .estimated).observe (some 5) (run ⟨⟨[],[]⟩,1000⟩
      [.limitation ⟨.dataLoss,"Events were lost."⟩,.observation (residentMemory .held) none])=
        .ok (o,c') ∧
    ∀ after, Stands (residentMemory .estimated) o c' (c'.run after) (some 5) 7 := by
  have hok : ((residentMemory .estimated).observe (some 5) (run ⟨⟨[],[]⟩,1000⟩
      [.limitation ⟨.dataLoss,"Events were lost."⟩,
        .observation (residentMemory .held) none])).isOk=true := by decide
  have htime : ∀ sampled, some 5=some sampled → sampled ≤ 7 := by
    intro sampled h
    cases h
    decide
  cases h : (residentMemory .estimated).observe (some 5) (run ⟨⟨[],[]⟩,1000⟩
      [.limitation ⟨.dataLoss,"Events were lost."⟩,.observation (residentMemory .held) none]) with
  | error e =>
    rw [h] at hok
    cases hok
  | ok found =>
    obtain ⟨o,c'⟩ := found
    exact ⟨o,c',rfl,(observation_stands (rfl : new 1000=.ok ⟨⟨[],[]⟩,1000⟩) _
      (residentMemory_admissible (.inr rfl)) htime h).mpr (by decide)⟩

/-- The same value as a native one is refused in the very catalogs it was recorded in. -/
theorem explained_native_refused : (residentMemory .native).Admissible (some 5) 7 ∧
    ∃ o c', (residentMemory .native).observe (some 5) ⟨⟨[],[]⟩,1000⟩=.ok (o,c') ∧
      validateObservations ⟨c'.toCatalogs,7,some 5,qualityCodes⟩ .process [o]=
        .error "protocol_quality_limitation_contradiction" ∧
      ¬∀ after, Stands (residentMemory .native) o c' (c'.run after) (some 5) 7 := by
  refine ⟨residentMemory_admissible (.inl rfl),?_⟩
  have hok : ((residentMemory .native).observe (some 5) ⟨⟨[],[]⟩,1000⟩).isOk=true := by
    decide
  have hrefused : ((residentMemory .native).observe (some 5) ⟨⟨[],[]⟩,1000⟩).bind
      (fun found => validateObservations ⟨found.2.toCatalogs,7,some 5,qualityCodes⟩ .process
        [found.1])=.error "protocol_quality_limitation_contradiction" := by
    decide
  cases h : (residentMemory .native).observe (some 5) ⟨⟨[],[]⟩,1000⟩ with
  | error e =>
    rw [h] at hok
    cases hok
  | ok found =>
    obtain ⟨o,c'⟩ := found
    rw [h] at hrefused
    refine ⟨o,c',rfl,hrefused,fun hstands => ?_⟩
    cases hrefused.symm.trans (hstands []).accepted

end BatCave.Protocol
