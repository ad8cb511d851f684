import BatCave.Lib.Binary64
import BatCave.Lib.Serde
import Mathlib.Data.List.AList

/-! The coordinator of enhanced narratives: what a request must be, which explanations its facts
admit, and the two critical sections around a call of the model. A cancellation flag is shared
by its address. -/
namespace BatCave.Narratives
open BatCave.Lib

section Contracts

inductive NarrativeProvider where
  | appleFoundation | foundryLocal
  deriving DecidableEq, Repr

inductive NarrativeSurface where
  | overviewContributor | workloadInsight
  deriving DecidableEq, Repr

inductive NarrativeAvailability where
  | available | unsupported | modelNotReady | runtimeMissing | busy
  deriving DecidableEq, Repr

structure NarrativeRequest where
  surface : NarrativeSurface
  publicationSeq : Nat
  subjectStableId : Option String
  factDigest : String
  deriving DecidableEq, Repr

inductive NarrativeExplanationId where
  | cpuUsage | memoryUsage | diskActivity | networkActivity
  deriving DecidableEq, Repr

structure NarrativeProviderRequest where
  surface : NarrativeSurface
  publicationSeq : Nat
  factDigest : String
  candidateIds : List NarrativeExplanationId
  deriving DecidableEq, Repr

structure NarrativeResult where
  provider : NarrativeProvider
  publicationSeq : Nat
  factDigest : String
  surface : NarrativeSurface
  subjectStableId : Option String
  explanationId : NarrativeExplanationId
  deriving DecidableEq, Repr

structure NarrativeGenerationResponse where
  availability : NarrativeAvailability
  result : Option NarrativeResult
  deriving DecidableEq, Repr

inductive NarrativeResourceKind where
  | cpu | memory | io | network
  deriving DecidableEq, Repr

inductive NarrativeMetricUnit where
  | percent | megabytes | kilobytesPerSecond
  deriving DecidableEq, Repr

inductive NarrativeRankingState where
  | topContributor | leading | notable | normal
  deriving DecidableEq, Repr

inductive NarrativeMeasurementQuality where
  | estimated | limited | stale | unavailable
  deriving DecidableEq, Repr

structure NarrativeMetricFact where
  kind : NarrativeResourceKind
  roundedValue : Float
  unit : NarrativeMetricUnit
  deriving DecidableEq, Repr

structure NarrativeMeasurementLimitation where
  kind : NarrativeResourceKind
  quality : NarrativeMeasurementQuality
  deriving DecidableEq, Repr

structure NarrativeFactPacket where
  displayName : String
  category : String
  metrics : List NarrativeMetricFact
  leadingResource : Option NarrativeResourceKind
  rankingState : NarrativeRankingState
  measurementLimitations : List NarrativeMeasurementLimitation
  deriving DecidableEq, Repr

/-- What the model answers: a text, or why there is none. -/
inductive ProviderGeneration where
  | completed (selected : String)
  | unavailable (availability : NarrativeAvailability)
  deriving DecidableEq, Repr

def maxDisplayNameChars : Nat := 120
def maxCategoryChars : Nat := 80
def maxFactPacketBytes : Nat := 4*1024
def maxSubjectIdChars : Nat := 256
def maxCacheEntries : Nat := 32

/-- `MIN_GENERATION_INTERVAL`, in nanoseconds. -/
def minGenerationInterval : Nat := 12*10^9

end Contracts

section Facts

/-- `validate_request` -/
def validateRequest (request : NarrativeRequest) : Except String Unit :=
  if request.publicationSeq=0 then .error "narrative_publication_seq_invalid"
  else if request.factDigest.utf8ByteSize≠64 ||
      !request.factDigest.toList.all (fun c => c.isDigit || ('a' ≤ c && c ≤ 'f')) then
    .error "narrative_fact_digest_invalid"
  else if request.subjectStableId.any (fun subject => subject.isEmpty ||
      maxSubjectIdChars < subject.length || subject.toList.any Text.isControl) then
    .error "narrative_subject_invalid"
  else .ok ()

/-- `validate_plain_label` -/
def validatePlainLabel (value : String) (maxChars : Nat) (code : String) : Except String Unit :=
  let trimmed := Text.trim value
  if trimmed.isEmpty || trimmed≠value || maxChars < trimmed.length ||
      trimmed.toList.any Text.isControl then .error code
  else .ok ()

/-- The unit that a resource is measured in. -/
def unitOf : NarrativeResourceKind → NarrativeMetricUnit
  | .cpu => .percent
  | .memory => .megabytes
  | .io | .network => .kilobytesPerSecond

/-- `is_rounded_metric` -/
def isRoundedMetric (metric : NarrativeMetricFact) : Bool :=
  let scale : Float := if metric.kind=.cpu then 10.0 else 1.0
  metric.roundedValue==Binary64.round (metric.roundedValue*scale)/scale

def insertMetric (kinds : List NarrativeResourceKind) (metric : NarrativeMetricFact) :
    Except String (List NarrativeResourceKind) :=
  if !metric.roundedValue.isFinite || metric.roundedValue < 0.0 ||
      1000000000.0 < metric.roundedValue || metric.unit≠unitOf metric.kind ||
      !isRoundedMetric metric || kinds.contains metric.kind then
    .error "narrative_metric_invalid"
  else .ok (metric.kind::kinds)

def insertLimitation (kinds : List NarrativeResourceKind)
    (limitation : NarrativeMeasurementLimitation) : Except String (List NarrativeResourceKind) :=
  if kinds.contains limitation.kind then .error "narrative_limitation_invalid"
  else .ok (limitation.kind::kinds)

/-- `validate_fact_packet` -/
def validateFactPacket (facts : NarrativeFactPacket) : Except String Unit := do
  validatePlainLabel facts.displayName maxDisplayNameChars "narrative_display_name_invalid"
  validatePlainLabel facts.category maxCategoryChars "narrative_category_invalid"
  if facts.metrics.isEmpty || 4 < facts.metrics.length ||
      4 < facts.measurementLimitations.length then
    throw "narrative_facts_too_many_metrics"
  else
    let metricKinds ← facts.metrics.foldlM insertMetric []
    let limitationKinds ← facts.measurementLimitations.foldlM insertLimitation []
    if facts.leadingResource.any (fun kind => !metricKinds.contains kind) ||
        limitationKinds.any (fun kind => !metricKinds.contains kind) then
      throw "narrative_metric_missing"
    else return ()

def NarrativeResourceKind.toValue : NarrativeResourceKind → Serde.Value
  | .cpu => .unitVariant "NarrativeResourceKind" 0 "cpu"
  | .memory => .unitVariant "NarrativeResourceKind" 1 "memory"
  | .io => .unitVariant "NarrativeResourceKind" 2 "io"
  | .network => .unitVariant "NarrativeResourceKind" 3 "network"

def NarrativeMetricUnit.toValue : NarrativeMetricUnit → Serde.Value
  | .percent => .unitVariant "NarrativeMetricUnit" 0 "percent"
  | .megabytes => .unitVariant "NarrativeMetricUnit" 1 "megabytes"
  | .kilobytesPerSecond => .unitVariant "NarrativeMetricUnit" 2 "kilobytes_per_second"

def NarrativeRankingState.toValue : NarrativeRankingState → Serde.Value
  | .topContributor => .unitVariant "NarrativeRankingState" 0 "top_contributor"
  | .leading => .unitVariant "NarrativeRankingState" 1 "leading"
  | .notable => .unitVariant "NarrativeRankingState" 2 "notable"
  | .normal => .unitVariant "NarrativeRankingState" 3 "normal"

def NarrativeMeasurementQuality.toValue : NarrativeMeasurementQuality → Serde.Value
  | .estimated => .unitVariant "NarrativeMeasurementQuality" 0 "estimated"
  | .limited => .unitVariant "NarrativeMeasurementQuality" 1 "limited"
  | .stale => .unitVariant "NarrativeMeasurementQuality" 2 "stale"
  | .unavailable => .unitVariant "NarrativeMeasurementQuality" 3 "unavailable"

def NarrativeMetricFact.toValue (metric : NarrativeMetricFact) : Serde.Value :=
  .struct "NarrativeMetricFact" [("kind",metric.kind.toValue),
    ("rounded_value",.f64 metric.roundedValue),("unit",metric.unit.toValue)]

def NarrativeMeasurementLimitation.toValue (limitation : NarrativeMeasurementLimitation) :
    Serde.Value :=
  .struct "NarrativeMeasurementLimitation" [("kind",limitation.kind.toValue),
    ("quality",limitation.quality.toValue)]

/-- What the packet hands to a serializer. -/
def NarrativeFactPacket.toValue (facts : NarrativeFactPacket) : Serde.Value :=
  .struct "NarrativeFactPacket" [("display_name",.str facts.displayName),
    ("category",.str facts.category),
    ("metrics",.seq (facts.metrics.map NarrativeMetricFact.toValue)),
    ("leading_resource",(facts.leadingResource.map (fun kind => .some kind.toValue)).getD .none),
    ("ranking_state",facts.rankingState.toValue),
    ("measurement_limitations",
      .seq (facts.measurementLimitations.map NarrativeMeasurementLimitation.toValue))]

/-- `canonical_fact_digest`, over the texts of numbers and SHA-256. -/
def canonicalFactDigest (numbers : Serde.Numbers) (sha256 : List UInt8 → Vector UInt8 32)
    (facts : NarrativeFactPacket) : Except String String := do
  validateFactPacket facts
  match Serde.encode numbers facts.toValue with
  | none => throw "narrative_facts_invalid"
  | some payload =>
    if maxFactPacketBytes < payload.length then throw "narrative_facts_too_large"
    else return Text.hex (sha256 payload).toList

/-- `NarrativeExplanationId::for_resource` -/
def NarrativeExplanationId.forResource : NarrativeResourceKind → NarrativeExplanationId
  | .cpu => .cpuUsage
  | .memory => .memoryUsage
  | .io => .diskActivity
  | .network => .networkActivity

/-- `admitted_candidates` -/
def admittedCandidates (facts : NarrativeFactPacket) : List NarrativeExplanationId :=
  ([.cpu,.memory,.io,.network].filter (fun kind =>
    facts.metrics.any (fun metric => metric.kind==kind && metric.roundedValue > 0.0) &&
      !facts.measurementLimitations.any (fun limitation => limitation.kind==kind &&
        (limitation.quality==.stale || limitation.quality==.unavailable)))).map .forResource

/-- The candidates of a request: on the overview, only the leading resource's own. -/
def candidates (surface : NarrativeSurface) (facts : NarrativeFactPacket) :
    List NarrativeExplanationId :=
  if surface=.overviewContributor then
    (admittedCandidates facts).filter (fun id =>
      facts.leadingResource.any (fun resource => id==.forResource resource))
  else admittedCandidates facts

/-- The explanation of a name. -/
def selectedExplanation (selected : String) : Except String NarrativeExplanationId :=
  match Text.trim selected with
  | "cpu_usage" => .ok .cpuUsage
  | "memory_usage" => .ok .memoryUsage
  | "disk_activity" => .ok .diskActivity
  | "network_activity" => .ok .networkActivity
  | _ => .error "narrative_selection_invalid"

/-- `validate_selected_explanation` -/
def validateSelectedExplanation (selected : String) (candidates : List NarrativeExplanationId) :
    Except String NarrativeExplanationId := do
  let id ← selectedExplanation selected
  if candidates.contains id then return id else throw "narrative_selection_not_offered"

end Facts

section Generations

structure SubjectKey where
  surface : NarrativeSurface
  subjectStableId : Option String
  deriving DecidableEq, Repr

structure CacheKey where
  provider : NarrativeProvider
  subject : SubjectKey
  factDigest : String
  deriving DecidableEq, Repr

/-- A generation that the model was asked for. Its cancellation flag is shared. -/
structure ActiveGeneration where
  id : Nat
  subject : SubjectKey
  publicationSeq : Nat
  factDigest : String
  cancelled : Nat
  deriving DecidableEq, Repr

structure GenerationState where
  nextId : Nat := 0
  active : Option ActiveGeneration := none
  latest : AList (fun _ : SubjectKey => Nat × String) := ∅
  cache : AList (fun _ : CacheKey => NarrativeResult) := ∅
  lastProviderCall : Option Nat := none
  closed : Bool := false

abbrev Reply := Except String NarrativeGenerationResponse

/-- `unavailable` -/
def unavailable (availability : NarrativeAvailability) : NarrativeGenerationResponse :=
  { availability := availability
    result := none }

/-- A request that has passed its checks and waits for the lock. -/
structure Pending where
  request : NarrativeRequest
  facts : NarrativeFactPacket
  now : Nat
  deriving DecidableEq, Repr

def Pending.subject (p : Pending) : SubjectKey := ⟨p.request.surface,p.request.subjectStableId⟩

def Pending.candidateIds (p : Pending) : List NarrativeExplanationId :=
  candidates p.request.surface p.facts

def Pending.cacheKey (provider : NarrativeProvider) (p : Pending) : CacheKey :=
  ⟨provider,p.subject,p.request.factDigest⟩

def Pending.providerRequest (p : Pending) : NarrativeProviderRequest :=
  { surface := p.request.surface
    publicationSeq := p.request.publicationSeq
    factDigest := p.request.factDigest
    candidateIds := p.candidateIds }

/-- A request that the model works on. -/
structure Flight where
  pending : Pending
  id : Nat
  cancelled : Nat
  deriving DecidableEq, Repr

/-- `generate_at` before its lock: it is answered at once, or waits. -/
def beginGenerate (digest : NarrativeFactPacket → Except String String) (enabled : Bool)
    (request : NarrativeRequest) (facts : NarrativeFactPacket) (now : Nat) : Reply ⊕ Pending :=
  match validateRequest request,digest facts with
  | .error error,_ => .inl (.error error)
  | .ok (),.error error => .inl (.error error)
  | .ok (),.ok factDigest =>
    if request.factDigest≠factDigest then .inl (.error "narrative_fact_digest_mismatch")
    else if !enabled then .inl (.ok (unavailable .unsupported))
    else .inr ⟨request,facts,now⟩

/-- `active.cancelled.store(true)`, if there is one. -/
def cancelActive (s : GenerationState) (flags : List Bool) : List Bool :=
  match s.active with
  | some active => flags.set active.cancelled true
  | none => flags

/-- A request older than the latest of its subject, or another of the same number. -/
def GenerationState.stale (s : GenerationState) (p : Pending) : Bool :=
  (s.latest.lookup p.subject).any (fun latest => p.request.publicationSeq < latest.1 ||
    (p.request.publicationSeq==latest.1 && p.request.factDigest≠latest.2))

def GenerationState.record (s : GenerationState) (p : Pending) : GenerationState :=
  { s with latest := s.latest.insert p.subject (p.request.publicationSeq,p.request.factDigest) }

/-- The generation starts, with a flag of its own. -/
def GenerationState.start (s : GenerationState) (p : Pending) (cancelled : Nat) :
    GenerationState :=
  let id := min (s.nextId+1) (2^64-1)
  { s with
    nextId := id
    active := some ⟨id,p.subject,p.request.publicationSeq,p.request.factDigest,cancelled⟩
    lastProviderCall := some p.now }

/-- The first critical section of `generate_at`. -/
def enter (provider : NarrativeProvider) (p : Pending) (s : GenerationState) (flags : List Bool) :
    GenerationState × List Bool × (Reply ⊕ Flight) :=
  if s.closed then (s,flags,.inl (.ok (unavailable .unsupported)))
  else if s.stale p then (s,flags,.inl (.error "narrative_request_stale"))
  else
    let s := s.record p
    if p.candidateIds.length < 2 then
      (s,cancelActive s flags,.inl (.ok { availability := .available, result := none }))
    else
      match s.cache.lookup (p.cacheKey provider) with
      | some cached => (s,flags,.inl (.ok
        { availability := .available
          result := some { cached with publicationSeq := p.request.publicationSeq } }))
      | none =>
        match s.active with
        | some active =>
          let other := active.subject≠p.subject ∨ active.publicationSeq≠p.request.publicationSeq ∨
            active.factDigest≠p.request.factDigest
          (s,if other then flags.set active.cancelled true else flags,
            .inl (.ok (unavailable .busy)))
        | none =>
          -- The difference of two instants saturates.
          if s.lastProviderCall.any (fun last => p.now-last < minGenerationInterval) then
            (s,flags,.inl (.ok (unavailable .busy)))
          else
            let s := s.start p flags.length
            (s,flags++[false],.inr ⟨p,s.nextId,flags.length⟩)

/-- The generation is no longer active, if it still was. -/
def GenerationState.release (s : GenerationState) (id : Nat) : GenerationState :=
  if s.active.any (fun active => active.id==id) then { s with active := none } else s

/-- A result goes to the cache, which is emptied when it is full. -/
def GenerationState.store (s : GenerationState) (key : CacheKey) (result : NarrativeResult) :
    GenerationState :=
  let cache := if maxCacheEntries ≤ s.cache.entries.length then ∅ else s.cache
  { s with cache := cache.insert key result }

def Pending.result (provider : NarrativeProvider) (p : Pending) (id : NarrativeExplanationId) :
    NarrativeResult :=
  { provider := provider
    publicationSeq := p.request.publicationSeq
    factDigest := p.request.factDigest
    surface := p.request.surface
    subjectStableId := p.request.subjectStableId
    explanationId := id }

/-- The second critical section of `generate_at`. -/
def finish (provider : NarrativeProvider) (f : Flight) (generated : ProviderGeneration)
    (s : GenerationState) (flags : List Bool) : GenerationState × Reply :=
  let s := s.release f.id
  if flags.getD f.cancelled false then (s,.ok (unavailable .busy))
  else if s.latest.lookup f.pending.subject≠
      some (f.pending.request.publicationSeq,f.pending.request.factDigest) then
    (s,.error "narrative_result_stale")
  else
    match generated with
    | .unavailable availability => (s,.ok (unavailable availability))
    | .completed selected =>
      match validateSelectedExplanation selected f.pending.candidateIds with
      | .error error => (s,.error error)
      | .ok id =>
        let result := f.pending.result provider id
        (s.store (f.pending.cacheKey provider) result,
          .ok { availability := .available, result := some result })

end Generations

section Preferences

structure PreferenceState where
  enhancedNarratives : Bool
  revision : Nat
  deriving DecidableEq, Repr

/-- `set_enhanced_narratives_at_revision` under its lock, with whether the file could be written.
An older change than the one that stands is answered with what stands. -/
def setEnhancedNarratives (enabled : Bool) (revision : Nat) (written : Except String Unit)
    (s : PreferenceState) : PreferenceState × Except String Bool :=
  if revision < s.revision then (s,.ok s.enhancedNarratives)
  else
    match written with
    | .error error => (s,.error error)
    | .ok () => (⟨enabled,revision⟩,.ok enabled)

end Preferences
end BatCave.Narratives
