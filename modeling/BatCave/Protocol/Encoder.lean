import BatCave.Protocol.Catalog

/-! When an encoder that fills the catalogs succeeds, and what its result refers to. An
encoder is described by the entries it asks for: it succeeds when they find room, and what
it wrote stays good in every catalog that continues its own. -/
namespace BatCave.Protocol
open BatCave.Contracts BatCave.Lib BatCave.Lib.Interner CatalogBuilder

structure Catalogs.Within (k k' : Catalogs) : Prop where
  descriptors : k.descriptors <+: k'.descriptors
  limitations : k.limitations <+: k'.limitations

theorem Catalogs.Within.refl (k : Catalogs) : k.Within k :=
  ⟨List.prefix_refl _,List.prefix_refl _⟩

theorem Catalogs.Within.trans {k l m : Catalogs} (h : k.Within l) (h' : l.Within m) : k.Within m :=
  ⟨h.descriptors.trans h'.descriptors,h.limitations.trans h'.limitations⟩

/-- What the reader asks of the descriptor at a place. -/
structure Described (place : Nat) (d : MeasurementDescriptor) : Prop where
  id : d.id=place
  unit : (semanticDefinition d.semantic d.scope).map SemanticDefinition.unit=some d.unit
  networkScope : d.networkScope=networkScopeDefinition d.semantic d.scope d.source
  interval : (semanticDefinition d.semantic d.scope).map SemanticDefinition.sampledOverInterval=
    some d.intervalMs.isSome
  positive : d.intervalMs≠some 0

namespace CatalogBuilder

structure Ok (c : CatalogBuilder) : Prop where
  descriptors : Interned catalogSize measurement c.descriptors
  limitations : Interned catalogSize id c.limitations
  described : ∀ place d, c.descriptors[place]?=some d → Described place d

/-- The catalogs have room for these entries too. -/
structure Room (c : CatalogBuilder) (ds : List MeasurementDescriptor) (ls : List LimitationEntry) :
    Prop where
  descriptors : (keys measurement c.descriptors ∪ ds.toFinset).card ≤ catalogSize
  limitations : (keys id c.limitations ∪ ls.toFinset).card ≤ catalogSize

/-- The catalogs after these entries were asked for. -/
structure Grown (c c' : CatalogBuilder) (ds : List MeasurementDescriptor)
    (ls : List LimitationEntry) : Prop where
  ok : c'.Ok
  within : c.Within c'.toCatalogs
  interval : c'.sampleIntervalMs=c.sampleIntervalMs
  descriptors : keys measurement c'.descriptors=keys measurement c.descriptors ∪ ds.toFinset
  limitations : keys id c'.limitations=keys id c.limitations ∪ ls.toFinset

section Room
variable {c c' c'' : CatalogBuilder} {ds ds' : List MeasurementDescriptor}
  {ls ls' : List LimitationEntry}

theorem ok_new {interval : Nat} (h : new interval=.ok c) : c.Ok := by
  simp only [new] at h
  split at h
  · cases h
  · cases h
    exact ⟨interned_nil,interned_nil,by simp⟩

theorem Ok.room_nil (h : c.Ok) : c.Room [] [] := by
  constructor
  · simpa [h.descriptors.card] using h.descriptors.room
  · simpa [h.limitations.card] using h.limitations.room

theorem Ok.grown_nil (h : c.Ok) : c.Grown c [] [] :=
  ⟨h,Catalogs.Within.refl _,rfl,by simp,by simp⟩

theorem Room.left (h : c.Room (ds++ds') (ls++ls')) : c.Room ds ls := by
  constructor
  · refine (Finset.card_le_card ?_).trans h.descriptors
    rw [List.toFinset_append]
    exact Finset.union_subset_union_right Finset.subset_union_left
  · refine (Finset.card_le_card ?_).trans h.limitations
    rw [List.toFinset_append]
    exact Finset.union_subset_union_right Finset.subset_union_left

theorem Grown.room_iff (h : c.Grown c' ds ls) :
    c'.Room ds' ls' ↔ c.Room (ds++ds') (ls++ls') := by
  constructor
  · intro hroom
    constructor
    · rw [List.toFinset_append,← Finset.union_assoc,← h.descriptors]
      exact hroom.descriptors
    · rw [List.toFinset_append,← Finset.union_assoc,← h.limitations]
      exact hroom.limitations
  · intro hroom
    constructor
    · rw [h.descriptors,Finset.union_assoc,← List.toFinset_append]
      exact hroom.descriptors
    · rw [h.limitations,Finset.union_assoc,← List.toFinset_append]
      exact hroom.limitations

theorem Grown.trans (h : c.Grown c' ds ls) (h' : c'.Grown c'' ds' ls') :
    c.Grown c'' (ds++ds') (ls++ls') where
  ok := h'.ok
  within := h.within.trans h'.within
  interval := h'.interval.trans h.interval
  descriptors := by rw [h'.descriptors,h.descriptors,Finset.union_assoc,List.toFinset_append]
  limitations := by rw [h'.limitations,h.limitations,Finset.union_assoc,List.toFinset_append]

end Room
end CatalogBuilder

/-- At the given interval the encoder asks for these entries; apart from them it succeeds
exactly under `ok`, and its result is as `post` says in all catalogs that continue its own. -/
structure Encodes {α : Type} (interval : Nat) (m : Encoder α) (ok : Prop)
    (ds : List MeasurementDescriptor) (ls : List LimitationEntry) (post : Catalogs → α → Prop) :
    Prop where
  runs : ∀ c : CatalogBuilder, c.Ok → c.sampleIntervalMs=interval →
    ((∃ r, m c=.ok r) ↔ ok ∧ c.Room ds ls)
  result : ∀ (c : CatalogBuilder) a c', c.Ok → c.sampleIntervalMs=interval → m c=.ok (a,c') →
    c.Grown c' ds ls ∧ ∀ k, c'.Within k → post k a

namespace Encodes
variable {α β : Type} {interval : Nat} {m : Encoder α} {ok ok' : Prop}
  {ds ds' : List MeasurementDescriptor} {ls ls' : List LimitationEntry}
  {post post' : Catalogs → α → Prop}

/-- Both descriptions may be weakened to what a caller needs. -/
theorem conseq (h : Encodes interval m ok ds ls post) (hok : ok ↔ ok')
    (hpost : ∀ k a, post k a → post' k a) : Encodes interval m ok' ds ls post' := by
  constructor
  · intro c hc hi
    rw [h.runs c hc hi,hok]
  · intro c a c' hc hi hm
    obtain ⟨hg,hp⟩ := h.result c a c' hc hi hm
    exact ⟨hg,fun k hk => hpost k a (hp k hk)⟩

theorem of_eq {m' : Encoder α} (h : Encodes interval m' ok ds ls post)
    (heq : ∀ c : CatalogBuilder, c.sampleIntervalMs=interval → m c=m' c) :
    Encodes interval m ok ds ls post := by
  constructor
  · intro c hc hi
    rw [heq c hi]
    exact h.runs c hc hi
  · intro c a c' hc hi hm
    rw [heq c hi] at hm
    exact h.result c a c' hc hi hm

theorem ret (interval : Nat) (a : α) :
    Encodes interval (pure a) True [] [] (fun _ b => b=a) := by
  constructor
  · intro c hc _
    constructor
    · exact fun _ => ⟨trivial,hc.room_nil⟩
    · exact fun _ => ⟨(a,c),rfl⟩
  · intro c b c' hc _ hm
    cases hm
    exact ⟨hc.grown_nil,fun _ _ => rfl⟩

/-- A computation that reads no catalog. -/
theorem lift (interval : Nat) (x : Except String α) :
    Encodes interval (liftM x : Encoder α) (∃ a, x=.ok a) [] [] (fun _ a => x=.ok a) := by
  cases x with
  | error e =>
    constructor
    · intro c _ _
      constructor
      · intro ⟨r,hr⟩
        cases hr
      · intro ⟨⟨a,ha⟩,_⟩
        cases ha
    · intro c a c' _ _ hm
      cases hm
  | ok a =>
    constructor
    · intro c hc _
      constructor
      · exact fun _ => ⟨⟨a,rfl⟩,hc.room_nil⟩
      · exact fun _ => ⟨(a,c),rfl⟩
    · intro c b c' hc _ hm
      cases hm
      exact ⟨hc.grown_nil,fun _ _ => rfl⟩

/-- What the second part asks for may not depend on what the first one returned. -/
theorem bind {f : α → Encoder β} {post₂ : α → Catalogs → β → Prop}
    (h : Encodes interval m ok ds ls post)
    (hf : ∀ a k, post k a → Encodes interval (f a) ok' ds' ls' (post₂ a)) :
    Encodes interval (m >>= f) (ok ∧ ok') (ds++ds') (ls++ls')
      (fun k b => ∃ a, post k a ∧ post₂ a k b) := by
  have hbind : ∀ c r, (m >>= f) c=.ok r ↔ ∃ a c', m c=.ok (a,c') ∧ f a c'=.ok r := by
    intro c r
    change (m c >>= fun p => f p.1 p.2)=.ok r ↔ _
    rw [Result.bind_ok]
    constructor
    · intro ⟨p,hp,hr⟩
      exact ⟨p.1,p.2,hp,hr⟩
    · intro ⟨a,c',hm,hr⟩
      exact ⟨(a,c'),hm,hr⟩
  constructor
  · intro c hc hi
    constructor
    · intro ⟨r,hr⟩
      obtain ⟨a,c',hm,hfr⟩ := (hbind c r).mp hr
      obtain ⟨hg,hp⟩ := h.result c a c' hc hi hm
      have hleft := ((h.runs c hc hi).mp ⟨_,hm⟩).1
      have hfa := hf a _ (hp _ (Catalogs.Within.refl _))
      have hright := (hfa.runs c' hg.ok (hg.interval.trans hi)).mp ⟨_,hfr⟩
      exact ⟨⟨hleft,hright.1⟩,hg.room_iff.mp hright.2⟩
    · intro ⟨⟨hok,hok'⟩,hroom⟩
      obtain ⟨⟨a,c'⟩,hm⟩ := (h.runs c hc hi).mpr ⟨hok,hroom.left⟩
      obtain ⟨hg,hp⟩ := h.result c a c' hc hi hm
      have hfa := hf a _ (hp _ (Catalogs.Within.refl _))
      obtain ⟨r,hr⟩ := (hfa.runs c' hg.ok (hg.interval.trans hi)).mpr
        ⟨hok',hg.room_iff.mpr hroom⟩
      exact ⟨r,(hbind c r).mpr ⟨a,c',hm,hr⟩⟩
  · intro c b c'' hc hi hr
    obtain ⟨a,c',hm,hfr⟩ := (hbind c (b,c'')).mp hr
    obtain ⟨hg,hp⟩ := h.result c a c' hc hi hm
    have hfa := hf a _ (hp _ (Catalogs.Within.refl _))
    obtain ⟨hg',hp'⟩ := hfa.result c' b c'' hg.ok (hg.interval.trans hi) hfr
    exact ⟨hg.trans hg',fun k hk => ⟨a,hp k (hg'.within.trans hk),hp' k hk⟩⟩

/-- One element after another. -/
theorem mapM {ι : Type} {f : ι → Encoder β} {ok : ι → Prop} {ds : ι → List MeasurementDescriptor}
    {ls : ι → List LimitationEntry} {post : ι → Catalogs → β → Prop} (xs : List ι)
    (h : ∀ x∈xs, Encodes interval (f x) (ok x) (ds x) (ls x) (post x)) :
    Encodes interval (xs.mapM f) (∀ x∈xs, ok x) (xs.flatMap ds) (xs.flatMap ls)
      (fun k bs => List.Forall₂ (fun x b => post x k b) xs bs) := by
  induction xs with
  | nil =>
    refine (ret interval []).conseq (by simp) ?_
    intro k bs hbs
    rw [hbs]
    exact .nil
  | cons x xs ih =>
    have htail := ih (fun y hy => h y (List.mem_cons_of_mem x hy))
    have hcons : Encodes interval (f x >>= fun b => xs.mapM f >>= fun bs => pure (b::bs)) _ _ _ _ :=
      (h x (by simp)).bind (fun b _ _ => htail.bind (fun bs _ _ => ret interval (b::bs)))
    rw [List.mapM_cons]
    rw [List.append_nil,List.append_nil] at hcons
    refine hcons.conseq (by simp) ?_
    intro k bs hbs
    obtain ⟨b,hb,bs',hbs',rfl⟩ := hbs
    exact .cons hb hbs'

theorem limitation (interval : Nat) (entry : LimitationEntry) :
    Encodes interval (CatalogBuilder.limitation entry) True [] [entry]
      (fun k i => k.limitations[i]?=some entry) := by
  have hcases : ∀ (c : CatalogBuilder) r, CatalogBuilder.limitation entry c=.ok r ↔
      ∃ i ls, intern catalogSize id entry (fun _ => entry) c.limitations=some (i,ls) ∧
        r=(i,{ c with limitations := ls }) := by
    intro c r
    simp only [CatalogBuilder.limitation]
    cases intern catalogSize id entry (fun _ => entry) c.limitations with
    | none => simp
    | some p =>
      obtain ⟨i,ls⟩ := p
      simp [eq_comm]
  constructor
  · intro c hc _
    have hroom : c.Room [] [entry] ↔ (intern catalogSize id entry (fun _ => entry)
        c.limitations).isSome := by
      rw [intern_isSome hc.limitations,Finset.insert_eq,Finset.union_comm]
      constructor
      · exact fun h => by simpa using h.limitations
      · exact fun h => ⟨hc.room_nil.descriptors,by simpa using h⟩
    rw [true_and,hroom,Option.isSome_iff_exists]
    constructor
    · intro ⟨r,hr⟩
      obtain ⟨i,ls,hi,_⟩ := (hcases c r).mp hr
      exact ⟨_,hi⟩
    · intro ⟨p,hp⟩
      exact ⟨_,(hcases c _).mpr ⟨p.1,p.2,hp,rfl⟩⟩
  · intro c a c' hc _ hm
    obtain ⟨i,ls,hi,hr⟩ := (hcases c (a,c')).mp hm
    cases hr
    refine ⟨⟨⟨hc.descriptors,hc.limitations.intern (fun _ => rfl) hi,hc.described⟩,
      ⟨List.prefix_refl _,prefix_intern hi⟩,rfl,by simp,?_⟩,?_⟩
    · rw [intern_keys (fun _ => rfl) hi,Finset.insert_eq,Finset.union_comm]
      simp
    · intro k hk
      obtain ⟨x,hx,rfl⟩ := intern_found (fun _ => rfl) hi
      exact kept_place hk.limitations hx

theorem descriptor (interval : Nat) {definition : MetricDefinition} {source : MetricSourceV4}
    (hdescribed : ∀ place, Described place (descriptorOf definition source place)) :
    Encodes interval (CatalogBuilder.descriptor definition source) True
      [descriptorOf definition source 0] []
      (fun k i => ∃ d, k.descriptors[i]?=some d ∧
        measurement d=descriptorOf definition source 0) := by
  have hcases : ∀ (c : CatalogBuilder) r, CatalogBuilder.descriptor definition source c=.ok r ↔
      ∃ i ds, intern catalogSize measurement (descriptorOf definition source 0)
          (descriptorOf definition source) c.descriptors=some (i,ds) ∧
        r=(i,{ c with descriptors := ds }) := by
    intro c r
    simp only [CatalogBuilder.descriptor]
    cases intern catalogSize measurement (descriptorOf definition source 0)
        (descriptorOf definition source) c.descriptors with
    | none => simp
    | some p =>
      obtain ⟨i,ds⟩ := p
      simp [eq_comm]
  constructor
  · intro c hc _
    have hroom : c.Room [descriptorOf definition source 0] [] ↔
        (intern catalogSize measurement (descriptorOf definition source 0)
          (descriptorOf definition source) c.descriptors).isSome := by
      rw [intern_isSome hc.descriptors,Finset.insert_eq,Finset.union_comm]
      constructor
      · exact fun h => by simpa using h.descriptors
      · exact fun h => ⟨by simpa using h,hc.room_nil.limitations⟩
    rw [true_and,hroom,Option.isSome_iff_exists]
    constructor
    · intro ⟨r,hr⟩
      obtain ⟨i,ds,hi,_⟩ := (hcases c r).mp hr
      exact ⟨_,hi⟩
    · intro ⟨p,hp⟩
      exact ⟨_,(hcases c _).mpr ⟨p.1,p.2,hp,rfl⟩⟩
  · intro c a c' hc _ hm
    obtain ⟨i,ds,hi,hr⟩ := (hcases c (a,c')).mp hm
    cases hr
    have hkeys : ∀ n, measurement (descriptorOf definition source n)=
      descriptorOf definition source 0 := fun _ => rfl
    refine ⟨⟨⟨hc.descriptors.intern hkeys hi,hc.limitations,
        intern_forall hdescribed hc.described hi⟩,
      ⟨prefix_intern hi,List.prefix_refl _⟩,rfl,?_,by simp⟩,?_⟩
    · rw [intern_keys hkeys hi,Finset.insert_eq,Finset.union_comm]
      simp
    · intro k hk
      obtain ⟨d,hd,hkey⟩ := intern_found hkeys hi
      exact ⟨d,kept_place hk.descriptors hd,hkey⟩

theorem reject (interval : Nat) (bad : Bool) (error : String) :
    Encodes interval (liftM (Result.reject bad error) : Encoder Unit) (bad=false) [] []
      (fun _ _ => True) := by
  refine (lift interval _).conseq ?_ (fun _ _ _ => trivial)
  cases bad <;> simp [Result.reject]

theorem limitationIndex (interval : Nat) (entry : Option LimitationEntry) :
    Encodes interval (CatalogBuilder.limitationIndex entry) True [] entry.toList
      (fun k i => Option.Rel (fun i e => k.limitations[i]?=some e) i entry) := by
  cases entry with
  | none =>
    refine (ret interval none).conseq Iff.rfl ?_
    intro k i hi
    rw [hi]
    exact .none
  | some entry =>
    refine ((limitation interval entry).bind (fun i _ _ => ret interval (some i))).conseq
      (and_self_iff) ?_
    intro k i hi
    obtain ⟨j,hj,rfl⟩ := hi
    exact .some hj

end Encodes

/-- A definition as the catalog has it, without an interval of its own. -/
def MetricDefinition.Canonical (d : MetricDefinition) : Prop :=
  (semanticDefinition d.semantic d.scope).map SemanticDefinition.unit=some d.unit ∧
    d.intervalMs=none

instance (d : MetricDefinition) : Decidable d.Canonical := by
  unfold MetricDefinition.Canonical
  infer_instance

def MetricDefinition.resolved (d : MetricDefinition) (interval : Nat) : MetricDefinition :=
  if d.unit∈[MetricUnit.percentOneCore,.percentSystem,.bytesPerSecond] then
    { d with intervalMs := some interval }
  else d

section Canonical
variable {d : MetricDefinition} {interval : Nat}

theorem MetricDefinition.Canonical.resolve (h : d.Canonical) (hi : interval≠0) :
    resolveDefinition interval d=.ok (d.resolved interval) := by
  obtain ⟨hunit,hnone⟩ := h
  rw [Option.map_eq_some_iff] at hunit
  obtain ⟨canonical,hc,hu⟩ := hunit
  simp only [resolveDefinition,hc,hu,SemanticDefinition.sampledOverInterval,hnone,
    MetricDefinition.resolved,Option.getD_none,ne_eq,not_true_eq_false,if_false,hi]
  split
  · simp_all
  · simp_all

theorem MetricDefinition.Canonical.described (h : d.Canonical) (hi : interval≠0)
    (source : MetricSourceV4) (place : Nat) :
    Described place (descriptorOf (d.resolved interval) source place) := by
  obtain ⟨hunit,hnone⟩ := h
  have hsem : (d.resolved interval).semantic=d.semantic := by
    simp only [MetricDefinition.resolved]; split <;> rfl
  have hscope : (d.resolved interval).scope=d.scope := by
    simp only [MetricDefinition.resolved]; split <;> rfl
  have hu : (d.resolved interval).unit=d.unit := by
    simp only [MetricDefinition.resolved]; split <;> rfl
  refine ⟨rfl,?_,rfl,?_,?_⟩
  · simpa only [descriptorOf,hsem,hscope,hu] using hunit
  · simp only [descriptorOf,hsem,hscope]
    rw [Option.map_eq_some_iff] at hunit ⊢
    obtain ⟨canonical,hc,hcu⟩ := hunit
    refine ⟨canonical,hc,?_⟩
    simp only [SemanticDefinition.sampledOverInterval,hcu,MetricDefinition.resolved]
    split
    · simp_all
    · simp_all
  · simp only [descriptorOf,MetricDefinition.resolved]
    split
    · simpa using hi
    · simp [hnone]

end Canonical

/-- What one observation is asked for. -/
structure Request where
  definition : MetricDefinition
  value : Option Float
  quality : Option MetricQualityInfo

namespace Request

def reading (r : Request) (sampledAtMs : Option Nat) : Reading :=
  BatCave.Protocol.reading r.definition.unit r.value r.quality sampledAtMs

def descriptor (r : Request) (interval : Nat) : MeasurementDescriptor :=
  descriptorOf (r.definition.resolved interval) (sourceOf r.quality) 0

/-- The observation says what the reading says, through the catalogs. -/
structure Recorded (r : Request) (interval : Nat) (sampledAtMs : Option Nat) (k : Catalogs)
    (o : MetricObservation) : Prop where
  descriptor : ∃ d, k.descriptors[o.descriptorIndex]?=some d ∧ measurement d=r.descriptor interval
  value : o.value=(r.reading sampledAtMs).value
  qualityCode : o.qualityCode=(r.reading sampledAtMs).qualityCode
  observedAtMs : o.observedAtMs=(r.reading sampledAtMs).observedAtMs
  limitation : Option.Rel (fun i e => k.limitations[i]?=some e) o.limitationIndex
    (r.reading sampledAtMs).limitation

def observe (r : Request) (sampledAtMs : Option Nat) : Encoder MetricObservation :=
  observation r.definition r.value r.quality sampledAtMs

theorem resolved_unit (d : MetricDefinition) (interval : Nat) :
    (d.resolved interval).unit=d.unit := by
  simp only [MetricDefinition.resolved]
  split <;> rfl

theorem encodes (r : Request) {interval : Nat} (hi : interval≠0) (hd : r.definition.Canonical)
    (sampledAtMs : Option Nat) :
    Encodes interval (r.observe sampledAtMs) ((r.reading sampledAtMs).observedTooLate=false)
      [r.descriptor interval] (r.reading sampledAtMs).limitation.toList
      (fun k o => r.Recorded interval sampledAtMs k o) := by
  have hrecord : ∀ c : CatalogBuilder, c.sampleIntervalMs=interval →
      r.observe sampledAtMs c=record (r.definition.resolved interval) (sourceOf r.quality)
        (r.reading sampledAtMs) c := by
    intro c hc
    have hresolve : r.observe sampledAtMs c=
        ((liftM (resolveDefinition c.sampleIntervalMs r.definition) : Encoder MetricDefinition) >>=
          fun d => record d (sourceOf r.quality)
            (BatCave.Protocol.reading d.unit r.value r.quality sampledAtMs)) c := rfl
    rw [hresolve,hc,hd.resolve hi,reading,← resolved_unit r.definition interval]
    rfl
  have hchain := (Encodes.descriptor interval (hd.described hi (sourceOf r.quality))).bind
    (fun i _ _ => (Encodes.reject interval (r.reading sampledAtMs).observedTooLate
      "protocol_timestamp_out_of_range").bind (fun _ _ _ =>
        (Encodes.limitationIndex interval (r.reading sampledAtMs).limitation).bind
          (fun j _ _ => Encodes.ret interval (⟨i,(r.reading sampledAtMs).value,
            (r.reading sampledAtMs).qualityCode,(r.reading sampledAtMs).observedAtMs,j⟩ :
              MetricObservation))))
  simp only [List.append_nil,List.nil_append] at hchain
  refine Encodes.of_eq (hchain.conseq (by simp) ?_) hrecord
  intro k o ho
  obtain ⟨i,hd,_,_,j,hj,rfl⟩ := ho
  exact ⟨hd,rfl,rfl,rfl,hj⟩

theorem Recorded.named {r : Request} {interval : Nat} {sampledAtMs : Option Nat} {k : Catalogs}
    {o : MetricObservation} (h : r.Recorded interval sampledAtMs k o) :
    ∃ d, k.descriptors[o.descriptorIndex]?=some d ∧ d.scope=r.definition.scope ∧
      d.semantic=r.definition.semantic ∧ d.source=sourceOf r.quality := by
  obtain ⟨d,hd,hm⟩ := h.descriptor
  have hkey : ∀ d' : MetricDefinition, (d'.resolved interval).scope=d'.scope ∧
      (d'.resolved interval).semantic=d'.semantic := by
    intro d'
    simp only [MetricDefinition.resolved]
    split <;> exact ⟨rfl,rfl⟩
  refine ⟨d,hd,?_,?_,?_⟩
  · exact (congrArg MeasurementDescriptor.scope hm).trans (hkey r.definition).1
  · exact (congrArg MeasurementDescriptor.semantic hm).trans (hkey r.definition).2
  · exact congrArg MeasurementDescriptor.source hm

end Request
end BatCave.Protocol
