import BatCave.Narratives.Runs
import Mathlib.Data.List.Pairwise

/-! What the coordinator keeps over every interleaving: one call of the model at a time and far
enough apart, results that answer the request they are given to, in the order of publications,
and after the end nothing but a call that is cancelled before it is made. -/
namespace BatCave.Narratives
open BatCave.Lib
variable {provider : NarrativeProvider} {digest : NarrativeFactPacket → Except String String}
variable {w w' : World} {preference : PreferenceState}

section Flags
variable {s : GenerationState} {flags : List Bool}

@[simp] theorem cancelActive_length : (cancelActive s flags).length=flags.length := by
  rw [cancelActive]
  split <;> simp

/-- A flag that is set stays set. -/
theorem cancelActive_keeps {i : Nat} (h : flags.getD i false=true) :
    (cancelActive s flags).getD i false=true := by
  rw [cancelActive]
  split
  · next active hactive =>
    rw [List.getD_eq_getElem?_getD] at h ⊢
    rw [List.getElem?_set]
    split
    · next hi =>
      subst hi
      split
      · rfl
      · next hlen =>
        rw [List.getElem?_eq_none (by omega)] at h
        cases h
    · exact h
  · exact h

theorem cancelActive_sets {a : ActiveGeneration} (hactive : s.active=some a)
    (hlen : a.cancelled < flags.length) : (cancelActive s flags).getD a.cancelled false=true := by
  rw [cancelActive,hactive,List.getD_eq_getElem?_getD]
  simp [hlen]

end Flags

section Alone

/-- The requests between their two critical sections. -/
def World.flights (w : World) : List Flight := w.admitted++w.inFlight

/-- No request is between its critical sections, or one is, and it is the active one. -/
def World.Alone (w : World) : Prop :=
  (w.flights=[] ∧ w.generation.active=none) ∨
    ∃ f a, w.flights=[f] ∧ w.generation.active=some a ∧ a.id=f.id ∧ a.cancelled=f.cancelled ∧
      f.cancelled < w.flags.length

theorem World.Alone.flight {front rest : List Flight} {f : Flight} (h : w.Alone)
    (hf : w.flights=front++f::rest) : front=[] ∧ rest=[] ∧ ∃ a, w.generation.active=some a ∧
      a.id=f.id ∧ a.cancelled=f.cancelled ∧ f.cancelled < w.flags.length := by
  obtain ⟨hnone,-⟩ | ⟨g,a,hone,hactive,hid,hcancelled,hlen⟩ := h
  · rw [hnone] at hf
    simp at hf
  · rw [hone] at hf
    obtain ⟨rfl,hsame⟩ | ⟨x,rfl,hsame⟩ := List.cons_eq_append_iff.mp hf
    · cases hsame
      exact ⟨rfl,rfl,a,hactive,hid,hcancelled,hlen⟩
    · simp at hsame

/-- The request with the model is alone. -/
theorem World.Alone.completing {front rest : List Flight} {f : Flight} (h : w.Alone)
    (hf : w.inFlight=front++f::rest) : w.admitted=[] ∧ front=[] ∧ rest=[] ∧
      ∃ a, w.generation.active=some a ∧ a.id=f.id := by
  have hflights : w.flights=(w.admitted++front)++f::rest := by
    rw [World.flights,hf,List.append_assoc]
  obtain ⟨hbefore,hafter,a,hactive,hid,-⟩ := h.flight hflights
  obtain ⟨hadmitted,hfront⟩ := List.append_eq_nil_iff.mp hbefore
  exact ⟨hadmitted,hfront,hafter,a,hactive,hid⟩

/-- The request that the model is called for is alone. -/
theorem World.Alone.calling {front rest : List Flight} {f : Flight} (h : w.Alone)
    (hf : w.admitted=front++f::rest) : front=[] ∧ rest=[] ∧ w.inFlight=[] := by
  have hflights : w.flights=front++f::(rest++w.inFlight) := by
    rw [World.flights,hf,List.append_assoc,List.cons_append]
  obtain ⟨hfront,hafter,-⟩ := h.flight hflights
  obtain ⟨hrest,hflying⟩ := List.append_eq_nil_iff.mp hafter
  exact ⟨hfront,hrest,hflying⟩

theorem Finishes.active {f : Flight} {s s' : GenerationState} {flags : List Bool} {reply : Reply}
    (h : Finishes provider f s flags s' reply) : s'.active=(s.release f.id).active := by
  cases h <;> rfl

theorem Moves.alone (h : Moves provider digest w w') (halone : w.Alone) : w'.Alone := by
  have hflags : ∀ {w' : World}, w'.flights=w.flights →
      w'.generation.active=w.generation.active → w'.flags.length=w.flags.length → w'.Alone := by
    intro w' hflights hsame hlen
    rw [World.Alone,hflights,hsame,hlen]
    exact halone
  cases h with
  | refuses | waits | prefers => exact halone
  | records _ _ _ _ hchanged =>
    refine hflags rfl rfl ?_
    obtain rfl | rfl := hchanged
    · rfl
    · exact cancelActive_length
  | cancels => exact hflags rfl rfl cancelActive_length
  | closes => exact hflags rfl rfl cancelActive_length
  | @admits p waiting f hf _ _ _ _ hidle =>
    obtain ⟨hnone,-⟩ | ⟨f,a,-,hactive,-⟩ := halone
    · obtain ⟨hadmitted,hflying⟩ := List.append_eq_nil_iff.mp hnone
      refine .inr ⟨f,_,?_,rfl,by rw [hf]; rfl,by rw [hf],?_⟩
      · rw [World.flights,hadmitted,hflying]
        rfl
      · simp [hf]
    · rw [hidle] at hactive
      cases hactive
  | @calls f front rest hf =>
    obtain ⟨rfl,rfl,hflying⟩ := halone.calling hf
    refine hflags ?_ rfl rfl
    rw [World.flights,World.flights,hf,World.call,hflying]
    rfl
  | @completes f front rest reply generation hf hfinish =>
    obtain ⟨hadmitted,rfl,rfl,a,hactive,hid⟩ := halone.completing hf
    refine .inl ⟨?_,?_⟩
    · rw [World.flights,hadmitted]
      rfl
    · rw [hfinish.active,GenerationState.release,hactive,Option.any_some,hid,beq_self_eq_true,
        if_pos rfl]

end Alone

section Calls

/-- The instant that a call of the model counts from: the request's own, taken before its lock. -/
def Event.calledAt : Event → Option Nat
  | .providerCalled f _ => some f.pending.now
  | _ => none

def callTimes (log : List Event) : List Nat := log.filterMap Event.calledAt

/-- Far enough behind each other. -/
def Spaced (earlier later : Nat) : Prop := earlier+minGenerationInterval ≤ later

/-- The instants of the calls that were made and of those that are still to come. -/
def World.instants (w : World) : List Nat :=
  callTimes w.log++w.admitted.map (fun f => f.pending.now)

structure World.Paced (w : World) : Prop where
  spaced : w.instants.Pairwise Spaced
  last : w.generation.lastProviderCall=w.instants.getLast?

theorem callTimes_append (log : List Event) (e : Event) :
    callTimes (log++[e])=callTimes log++(Event.calledAt e).toList := by
  rw [callTimes,callTimes,List.filterMap_append]
  cases h : e.calledAt <;> simp [h]

/-- All that is in a spaced list is far enough from what is far enough from its last. -/
theorem spaced_snoc {times : List Nat} {now : Nat} (h : times.Pairwise Spaced)
    (hlast : ∀ last, times.getLast? =some last → Spaced last now) :
    (times++[now]).Pairwise Spaced := by
  refine List.pairwise_append.mpr ⟨h,List.pairwise_singleton ..,fun a ha b hb => ?_⟩
  obtain rfl := List.mem_singleton.mp hb
  obtain ⟨front,last,rfl⟩ : ∃ front last, times=front++[last] :=
    ⟨times.dropLast,times.getLast (List.ne_nil_of_mem ha),
      (List.dropLast_append_getLast _).symm⟩
  have hnow : Spaced last b := hlast last (by simp)
  obtain hfront | hsame := List.mem_append.mp ha
  · have hbefore : Spaced a last := (List.pairwise_append.mp h).2.2 a hfront last (by simp)
    exact Nat.le_trans hbefore (Nat.le_trans (Nat.le_add_right _ _) hnow)
  · obtain rfl := List.mem_singleton.mp hsame
    exact hnow

theorem World.Paced.quiet (h : w.Paced)
    (hlast : w'.generation.lastProviderCall=w.generation.lastProviderCall)
    (hinstants : w'.instants=w.instants) : w'.Paced :=
  ⟨hinstants ▸ h.spaced,by rw [hlast,hinstants,h.last]⟩

/-- An event that is no call leaves the instants as they are. -/
theorem instants_snoc {e : Event} (hlog : w'.log=w.log++[e]) (he : e.calledAt=none)
    (hadmitted : w'.admitted=w.admitted) : w'.instants=w.instants := by
  rw [World.instants,hlog,callTimes_append,he,Option.toList_none,List.append_nil,hadmitted,
    World.instants]

theorem Finishes.lastProviderCall {f : Flight} {s s' : GenerationState} {flags : List Bool}
    {reply : Reply} (h : Finishes provider f s flags s' reply) :
    s'.lastProviderCall=s.lastProviderCall := by
  cases h <;> exact release_lastProviderCall f.id

theorem Moves.paced (h : Moves provider digest w w') (halone : w.Alone) (hpaced : w.Paced) :
    w'.Paced := by
  cases h with
  | waits | prefers | cancels => exact ⟨hpaced.spaced,hpaced.last⟩
  | refuses => exact hpaced.quiet rfl (instants_snoc rfl rfl rfl)
  | records => exact hpaced.quiet rfl (instants_snoc rfl rfl rfl)
  | completes _ hfinish =>
    exact hpaced.quiet hfinish.lastProviderCall (instants_snoc rfl rfl rfl)
  | closes => exact hpaced.quiet rfl (instants_snoc rfl rfl rfl)
  | @admits p waiting f hf _ _ _ _ hidle hspaced =>
    have hnone : w.admitted=[] := by
      obtain ⟨hnone,-⟩ | ⟨g,a,-,hactive,-⟩ := halone
      · exact (List.append_eq_nil_iff.mp hnone).1
      · rw [hidle] at hactive
        cases hactive
    have hbefore : w.instants=callTimes w.log := by
      rw [World.instants,hnone,List.map_nil,List.append_nil]
    have hafter : callTimes (w.log++[.admitted f])++[f.pending.now]=w.instants++[p.now] := by
      rw [callTimes_append,hbefore,hf]
      exact congrArg (·++[p.now]) (List.append_nil _)
    have hnow : ∀ last, w.instants.getLast? =some last → Spaced last p.now :=
      fun last hlast => hspaced last (hpaced.last.trans hlast)
    refine ⟨?_,?_⟩
    · rw [World.instants,hnone]
      exact hafter ▸ spaced_snoc hpaced.spaced hnow
    · rw [World.instants,hnone]
      refine Eq.trans ?_ (congrArg List.getLast? hafter).symm
      exact List.getLast?_concat.symm
  | @calls f front rest hf =>
    obtain ⟨rfl,rfl,-⟩ := halone.calling hf
    -- The request's instant only moves from those to come to those that were made.
    refine hpaced.quiet rfl ?_
    rw [World.instants,World.instants,hf]
    exact (List.append_nil _).trans (callTimes_append ..)

end Calls

section Results

/-- A result says what its request was about, with an explanation that its facts admit. -/
structure AnswersRequest (provider : NarrativeProvider) (request : NarrativeRequest)
    (facts : NarrativeFactPacket) (r : NarrativeResult) : Prop where
  provider : r.provider=provider
  publicationSeq : r.publicationSeq=request.publicationSeq
  factDigest : r.factDigest=request.factDigest
  surface : r.surface=request.surface
  subject : r.subjectStableId=request.subjectStableId
  admitted : r.explanationId∈candidates request.surface facts

/-- The model was called for these facts, and offered this explanation. -/
def World.Offered (w : World) (request : NarrativeRequest) (facts : NarrativeFactPacket)
    (id : NarrativeExplanationId) : Prop :=
  ∃ f cancelled, .providerCalled f cancelled∈w.log ∧
    f.pending.request.surface=request.surface ∧
    f.pending.request.factDigest=request.factDigest ∧ f.pending.facts=facts ∧
    id∈f.pending.candidateIds

def Event.facts : Event → Option NarrativeFactPacket
  | .admitted f => some f.pending.facts
  | .providerCalled f _ => some f.pending.facts
  | .answered _ facts _ => some facts
  | .shutDown => none

/-- The facts that a run has had to do with. -/
def told (log : List Event) : List NarrativeFactPacket := log.filterMap Event.facts

/-- Among the facts of a run, equal digests are of equal facts. -/
def DigestsDiffer (digest : NarrativeFactPacket → Except String String) (log : List Event) :
    Prop :=
  ∀ facts∈told log, ∀ facts'∈told log, ∀ d, digest facts=.ok d → digest facts'=.ok d →
    facts=facts'

/-- What is known of the requests on their way, of the cache and of the answers given. -/
structure World.Honest (provider : NarrativeProvider)
    (digest : NarrativeFactPacket → Except String String) (w : World) : Prop where
  waiting : ∀ p∈w.waiting, digest p.facts=.ok p.request.factDigest
  admitted : ∀ f∈w.admitted, digest f.pending.facts=.ok f.pending.request.factDigest
  inFlight : ∀ f∈w.inFlight, digest f.pending.facts=.ok f.pending.request.factDigest ∧
    ∃ cancelled, .providerCalled f cancelled∈w.log
  cache : ∀ key r, w.generation.cache.lookup key=some r → ∃ f cancelled id,
    .providerCalled f cancelled∈w.log ∧
    digest f.pending.facts=.ok f.pending.request.factDigest ∧
    key=f.pending.cacheKey provider ∧ r=f.pending.result provider id ∧
    id∈f.pending.candidateIds
  answered : ∀ request facts r result, .answered request facts (.ok r)∈w.log →
    r.result=some result → AnswersRequest provider request facts result ∧
      w.Offered request facts result.explanationId

theorem mem_told {log : List Event} {e : Event} {facts : NarrativeFactPacket} (he : e∈log)
    (hfacts : e.facts=some facts) : facts∈told log := List.mem_filterMap.mpr ⟨e,he,hfacts⟩

theorem DigestsDiffer.mono {log log' : List Event} (h : DigestsDiffer digest log')
    (hlog : log ⊆ log') : DigestsDiffer digest log := by
  have htold : ∀ {facts}, facts∈told log → facts∈told log' := by
    intro facts hfacts
    obtain ⟨e,he,hsame⟩ := List.mem_filterMap.mp hfacts
    exact mem_told (hlog he) hsame
  exact fun facts hfacts facts' hfacts' => h facts (htold hfacts) facts' (htold hfacts')

theorem answersRequest_result (p : Pending) {id : NarrativeExplanationId}
    (h : id∈p.candidateIds) :
    AnswersRequest provider p.request p.facts (p.result provider id) :=
  ⟨rfl,rfl,rfl,rfl,rfl,h⟩

theorem World.Offered.mono {request : NarrativeRequest} {facts : NarrativeFactPacket}
    {id : NarrativeExplanationId} (h : w.Offered request facts id) (hlog : w.log ⊆ w'.log) :
    w'.Offered request facts id := by
  obtain ⟨f,cancelled,hcalled,hrest⟩ := h
  exact ⟨f,cancelled,hlog hcalled,hrest⟩

/-- What a step may add to what is known. -/
structure Grows (provider : NarrativeProvider)
    (digest : NarrativeFactPacket → Except String String) (w w' : World) : Prop where
  waiting : ∀ p∈w'.waiting, p∈w.waiting ∨ digest p.facts=.ok p.request.factDigest
  admitted : ∀ f∈w'.admitted, f∈w.admitted ∨ f.pending∈w.waiting
  inFlight : ∀ f∈w'.inFlight, f∈w.inFlight ∨
    (f∈w.admitted ∧ ∃ cancelled, .providerCalled f cancelled∈w'.log)
  cache : ∀ key r, w'.generation.cache.lookup key=some r →
    w.generation.cache.lookup key=some r ∨ ∃ f∈w.inFlight, ∃ id∈f.pending.candidateIds,
      key=f.pending.cacheKey provider ∧ r=f.pending.result provider id
  log : w.log ⊆ w'.log
  answered : ∀ request facts r result, .answered request facts (.ok r)∈w'.log →
    r.result=some result → .answered request facts (.ok r)∈w.log ∨
      (AnswersRequest provider request facts result ∧
        w.Offered request facts result.explanationId)

theorem World.Honest.grows (h : w.Honest provider digest) (hg : Grows provider digest w w') :
    w'.Honest provider digest := by
  refine ⟨fun p hp => (hg.waiting p hp).elim (h.waiting p) id,
    fun f hf => (hg.admitted f hf).elim (h.admitted f) (h.waiting f.pending),?_,?_,?_⟩
  · intro f hf
    obtain hold | ⟨hadmitted,hcalled⟩ := hg.inFlight f hf
    · obtain ⟨hdigest,cancelled,hcalled⟩ := h.inFlight f hold
      exact ⟨hdigest,cancelled,hg.log hcalled⟩
    · exact ⟨h.admitted f hadmitted,hcalled⟩
  · intro key r hr
    obtain hold | ⟨f,hf,id,hid,hkey,hresult⟩ := hg.cache key r hr
    · obtain ⟨f,cancelled,id,hcalled,hrest⟩ := h.cache key r hold
      exact ⟨f,cancelled,id,hg.log hcalled,hrest⟩
    · obtain ⟨hdigest,cancelled,hcalled⟩ := h.inFlight f hf
      exact ⟨f,cancelled,id,hg.log hcalled,hdigest,hkey,hresult,hid⟩
  · intro request facts r result hr hresult
    obtain hold | ⟨hanswers,hoffered⟩ := hg.answered request facts r result hr hresult
    · obtain ⟨hanswers,hoffered⟩ := h.answered request facts r result hold hresult
      exact ⟨hanswers,hoffered.mono hg.log⟩
    · exact ⟨hanswers,hoffered.mono hg.log⟩

/-- A result from the cache is an answer where equal digests are of equal facts. -/
theorem World.Honest.cached (h : w.Honest provider digest) {log : List Event}
    (hdigest : DigestsDiffer digest log) (hlog : w.log ⊆ log)
    {p : Pending} {cached : NarrativeResult} (hp : p∈w.waiting) (htold : p.facts∈told log)
    (hcached : w.generation.cache.lookup (p.cacheKey provider)=some cached) :
    AnswersRequest provider p.request p.facts
        { cached with publicationSeq := p.request.publicationSeq } ∧
      w.Offered p.request p.facts cached.explanationId := by
  obtain ⟨f,cancelled,id,hcalled,hf,hkey,rfl,hid⟩ := h.cache _ _ hcached
  simp only [Pending.cacheKey,Pending.subject,CacheKey.mk.injEq,SubjectKey.mk.injEq,
    true_and] at hkey
  obtain ⟨⟨hsurface,hsubject⟩,hsame⟩ := hkey
  have hfacts : f.pending.facts=p.facts :=
    hdigest _ (mem_told (hlog hcalled) rfl) _ htold _ hf (hsame ▸ h.waiting p hp)
  have hadmitted : id∈candidates p.request.surface p.facts := by
    rw [← hfacts,hsurface]
    exact hid
  exact ⟨⟨rfl,rfl,hsame.symm,hsurface.symm,hsubject.symm,hadmitted⟩,
    f,cancelled,hcalled,hsurface.symm,hsame.symm,hfacts,hid⟩

/-- A new answer without a result is nothing to account for. -/
theorem answered_snoc {log : List Event} {request request' : NarrativeRequest}
    {facts facts' : NarrativeFactPacket} {reply : Reply} {r : NarrativeGenerationResponse}
    (h : Event.answered request' facts' (.ok r)∈log++[.answered request facts reply]) :
    .answered request' facts' (.ok r)∈log ∨
      (request'=request ∧ facts'=facts ∧ reply=.ok r) := by
  obtain hold | hnew := List.mem_append.mp h
  · exact .inl hold
  · obtain ⟨rfl,rfl,rfl⟩ := Event.answered.inj (List.mem_singleton.mp hnew)
    exact .inr ⟨rfl,rfl,rfl⟩

/-- An event that is no answer adds none. -/
theorem answered_of_snoc {log : List Event} {e : Event} {request : NarrativeRequest}
    {facts : NarrativeFactPacket} {r : NarrativeGenerationResponse}
    (h : .answered request facts (.ok r)∈log++[e]) (he : ∀ request facts reply,
      e≠.answered request facts reply) : .answered request facts (.ok r)∈log := by
  obtain hold | hnew := List.mem_append.mp h
  · exact hold
  · exact absurd (List.mem_singleton.mp hnew).symm (he _ _ _)

theorem Moves.honest (h : Moves provider digest w w') (hdigest : DigestsDiffer digest w'.log)
    (hw : w.Honest provider digest) : w'.Honest provider digest := by
  refine hw.grows ?_
  have hsame : Grows provider digest w w := ⟨fun _ => .inl,fun _ => .inl,fun _ => .inl,
    fun _ _ => .inl,List.Subset.refl _,fun _ _ _ _ hr _ => .inl hr⟩
  cases h with
  | prefers | cancels =>
    exact ⟨hsame.waiting,hsame.admitted,hsame.inFlight,hsame.cache,hsame.log,hsame.answered⟩
  | waits hp =>
    refine ⟨fun p hin => ?_,hsame.admitted,hsame.inFlight,hsame.cache,hsame.log,hsame.answered⟩
    obtain rfl | hold := List.mem_cons.mp hin
    · exact .inr hp
    · exact .inl hold
  | refuses request facts hnone hwaiting =>
    refine ⟨fun p hp => .inl (hwaiting hp),hsame.admitted,fun _ => .inl,hsame.cache,
      List.subset_append_left _ _,?_⟩
    intro request' facts' r result hr hresult
    obtain hold | ⟨-,-,hreply⟩ := answered_snoc hr
    · exact .inl hold
    · rw [hnone r hreply] at hresult
      cases hresult
  | closes =>
    exact ⟨hsame.waiting,hsame.admitted,fun _ => .inl,hsame.cache,List.subset_append_left _ _,
      fun _ _ _ _ hr _ => .inl (answered_of_snoc hr (by rintro _ _ _ ⟨⟩))⟩
  | @records p waiting flags r hp hwaiting hopen hfresh hflags hcached =>
    refine ⟨fun p hp => .inl (hwaiting hp),hsame.admitted,fun _ => .inl,hsame.cache,
      List.subset_append_left _ _,?_⟩
    intro request facts r' result hr hresult
    obtain hold | ⟨rfl,rfl,hreply⟩ := answered_snoc hr
    · exact .inl hold
    · cases hreply
      obtain ⟨cached,hlookup,rfl⟩ := hcached result hresult
      have htold := mem_told (List.mem_append_right w.log (List.mem_singleton_self
        (Event.answered p.request p.facts (.ok r)))) rfl
      exact .inr (hw.cached hdigest (List.subset_append_left _ _) hp htold hlookup)
  | @admits p waiting f hf hp hwaiting =>
    refine ⟨fun p hp => .inl (hwaiting hp),fun g hg => ?_,fun _ => .inl,hsame.cache,
      List.subset_append_left _ _,
      fun _ _ _ _ hr _ => .inl (answered_of_snoc hr (by rintro _ _ _ ⟨⟩))⟩
    obtain rfl | hold := List.mem_cons.mp hg
    · rw [hf]
      exact .inr hp
    · exact .inl hold
  | @calls f front rest hf =>
    refine ⟨hsame.waiting,fun g hg => .inl ?_,fun g hg => ?_,hsame.cache,
      List.subset_append_left _ _,
      fun _ _ _ _ hr _ => .inl (answered_of_snoc hr (by rintro _ _ _ ⟨⟩))⟩
    · rw [hf]
      exact ((List.Sublist.refl front).append (List.sublist_cons_self f rest)).subset hg
    · obtain rfl | hold := List.mem_cons.mp hg
      · refine .inr ⟨?_,_,List.mem_append_right _ (List.mem_singleton_self _)⟩
        rw [hf]
        exact List.mem_append_right _ List.mem_cons_self
      · exact .inl hold
  | @completes f front rest reply generation hf hfinish =>
    have hin : f∈w.inFlight := by
      rw [hf]
      exact List.mem_append_right _ List.mem_cons_self
    have hrest : ∀ g∈front++rest, g∈w.inFlight := by
      rw [hf]
      exact ((List.Sublist.refl front).append (List.sublist_cons_self f rest)).subset
    cases hfinish with
    | quiet hnone =>
      refine ⟨hsame.waiting,hsame.admitted,fun g hg => .inl (hrest g hg),
        fun key r hr => .inl (release_cache f.id ▸ hr),List.subset_append_left _ _,?_⟩
      intro request facts r result hr hresult
      obtain hold | ⟨-,-,hreply⟩ := answered_snoc hr
      · exact .inl hold
      · rw [hnone r hreply] at hresult
        cases hresult
    | @published id hgoes hlatest hid =>
      refine ⟨hsame.waiting,hsame.admitted,fun g hg => .inl (hrest g hg),fun key r hr => ?_,
        List.subset_append_left _ _,?_⟩
      · obtain ⟨rfl,rfl⟩ | hold := store_lookup hr
        · exact .inr ⟨f,hin,id,hid,rfl,rfl⟩
        · exact .inl (release_cache f.id ▸ hold)
      · intro request facts r result hr hresult
        obtain hold | ⟨rfl,rfl,hreply⟩ := answered_snoc hr
        · exact .inl hold
        · cases hreply
          cases hresult
          obtain ⟨-,cancelled,hcalled⟩ := hw.inFlight f hin
          exact .inr ⟨answersRequest_result f.pending hid,f,cancelled,hcalled,rfl,rfl,rfl,hid⟩

end Results

section Room

/-- The cache never holds more than it may. -/
theorem Moves.room (h : Moves provider digest w w')
    (hroom : w.generation.cache.entries.length ≤ maxCacheEntries) :
    w'.generation.cache.entries.length ≤ maxCacheEntries := by
  cases h with
  | refuses | waits | records | admits | calls | cancels | prefers | closes => exact hroom
  | @completes f front rest reply generation hf hfinish =>
    cases hfinish with
    | quiet =>
      rw [release_cache]
      exact hroom
    | @published id =>
      simp only [GenerationState.store,AList.entries_insert,List.length_cons,release_cache]
      split
      · exact (by decide : 1 ≤ maxCacheEntries)
      · next hless =>
        have hkerase := (List.kerase_sublist (f.pending.cacheKey provider)
          w.generation.cache.entries).length_le
        exact Nat.lt_of_le_of_lt hkerase (Nat.lt_of_not_le hless)

end Room

section Order

/-- The publication that a result was given for, by its subject. -/
def Event.delivered : Event → Option (SubjectKey × Nat × String)
  | .answered request _ (.ok r) =>
    if r.result.isSome then
      some (⟨request.surface,request.subjectStableId⟩,request.publicationSeq,request.factDigest)
    else none
  | _ => none

/-- An earlier publication, or the same. -/
def Before (x y : Nat × String) : Prop := x.1 < y.1 ∨ x=y

theorem Before.refl (x : Nat × String) : Before x x := .inr rfl

theorem Before.trans {x y z : Nat × String} (h : Before x y) (h' : Before y z) : Before x z := by
  obtain hlt | rfl := h
  · obtain hlt' | rfl := h'
    · exact .inl (Nat.lt_trans hlt hlt')
    · exact .inl hlt
  · exact h'

/-- Results for one subject are for publications in order. -/
def InOrder (e e' : Event) : Prop := ∀ subject x y, e.delivered=some (subject,x) →
  e'.delivered=some (subject,y) → Before x y

/-- Results are in order, and none is ahead of the latest publication of its subject. -/
structure World.Ordered (w : World) : Prop where
  ordered : w.log.Pairwise InOrder
  dominated : ∀ e∈w.log, ∀ subject x, e.delivered=some (subject,x) →
    ∃ y, w.generation.latest.lookup subject=some y ∧ Before x y

theorem record_latest {s : GenerationState} {p : Pending} (hfresh : s.stale p=false)
    {subject : SubjectKey} {y : Nat × String} (h : s.latest.lookup subject=some y) :
    ∃ z, (s.record p).latest.lookup subject=some z ∧ Before y z := by
  by_cases hsubject : subject=p.subject
  · subst hsubject
    refine ⟨_,AList.lookup_insert _,?_⟩
    rw [GenerationState.stale,h,Option.any_some,Bool.or_eq_false_iff] at hfresh
    obtain ⟨hle,hsame⟩ := hfresh
    rw [decide_eq_false_iff_not,Nat.not_lt] at hle
    obtain hlt | heq := Nat.lt_or_eq_of_le hle
    · exact .inl hlt
    · refine .inr (Prod.ext heq ?_)
      rw [heq,beq_self_eq_true,Bool.true_and,decide_eq_false_iff_not,Decidable.not_not] at hsame
      exact hsame.symm
  · exact ⟨y,(AList.lookup_insert_ne hsubject).trans h,.refl y⟩

theorem NoResult.delivered {reply : Reply} (h : NoResult reply) (request : NarrativeRequest)
    (facts : NarrativeFactPacket) : (Event.answered request facts reply).delivered=none := by
  cases reply with
  | error error => rfl
  | ok r => simp [Event.delivered,h r rfl]

/-- An event is added that gives out no result, or one for the latest publication. -/
theorem World.Ordered.snoc {e : Event} (h : w.Ordered) (hlog : w'.log=w.log++[e])
    (hlatest : ∀ subject y, w.generation.latest.lookup subject=some y →
      ∃ z, w'.generation.latest.lookup subject=some z ∧ Before y z)
    (he : ∀ subject x, e.delivered=some (subject,x) →
      w'.generation.latest.lookup subject=some x) : w'.Ordered := by
  have hold : ∀ e∈w.log, ∀ subject x, e.delivered=some (subject,x) →
      ∃ y, w'.generation.latest.lookup subject=some y ∧ Before x y := by
    intro e hmem subject x hx
    obtain ⟨y,hy,hxy⟩ := h.dominated e hmem subject x hx
    obtain ⟨z,hz,hyz⟩ := hlatest subject y hy
    exact ⟨z,hz,hxy.trans hyz⟩
  refine ⟨?_,?_⟩
  · rw [hlog]
    refine List.pairwise_append.mpr ⟨h.ordered,List.pairwise_singleton ..,?_⟩
    intro e' hmem e'' hnew subject x y hx hy
    obtain rfl := List.mem_singleton.mp hnew
    obtain ⟨z,hz,hxz⟩ := hold e' hmem subject x hx
    have hsame := (he subject y hy).symm.trans hz
    cases hsame
    exact hxz
  · rw [hlog]
    intro e' hmem subject x hx
    obtain hin | hnew := List.mem_append.mp hmem
    · exact hold e' hin subject x hx
    · obtain rfl := List.mem_singleton.mp hnew
      exact ⟨x,he subject x hx,.refl x⟩

theorem Moves.ordered (h : Moves provider digest w w') (hw : w.Ordered) : w'.Ordered := by
  have hsame : ∀ subject y, w.generation.latest.lookup subject=some y →
      ∃ z, w.generation.latest.lookup subject=some z ∧ Before y z :=
    fun _ y hy => ⟨y,hy,.refl y⟩
  cases h with
  | waits | cancels | prefers => exact ⟨hw.ordered,hw.dominated⟩
  | refuses request facts hnone =>
    refine hw.snoc rfl hsame (fun subject x hx => ?_)
    rw [hnone.delivered] at hx
    cases hx
  | closes => exact hw.snoc (e := .shutDown) rfl hsame nofun
  | @admits p waiting f hf hp hwaiting hopen hfresh =>
    exact hw.snoc (e := .admitted f) rfl (fun _ _ hy => record_latest hfresh hy) nofun
  | @calls f => exact hw.snoc (e := .providerCalled f _) rfl hsame nofun
  | @records p waiting flags r hp hwaiting hopen hfresh =>
    refine hw.snoc rfl (fun _ _ hy => record_latest hfresh hy) (fun subject x hx => ?_)
    rw [Event.delivered] at hx
    split at hx
    · cases hx
      exact AList.lookup_insert _
    · cases hx
  | @completes f front rest reply generation hf hfinish =>
    cases hfinish with
    | quiet hnone =>
      refine hw.snoc rfl (fun subject y hy => ⟨y,?_,.refl y⟩) (fun subject x hx => ?_)
      · rw [release_latest]
        exact hy
      · rw [NoResult.delivered hnone] at hx
        cases hx
    | published hgoes hlatest =>
      refine hw.snoc rfl (fun subject y hy => ⟨y,?_,.refl y⟩) (fun subject x hx => ?_)
      · exact (congrArg (AList.lookup subject) (release_latest f.id)).trans hy
      · cases hx
        exact (congrArg (AList.lookup _) (release_latest f.id)).trans hlatest

end Order

section Closing

/-- After the end no result is given out and no request is admitted, and where the model is
called late, for a request admitted before, the flag of the call is set already. -/
def Silent (e e' : Event) : Prop :=
  e=.shutDown → e'.delivered=none ∧ (∀ f, e'≠.admitted f) ∧
    ∀ f cancelled, e'=.providerCalled f cancelled → cancelled=true

/-- Once it is over, whatever is still between its critical sections is cancelled. -/
structure World.Closing (w : World) : Prop where
  silent : w.log.Pairwise Silent
  closed : .shutDown∈w.log → w.generation.closed=true
  cancelled : w.generation.closed=true → ∀ f∈w.flights, w.flags.getD f.cancelled false=true

theorem World.Closing.snoc {e : Event} (h : w.Closing)
    (he : w.generation.closed=true → e.delivered=none ∧ (∀ f, e≠.admitted f) ∧
      ∀ f cancelled, e=.providerCalled f cancelled → cancelled=true) :
    (w.log++[e]).Pairwise Silent := by
  refine List.pairwise_append.mpr ⟨h.silent,List.pairwise_singleton ..,?_⟩
  intro e' hmem e'' hnew hend
  subst hend
  obtain rfl := List.mem_singleton.mp hnew
  exact he (h.closed hmem)

theorem shutDown_mem_snoc {log : List Event} {e : Event} (h : Event.shutDown∈log++[e])
    (he : e≠.shutDown) : .shutDown∈log := by
  obtain hin | hnew := List.mem_append.mp h
  · exact hin
  · exact absurd (List.mem_singleton.mp hnew).symm he

/-- An answer without a result may come after the end. -/
theorem NoResult.silent {reply : Reply} (h : NoResult reply) (request : NarrativeRequest)
    (facts : NarrativeFactPacket) : (Event.answered request facts reply).delivered=none ∧
      (∀ f, Event.answered request facts reply≠.admitted f) ∧
      ∀ f cancelled, Event.answered request facts reply=.providerCalled f cancelled →
        cancelled=true :=
  ⟨h.delivered request facts,by rintro _ ⟨⟩,by rintro _ _ ⟨⟩⟩

theorem Moves.closing (h : Moves provider digest w w') (halone : w.Alone) (hw : w.Closing) :
    w'.Closing := by
  cases h with
  | waits | prefers => exact ⟨hw.silent,hw.closed,hw.cancelled⟩
  | cancels => exact ⟨hw.silent,hw.closed,fun hc f hf => cancelActive_keeps (hw.cancelled hc f hf)⟩
  | refuses request facts hnone =>
    exact ⟨hw.snoc (fun _ => NoResult.silent hnone request facts),
      fun hmem => hw.closed (shutDown_mem_snoc hmem (by rintro ⟨⟩)),hw.cancelled⟩
  | records hp hwaiting hopen =>
    have hnot : w.generation.closed≠true := by
      rw [hopen]
      exact Bool.false_ne_true
    exact ⟨hw.snoc (fun hc => absurd hc hnot),
      fun hmem => hw.closed (shutDown_mem_snoc hmem (by rintro ⟨⟩)),fun hc => absurd hc hnot⟩
  | admits hf hp hwaiting hopen =>
    have hnot : w.generation.closed≠true := by
      rw [hopen]
      exact Bool.false_ne_true
    exact ⟨hw.snoc (fun hc => absurd hc hnot),
      fun hmem => hw.closed (shutDown_mem_snoc hmem (by rintro ⟨⟩)),fun hc => absurd hc hnot⟩
  | @calls f front rest hf =>
    obtain ⟨rfl,rfl,hflying⟩ := halone.calling hf
    have hflights : (w.call f ([]++[])).flights=w.flights := by
      rw [World.flights,World.flights,hf,World.call,hflying]
      rfl
    have hin : f∈w.flights := by
      rw [World.flights,hf]
      exact List.mem_append_left _ (List.mem_singleton_self f)
    refine ⟨hw.snoc (fun hc => ⟨rfl,by rintro _ ⟨⟩,?_⟩),
      fun hmem => hw.closed (shutDown_mem_snoc hmem (by rintro ⟨⟩)),?_⟩
    · rintro _ _ ⟨⟩
      exact hw.cancelled hc f hin
    · rw [hflights]
      exact hw.cancelled
  | closes =>
    refine ⟨hw.snoc (fun _ => ⟨rfl,by rintro _ ⟨⟩,by rintro _ _ ⟨⟩⟩),fun _ => rfl,
      fun _ f hf => ?_⟩
    have hmem : f∈w.flights := hf
    obtain ⟨hnone,-⟩ | ⟨g,a,hone,hactive,-,hcancelled,hlen⟩ := halone
    · rw [hnone] at hmem
      cases hmem
    · rw [hone,List.mem_singleton] at hmem
      subst hmem
      rw [← hcancelled]
      exact cancelActive_sets hactive (hcancelled ▸ hlen)
  | @completes f front rest reply generation hf hfinish =>
    obtain ⟨hadmitted,rfl,rfl,-⟩ := halone.completing hf
    have hlands : ∀ g, g∉w.admitted++([]++[]) := by
      rw [hadmitted]
      exact fun _ => List.not_mem_nil
    cases hfinish with
    | quiet hnone =>
      refine ⟨hw.snoc (fun _ => NoResult.silent hnone _ _),fun hmem => ?_,
        fun _ g hmem => absurd hmem (hlands g)⟩
      exact (release_closed f.id).trans (hw.closed (shutDown_mem_snoc hmem (by rintro ⟨⟩)))
    | published hgoes =>
      have hnot : w.generation.closed≠true := by
        intro hc
        have hin : f∈w.flights := by
          rw [World.flights,hf]
          exact List.mem_append_right _ (List.mem_singleton_self f)
        rw [hw.cancelled hc f hin] at hgoes
        cases hgoes
      exact ⟨hw.snoc (fun hc => absurd hc hnot),
        fun hmem => absurd (hw.closed (shutDown_mem_snoc hmem (by rintro ⟨⟩))) hnot,
        fun _ g hmem => absurd hmem (hlands g)⟩

end Closing

section Runs

/-- What holds at every moment, whatever the digests are. -/
structure World.Safe (w : World) : Prop where
  alone : w.Alone
  paced : w.Paced
  room : w.generation.cache.entries.length ≤ maxCacheEntries
  ordered : w.Ordered
  closing : w.Closing

theorem safe_start (preference : PreferenceState) : (World.start preference).Safe where
  alone := .inl ⟨rfl,rfl⟩
  paced := ⟨List.Pairwise.nil,rfl⟩
  room := Nat.zero_le _
  ordered := ⟨List.Pairwise.nil,fun _ hmem => absurd hmem List.not_mem_nil⟩
  closing := ⟨List.Pairwise.nil,fun hmem => absurd hmem List.not_mem_nil,
    fun _ _ hmem => absurd hmem List.not_mem_nil⟩

theorem Moves.safe (h : Moves provider digest w w') (hw : w.Safe) : w'.Safe :=
  ⟨h.alone hw.alone,h.paced hw.alone hw.paced,h.room hw.room,h.ordered hw.ordered,
    h.closing hw.alone hw.closing⟩

theorem safe_run (h : Reaches provider digest preference w) : w.Safe := by
  induction h with
  | refl => exact safe_start preference
  | tail _ hstep ih => exact hstep.moves.safe ih

/-- However the requests run into each other, no more than one is on its way to the model or with
it, the instants of any two calls of it lie twelve seconds apart, and the cache keeps its bound. -/
theorem provider_calls_are_single_and_spaced (h : Reaches provider digest preference w) :
    w.admitted.length+w.inFlight.length ≤ 1 ∧
      (callTimes w.log).Pairwise (fun earlier later => earlier+12*10^9 ≤ later) ∧
      w.generation.cache.entries.length ≤ 32 := by
  have hsafe := safe_run h
  refine ⟨?_,(List.pairwise_append.mp hsafe.paced.spaced).1,hsafe.room⟩
  rw [← List.length_append,← World.flights]
  obtain ⟨hnone,-⟩ | ⟨f,a,hone,-⟩ := hsafe.alone
  · exact hnone ▸ Nat.zero_le 1
  · exact hone ▸ Nat.le_refl 1

theorem Step.log_subset (h : Step provider digest w w') : w.log ⊆ w'.log := by
  cases h.moves with
  | waits | cancels | prefers => exact List.Subset.refl _
  | refuses | records | admits | calls | completes | closes => exact List.subset_append_left _ _

theorem honest_run (h : Reaches provider digest preference w)
    (hdigest : DigestsDiffer digest w.log) : w.Honest provider digest := by
  induction h with
  | refl =>
    refine ⟨fun _ hmem => absurd hmem List.not_mem_nil,fun _ hmem => absurd hmem List.not_mem_nil,
      fun _ hmem => absurd hmem List.not_mem_nil,fun key r hr => ?_,
      fun _ _ _ _ hmem => absurd hmem List.not_mem_nil⟩
    have hempty : (World.start preference).generation.cache.lookup key=none :=
      AList.lookup_empty key
    rw [hempty] at hr
    cases hr
  | tail _ hstep ih => exact hstep.moves.honest hdigest (ih (hdigest.mono hstep.log_subset))

/-- Where equal digests are of equal facts among the facts of the run: every result that is given
out, fresh or from the cache, is about its request's own publication, facts and subject, and its
explanation is one that those facts admit and that the model was offered for them before. -/
theorem results_answer_their_request (h : Reaches provider digest preference w)
    (hdigest : DigestsDiffer digest w.log)
    {request : NarrativeRequest} {facts : NarrativeFactPacket} {r : NarrativeGenerationResponse}
    {result : NarrativeResult} (hanswer : .answered request facts (.ok r)∈w.log)
    (hresult : r.result=some result) :
    AnswersRequest provider request facts result ∧
      w.Offered request facts result.explanationId :=
  (honest_run h hdigest).answered request facts r result hanswer hresult

/-- Results for one subject never go back to an earlier publication, nor to other facts of the
same one, and after the end no result is given out, nothing is admitted, and a late call of the
model finds its flag set. -/
theorem results_come_in_order (h : Reaches provider digest preference w) :
    w.log.Pairwise InOrder ∧ w.log.Pairwise Silent :=
  ⟨(safe_run h).ordered.ordered,(safe_run h).closing.silent⟩

end Runs

section Browser

/-- Facts of a browser. -/
def browserFacts (cpu : Float) : NarrativeFactPacket where
  displayName := "Safari"
  category := "Web browsing"
  metrics := [⟨.cpu,cpu,.percent⟩,⟨.memory,522.0,.megabytes⟩]
  leadingResource := some .cpu
  rankingState := .topContributor
  measurementLimitations := []

/-- The texts of the whole numbers in these facts. -/
def browserNumbers : Serde.Numbers where
  f32 := fun _ => ""
  f64 := fun x => if x=5.0 then "5.0" else if x=6.0 then "6.0" else "522.0"

def browserJson (cpu : String) : List UInt8 :=
  Text.utf8 ("\x7b\"display_name\":\"Safari\",\"category\":\"Web browsing\",\"metrics\":["++
    "\x7b\"kind\":\"cpu\",\"rounded_value\":"++cpu++",\"unit\":\"percent\"\x7d,"++
    "\x7b\"kind\":\"memory\",\"rounded_value\":522.0,\"unit\":\"megabytes\"\x7d],"++
    "\"leading_resource\":\"cpu\",\"ranking_state\":\"top_contributor\","++
    "\"measurement_limitations\":[]\x7d")

/-- The SHA-256 digests of the two texts that are hashed. -/
def browserSha256 (payload : List UInt8) : Vector UInt8 32 :=
  if payload=browserJson "5.0" then
    #v[141,28,85,156,143,42,174,52,10,165,193,76,169,159,242,236,233,193,12,211,156,234,
      140,213,129,144,136,143,14,126,133,75]
  else if payload=browserJson "6.0" then
    #v[125,115,125,148,36,248,59,141,4,150,244,58,4,12,25,114,82,247,168,224,106,146,22,
      188,148,14,172,169,88,190,122,200]
  else Vector.replicate 32 0

def browserDigest : NarrativeFactPacket → Except String String :=
  canonicalFactDigest browserNumbers browserSha256

def fiveDigest : String := "8d1c559c8f2aae340aa5c14ca99ff2ece9c10cd39cea8cd58190888f0e7e854b"
def sixDigest : String := "7d737d9424f83b8d0496f43a040c197252f7a8e06a9216bc940eaca958be7ac8"

set_option maxRecDepth 2000 in
theorem browserDigests : browserDigest (browserFacts 5.0)=.ok fiveDigest ∧
    browserDigest (browserFacts 6.0)=.ok sixDigest := by
  decide

/-- A request about the one subject, with five or six percent of its time. -/
def browserPending (publicationSeq : Nat) (six : Bool) (now : Nat) : Pending where
  request :=
    { surface := .workloadInsight
      publicationSeq := publicationSeq
      subjectStableId := some "workload:test"
      factDigest := if six then sixDigest else fiveDigest }
  facts := browserFacts (if six then 6.0 else 5.0)
  now := now

/-- The request has passed its checks, and has the lock. -/
def World.ask (w : World) (p : Pending) : World :=
  ({ w with waiting := [p] } : World).enter .foundryLocal p []

def firstFlight : Flight := ⟨browserPending 7 false 5,1,0⟩
def secondFlight : Flight := ⟨browserPending 9 false (5+12*10^9),2,1⟩
def thirdFlight : Flight := ⟨browserPending 11 true (5+24*10^9),3,2⟩
def lateFlight : Flight := ⟨browserPending 12 true (5+36*10^9),4,3⟩

def cachedPending : Pending := browserPending 10 false (6+12*10^9)

/-- While the model works on the first request a newer one comes, which cancels it. -/
def overlappedWorld : World :=
  ((((World.start ⟨true,0⟩).ask firstFlight.pending).call firstFlight []).ask
    (browserPending 8 true 6)).finish .foundryLocal firstFlight (.completed "cpu_usage") []

/-- Twelve seconds on the model is called again, and its result is given out, and once more from
the cache. -/
def cachedWorld : World :=
  (((overlappedWorld.ask secondFlight.pending).call secondFlight []).finish .foundryLocal
    secondFlight (.completed "cpu_usage") []).ask cachedPending

/-- The third call is cancelled from outside. -/
def cancelledWorld : World :=
  (((cachedWorld.ask thirdFlight.pending).call thirdFlight []).cancel).finish .foundryLocal
    thirdFlight (.completed "memory_usage") []

/-- The end falls between the fourth admission and its call. -/
def closedWorld : World :=
  ((((cancelledWorld.ask lateFlight.pending).shutdown).call lateFlight []).finish .foundryLocal
    lateFlight (.completed "cpu_usage") []).ask (browserPending 13 false (5+48*10^9))

theorem browser_validated {publicationSeq now : Nat} {six : Bool} (h : publicationSeq≠0) :
    validateRequest (browserPending publicationSeq six now).request=.ok () := by
  have hdigest : ∀ digest∈[fiveDigest,sixDigest], (digest.utf8ByteSize≠64 ||
      !digest.toList.all (fun c => c.isDigit || ('a' ≤ c && c ≤ 'f')))=false := by decide
  have hsubject : (some "workload:test").any (fun subject => subject.isEmpty ||
      maxSubjectIdChars < subject.length || subject.toList.any Lib.Text.isControl)=false := by
    decide
  have hshape := hdigest (if six then sixDigest else fiveDigest) (by cases six <;> simp)
  rw [validateRequest,if_neg (show (browserPending publicationSeq six now).request.publicationSeq≠0
    from h)]
  exact (if_neg (Bool.eq_false_iff.mp hshape)).trans (if_neg (Bool.eq_false_iff.mp hsubject))

theorem browser_digested {publicationSeq now : Nat} {six : Bool} :
    browserDigest (browserPending publicationSeq six now).facts=
      .ok (browserPending publicationSeq six now).request.factDigest := by
  cases six with
  | false => exact browserDigests.1
  | true => exact browserDigests.2

theorem reaches_ask {w : World} {publicationSeq now : Nat} {six : Bool}
    (h : Reaches .foundryLocal browserDigest ⟨true,0⟩ w) (hseq : publicationSeq≠0)
    (hidle : w.preference.enhancedNarratives=true ∧ w.waiting=[]) :
    Reaches .foundryLocal browserDigest ⟨true,0⟩
      (w.ask (browserPending publicationSeq six now)) := by
  have hbegin : w.begin browserDigest (browserPending publicationSeq six now).request
      (browserPending publicationSeq six now).facts now=
        { w with waiting := [browserPending publicationSeq six now] } := by
    rw [World.begin,beginGenerate,browser_validated hseq,browser_digested,hidle.1,← hidle.2]
    simp only [ne_eq,not_true_eq_false,if_false,Bool.not_true,Bool.false_eq_true]
    rfl
  refine (h.tail (.begin w (browserPending publicationSeq six now).request
    (browserPending publicationSeq six now).facts now)).tail ?_
  rw [hbegin]
  have hstep {w : World} {p : Pending} (hwaiting : w.waiting=[p]) :
      Step .foundryLocal browserDigest w (World.enter .foundryLocal w p ([]++[])) := .enter hwaiting
  exact hstep rfl

theorem reaches_call {w : World} {f : Flight}
    (h : Reaches .foundryLocal browserDigest ⟨true,0⟩ w) (hadmitted : w.admitted=[f]) :
    Reaches .foundryLocal browserDigest ⟨true,0⟩ (w.call f []) := by
  have hstep : Step .foundryLocal browserDigest w (w.call f ([]++[])) := .call hadmitted
  exact h.tail hstep

theorem reaches_finish {w : World} {f : Flight} {selected : String}
    (h : Reaches .foundryLocal browserDigest ⟨true,0⟩ w) (hflight : w.inFlight=[f]) :
    Reaches .foundryLocal browserDigest ⟨true,0⟩
      (w.finish .foundryLocal f (.completed selected) []) := by
  have hstep : Step .foundryLocal browserDigest w
      (w.finish .foundryLocal f (.completed selected) ([]++[])) := .finish _ hflight
  exact h.tail hstep

theorem closedWorld_reached : Reaches .foundryLocal browserDigest ⟨true,0⟩ closedWorld := by
  have hoverlapped : Reaches .foundryLocal browserDigest ⟨true,0⟩ overlappedWorld := by
    refine reaches_finish (reaches_ask (reaches_call (reaches_ask .refl (by decide) ?_) ?_)
      (by decide) ?_) ?_ <;> decide
  have hcached : Reaches .foundryLocal browserDigest ⟨true,0⟩ cachedWorld := by
    refine reaches_ask (reaches_finish (reaches_call (reaches_ask hoverlapped
      (by decide) ?_) ?_) ?_) (by decide) ?_ <;> decide
  have hcancelled : Reaches .foundryLocal browserDigest ⟨true,0⟩ cancelledWorld := by
    refine reaches_finish (.tail (reaches_call (reaches_ask hcached (by decide) ?_) ?_)
      (.cancel _)) ?_ <;> decide
  refine reaches_ask (reaches_finish (reaches_call (.tail (reaches_ask hcancelled
    (by decide) ?_) (.shutdown _)) ?_) ?_) (by decide) ?_ <;> decide

set_option maxRecDepth 1000 in
/-- What the run notes: the calls, the facts that were told, what the model and the cache
answered, and the call that comes after the end. -/
theorem closedWorld_notes :
    callTimes closedWorld.log=[5,5+12*10^9,5+24*10^9,5+36*10^9] ∧
    (∀ facts∈told closedWorld.log, facts=browserFacts 5.0 ∨ facts=browserFacts 6.0) ∧
    (∀ p∈[secondFlight.pending,cachedPending],
      .answered p.request (browserFacts 5.0) (.ok
        { availability := .available
          result := some (p.result .foundryLocal .cpuUsage) })∈closedWorld.log) ∧
    closedWorld.log=closedWorld.log.takeWhile (·≠.shutDown)++
      .shutDown::(closedWorld.log.dropWhile (·≠.shutDown)).tail ∧
    .providerCalled lateFlight true∈(closedWorld.log.dropWhile (·≠.shutDown)).tail := by
  decide

/-- Four calls, each twelve seconds after the one before. -/
theorem closed_calls_single_and_spaced :
    callTimes closedWorld.log=[5,5+12*10^9,5+24*10^9,5+36*10^9] ∧
    closedWorld.admitted.length+closedWorld.inFlight.length ≤ 1 ∧
    (callTimes closedWorld.log).Pairwise (fun earlier later => earlier+12*10^9 ≤ later) ∧
    closedWorld.generation.cache.entries.length ≤ 32 :=
  ⟨closedWorld_notes.1,provider_calls_are_single_and_spaced closedWorld_reached⟩

theorem browserDigests_differ : DigestsDiffer browserDigest closedWorld.log := by
  have hdiffer : ∀ d, browserDigest (browserFacts 5.0)=.ok d →
      browserDigest (browserFacts 6.0)≠.ok d := by
    intro d h
    rw [browserDigests.1] at h
    cases h
    rw [browserDigests.2]
    decide
  intro facts hfacts facts' hfacts' d h h'
  obtain rfl | rfl := closedWorld_notes.2.1 _ hfacts
  · obtain rfl | rfl := closedWorld_notes.2.1 _ hfacts'
    · rfl
    · exact absurd h' (hdiffer d h)
  · obtain rfl | rfl := closedWorld_notes.2.1 _ hfacts'
    · exact absurd h (hdiffer d h')
    · rfl

/-- One result comes from the model and one from the cache. -/
theorem closed_results_answer :
    (∃ r result, .answered secondFlight.pending.request (browserFacts 5.0) (.ok r)∈closedWorld.log ∧
      r.result=some result ∧
      AnswersRequest .foundryLocal secondFlight.pending.request (browserFacts 5.0) result ∧
      closedWorld.Offered secondFlight.pending.request (browserFacts 5.0) result.explanationId) ∧
    ∃ r result, .answered cachedPending.request (browserFacts 5.0) (.ok r)∈closedWorld.log ∧
      r.result=some result ∧
      AnswersRequest .foundryLocal cachedPending.request (browserFacts 5.0) result ∧
      closedWorld.Offered cachedPending.request (browserFacts 5.0) result.explanationId := by
  have hanswer := closedWorld_notes.2.2.1
  have hsecond := hanswer _ List.mem_cons_self
  have hcached := hanswer _ (List.mem_cons_of_mem _ List.mem_cons_self)
  exact ⟨⟨_,_,hsecond,rfl,
      results_answer_their_request closedWorld_reached browserDigests_differ hsecond rfl⟩,
    _,_,hcached,rfl,
      results_answer_their_request closedWorld_reached browserDigests_differ hcached rfl⟩

/-- The fourth call comes after the end, with its flag set. -/
theorem closed_results_in_order :
    (∃ front rest, closedWorld.log=front++.shutDown::rest ∧ .providerCalled lateFlight true∈rest) ∧
      closedWorld.log.Pairwise InOrder ∧ closedWorld.log.Pairwise Silent :=
  ⟨⟨_,_,closedWorld_notes.2.2.2.1,closedWorld_notes.2.2.2.2⟩,
    results_come_in_order closedWorld_reached⟩

end Browser
end BatCave.Narratives
