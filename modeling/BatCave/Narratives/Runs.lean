import BatCave.Lib.Result
import BatCave.Narratives.Coordinator
import Mathlib.Logic.Relation

/-! The coordinator over every interleaving of its callers: any number of requests at once, each
in its two critical sections and in the call of the model between them, around them
cancellations, changes of the preference and the end. -/
namespace BatCave.Narratives
open BatCave.Lib

/-- What has happened, in order. A call is noted with what its flag says when it is made. -/
inductive Event where
  | admitted (f : Flight)
  | providerCalled (f : Flight) (cancelled : Bool)
  | answered (request : NarrativeRequest) (facts : NarrativeFactPacket) (reply : Reply)
  | shutDown
  deriving DecidableEq, Repr

structure World where
  preference : PreferenceState
  generation : GenerationState := {}
  flags : List Bool := []
  waiting : List Pending := []
  /-- The lock is free again, and the model is not called yet. -/
  admitted : List Flight := []
  /-- The model works on them. -/
  inFlight : List Flight := []
  log : List Event := []

variable (provider : NarrativeProvider) (digest : NarrativeFactPacket → Except String String)

/-- A request has been checked. -/
def World.begin (w : World) (request : NarrativeRequest) (facts : NarrativeFactPacket)
    (now : Nat) : World :=
  match beginGenerate digest w.preference.enhancedNarratives request facts now with
  | .inl reply => { w with log := w.log++[.answered request facts reply] }
  | .inr p => { w with waiting := p::w.waiting }

/-- A waiting request has had the lock. -/
def World.enter (w : World) (p : Pending) (rest : List Pending) : World :=
  match Narratives.enter provider p w.generation w.flags with
  | (generation,flags,.inl reply) =>
    { w with
      generation := generation
      flags := flags
      waiting := rest
      log := w.log++[.answered p.request p.facts reply] }
  | (generation,flags,.inr f) =>
    { w with
      generation := generation
      flags := flags
      waiting := rest
      admitted := f::w.admitted
      log := w.log++[.admitted f] }

/-- The model is called for an admitted request, with no lock held. -/
def World.call (w : World) (f : Flight) (rest : List Flight) : World :=
  { w with
    admitted := rest
    inFlight := f::w.inFlight
    log := w.log++[.providerCalled f (w.flags.getD f.cancelled false)] }

/-- The model has answered, and the request has had the lock again. -/
def World.finish (w : World) (f : Flight) (generated : ProviderGeneration) (rest : List Flight) :
    World :=
  let (generation,reply) := Narratives.finish provider f generated w.generation w.flags
  { w with
    generation := generation
    inFlight := rest
    log := w.log++[.answered f.pending.request f.pending.facts reply] }

/-- `cancel_generation` -/
def World.cancel (w : World) : World := { w with flags := cancelActive w.generation w.flags }

/-- The critical section of `shutdown`. -/
def World.shutdown (w : World) : World :=
  { w with
    generation := { w.generation with closed := true }
    flags := cancelActive w.generation w.flags
    log := w.log++[.shutDown] }

/-- What may happen next. Instants are taken before the lock is, in no order. -/
inductive Step : World → World → Prop
  | begin (w : World) (request : NarrativeRequest) (facts : NarrativeFactPacket) (now : Nat) :
    Step w (w.begin digest request facts now)
  | enter {w : World} {front rest : List Pending} {p : Pending}
      (hwaiting : w.waiting=front++p::rest) : Step w (w.enter provider p (front++rest))
  | call {w : World} {front rest : List Flight} {f : Flight}
      (hadmitted : w.admitted=front++f::rest) : Step w (w.call f (front++rest))
  | finish {w : World} {front rest : List Flight} {f : Flight} (generated : ProviderGeneration)
      (hflight : w.inFlight=front++f::rest) : Step w (w.finish provider f generated (front++rest))
  | cancel (w : World) : Step w w.cancel
  | setPreference (w : World) (enabled : Bool) (revision : Nat) (written : Except String Unit) :
    Step w { w with
      preference := (setEnhancedNarratives enabled revision written w.preference).1 }
  | shutdown (w : World) : Step w w.shutdown

/-- At the start nothing is asked for. -/
def World.start (preference : PreferenceState) : World := { preference := preference }

abbrev Reaches (preference : PreferenceState) (w : World) : Prop :=
  Relation.ReflTransGen (Step provider digest) (World.start preference) w

section Admission
variable {provider} {digest} {p : Pending} {s s' : GenerationState} {flags flags' : List Bool}

/-- What the first critical section may do. -/
inductive Enters (provider : NarrativeProvider) (p : Pending) (s : GenerationState)
    (flags : List Bool) : GenerationState → List Bool → Reply ⊕ Flight → Prop
  | refused {reply : Reply} (hnone : ∀ r, reply=.ok r → r.result=none) :
    Enters provider p s flags s flags (.inl reply)
  | recorded {flags' : List Bool} {r : NarrativeGenerationResponse} (hopen : s.closed=false)
      (hfresh : s.stale p=false) (hflags : flags'=flags ∨ flags'=cancelActive s flags)
      (hresult : ∀ result, r.result=some result → ∃ cached,
        s.cache.lookup (p.cacheKey provider)=some cached ∧
          result={ cached with publicationSeq := p.request.publicationSeq }) :
    Enters provider p s flags (s.record p) flags' (.inl (.ok r))
  | admitted (hopen : s.closed=false) (hfresh : s.stale p=false) (hidle : s.active=none)
      (hspaced : ∀ last, s.lastProviderCall=some last → last+minGenerationInterval ≤ p.now) :
    Enters provider p s flags ((s.record p).start p flags.length) (flags++[false])
      (.inr ⟨p,((s.record p).start p flags.length).nextId,flags.length⟩)

theorem admits (provider : NarrativeProvider) (p : Pending) (s : GenerationState)
    (flags : List Bool) : Enters provider p s flags (enter provider p s flags).1
      (enter provider p s flags).2.1 (enter provider p s flags).2.2 := by
  rw [enter]
  by_cases hclosed : s.closed=true
  · rw [if_pos hclosed]
    exact .refused (by rintro _ ⟨⟩; rfl)
  rw [if_neg hclosed]
  have hopen : s.closed=false := Bool.not_eq_true _ ▸ hclosed
  by_cases hstale : s.stale p=true
  · rw [if_pos hstale]
    exact .refused (fun _ h => by cases h)
  rw [if_neg hstale]
  have hfresh : s.stale p=false := Bool.not_eq_true _ ▸ hstale
  by_cases hfew : p.candidateIds.length < 2
  · simp only [hfew,if_true]
    exact .recorded hopen hfresh (.inr rfl) (fun _ h => by cases h)
  simp only [hfew,if_false]
  cases hcached : (s.record p).cache.lookup (p.cacheKey provider) with
  | some cached =>
    refine .recorded hopen hfresh (.inl rfl) (fun result hresult => ⟨cached,hcached,?_⟩)
    exact (Option.some.inj hresult).symm
  | none =>
    cases hactive : (s.record p).active with
    | some active =>
      have hsame : s.active=some active := hactive
      have hflags : ∀ other : Prop, [Decidable other] →
          (if other then flags.set active.cancelled true else flags)=flags ∨
            (if other then flags.set active.cancelled true else flags)=cancelActive s flags := by
        intro other hdecidable
        by_cases hother : other
        · rw [if_pos hother,cancelActive,hsame]
          exact .inr rfl
        · rw [if_neg hother]
          exact .inl rfl
      exact .recorded hopen hfresh (hflags _) (fun _ h => by cases h)
    | none =>
      by_cases hsoon : s.lastProviderCall.any (fun last => p.now-last < minGenerationInterval)=true
      · have hsoon' : (s.record p).lastProviderCall.any
          (fun last => p.now-last < minGenerationInterval)=true := hsoon
        simp only [hsoon',if_true]
        exact .recorded hopen hfresh (.inl rfl) (fun _ h => by cases h)
      · have hsoon' : ¬(s.record p).lastProviderCall.any
          (fun last => p.now-last < minGenerationInterval)=true := hsoon
        simp only [hsoon']
        refine .admitted hopen hfresh hactive (fun last hlast => ?_)
        rw [hlast,Option.any_some,decide_eq_true_eq] at hsoon
        rw [minGenerationInterval] at hsoon ⊢
        omega

end Admission

section Completion
variable {provider} {f : Flight} {s : GenerationState} {flags : List Bool}

/-- What the second critical section may do. -/
inductive Finishes (provider : NarrativeProvider) (f : Flight) (s : GenerationState)
    (flags : List Bool) : GenerationState → Reply → Prop
  | quiet {reply : Reply} (hnone : ∀ r, reply=.ok r → r.result=none) :
    Finishes provider f s flags (s.release f.id) reply
  | published {id : NarrativeExplanationId} (hgoes : flags.getD f.cancelled false=false)
      (hlatest : s.latest.lookup f.pending.subject=
        some (f.pending.request.publicationSeq,f.pending.request.factDigest))
      (hoffered : id∈f.pending.candidateIds) :
    Finishes provider f s flags
      ((s.release f.id).store (f.pending.cacheKey provider) (f.pending.result provider id))
      (.ok { availability := .available, result := some (f.pending.result provider id) })

@[simp] theorem release_latest (id : Nat) : (s.release id).latest=s.latest := by
  rw [GenerationState.release]
  split <;> rfl

@[simp] theorem release_cache (id : Nat) : (s.release id).cache=s.cache := by
  rw [GenerationState.release]
  split <;> rfl

@[simp] theorem release_closed (id : Nat) : (s.release id).closed=s.closed := by
  rw [GenerationState.release]
  split <;> rfl

@[simp] theorem release_lastProviderCall (id : Nat) :
    (s.release id).lastProviderCall=s.lastProviderCall := by
  rw [GenerationState.release]
  split <;> rfl

/-- What the cache holds once a result is stored. -/
theorem store_lookup {key key' : CacheKey} {result cached : NarrativeResult}
    (h : (s.store key result).cache.lookup key'=some cached) :
    (key'=key ∧ cached=result) ∨ s.cache.lookup key'=some cached := by
  rw [GenerationState.store] at h
  by_cases hkey : key'=key
  · subst hkey
    rw [AList.lookup_insert] at h
    exact .inl ⟨rfl,(Option.some.inj h).symm⟩
  · rw [AList.lookup_insert_ne hkey] at h
    split at h
    · rw [AList.lookup_empty] at h
      cases h
    · exact .inr h

theorem selected_offered {selected : String} {offered : List NarrativeExplanationId}
    {id : NarrativeExplanationId} (h : validateSelectedExplanation selected offered=.ok id) :
    id∈offered := by
  rw [validateSelectedExplanation] at h
  obtain ⟨chosen,-,h⟩ := Result.bind_ok.mp h
  split at h
  · next hoffered =>
    cases h
    exact List.contains_iff_mem.mp hoffered
  · cases h

theorem finishes (provider : NarrativeProvider) (f : Flight) (generated : ProviderGeneration)
    (s : GenerationState) (flags : List Bool) : Finishes provider f s flags
      (finish provider f generated s flags).1 (finish provider f generated s flags).2 := by
  simp only [finish]
  cases hflag : flags.getD f.cancelled false with
  | true => exact .quiet (by rintro _ ⟨⟩; rfl)
  | false =>
    by_cases hlatest : s.latest.lookup f.pending.subject=
        some (f.pending.request.publicationSeq,f.pending.request.factDigest)
    · simp only [release_latest,hlatest,ne_eq,not_true_eq_false,if_false,Bool.false_eq_true]
      cases generated with
      | unavailable availability => exact .quiet (by rintro _ ⟨⟩; rfl)
      | completed selected =>
        simp only
        cases hselected : validateSelectedExplanation selected f.pending.candidateIds with
        | error error => exact .quiet (fun _ h => by cases h)
        | ok id => exact .published hflag hlatest (selected_offered hselected)
    · simp only [release_latest,hlatest,ne_eq,not_false_eq_true,if_true,if_false,
        Bool.false_eq_true]
      exact .quiet (fun _ h => by cases h)

end Completion

section Moves
variable {provider} {digest}

/-- No result comes of it. -/
def NoResult (reply : Reply) : Prop := ∀ r, reply=.ok r → r.result=none

/-- What a step of the coordinator may be. -/
inductive Moves (provider : NarrativeProvider) (digest : NarrativeFactPacket → Except String String)
    (w : World) : World → Prop
  | refuses (request : NarrativeRequest) (facts : NarrativeFactPacket) {reply : Reply}
      {waiting : List Pending} (hnone : NoResult reply) (hwaiting : waiting ⊆ w.waiting) :
    Moves provider digest w
      { w with waiting := waiting, log := w.log++[.answered request facts reply] }
  | waits {p : Pending} (hdigest : digest p.facts=.ok p.request.factDigest) :
    Moves provider digest w { w with waiting := p::w.waiting }
  | records {p : Pending} {waiting : List Pending} {flags : List Bool}
      {r : NarrativeGenerationResponse} (hp : p∈w.waiting) (hwaiting : waiting ⊆ w.waiting)
      (hopen : w.generation.closed=false) (hfresh : w.generation.stale p=false)
      (hflags : flags=w.flags ∨ flags=cancelActive w.generation w.flags)
      (hresult : ∀ result, r.result=some result → ∃ cached,
        w.generation.cache.lookup (p.cacheKey provider)=some cached ∧
          result={ cached with publicationSeq := p.request.publicationSeq }) :
    Moves provider digest w
      { w with
        generation := w.generation.record p
        flags := flags
        waiting := waiting
        log := w.log++[.answered p.request p.facts (.ok r)] }
  | admits {p : Pending} {waiting : List Pending} {f : Flight}
      (hf : f=⟨p,((w.generation.record p).start p w.flags.length).nextId,w.flags.length⟩)
      (hp : p∈w.waiting) (hwaiting : waiting ⊆ w.waiting)
      (hopen : w.generation.closed=false) (hfresh : w.generation.stale p=false)
      (hidle : w.generation.active=none)
      (hspaced : ∀ last, w.generation.lastProviderCall=some last →
        last+minGenerationInterval ≤ p.now) :
    Moves provider digest w
      { w with
        generation := (w.generation.record p).start p w.flags.length
        flags := w.flags++[false]
        waiting := waiting
        admitted := f::w.admitted
        log := w.log++[.admitted f] }
  | calls {f : Flight} {front rest : List Flight} (hf : w.admitted=front++f::rest) :
    Moves provider digest w (w.call f (front++rest))
  | completes {f : Flight} {front rest : List Flight} {reply : Reply}
      {generation : GenerationState} (hf : w.inFlight=front++f::rest)
      (hfinish : Finishes provider f w.generation w.flags generation reply) :
    Moves provider digest w
      { w with
        generation := generation
        inFlight := front++rest
        log := w.log++[.answered f.pending.request f.pending.facts reply] }
  | cancels : Moves provider digest w { w with flags := cancelActive w.generation w.flags }
  | prefers (preference : PreferenceState) :
    Moves provider digest w { w with preference := preference }
  | closes : Moves provider digest w w.shutdown

theorem moves_begin (w : World) (request : NarrativeRequest) (facts : NarrativeFactPacket)
    (now : Nat) : Moves provider digest w (w.begin digest request facts now) := by
  rw [World.begin,beginGenerate]
  cases hrequest : validateRequest request with
  | error error => exact .refuses request facts (fun _ h => by cases h) (List.Subset.refl _)
  | ok value =>
    cases hdigest : digest facts with
    | error error => exact .refuses request facts (fun _ h => by cases h) (List.Subset.refl _)
    | ok factDigest =>
      by_cases hsame : request.factDigest=factDigest
      · subst hsame
        simp only [ne_eq,not_true_eq_false,if_false]
        cases w.preference.enhancedNarratives with
        | false => exact .refuses request facts (by rintro _ ⟨⟩; rfl) (List.Subset.refl _)
        | true => exact .waits (p := ⟨request,facts,now⟩) hdigest
      · simp only [ne_eq,hsame,not_false_eq_true,if_true]
        exact .refuses request facts (fun _ h => by cases h) (List.Subset.refl _)

theorem moves_enter {w : World} {front rest : List Pending} {p : Pending}
    (hwaiting : w.waiting=front++p::rest) :
    Moves provider digest w (w.enter provider p (front++rest)) := by
  have hp : p∈w.waiting := by
    rw [hwaiting]
    exact List.mem_append_right _ List.mem_cons_self
  have hrest : front++rest ⊆ w.waiting := by
    rw [hwaiting]
    exact ((List.Sublist.refl front).append (List.sublist_cons_self p rest)).subset
  have h := admits provider p w.generation w.flags
  rw [World.enter]
  generalize Narratives.enter provider p w.generation w.flags=out at h
  obtain ⟨generation,flags,reply | f⟩ := out
  · cases h with
    | refused hnone => exact .refuses p.request p.facts hnone hrest
    | recorded hopen hfresh hflags hresult =>
      exact .records hp hrest hopen hfresh hflags hresult
  · cases h with
    | admitted hopen hfresh hidle hspaced =>
      exact .admits rfl hp hrest hopen hfresh hidle hspaced

theorem Step.moves {w w' : World} (h : Step provider digest w w') : Moves provider digest w w' := by
  cases h with
  | begin request facts now => exact moves_begin w request facts now
  | enter hwaiting => exact moves_enter hwaiting
  | call hadmitted => exact .calls hadmitted
  | finish generated hflight =>
    exact .completes hflight (finishes provider _ generated w.generation w.flags)
  | cancel => exact .cancels
  | setPreference => exact .prefers _
  | shutdown => exact .closes

end Moves
end BatCave.Narratives
