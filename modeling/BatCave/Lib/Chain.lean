import Mathlib.Algebra.Ring.Nat
import Mathlib.Data.Fintype.Card
import Mathlib.Data.Fintype.Pigeonhole
import Mathlib.Logic.Relation

/-! Following a chain of links to its end through a table that remembers the answers
of earlier walks. Two walks: one decides whether the chain ends at all, the other
finds where. Nothing here knows what is linked. -/
namespace BatCave.Lib.Chain
variable {α β : Type*}

/-- Following `next` from the first element stops at the second. -/
inductive EndsAt (next : α → Option α) : α → α → Prop where
  | stop {a : α} : next a=none → EndsAt next a a
  | step {a b r : α} : next a=some b → EndsAt next b r → EndsAt next a r

def Terminates (next : α → Option α) (a : α) : Prop := ∃ r, EndsAt next a r

/-- The elements walked through so far, newest first, each linked to the one before
it and the newest to the element at hand. -/
inductive Trail (next : α → Option α) : List α → α → Prop where
  | nil {a : α} : Trail next [] a
  | cons {t : List α} {a b : α} : Trail next t b → next b=some a → Trail next (b::t) a

section Chains
variable {next : α → Option α} {a b r r' : α} {t : List α}

theorem EndsAt.of_link (h : next a=some b) : EndsAt next a r ↔ EndsAt next b r := by
  constructor
  · intro hr
    cases hr with
    | stop hn => rw [h] at hn; cases hn
    | step hb hr =>
      rw [h,Option.some.injEq] at hb
      rwa [hb]
  · exact EndsAt.step h

theorem terminates_of_link (h : next a=some b) : Terminates next a ↔ Terminates next b := by
  simp only [Terminates,EndsAt.of_link h]

theorem terminates_of_none (h : next a=none) : Terminates next a := ⟨a,.stop h⟩

/-- A chain that comes back to where it was never ends. -/
theorem not_terminates_of_cycle (h : Relation.TransGen (fun x y => next x=some y) a a) :
    ¬Terminates next a := by
  intro ⟨r,hr⟩
  induction hr with
  | stop hn =>
    obtain ⟨c,hc,_⟩ := Relation.TransGen.head'_iff.mp h
    rw [hn] at hc
    cases hc
  | @step a b r hb _ ih =>
    obtain ⟨c,hc,hca⟩ := Relation.TransGen.head'_iff.mp h
    rw [hb,Option.some.injEq] at hc
    rw [← hc] at hca
    exact ih (Relation.TransGen.tail' hca hb)

theorem Trail.reaches (h : Trail next t a) :
    ∀ m∈t, Relation.TransGen (fun x y => next x=some y) m a := by
  induction h with
  | nil => simp
  | @cons t a b _ hb ih =>
    intro m hm
    cases List.mem_cons.mp hm with
    | inl h => rw [h]; exact .single hb
    | inr h => exact (ih m h).tail hb

theorem endsAt_of_reaches (h : Relation.TransGen (fun x y => next x=some y) b a) :
    EndsAt next b r ↔ EndsAt next a r := by
  induction h with
  | single h => exact EndsAt.of_link h
  | tail _ h ih => exact ih.trans (EndsAt.of_link h)

theorem terminates_of_reaches
    (h : Relation.ReflTransGen (fun x y => next x=some y) a b) (ha : Terminates next a) :
    Terminates next b := by
  induction h with
  | refl => exact ha
  | tail _ h ih => exact (terminates_of_link h).mp ih

theorem Trail.endsAt_iff (h : Trail next t a) {m : α} (hm : m∈t) :
    EndsAt next m r ↔ EndsAt next a r :=
  endsAt_of_reaches (h.reaches m hm)

theorem Trail.terminates_iff (h : Trail next t a) {m : α} (hm : m∈t) :
    Terminates next m ↔ Terminates next a := by
  simp only [Terminates,h.endsAt_iff hm]

/-- A trail to an element whose chain ends has not met it yet. -/
theorem Trail.fresh (h : Trail next t a) (ha : Terminates next a) : a∉t := fun hm =>
  not_terminates_of_cycle (h.reaches a hm) ha

end Chains

variable [DecidableEq α]

/-- `for member in trail { table[member] = Some(value) }` -/
def remember (table : α → Option β) (trail : List α) (value : β) : α → Option β := fun a =>
  if a∈trail then some value else table a

theorem remember_some {table : α → Option β} {trail : List α} {value v : β} {a : α}
    (h : remember table trail value a=some v) : (a∈trail ∧ v=value) ∨ table a=some v := by
  simp only [remember] at h
  split at h
  · next hm =>
    cases h
    exact .inl ⟨hm,rfl⟩
  · exact .inr h

theorem remember_isSome {table : α → Option β} {trail : List α} {value : β} {a : α}
    (h : a∈trail ∨ (table a).isSome) : (remember table trail value a).isSome := by
  simp only [remember]
  split
  · rfl
  · next hm => exact h.resolve_left hm

/-- Walk on until the chain ends, an answer is known, or the walk meets itself. -/
def walkEnds (next : α → Option α) (known : α → Option Bool) :
    Nat → List α → Option α → Option (Bool × List α)
  | _,trail,none => some (true,trail)
  | 0,_,some _ => none
  | fuel+1,trail,some current =>
    match known current with
    | some answer => some (answer,trail)
    | none =>
      if current∈trail then some (false,trail)
      else walkEnds next known fuel (current::trail) (next current)

/-- Walk on until an answer is known or there is no link to follow. -/
def walkRoot (next : α → Option α) (known : α → Option α) :
    Nat → List α → α → Option (α × List α)
  | 0,_,_ => none
  | fuel+1,trail,current =>
    match known current with
    | some root => some (root,trail)
    | none =>
      match next current with
      | none => some (current,current::trail)
      | some parent => walkRoot next known fuel (current::trail) parent

def KnowsEnds (next : α → Option α) (known : α → Option Bool) : Prop :=
  ∀ a v, known a=some v → (v=true ↔ Terminates next a)

def KnowsRoots (next : α → Option α) (known : α → Option α) : Prop :=
  ∀ a r, known a=some r → EndsAt next a r

/-- A walk from an element without an answer, and its answer written to everything it
went through. -/
def classifyStep (next : α → Option α) (fuel : Nat) (known : α → Option Bool) (a : α) :
    α → Option Bool :=
  if (known a).isSome then known
  else match walkEnds next known fuel [] (some a) with
    | some (answer,trail) => remember known trail answer
    | none => known

def classify (next : α → Option α) (fuel : Nat) (all : List α) : α → Option Bool :=
  all.foldl (classifyStep next fuel) (fun _ => none)

def resolveStep (next : α → Option α) (fuel : Nat) (known : α → Option α) (a : α) :
    α → Option α :=
  match walkRoot next known fuel [] a with
  | some (root,trail) => remember known trail root
  | none => known

def resolve (next : α → Option α) (fuel : Nat) (all : List α) : α → Option α :=
  all.foldl (resolveStep next fuel) (fun _ => none)

theorem classify_snoc (next : α → Option α) (fuel : Nat) (all : List α) (a : α) :
    classify next fuel (all++[a])=classifyStep next fuel (classify next fuel all) a := by
  simp [classify]

theorem resolve_snoc (next : α → Option α) (fuel : Nat) (all : List α) (a : α) :
    resolve next fuel (all++[a])=resolveStep next fuel (resolve next fuel all) a := by
  simp [resolve]

section Walks
variable [Fintype α] {next : α → Option α}

/-- What a walk of the first kind answers is true of everything it went through, and
of everything it set out with. -/
theorem walkEnds_spec {known : α → Option Bool} (hknown : KnowsEnds next known) :
    ∀ (fuel : Nat) (trail : List α) (cursor : Option α), trail.Nodup →
      Fintype.card α+1 ≤ fuel+trail.length →
      (∀ a, cursor=some a → Trail next trail a) →
      (cursor=none → ∀ m∈trail, Terminates next m) →
      ∃ answer visited, walkEnds next known fuel trail cursor=some (answer,visited) ∧
        (∀ m∈trail, m∈visited) ∧ (∀ a, cursor=some a → a∈visited ∨ (known a).isSome) ∧
        ∀ m∈visited, (answer=true ↔ Terminates next m) := by
  intro fuel
  induction fuel with
  | zero =>
    intro trail cursor hnodup hfuel htrail hend
    cases cursor with
    | none =>
      refine ⟨true,trail,rfl,fun m hm => hm,by simp,?_⟩
      intro m hm
      simp [hend rfl m hm]
    | some a =>
      have hlen := hnodup.length_le_card
      omega
  | succ fuel ih =>
    intro trail cursor hnodup hfuel htrail hend
    cases cursor with
    | none =>
      refine ⟨true,trail,rfl,fun m hm => hm,by simp,?_⟩
      intro m hm
      simp [hend rfl m hm]
    | some a =>
      have ht := htrail a rfl
      simp only [walkEnds]
      cases hk : known a with
      | some answer =>
        refine ⟨answer,trail,rfl,fun m hm => hm,?_,?_⟩
        · intro b hb
          cases hb
          simp [hk]
        · intro m hm
          rw [ht.terminates_iff hm]
          exact hknown a answer hk
      | none =>
        by_cases hm : a∈trail
        · refine ⟨false,trail,by simp [hm],fun m hm => hm,?_,?_⟩
          · intro b hb
            cases hb
            exact .inl hm
          · intro m hv
            have hcycle := not_terminates_of_cycle (ht.reaches a hm)
            simp [ht.terminates_iff hv,hcycle]
        · have hn : (a::trail).Nodup := List.nodup_cons.mpr ⟨hm,hnodup⟩
          have hf : Fintype.card α+1 ≤ fuel+(a::trail).length := by
            rw [List.length_cons]
            omega
          have hstop : next a=none → ∀ m∈a::trail, Terminates next m := by
            intro hnone m hv
            have ha := terminates_of_none hnone
            cases List.mem_cons.mp hv with
            | inl h => rwa [h]
            | inr h => rwa [ht.terminates_iff h]
          obtain ⟨answer,visited,hw,hkeep,_,hans⟩ :=
            ih (a::trail) (next a) hn hf (fun b hb => .cons ht hb) hstop
          refine ⟨answer,visited,by simp only [hm,if_false,hw],?_,?_,hans⟩
          · exact fun m h => hkeep m (List.mem_cons_of_mem a h)
          · intro b hb
            cases hb
            exact .inl (hkeep a (by simp))

omit [DecidableEq α] in
theorem walkRoot_spec {known : α → Option α} (hknown : KnowsRoots next known) :
    ∀ (fuel : Nat) (trail : List α) (a : α), trail.Nodup →
      Fintype.card α+1 ≤ fuel+trail.length → Trail next trail a → Terminates next a →
      ∃ root visited, walkRoot next known fuel trail a=some (root,visited) ∧
        (∀ m∈trail, m∈visited) ∧ (a∈visited ∨ (known a).isSome) ∧
        ∀ m∈visited, EndsAt next m root := by
  intro fuel
  induction fuel with
  | zero =>
    intro trail a hnodup hfuel htrail hend
    have hn : (a::trail).Nodup := List.nodup_cons.mpr ⟨htrail.fresh hend,hnodup⟩
    have hlen := hn.length_le_card
    rw [List.length_cons] at hlen
    omega
  | succ fuel ih =>
    intro trail a hnodup hfuel htrail hend
    simp only [walkRoot]
    cases hk : known a with
    | some root =>
      refine ⟨root,trail,rfl,fun m hm => hm,.inr rfl,?_⟩
      intro m hm
      exact (htrail.endsAt_iff hm).mpr (hknown a root hk)
    | none =>
      cases hnext : next a with
      | none =>
        refine ⟨a,a::trail,rfl,fun m hm => List.mem_cons_of_mem a hm,.inl (by simp),?_⟩
        intro m hm
        have hstop : EndsAt next a a := .stop hnext
        cases List.mem_cons.mp hm with
        | inl h => rwa [h]
        | inr h => exact (htrail.endsAt_iff h).mpr hstop
      | some b =>
        have hn : (a::trail).Nodup := List.nodup_cons.mpr ⟨htrail.fresh hend,hnodup⟩
        have hf : Fintype.card α+1 ≤ fuel+(a::trail).length := by
          rw [List.length_cons]
          omega
        obtain ⟨root,visited,hw,hkeep,_,hroot⟩ :=
          ih (a::trail) b hn hf (.cons htrail hnext) ((terminates_of_link hnext).mp hend)
        exact ⟨root,visited,hw,fun m h => hkeep m (List.mem_cons_of_mem a h),
          .inl (hkeep a (by simp)),hroot⟩

/-- The first pass knows of every element whether its chain ends. -/
theorem classify_spec {fuel : Nat} (hf : Fintype.card α+1 ≤ fuel) (all : List α) :
    KnowsEnds next (classify next fuel all) ∧ ∀ a∈all, (classify next fuel all a).isSome := by
  induction all using List.reverseRecOn with
  | nil => simp [classify,KnowsEnds]
  | append_singleton all a ih =>
    obtain ⟨hknown,hall⟩ := ih
    rw [classify_snoc,classifyStep]
    by_cases hk : (classify next fuel all a).isSome
    · rw [if_pos hk]
      refine ⟨hknown,?_⟩
      intro b hb
      cases List.mem_append.mp hb with
      | inl h => exact hall b h
      | inr h => rwa [List.mem_singleton.mp h]
    · obtain ⟨answer,visited,hw,_,hself,hans⟩ := walkEnds_spec hknown fuel [] (some a)
        List.nodup_nil (by simpa using hf) (fun _ _ => .nil) (by simp)
      rw [if_neg hk,hw]
      refine ⟨?_,?_⟩
      · intro b v hb
        cases remember_some hb with
        | inl h =>
          rw [h.2]
          exact hans b h.1
        | inr h => exact hknown b v h
      · intro b hb
        apply remember_isSome
        cases List.mem_append.mp hb with
        | inl h => exact .inr (hall b h)
        | inr h =>
          rw [List.mem_singleton.mp h]
          exact .inl ((hself a rfl).resolve_right hk)

/-- Where every chain ends, the second pass knows the end of every chain. -/
theorem resolve_spec {fuel : Nat} (hf : Fintype.card α+1 ≤ fuel)
    (hends : ∀ a, Terminates next a) (all : List α) :
    KnowsRoots next (resolve next fuel all) ∧ ∀ a∈all, (resolve next fuel all a).isSome := by
  induction all using List.reverseRecOn with
  | nil => simp [resolve,KnowsRoots]
  | append_singleton all a ih =>
    obtain ⟨hknown,hall⟩ := ih
    obtain ⟨root,visited,hw,_,hself,hroot⟩ := walkRoot_spec hknown fuel [] a
      List.nodup_nil (by simpa using hf) .nil (hends a)
    rw [resolve_snoc,resolveStep,hw]
    refine ⟨?_,?_⟩
    · intro b r hb
      cases remember_some hb with
      | inl h =>
        rw [h.2]
        exact hroot b h.1
      | inr h => exact hknown b r h
    · intro b hb
      apply remember_isSome
      cases List.mem_append.mp hb with
      | inl h => exact .inr (hall b h)
      | inr h =>
        rw [List.mem_singleton.mp h]
        exact hself

omit [DecidableEq α] [Fintype α] in
/-- Links that go down in some order lead every chain to an end. -/
theorem terminates_of_descent (rank : α → Nat)
    (h : ∀ a b, next a=some b → rank b < rank a) (a : α) : Terminates next a := by
  induction hr : rank a using Nat.strong_induction_on generalizing a with
  | _ n ih =>
    cases hn : next a with
    | none => exact terminates_of_none hn
    | some b =>
      have hlt := h a b hn
      rw [hr] at hlt
      exact (terminates_of_link hn).mpr (ih (rank b) hlt b rfl)

omit [DecidableEq α] in
/-- Among finitely many elements a chain ends exactly when it reaches no cycle. -/
theorem terminates_iff_no_cycle (a : α) : Terminates next a ↔
    ∀ c, Relation.ReflTransGen (fun x y => next x=some y) a c →
      ¬Relation.TransGen (fun x y => next x=some y) c c := by
  constructor
  · intro ha c hac hcycle
    exact not_terminates_of_cycle hcycle (terminates_of_reaches hac ha)
  · intro hno
    by_contra hends
    -- The chain that never ends, element by element.
    let f : Nat → α := fun k => (fun b => (next b).getD b)^[k] a
    have hsucc : ∀ k, f (k+1)=(next (f k)).getD (f k) := fun k =>
      Function.iterate_succ_apply' _ k a
    have hnever : ∀ k, ¬Terminates next (f k) ∧ next (f k)=some (f (k+1)) := by
      intro k
      have hlink : ∀ k, ¬Terminates next (f k) → next (f k)=some (f (k+1)) := by
        intro k hk
        cases hn : next (f k) with
        | none => exact absurd (terminates_of_none hn) hk
        | some b => rw [hsucc,hn,Option.getD_some]
      induction k with
      | zero => exact ⟨hends,hlink 0 hends⟩
      | succ k ih =>
        have hk : ¬Terminates next (f (k+1)) := fun h => ih.1 ((terminates_of_link ih.2).mpr h)
        exact ⟨hk,hlink _ hk⟩
    have hwalk : ∀ k d, Relation.TransGen (fun x y => next x=some y) (f k) (f (k+d+1)) := by
      intro k d
      induction d with
      | zero => exact .single (hnever k).2
      | succ d ih => exact ih.tail (hnever (k+d+1)).2
    have hreach : ∀ k, Relation.ReflTransGen (fun x y => next x=some y) a (f k) := by
      intro k
      cases k with
      | zero => exact .refl
      | succ k => simpa [f] using (hwalk 0 k).to_reflTransGen
    obtain ⟨x,y,hne,hxy⟩ := Finite.exists_ne_map_eq_of_infinite f
    cases Nat.lt_or_gt_of_ne hne with
    | inl h =>
      have hc := hwalk x (y-x-1)
      rw [show x+(y-x-1)+1=y by omega,← hxy] at hc
      exact hno _ (hreach x) hc
    | inr h =>
      have hc := hwalk y (x-y-1)
      rw [show y+(x-y-1)+1=x by omega,hxy] at hc
      exact hno _ (hreach y) hc

end Walks
end BatCave.Lib.Chain
