import Mathlib.Algebra.Ring.Nat
import Mathlib.Data.Fintype.Card
import Mathlib.Data.Finset.Insert

/-! A work list that spreads from one element to the children that are taken. It remembers
no visits, so it ends where the children form a tree below the start. -/
namespace BatCave.Lib.Worklist
variable {α : Type*} [DecidableEq α] (children : α → List α) (take : α → Bool)

def visit (s : Finset α × List α) (c : α) : Finset α × List α :=
  if take c=true then (insert c s.1,c::s.2) else s

/-- Takes the newest element off the list and visits its children. -/
def spread : Nat → Finset α → List α → Option (Finset α)
  | _,taken,[] => some taken
  | 0,_,_::_ => none
  | fuel+1,taken,a::pending =>
    let s := (children a).foldl (visit take) (taken,pending)
    spread fuel s.1 s.2

/-- The least set that holds the start and the children of its elements that are taken. -/
inductive Reached (start : α) : α → Prop where
  | start : Reached start start
  | child {p c : α} : Reached start p → c∈children p → take c=true → Reached start c

/-- Nobody is the child of two, or a child twice, and nothing reached leads back to the start. -/
structure Tree (start : α) : Prop where
  single : ∀ {p q c : α}, c∈children p → c∈children q → p=q
  nodup : ∀ p, (children p).Nodup
  root : ∀ {p : α}, Reached children take start p → start∉children p

/-- What holds while the list spreads: what is taken is done or pending. -/
structure Spreads (start : α) (done taken : Finset α) (pending : List α) : Prop where
  covered : ∀ a, a∈taken ↔ a∈done ∨ a∈pending
  apart : ∀ a∈pending, a∉done
  nodup : pending.Nodup
  reached : ∀ a∈taken, Reached children take start a
  started : start∈taken
  closed : ∀ a∈done, ∀ c∈children a, take c=true → c∈taken
  parent : ∀ a∈taken, a≠start → ∃ p∈done, a∈children p

theorem foldl_visit (cs : List α) (taken : Finset α) (pending : List α) :
    cs.foldl (visit take) (taken,pending)=
      ((cs.foldl (visit take) (taken,pending)).1,(cs.filter take).reverse++pending) ∧
    ∀ a, a∈(cs.foldl (visit take) (taken,pending)).1 ↔ a∈taken ∨ a∈cs.filter take := by
  induction cs generalizing taken pending with
  | nil => simp
  | cons c cs ih =>
    rw [List.foldl_cons]
    by_cases hc : take c=true
    · have hvisit : visit take (taken,pending) c=(insert c taken,c::pending) := if_pos hc
      rw [hvisit]
      obtain ⟨hpair,hmem⟩ := ih (insert c taken) (c::pending)
      constructor
      · rw [List.filter_cons_of_pos hc,List.reverse_cons,List.append_assoc]
        exact hpair
      · intro a
        rw [hmem,List.filter_cons_of_pos hc,Finset.mem_insert,List.mem_cons]
        tauto
    · have hvisit : visit take (taken,pending) c=(taken,pending) := if_neg hc
      rw [hvisit,List.filter_cons_of_neg hc]
      exact ih taken pending

variable {children take}

section Steps
variable {start a : α} {done taken : Finset α} {pending : List α}

omit [DecidableEq α] in
theorem spreads_start : Spreads children take start ∅ {start} [start] := by
  constructor
  · simp
  · simp
  · simp
  · intro a ha
    rw [Finset.mem_singleton.1 ha]
    exact .start
  · exact Finset.mem_singleton_self start
  · intro a ha
    exact absurd ha (Finset.notMem_empty a)
  · intro a ha hne
    exact absurd (Finset.mem_singleton.1 ha) hne

omit [DecidableEq α] in
/-- The children of what is pending are not taken yet. -/
theorem Spreads.fresh (h : Spreads children take start done taken pending)
    (htree : Tree children take start) (ha : a∈pending) {c : α} (hc : c∈children a) :
    c∉taken := by
  intro hct
  have hreached : Reached children take start a := h.reached a ((h.covered a).2 (.inr ha))
  have hne : c≠start := fun he => htree.root hreached (he ▸ hc)
  obtain ⟨p,hp,hcp⟩ := h.parent c hct hne
  exact h.apart a ha (htree.single hcp hc ▸ hp)

theorem Spreads.step (h : Spreads children take start done taken (a::pending))
    (htree : Tree children take start) :
    Spreads children take start (insert a done)
      ((children a).foldl (visit take) (taken,pending)).1
      ((children a).foldl (visit take) (taken,pending)).2 := by
  obtain ⟨hpair,hmem⟩ := foldl_visit take (children a) taken pending
  have hpending : ((children a).foldl (visit take) (taken,pending)).2=
      ((children a).filter take).reverse++pending := congrArg Prod.snd hpair
  have ha : a∈a::pending := List.mem_cons_self
  have hataken : a∈taken := (h.covered a).2 (.inr ha)
  have hfresh : ∀ c∈children a, c∉taken := fun c hc => h.fresh htree ha hc
  have hrest : a∉pending ∧ pending.Nodup := List.nodup_cons.1 h.nodup
  rw [hpending]
  constructor
  · intro c
    have hcovered := h.covered c
    simp only [List.mem_cons] at hcovered
    rw [hmem,hcovered,Finset.mem_insert,List.mem_append,List.mem_reverse]
    tauto
  · intro c hc
    rw [Finset.mem_insert]
    intro hdone
    have hctaken : c∈taken := by
      cases hdone with
      | inl he => exact he ▸ hataken
      | inr hd => exact (h.covered c).2 (.inl hd)
    cases List.mem_append.1 hc with
    | inl hc => exact hfresh c (List.mem_of_mem_filter (List.mem_reverse.1 hc)) hctaken
    | inr hc =>
      cases hdone with
      | inl he => exact hrest.1 (he ▸ hc)
      | inr hd => exact h.apart c (List.mem_cons_of_mem a hc) hd
  · rw [List.nodup_append]
    refine ⟨List.nodup_reverse.2 ((htree.nodup a).filter take),hrest.2,?_⟩
    intro c hc d hd he
    have hchild := List.mem_of_mem_filter (List.mem_reverse.1 hc)
    rw [he] at hchild
    exact hfresh d hchild ((h.covered d).2 (.inr (List.mem_cons_of_mem a hd)))
  · intro c hc
    cases (hmem c).1 hc with
    | inl hc => exact h.reached c hc
    | inr hc =>
      have hchild := List.mem_filter.1 hc
      exact .child (h.reached a hataken) hchild.1 hchild.2
  · exact (hmem start).2 (.inl h.started)
  · intro d hd c hc htake
    cases Finset.mem_insert.1 hd with
    | inl he => exact (hmem c).2 (.inr (List.mem_filter.2 ⟨he ▸ hc,htake⟩))
    | inr hd => exact (hmem c).2 (.inl (h.closed d hd c hc htake))
  · intro c hc hne
    cases (hmem c).1 hc with
    | inl hc =>
      obtain ⟨p,hp,hcp⟩ := h.parent c hc hne
      exact ⟨p,Finset.mem_insert_of_mem hp,hcp⟩
    | inr hc => exact ⟨a,Finset.mem_insert_self a done,List.mem_of_mem_filter hc⟩

omit [DecidableEq α] in
/-- With nothing pending, everything reached is taken. -/
theorem Spreads.complete (h : Spreads children take start done taken [])
    (hc : Reached children take start a) : a∈taken := by
  induction hc with
  | start => exact h.started
  | @child p c _ hchild htake ih =>
    cases (h.covered p).1 ih with
    | inl hdone => exact h.closed p hdone c hchild htake
    | inr hpending => cases hpending

end Steps

variable [Fintype α]

theorem spread_run {start : α} (htree : Tree children take start) {fuel : Nat}
    {done taken : Finset α} {pending : List α}
    (h : Spreads children take start done taken pending)
    (hfuel : Fintype.card α ≤ fuel+done.card) :
    ∃ s, spread children take fuel taken pending=some s ∧
      ∀ a, a∈s ↔ Reached children take start a := by
  induction fuel generalizing done taken pending with
  | zero =>
    cases pending with
    | nil => exact ⟨taken,by rw [spread],fun a => ⟨h.reached a,h.complete⟩⟩
    | cons a pending =>
      have hall : done=Finset.univ := Finset.card_eq_iff_eq_univ done |>.1
        (Nat.le_antisymm (Finset.card_le_univ done) (by omega))
      exact absurd (hall ▸ Finset.mem_univ a) (h.apart a List.mem_cons_self)
  | succ fuel ih =>
    cases pending with
    | nil => exact ⟨taken,by rw [spread],fun a => ⟨h.reached a,h.complete⟩⟩
    | cons a pending =>
      have hcard : (insert a done).card=done.card+1 :=
        Finset.card_insert_of_notMem (h.apart a List.mem_cons_self)
      rw [spread]
      exact ih (h.step htree) (by omega)

/-- As much fuel as there are elements is enough, and what is taken is what is reached. -/
theorem spread_spec {start : α} (htree : Tree children take start) {fuel : Nat}
    (hfuel : Fintype.card α ≤ fuel) :
    ∃ s, spread children take fuel {start} [start]=some s ∧
      ∀ a, a∈s ↔ Reached children take start a :=
  spread_run htree spreads_start (by omega)

end BatCave.Lib.Worklist
