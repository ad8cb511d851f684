import BatCave.Lib.Result

/-! Loops that refuse what they have seen: a run of fallible steps, each of which adds its
keys to a store and fails where one is there already. -/
namespace BatCave.Lib.Distinct
variable {ε σ α κ : Type}

/-- How keys are looked up in a store and added to it. -/
structure Keyed (σ κ : Type) where
  has : σ → κ → Prop
  add : σ → κ → σ
  has_add : ∀ s k k', has (add s k) k' ↔ k'=k ∨ has s k'

/-- A list of what was seen, the latest first. -/
def seen (κ : Type) : Keyed (List κ) κ where
  has s k := k∈s
  add s k := k::s
  has_add _ _ _ := List.mem_cons

/-- Two lists side by side. -/
def seenBoth (κ μ : Type) : Keyed (List κ × List μ) (κ ⊕ μ) where
  has s k := k.elim (· ∈ s.1) (· ∈ s.2)
  add s k := k.elim (fun k => (k::s.1,s.2)) (fun m => (s.1,m::s.2))
  has_add s k k' := by
    cases k with
    | inl k =>
      cases k' with
      | inl k' => simp
      | inr m => simp
    | inr m =>
      cases k' with
      | inl k' => simp
      | inr m' => simp

/-- The keys of a list are those of what is picked from it. -/
theorem flatMap_picked {β : Type} {pick : α → Option β} {keys : β → List κ} {own : α → List κ}
    (h : ∀ x, own x=(pick x).elim [] keys) (xs : List α) :
    xs.flatMap own=(xs.filterMap pick).flatMap keys := by
  induction xs with
  | nil => rfl
  | cons x xs ih =>
    rw [List.flatMap_cons,ih,h]
    cases hx : pick x with
    | none =>
      rw [List.filterMap_cons_none hx]
      rfl
    | some y =>
      rw [List.filterMap_cons_some hx,List.flatMap_cons]
      rfl

theorem contains_eq_false [BEq κ] [LawfulBEq κ] {s : List κ} {k : κ} :
    s.contains k=false ↔ k∉s := by
  rw [← Bool.not_eq_true,List.contains_iff_mem]

/-- What is new and distinct stays so past its first element, with that one seen. -/
theorem fresh_cons {key : α → κ} {x : α} {xs : List α} {s : List κ}
    (hnodup : ((x::xs).map key).Nodup) (hnew : ∀ y∈x::xs, key y∉s) :
    (xs.map key).Nodup ∧ ∀ y∈xs, key y∉key x::s := by
  rw [List.map_cons,List.nodup_cons] at hnodup
  refine ⟨hnodup.2,?_⟩
  intro y hy hmem
  cases List.mem_cons.1 hmem with
  | inl hsame =>
    have hin := List.mem_map_of_mem (f := key) hy
    rw [hsame] at hin
    exact hnodup.1 hin
  | inr hseen => exact hnew y (List.mem_cons_of_mem x hy) hseen

variable (K : Keyed σ κ)

theorem Keyed.has_foldl (ks : List κ) (s : σ) (k : κ) :
    K.has (ks.foldl K.add s) k ↔ k∈ks ∨ K.has s k := by
  induction ks generalizing s with
  | nil => simp
  | cons k' ks ih =>
    rw [List.foldl_cons,ih,K.has_add,List.mem_cons]
    tauto

theorem foldl_seen (ks s : List κ) : ks.foldl (seen κ).add s=ks.reverse++s := by
  induction ks generalizing s with
  | nil => rfl
  | cons k ks ih =>
    rw [List.foldl_cons,ih,List.reverse_cons,List.append_assoc]
    rfl

theorem foldl_seenBoth {μ : Type} (ks : List (κ ⊕ μ)) (s : List κ × List μ) :
    ks.foldl (seenBoth κ μ).add s=
      ((ks.filterMap Sum.getLeft?).reverse++s.1,(ks.filterMap Sum.getRight?).reverse++s.2) := by
  induction ks generalizing s with
  | nil => rfl
  | cons k ks ih =>
    rw [List.foldl_cons,ih]
    cases k with
    | inl k => simp [seenBoth,List.filterMap_cons]
    | inr m => simp [seenBoth,List.filterMap_cons]

theorem nodup_sum {μ : Type} (ks : List (κ ⊕ μ)) :
    ks.Nodup ↔ (ks.filterMap Sum.getLeft?).Nodup ∧ (ks.filterMap Sum.getRight?).Nodup := by
  induction ks with
  | nil => simp
  | cons k ks ih =>
    rw [List.nodup_cons,ih]
    cases k with
    | inl k => simp [List.filterMap_cons,and_assoc]
    | inr m => simp [List.filterMap_cons,and_left_comm]

/-- What a step does where it succeeds. -/
def Adds (good : α → Prop) (keys : α → List κ) (step : σ → α → Except ε σ) (x : α) : Prop :=
  ∀ s s', step s x=.ok s' ↔
    good x ∧ (keys x).Nodup ∧ (∀ k∈keys x, ¬K.has s k) ∧ s'=(keys x).foldl K.add s

/-- The loop succeeds exactly where every step is good and all keys are new and distinct. -/
theorem foldlM_ok {K : Keyed σ κ} {good : α → Prop} {keys : α → List κ}
    {step : σ → α → Except ε σ} {xs : List α} (hstep : ∀ x∈xs, Adds K good keys step x)
    (s s' : σ) : xs.foldlM step s=.ok s' ↔
      (∀ x∈xs, good x) ∧ (xs.flatMap keys).Nodup ∧ (∀ k∈xs.flatMap keys, ¬K.has s k) ∧
        s'=(xs.flatMap keys).foldl K.add s := by
  induction xs generalizing s with
  | nil =>
    rw [List.foldlM_nil,Result.pure_ok]
    simp [eq_comm]
  | cons x xs ih =>
    have hx := hstep x List.mem_cons_self
    have hxs := ih (fun y hy => hstep y (List.mem_cons_of_mem x hy))
    rw [List.foldlM_cons,Result.bind_ok]
    simp only [List.flatMap_cons,List.foldl_append,List.nodup_append,List.mem_cons,
      forall_eq_or_imp,List.mem_append]
    constructor
    · intro h
      obtain ⟨t,ht,hrest⟩ := h
      obtain ⟨hgood,hnodup,hnew,rfl⟩ := (hx s t).1 ht
      obtain ⟨hgoods,hnodups,hnews,rfl⟩ := (hxs _).1 hrest
      simp only [K.has_foldl,not_or] at hnews
      refine ⟨⟨hgood,hgoods⟩,⟨hnodup,hnodups,?_⟩,?_,rfl⟩
      · intro k hk k' hk' hsame
        rw [hsame] at hk
        exact (hnews k' hk').1 hk
      · intro k hk
        cases hk with
        | inl hk => exact hnew k hk
        | inr hk => exact (hnews k hk).2
    · intro h
      obtain ⟨⟨hgood,hgoods⟩,⟨hnodup,hnodups,happart⟩,hnew,hs'⟩ := h
      refine ⟨_,(hx s _).2 ⟨hgood,hnodup,fun k hk => hnew k (.inl hk),rfl⟩,(hxs _).2 ?_⟩
      refine ⟨hgoods,hnodups,?_,hs'⟩
      intro k hk
      rw [K.has_foldl,not_or]
      exact ⟨fun hk' => happart k hk' k hk rfl,hnew k (.inr hk)⟩

/-- A loop from nothing over single keys. -/
theorem foldlM_seen_ok {good : α → Prop} {key : α → κ} {step : List κ → α → Except ε (List κ)}
    {xs : List α}
    (hstep : ∀ x∈xs, ∀ s s', step s x=.ok s' ↔ good x ∧ key x∉s ∧ s'=key x::s) (s' : List κ) :
    xs.foldlM step []=.ok s' ↔
      (∀ x∈xs, good x) ∧ (xs.map key).Nodup ∧ s'=(xs.map key).reverse := by
  have hadds : ∀ x∈xs, Adds (seen κ) good (fun x => [key x]) step x := by
    intro x hx s s'
    rw [hstep x hx]
    simp [seen]
  have hmap : xs.flatMap (fun x => [key x])=xs.map key := (List.map_eq_flatMap).symm
  rw [foldlM_ok hadds,hmap,foldl_seen,List.append_nil]
  simp [seen]

end BatCave.Lib.Distinct
