import Mathlib.Data.List.Induction

/-! Histories to which one fact after the other is added: where a fact stands in them. -/
namespace BatCave.Lib.History
variable {α : Type*}

/-- What a history holds and did not hold at first came later. -/
theorem later_of_split {x y h₁ h₂ : List α} {a r : α} (hne : a≠r) (ha : a∉h₁)
    (h : x++a::y=h₁++r::h₂) : ∃ z, h₂=z++a::y := by
  induction h₁ generalizing x with
  | nil =>
    cases x with
    | nil =>
      rw [List.nil_append,List.nil_append,List.cons.injEq] at h
      exact absurd h.1 hne
    | cons b x =>
      rw [List.cons_append,List.nil_append,List.cons.injEq] at h
      exact ⟨x,h.2.symm⟩
  | cons b h₁ ih =>
    cases x with
    | nil =>
      rw [List.nil_append,List.cons_append,List.cons.injEq] at h
      exact absurd (by rw [h.1]; simp) ha
    | cons d x =>
      rw [List.cons_append,List.cons_append,List.cons.injEq] at h
      exact ih (fun hm => ha (List.mem_cons_of_mem b hm)) h.2

/-- With one more fact, an earlier one is where it was, or it is the new one. -/
theorem snoc_split {h h₁ h₂ : List α} {a fact : α} (he : h++[fact]=h₁++a::h₂) :
    (h₁=h ∧ a=fact ∧ h₂=[]) ∨ ∃ h₃, h₂=h₃++[fact] ∧ h=h₁++a::h₃ := by
  cases h₂ using List.reverseRecOn with
  | nil =>
    obtain ⟨hh,hf⟩ := List.append_inj' he rfl
    exact .inl ⟨hh.symm,(List.singleton_inj.1 hf).symm,rfl⟩
  | append_singleton h₃ last =>
    rw [← List.cons_append,← List.append_assoc] at he
    obtain ⟨hh,hf⟩ := List.append_inj' he rfl
    exact .inr ⟨h₃,by rw [hf],hh⟩

end BatCave.Lib.History
