import Mathlib.Data.List.Induction

/-! Computations that may fail, as `Result` with `?` writes them: when they succeed,
and what a run of fallible steps preserves. -/
namespace BatCave.Lib.Result
variable {ε α β σ : Type*}

theorem bind_ok {α β : Type} {x : Except ε α} {f : α → Except ε β} {r : β} :
    (x >>= f)=.ok r ↔ ∃ v, x=.ok v ∧ f v=.ok r := by
  cases x <;> simp [bind,Except.bind]

theorem map_ok {α β : Type} {x : Except ε α} {f : α → β} {r : β} :
    (f <$> x)=.ok r ↔ ∃ v, x=.ok v ∧ f v=r := by
  cases x <;> simp [Functor.map,Except.map]

theorem pure_ok {α : Type} {v r : α} : (pure v : Except ε α)=.ok r ↔ v=r := by
  simp [pure,Except.pure]

theorem throw_ok {α : Type} {e : ε} {r : α} : (throw e : Except ε α)=.ok r ↔ False := by
  simp [throw,throwThe,MonadExceptOf.throw]

theorem unit_bind_ok {β : Type} {x : Except ε Unit} {f : Unit → Except ε β} {r : β} :
    (x >>= f)=.ok r ↔ x=.ok () ∧ f ()=.ok r := by
  cases x <;> simp [bind,Except.bind]

theorem mapError_ok {ε' α : Type} {ε : Type} {x : Except ε α} {f : ε → ε'} {r : α} :
    x.mapError f=.ok r ↔ x=.ok r := by
  cases x <;> simp [Except.mapError]

theorem exists_unit {p : Unit → Prop} : (∃ u, p u) ↔ p () :=
  ⟨fun ⟨_,h⟩ => h,fun h => ⟨(),h⟩⟩

/-- `if bad { return Err(error) }` -/
def reject (bad : Bool) (error : ε) : Except ε Unit := if bad then .error error else .ok ()

theorem reject_ok {bad : Bool} {e : ε} {r : Unit} : reject bad e=.ok r ↔ bad=false := by
  cases bad <;> simp [reject]

/-- `Option::ok_or` -/
def okOr {α : Type} (x : Option α) (error : ε) : Except ε α := x.elim (.error error) .ok

theorem okOr_ok {α : Type} {x : Option α} {e : ε} {v : α} : okOr x e=.ok v ↔ x=some v := by
  cases x <;> simp [okOr]

theorem okOr_bind_ok {α β : Type} {x : Option α} {e : ε} {f : α → Except ε β} {r : β} :
    (okOr x e >>= f)=.ok r ↔ ∃ v, x=some v ∧ f v=.ok r := by
  cases x <;> simp [okOr,bind,Except.bind]

/-- `if let Some(value) = x { check(value)? }` -/
def ifSome {α : Type} (x : Option α) (check : α → Except ε Unit) : Except ε Unit :=
  x.elim (.ok ()) check

theorem ifSome_ok {α : Type} {x : Option α} {check : α → Except ε Unit} :
    ifSome x check=.ok () ↔ ∀ v∈x.toList, check v=.ok () := by
  cases x <;> simp [ifSome]

theorem forM_ok {α : Type} {f : α → Except ε Unit} {xs : List α} :
    xs.forM f=.ok () ↔ ∀ x∈xs, f x=.ok () := by
  induction xs with
  | nil => simp [List.forM,pure,Except.pure]
  | cons x xs ih =>
    change (f x >>= fun _ => xs.forM f)=.ok () ↔ _
    rw [unit_bind_ok,ih]
    simp

theorem foldlM_snoc_ok {σ α : Type} {step : σ → α → Except ε σ} {xs : List α} {a : α}
    {s s' : σ} : (xs++[a]).foldlM step s=.ok s' ↔
      ∃ t, xs.foldlM step s=.ok t ∧ step t a=.ok s' := by
  rw [List.foldlM_append,bind_ok]
  simp only [List.foldlM_cons,List.foldlM_nil,bind_pure]

/-- Loops whose steps succeed alike succeed alike. -/
theorem foldlM_ok_congr {ε' σ α : Type} {ε : Type} {f : σ → α → Except ε σ}
    {g : σ → α → Except ε' σ} (h : ∀ s x s', f s x=.ok s' ↔ g s x=.ok s') (xs : List α) (s s' : σ) :
    xs.foldlM f s=.ok s' ↔ xs.foldlM g s=.ok s' := by
  induction xs generalizing s with
  | nil => rw [List.foldlM_nil,List.foldlM_nil,pure_ok,pure_ok]
  | cons x xs ih =>
    rw [List.foldlM_cons,List.foldlM_cons,bind_ok,bind_ok]
    simp only [h,ih]

/-- A loop over written items with a written state: where each step is the writing of a next
state as soon as its item is good, so is the loop. What still fits is kept from step to step. -/
theorem foldlM_written_ok {σ τ α β : Type} {f : σ → β → Except ε σ} {write : α → β}
    {state : τ → σ} {next : τ → α → τ} {good : α → Prop} (fits : τ → List α → Prop)
    (hstep : ∀ t x xs, fits t (x::xs) → (∀ s', f (state t) (write x)=.ok s' ↔
      good x ∧ s'=state (next t x)) ∧ fits (next t x) xs) (xs : List α) (t : τ) (s' : σ)
    (hfits : fits t xs) : (xs.map write).foldlM f (state t)=.ok s' ↔
      (∀ x∈xs, good x) ∧ s'=state (xs.foldl next t) := by
  induction xs generalizing t with
  | nil =>
    rw [List.map_nil,List.foldlM_nil,pure_ok,List.foldl_nil,eq_comm]
    simp
  | cons x xs ih =>
    obtain ⟨hx,hrest⟩ := hstep t x xs hfits
    rw [List.map_cons,List.foldlM_cons,bind_ok,List.foldl_cons,List.forall_mem_cons]
    constructor
    · intro h
      obtain ⟨s,hs,hloop⟩ := h
      obtain ⟨hgood,rfl⟩ := (hx s).1 hs
      obtain ⟨hgoods,hs'⟩ := (ih (next t x) hrest).1 hloop
      exact ⟨⟨hgood,hgoods⟩,hs'⟩
    · intro h
      obtain ⟨⟨hgood,hgoods⟩,hs'⟩ := h
      exact ⟨_,(hx _).2 ⟨hgood,rfl⟩,(ih (next t x) hrest).2 ⟨hgoods,hs'⟩⟩

/-- A property of the steps taken and the state reached that every successful step
keeps holds of every successful run. -/
theorem foldlM_invariant {σ α : Type} {step : σ → α → Except ε σ} {s₀ : σ}
    (P : List α → σ → Prop) (hinit : P [] s₀)
    (hstep : ∀ xs a s s', P xs s → step s a=.ok s' → P (xs++[a]) s') (xs : List α) (s : σ)
    (h : xs.foldlM step s₀=.ok s) : P xs s := by
  induction xs using List.reverseRecOn generalizing s with
  | nil =>
    obtain rfl : s₀=s := pure_ok.mp h
    exact hinit
  | append_singleton xs a ih =>
    obtain ⟨t,ht,ha⟩ := foldlM_snoc_ok.mp h
    exact hstep xs a t s (ih t ht) ha

end BatCave.Lib.Result
