import Mathlib.Logic.Relation

/-! Programs that call their surroundings. Every call may be answered in several ways, the
surroundings may act between two calls, and a program may stop for good at any of them. -/
namespace BatCave.Lib.Effects

inductive Program (Op : Type) (Res : Op → Type) (α : Type) where
  | ret (value : α)
  | call (op : Op) (next : Res op → Program Op Res α)

namespace Program
variable {Op : Type} {Res : Op → Type} {α β : Type}

def bind (p : Program Op Res α) (f : α → Program Op Res β) : Program Op Res β :=
  match p with
  | ret value => f value
  | call op next => call op (fun r => (next r).bind f)

instance : Monad (Program Op Res) where
  pure := ret
  bind := bind

end Program

variable {Op : Type} {Res : Op → Type} {α β ε δ : Type}

def ask (op : Op) : Program Op Res (Res op) := .call op .ret

/-- A program that may fail. -/
abbrev Fallible (Op : Type) (Res : Op → Type) (ε α : Type) := ExceptT ε (Program Op Res) α

/-- `map_err` and `?` behind a program. -/
def attempt (p : Program Op Res (Except δ α)) (error : δ → ε) : Fallible Op Res ε α :=
  ExceptT.mk (p.bind (fun r => .ret (r.mapError error)))

/-- A program that cannot fail, among those that may. -/
def always (p : Program Op Res α) : Fallible Op Res ε α :=
  ExceptT.mk (p.bind (fun r => .ret (.ok r)))

/-- A program goes on with its outcome, also when it has failed. -/
def outcome (x : Fallible Op Res δ α) : Fallible Op Res ε (Except δ α) := always x.run

/-- A call of a program, with what it was answered. -/
abbrev Event (Op : Type) (Res : Op → Type) := Σ op, Res op

structure Configuration (Op : Type) (Res : Op → Type) (σ α : Type) where
  program : Program Op Res α
  answered : List (Event Op Res)
  state : σ

section Semantics
variable {σ : Type} (rely : σ → σ → Prop) (answers : (op : Op) → σ → Res op → σ → Prop)

inductive Step : Configuration Op Res σ α → Configuration Op Res σ α → Prop
  | around {p : Program Op Res α} {answered : List (Event Op Res)} {s s' : σ}
      (hrely : rely s s') : Step ⟨p,answered,s⟩ ⟨p,answered,s'⟩
  | call {op : Op} {next : Res op → Program Op Res α} {answered : List (Event Op Res)} {s s' : σ}
      {r : Res op} (hanswer : answers op s r s') :
    Step ⟨.call op next,answered,s⟩ ⟨next r,answered++[⟨op,r⟩],s'⟩

variable (Inv : σ → Prop) (Allowed : List (Event Op Res) → Op → Prop)

/-- However its calls are answered and whatever happens between them, the program keeps the
invariant, only makes calls that are allowed, and returns what it should. -/
def Safe (Post : α → List (Event Op Res) → σ → Prop) :
    Program Op Res α → List (Event Op Res) → σ → Prop
  | .ret value,answered,s => Post value answered s
  | .call op next,answered,s => Allowed answered op ∧
    ∀ s₁ r s', rely s s₁ → answers op s₁ r s' →
      Inv s' ∧ Safe Post (next r) (answered++[⟨op,r⟩]) s'

variable {rely answers Inv Allowed} {Post Post' : α → List (Event Op Res) → σ → Prop}
variable {p : Program Op Res α} {answered : List (Event Op Res)} {s s' : σ}

theorem Safe.mono (hpost : ∀ value answered s, Post value answered s → Post' value answered s)
    (h : Safe rely answers Inv Allowed Post p answered s) :
    Safe rely answers Inv Allowed Post' p answered s := by
  induction p generalizing answered s with
  | ret value => exact hpost value answered s h
  | call op next ih =>
    refine ⟨h.1,?_⟩
    intro s₁ r s' hrely hanswer
    obtain ⟨hinv,hnext⟩ := h.2 s₁ r s' hrely hanswer
    exact ⟨hinv,ih r hnext⟩

theorem Safe.bind {Post : β → List (Event Op Res) → σ → Prop} {f : α → Program Op Res β}
    (h : Safe rely answers Inv Allowed
      (fun value answered s => Safe rely answers Inv Allowed Post (f value) answered s)
      p answered s) :
    Safe rely answers Inv Allowed Post (p >>= f) answered s := by
  induction p generalizing answered s with
  | ret value => exact h
  | call op next ih =>
    refine ⟨h.1,?_⟩
    intro s₁ r s' hrely hanswer
    obtain ⟨hinv,hnext⟩ := h.2 s₁ r s' hrely hanswer
    exact ⟨hinv,ih r hnext⟩

/-- What is left of a safe program is safe after the surroundings have acted. -/
theorem Safe.around (htrans : ∀ s s₁ s', rely s s₁ → rely s₁ s' → rely s s')
    (hpost : ∀ value answered s s', Post value answered s → rely s s' → Post value answered s')
    (h : Safe rely answers Inv Allowed Post p answered s) (hrely : rely s s') :
    Safe rely answers Inv Allowed Post p answered s' := by
  cases p with
  | ret value => exact hpost value answered s s' h hrely
  | call op next =>
    refine ⟨h.1,?_⟩
    intro s₁ r s₂ hrely' hanswer
    exact h.2 s₁ r s₂ (htrans _ _ _ hrely hrely') hanswer

theorem Safe.step (htrans : ∀ s s₁ s', rely s s₁ → rely s₁ s' → rely s s')
    (hrefl : ∀ s, rely s s) (hstable : ∀ s s', Inv s → rely s s' → Inv s')
    (hpost : ∀ value answered s s', Post value answered s → rely s s' → Post value answered s')
    {c c' : Configuration Op Res σ α}
    (hsafe : Safe rely answers Inv Allowed Post c.program c.answered c.state)
    (hinv : Inv c.state) (hstep : Step rely answers c c') :
    Inv c'.state ∧ Safe rely answers Inv Allowed Post c'.program c'.answered c'.state := by
  cases hstep with
  | around hrely => exact ⟨hstable _ _ hinv hrely,hsafe.around htrans hpost hrely⟩
  | call hanswer => exact hsafe.2 _ _ _ (hrefl _) hanswer

/-- Over every run of a safe program, the invariant holds at each of its points. -/
theorem Safe.run (htrans : ∀ s s₁ s', rely s s₁ → rely s₁ s' → rely s s')
    (hrefl : ∀ s, rely s s) (hstable : ∀ s s', Inv s → rely s s' → Inv s')
    (hpost : ∀ value answered s s', Post value answered s → rely s s' → Post value answered s')
    {c c' : Configuration Op Res σ α}
    (hsafe : Safe rely answers Inv Allowed Post c.program c.answered c.state)
    (hinv : Inv c.state) (hrun : Relation.ReflTransGen (Step rely answers) c c') :
    Inv c'.state ∧ Safe rely answers Inv Allowed Post c'.program c'.answered c'.state := by
  induction hrun with
  | refl => exact ⟨hinv,hsafe⟩
  | tail _ hstep ih => exact ih.2.step htrans hrefl hstable hpost ih.1 hstep

section Fallible
variable {Post : Except ε β → List (Event Op Res) → σ → Prop}

/-- `?` between two programs that may fail. -/
theorem Safe.andThen {x : Fallible Op Res ε α} {f : α → Fallible Op Res ε β}
    (h : Safe rely answers Inv Allowed (fun value answered s =>
      match value with
      | .ok value => Safe rely answers Inv Allowed Post (f value).run answered s
      | .error error => Post (.error error) answered s) x.run answered s) :
    Safe rely answers Inv Allowed Post (x >>= f).run answered s := by
  refine Safe.bind (h.mono ?_)
  intro value answered s hvalue
  cases value with
  | ok value => exact hvalue
  | error error => exact hvalue

theorem Safe.attempt {p : Program Op Res (Except δ α)} {error : δ → ε}
    {Post : Except ε α → List (Event Op Res) → σ → Prop}
    (h : Safe rely answers Inv Allowed
      (fun value answered s => Post (value.mapError error) answered s) p answered s) :
    Safe rely answers Inv Allowed Post (attempt p error).run answered s := by
  have hmapped : Safe rely answers Inv Allowed Post
      (p >>= fun r : Except δ α => .ret (r.mapError error)) answered s := Safe.bind h
  exact hmapped

theorem Safe.attemptThen {p : Program Op Res (Except δ α)} {error : δ → ε}
    {f : α → Fallible Op Res ε β}
    (h : Safe rely answers Inv Allowed (fun value answered s =>
      match value with
      | .ok value => Safe rely answers Inv Allowed Post (f value).run answered s
      | .error failed => Post (.error (error failed)) answered s) p answered s) :
    Safe rely answers Inv Allowed Post (Effects.attempt p error >>= f).run answered s := by
  refine Safe.andThen (Safe.attempt (h.mono ?_))
  intro value answered s hvalue
  cases value with
  | ok value => exact hvalue
  | error failed => exact hvalue

theorem Safe.alwaysThen {p : Program Op Res α} {f : α → Fallible Op Res ε β}
    (h : Safe rely answers Inv Allowed
      (fun value answered s => Safe rely answers Inv Allowed Post (f value).run answered s)
      p answered s) :
    Safe rely answers Inv Allowed Post (always p >>= f).run answered s := by
  have hkept : Safe rely answers Inv Allowed Post
      ((p >>= fun r : α => .ret (.ok r)) >>= ExceptT.bindCont f) answered s :=
    Safe.bind (Safe.bind h)
  exact hkept

theorem Safe.outcomeThen {x : Fallible Op Res δ α} {f : Except δ α → Fallible Op Res ε β}
    (h : Safe rely answers Inv Allowed
      (fun value answered s => Safe rely answers Inv Allowed Post (f value).run answered s)
      x.run answered s) :
    Safe rely answers Inv Allowed Post (outcome x >>= f).run answered s :=
  Safe.alwaysThen h

end Fallible
end Semantics
end BatCave.Lib.Effects
