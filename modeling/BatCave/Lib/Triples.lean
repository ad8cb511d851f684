import BatCave.Lib.Effects

/-! Triples for programs that call their surroundings: what holds before, what is kept at every
point between, and what holds after, whether the program answers or fails. Between two calls
nothing else happens. -/
namespace BatCave.Lib.Effects
variable {Op : Type} {Res : Op → Type} {σ α β ε δ : Type}

/-- However the calls of the program are answered, it keeps the invariant at each of its points
and leaves what it should. -/
def Triple (answers : (op : Op) → σ → Res op → σ → Prop) (Inv : σ → Prop) (P : σ → Prop)
    (p : Program Op Res α) (Q : α → σ → Prop) : Prop :=
  ∀ answered s, Inv s → P s → Safe Eq answers Inv (fun _ _ => True)
    (fun value _ s => Inv s ∧ Q value s) p answered s

section Programs
variable {answers : (op : Op) → σ → Res op → σ → Prop} {Inv : σ → Prop}
variable {P P' : σ → Prop} {Q Q' : α → σ → Prop} {p : Program Op Res α}

theorem Triple.conseq (h : Triple answers Inv P p Q) (hpre : ∀ s, Inv s → P' s → P s)
    (hpost : ∀ value s, Inv s → Q value s → Q' value s) : Triple answers Inv P' p Q' := by
  intro answered s hinv hP
  exact (h answered s hinv (hpre s hinv hP)).mono
    (fun value _ s hend => ⟨hend.1,hpost value s hend.1 hend.2⟩)

theorem Triple.pre (h : Triple answers Inv P p Q) (hpre : ∀ s, Inv s → P' s → P s) :
    Triple answers Inv P' p Q := h.conseq hpre (fun _ _ _ hQ => hQ)

theorem Triple.ret {value : α} (h : ∀ s, Inv s → P s → Q value s) :
    Triple answers Inv P (.ret value) Q :=
  fun _ s hinv hP => ⟨hinv,h s hinv hP⟩

theorem Triple.call {op : Op} {next : Res op → Program Op Res α} {R : Res op → σ → Prop}
    (hop : ∀ s r s', Inv s → P s → answers op s r s' → Inv s' ∧ R r s')
    (hnext : ∀ r, Triple answers Inv (R r) (next r) Q) :
    Triple answers Inv P (.call op next) Q := by
  intro answered s hinv hP
  refine ⟨trivial,?_⟩
  intro s₁ r s' hsame hanswer
  subst hsame
  obtain ⟨hinv',hR⟩ := hop s r s' hinv hP hanswer
  exact ⟨hinv',hnext r _ s' hinv' hR⟩

theorem Triple.bind {f : α → Program Op Res β} {Q' : β → σ → Prop}
    (h : Triple answers Inv P p Q) (hf : ∀ value, Triple answers Inv (Q value) (f value) Q') :
    Triple answers Inv P (p >>= f) Q' := by
  intro answered s hinv hP
  refine Safe.bind ((h answered s hinv hP).mono ?_)
  intro value answered s hend
  exact hf value answered s hend.1 hend.2

/-- Wherever a program is stopped, the invariant holds, and where it ends, so does what it was
to leave. -/
theorem Triple.run (h : Triple answers Inv P p Q) {c : Configuration Op Res σ α} {s : σ}
    (hinv : Inv s) (hP : P s)
    (hrun : Relation.ReflTransGen (Step Eq answers) ⟨p,[],s⟩ c) :
    Inv c.state ∧ ∀ value, c.program=.ret value → Q value c.state := by
  have hkept : Inv c.state ∧ Safe Eq answers Inv (fun _ _ => True)
      (fun value _ s => Inv s ∧ Q value s) c.program c.answered c.state := by
    refine Safe.run ?_ ?_ ?_ ?_ (h [] s hinv hP) hinv hrun
    · exact fun _ _ _ => Eq.trans
    · exact fun _ => rfl
    · intro s s' hs heq
      exact heq ▸ hs
    · intro value answered s s' hend heq
      exact heq ▸ hend
  refine ⟨hkept.1,?_⟩
  intro value hvalue
  have hend := hkept.2
  rw [hvalue] at hend
  exact hend.2

end Programs

/-- A triple of a program that may fail, with what its failures leave. -/
def Ensures (answers : (op : Op) → σ → Res op → σ → Prop) (Inv : σ → Prop) (P : σ → Prop)
    (x : Fallible Op Res ε α) (Q : α → σ → Prop) (E : σ → Prop) : Prop :=
  Triple answers Inv P x.run (fun r s => match r with | .ok value => Q value s | .error _ => E s)

section Failures
variable {answers : (op : Op) → σ → Res op → σ → Prop} {Inv : σ → Prop}
variable {P P' E E' : σ → Prop} {Q Q' : α → σ → Prop} {x : Fallible Op Res ε α}

theorem Ensures.conseq (h : Ensures answers Inv P x Q E) (hpre : ∀ s, Inv s → P' s → P s)
    (hpost : ∀ value s, Inv s → Q value s → Q' value s) (herror : ∀ s, Inv s → E s → E' s) :
    Ensures answers Inv P' x Q' E' := by
  refine Triple.conseq h hpre ?_
  intro r s hinv hend
  cases r with
  | ok value => exact hpost value s hinv hend
  | error error => exact herror s hinv hend

theorem Ensures.pre (h : Ensures answers Inv P x Q E) (hpre : ∀ s, Inv s → P' s → P s) :
    Ensures answers Inv P' x Q E :=
  h.conseq hpre (fun _ _ _ hQ => hQ) (fun _ _ hE => hE)

theorem Ensures.post (h : Ensures answers Inv P x Q E)
    (hpost : ∀ value s, Inv s → Q value s → Q' value s) : Ensures answers Inv P x Q' E :=
  h.conseq (fun _ _ hP => hP) hpost (fun _ _ hE => hE)

theorem Ensures.onError (h : Ensures answers Inv P x Q E) (herror : ∀ s, Inv s → E s → E' s) :
    Ensures answers Inv P x Q E' :=
  h.conseq (fun _ _ hP => hP) (fun _ _ _ hQ => hQ) herror

/-- What a failure leaves need not be told. -/
theorem Ensures.anyError (h : Ensures answers Inv P x Q E) :
    Ensures answers Inv P x Q (fun _ => True) := h.onError (fun _ _ _ => trivial)

theorem Ensures.pure {value : α} (h : ∀ s, Inv s → P s → Q value s) :
    Ensures answers Inv P (pure value : Fallible Op Res ε α) Q E := Triple.ret h

theorem Ensures.throw {error : ε} (h : ∀ s, Inv s → P s → E s) :
    Ensures answers Inv P (throw error : Fallible Op Res ε α) Q E := Triple.ret h

theorem Ensures.bind {f : α → Fallible Op Res ε β} {Q' : β → σ → Prop}
    (h : Ensures answers Inv P x Q E) (hf : ∀ value, Ensures answers Inv (Q value) (f value) Q' E) :
    Ensures answers Inv P (x >>= f) Q' E := by
  refine Triple.bind h ?_
  intro r
  cases r with
  | ok value => exact hf value
  | error error => exact Triple.ret (fun _ _ hE => hE)

theorem Ensures.alwaysThen {p : Program Op Res α} {f : α → Fallible Op Res ε β}
    {Q' : β → σ → Prop} (h : Triple answers Inv P p Q)
    (hf : ∀ value, Ensures answers Inv (Q value) (f value) Q' E) :
    Ensures answers Inv P (always p >>= f) Q' E := by
  intro answered s hinv hP
  refine Safe.alwaysThen ((h answered s hinv hP).mono ?_)
  intro value answered s hend
  exact hf value answered s hend.1 hend.2

/-- A fact about no state is a hypothesis of what comes after. -/
theorem Ensures.assume {fact : Prop} (h : fact → Ensures answers Inv P x Q E) :
    Ensures answers Inv (fun s => fact ∧ P s) x Q E :=
  fun answered s hinv hP => h hP.1 answered s hinv hP.2

/-- A program whose failure is looked at. -/
theorem Ensures.outcomeThen {f : Except δ α → Fallible Op Res ε β} {x : Fallible Op Res δ α}
    {Q' : β → σ → Prop} (h : Ensures answers Inv P x Q E)
    (hok : ∀ value, Ensures answers Inv (Q value) (f (.ok value)) Q' E')
    (herror : ∀ error, Ensures answers Inv E (f (.error error)) Q' E') :
    Ensures answers Inv P (outcome x >>= f) Q' E' := by
  intro answered s hinv hP
  refine Safe.outcomeThen ((h answered s hinv hP).mono ?_)
  intro r answered s hend
  cases r with
  | ok value => exact hok value answered s hend.1 hend.2
  | error error => exact herror error answered s hend.1 hend.2

end Failures
end BatCave.Lib.Effects
