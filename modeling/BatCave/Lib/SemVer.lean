import BatCave.Lib.Text
import Mathlib.Data.List.Chain

/-! Lists of pieces between dots, cutting a list at the first of a separator, and the grammar
of version numbers that is made of both. Nothing here reads a version. -/
namespace BatCave.Lib.SemVer
open BatCave.Lib.Text

section Cut
variable {α : Type} [DecidableEq α]

/-- `str::split_once` with one character: what stands before and behind its first occurrence. -/
def splitOnce (sep : α) : List α → Option (List α × List α)
  | [] => none
  | x::xs => if x=sep then some ([],xs) else (splitOnce sep xs).map (fun p => (x::p.1,p.2))

variable {sep : α} {xs front back : List α}

theorem splitOnce_eq_none : splitOnce sep xs=none ↔ sep∉xs := by
  induction xs with
  | nil => simp [splitOnce]
  | cons x xs ih =>
    by_cases hx : x=sep
    · simp [splitOnce,hx]
    · simp [splitOnce,hx,ih,Ne.symm hx]

theorem splitOnce_eq_some :
    splitOnce sep xs=some (front,back) ↔ xs=front++sep::back ∧ sep∉front := by
  induction xs generalizing front with
  | nil => simp [splitOnce]
  | cons x xs ih =>
    by_cases hx : x=sep
    · subst hx
      cases front with
      | nil => simp [splitOnce,eq_comm]
      | cons y front =>
        simp only [splitOnce,if_true,Option.some.injEq,Prod.mk.injEq,List.cons_append,
          List.cons.injEq,List.mem_cons,not_or]
        constructor
        · intro h
          cases h.1
        · intro ⟨⟨hxy,_⟩,hne,_⟩
          exact absurd hxy hne
    · cases front with
      | nil => simp [splitOnce,hx]
      | cons y front =>
        simp only [splitOnce,hx,if_false,Option.map_eq_some_iff,Prod.exists,Prod.mk.injEq,
          List.cons.injEq,List.cons_append,List.mem_cons,not_or]
        constructor
        · intro ⟨f,b,hcut,⟨hxy,hf⟩,hb⟩
          subst hxy hf hb
          obtain ⟨hsplit,hfront⟩ := ih.mp hcut
          exact ⟨⟨rfl,hsplit⟩,Ne.symm hx,hfront⟩
        · intro ⟨⟨hxy,hsplit⟩,_,hfront⟩
          exact ⟨front,back,ih.mpr ⟨hsplit,hfront⟩,⟨hxy,rfl⟩,rfl⟩

end Cut

/-- Pieces with a property, one or more of them, and dots in between. -/
inductive Dotted (P : List Char → Prop) : List Char → Prop where
  | one {piece : List Char} (hpiece : P piece) : Dotted P piece
  | more {piece rest : List Char} (hpiece : P piece) (hrest : Dotted P rest) :
    Dotted P (piece++ '.'::rest)

namespace Dotted
variable {P Q : List Char → Prop} {xs ys : List Char}

theorem mono (h : Dotted P xs) (hPQ : ∀ piece, P piece → Q piece) : Dotted Q xs := by
  induction h with
  | one hpiece => exact .one (hPQ _ hpiece)
  | more hpiece _ ih => exact .more (hPQ _ hpiece) ih

theorem append (h : Dotted P xs) (h' : Dotted P ys) : Dotted P (xs++ '.'::ys) := by
  induction h with
  | one hpiece => exact .more hpiece h'
  | more hpiece _ ih =>
    rw [List.append_assoc,List.cons_append]
    exact .more hpiece ih

/-- The last piece of one and the first of the other are joined to one piece. -/
theorem join {joint : List Char} (h : Dotted P xs) (h' : Dotted P ys)
    (hjoin : ∀ piece next, P piece → P next → P (piece++joint++next)) :
    Dotted P (xs++joint++ys) := by
  induction h with
  | one hpiece =>
    cases h' with
    | one hnext => exact .one (hjoin _ _ hpiece hnext)
    | more hnext hrest =>
      rw [← List.append_assoc]
      exact .more (hjoin _ _ hpiece hnext) hrest
  | more hpiece _ ih =>
    have hmore := Dotted.more hpiece ih
    simpa only [List.append_assoc,List.cons_append] using hmore

theorem chars (h : Dotted P xs) {R : Char → Prop} (hP : ∀ piece, P piece → ∀ c∈piece, R c)
    (hdot : R '.') : ∀ c∈xs, R c := by
  induction h with
  | one hpiece => exact hP _ hpiece
  | more hpiece _ ih =>
    intro c hc
    rw [List.mem_append,List.mem_cons] at hc
    obtain hc | rfl | hc := hc
    · exact hP _ hpiece c hc
    · exact hdot
    · exact ih c hc

/-- Splitting at the dots finds the pieces. -/
theorem iff_splitOn (hP : ∀ piece, P piece → '.' ∉ piece) :
    Dotted P xs ↔ ∀ piece∈xs.splitOn '.', P piece := by
  constructor
  · intro h
    induction h with
    | @one piece hpiece =>
      rw [List.splitOn_eq_singleton (hP _ hpiece)]
      simpa using hpiece
    | @more piece rest hpiece _ ih =>
      rw [List.splitOn_append_cons_self_of_not_mem (hP _ hpiece)]
      simpa using ⟨hpiece,ih⟩
  · intro h
    have hjoin : ['.'].intercalate (xs.splitOn '.')=xs := List.intercalate_splitOn '.'
    rw [← hjoin]
    have hne := List.splitOn_ne_nil '.' xs
    generalize xs.splitOn '.'=pieces at h hne
    induction pieces with
    | nil => exact absurd rfl hne
    | cons piece pieces ih =>
      rw [List.forall_mem_cons] at h
      cases pieces with
      | nil => simpa using Dotted.one h.1
      | cons next pieces =>
        rw [List.intercalate_cons_cons,List.append_assoc]
        exact .more h.1 (ih h.2 (by simp))

/-- Pieces that are not empty and hold no dot keep the dots apart. -/
theorem no_two_dots (h : Dotted P xs) (hP : ∀ piece, P piece → piece≠[] ∧ '.' ∉ piece) :
    ¬['.','.'] <:+: xs := by
  have hchain : xs.IsChain (fun a b => ¬(a= '.' ∧ b= '.')) ∧ xs.head?≠some '.' := by
    have hpiece : ∀ piece, P piece → piece.IsChain (fun a b => ¬(a= '.' ∧ b= '.')) := by
      intro piece hpiece
      refine List.isChain_iff_getElem.mpr ?_
      intro i hi hdots
      exact (hP piece hpiece).2 (hdots.1 ▸ List.getElem_mem _)
    have hhead : ∀ piece, P piece → piece.head?≠some '.' := fun piece hpiece hdot =>
      (hP piece hpiece).2 (List.mem_of_mem_head? hdot)
    induction h with
    | one hone => exact ⟨hpiece _ hone,hhead _ hone⟩
    | @more piece rest hone _ ih =>
      refine ⟨List.isChain_append.mpr ⟨hpiece _ hone,List.isChain_cons.mpr ⟨?_,ih.1⟩,?_⟩,?_⟩
      · intro y hy hdots
        exact ih.2 (hdots.2 ▸ hy)
      · intro x hx y _ hdots
        exact (hP piece hone).2 (hdots.1 ▸ List.mem_of_mem_getLast? hx)
      · rw [List.head?_append_of_ne_nil _ (hP piece hone).1]
        exact hhead _ hone
  intro ⟨front,back,hxs⟩
  rw [← hxs] at hchain
  have hpair := hchain.1.left_of_append.right_of_append
  simp at hpair

end Dotted

/-! The grammar of SemVer 2.0.0, production by production. -/

/-- `<identifier character>` -/
def IdentifierChar (c : Char) : Prop := c.isAlphanum=true ∨ c= '-'

/-- `<build identifier>`: `<identifier characters>`, digits alone included. -/
def BuildIdentifier (xs : List Char) : Prop := xs≠[] ∧ ∀ c∈xs, IdentifierChar c

/-- `<alphanumeric identifier>`: some character is not a digit. -/
def AlphanumericIdentifier (xs : List Char) : Prop :=
  (∀ c∈xs, IdentifierChar c) ∧ ∃ c∈xs, c.isDigit=false

/-- `<numeric identifier>`: zero, or digits that do not start with one. -/
def NumericIdentifier (xs : List Char) : Prop :=
  xs=['0'] ∨ ∃ d ds, xs=d::ds ∧ d.isDigit=true ∧ d ≠ '0' ∧ ∀ c∈ds, c.isDigit=true

/-- `<pre-release identifier>` -/
def PreReleaseIdentifier (xs : List Char) : Prop :=
  AlphanumericIdentifier xs ∨ NumericIdentifier xs

/-- `<version core>` -/
inductive VersionCore : List Char → Prop where
  | mk {major minor patch : List Char} (hmajor : NumericIdentifier major)
    (hminor : NumericIdentifier minor) (hpatch : NumericIdentifier patch) :
    VersionCore (major++ '.'::(minor++ '.'::patch))

/-- `<valid semver>` -/
inductive ValidSemver : List Char → Prop where
  | core {core : List Char} (hcore : VersionCore core) : ValidSemver core
  | prerelease {core pre : List Char} (hcore : VersionCore core)
    (hpre : Dotted PreReleaseIdentifier pre) : ValidSemver (core++ '-'::pre)
  | build {core build : List Char} (hcore : VersionCore core)
    (hbuild : Dotted BuildIdentifier build) : ValidSemver (core++ '+'::build)
  | prereleaseBuild {core pre build : List Char} (hcore : VersionCore core)
    (hpre : Dotted PreReleaseIdentifier pre) (hbuild : Dotted BuildIdentifier build) :
    ValidSemver (core++ '-'::pre++ '+'::build)

section Grammar
variable {xs : List Char} {c : Char}

theorem NumericIdentifier.digits (h : NumericIdentifier xs) : xs≠[] ∧ ∀ c∈xs, c.isDigit=true := by
  cases h with
  | inl hzero =>
    subst hzero
    exact ⟨by simp,List.forall_mem_singleton.mpr (by decide)⟩
  | inr hmany =>
    obtain ⟨d,ds,rfl,hd,_,hds⟩ := hmany
    exact ⟨by simp,List.forall_mem_cons.mpr ⟨hd,hds⟩⟩

theorem NumericIdentifier.buildIdentifier (h : NumericIdentifier xs) : BuildIdentifier xs := by
  refine ⟨h.digits.1,fun c hc => .inl ?_⟩
  rw [Char.isAlphanum,h.digits.2 c hc,Bool.or_true]

theorem PreReleaseIdentifier.buildIdentifier (h : PreReleaseIdentifier xs) :
    BuildIdentifier xs := by
  cases h with
  | inr hnumeric => exact hnumeric.buildIdentifier
  | inl halpha =>
    obtain ⟨c,hc,_⟩ := halpha.2
    exact ⟨List.ne_nil_of_mem hc,halpha.1⟩

theorem BuildIdentifier.no_dot (h : BuildIdentifier xs) : '.' ∉ xs := by
  intro hdot
  have hno : ¬IdentifierChar '.' := by simp [IdentifierChar]
  exact hno (h.2 _ hdot)

theorem BuildIdentifier.no_plus (h : BuildIdentifier xs) : '+' ∉ xs := by
  intro hplus
  have hno : ¬IdentifierChar '+' := by simp [IdentifierChar]
  exact hno (h.2 _ hplus)

theorem NumericIdentifier.no_hyphen (h : NumericIdentifier xs) : '-' ∉ xs := by
  intro hhyphen
  have hdigit := h.digits.2 _ hhyphen
  simp at hdigit

theorem VersionCore.dotted (h : VersionCore xs) : Dotted NumericIdentifier xs := by
  cases h with
  | mk hmajor hminor hpatch => exact .more hmajor (.more hminor (.one hpatch))

theorem VersionCore.no_hyphen (h : VersionCore xs) : '-' ∉ xs := fun hhyphen =>
  h.dotted.chars (R := fun c => c ≠ '-')
    (fun _ hpiece _ hc heq => hpiece.no_hyphen (heq ▸ hc)) (by decide) _ hhyphen rfl

theorem no_plus_of_dotted {P : List Char → Prop} (h : Dotted P xs)
    (hP : ∀ piece, P piece → BuildIdentifier piece) : '+' ∉ xs := fun hplus =>
  h.chars (R := fun c => c ≠ '+')
    (fun _ hpiece _ hc heq => (hP _ hpiece).no_plus (heq ▸ hc)) (by decide) _ hplus rfl

/-- A version core is what splits at the dots into three numbers. -/
theorem versionCore_iff : VersionCore xs ↔
    ∃ major minor patch, xs.splitOn '.'=[major,minor,patch] ∧ NumericIdentifier major ∧
      NumericIdentifier minor ∧ NumericIdentifier patch := by
  constructor
  · intro h
    cases h with
    | @mk major minor patch hmajor hminor hpatch =>
      refine ⟨major,minor,patch,?_,hmajor,hminor,hpatch⟩
      rw [List.splitOn_append_cons_self_of_not_mem hmajor.buildIdentifier.no_dot,
        List.splitOn_append_cons_self_of_not_mem hminor.buildIdentifier.no_dot,
        List.splitOn_eq_singleton hpatch.buildIdentifier.no_dot]
  · intro ⟨major,minor,patch,hsplit,hmajor,hminor,hpatch⟩
    have hjoin : ['.'].intercalate (xs.splitOn '.')=xs := List.intercalate_splitOn '.'
    rw [hsplit] at hjoin
    rw [← hjoin]
    simpa [List.intercalate] using VersionCore.mk hmajor hminor hpatch

/-- A plus sign stands in no piece of a version but between two. -/
def Plain (xs : List Char) : Prop := xs≠[] ∧ ∀ c∈xs, IdentifierChar c ∨ c= '+'

theorem BuildIdentifier.plain (h : BuildIdentifier xs) : Plain xs :=
  ⟨h.1,fun c hc => .inl (h.2 c hc)⟩

theorem Plain.join (joint : Char) (hjoint : joint= '-' ∨ joint= '+') (piece next : List Char)
    (h : Plain piece) (h' : Plain next) : Plain (piece++[joint]++next) := by
  refine ⟨by simp,?_⟩
  intro c hc
  simp only [List.append_assoc,List.mem_append,List.mem_singleton] at hc
  obtain hc | rfl | hc := hc
  · exact h.2 c hc
  · exact hjoint.imp .inr id
  · exact h'.2 c hc

/-- As a whole, a version is made of pieces between dots. -/
theorem ValidSemver.dotted (h : ValidSemver xs) : Dotted Plain xs := by
  have hnumeric : ∀ {core : List Char}, VersionCore core → Dotted Plain core := fun hcore =>
    hcore.dotted.mono (fun _ h => h.buildIdentifier.plain)
  have hpre : ∀ {pre : List Char}, Dotted PreReleaseIdentifier pre → Dotted Plain pre :=
    fun hpre => hpre.mono (fun _ h => h.buildIdentifier.plain)
  have hbuild : ∀ {build : List Char}, Dotted BuildIdentifier build → Dotted Plain build :=
    fun hbuild => hbuild.mono (fun _ h => h.plain)
  cases h with
  | core hc => exact hnumeric hc
  | prerelease hc hp =>
    simpa using (hnumeric hc).join (hpre hp) (Plain.join '-' (.inl rfl))
  | build hc hb => simpa using (hnumeric hc).join (hbuild hb) (Plain.join '+' (.inr rfl))
  | prereleaseBuild hc hp hb =>
    have hfirst := (hnumeric hc).join (hpre hp) (Plain.join '-' (.inl rfl))
    simpa using hfirst.join (hbuild hb) (Plain.join '+' (.inr rfl))

end Grammar
end BatCave.Lib.SemVer
