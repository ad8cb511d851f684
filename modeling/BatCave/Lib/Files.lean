import Mathlib.Logic.Function.Basic
import Mathlib.Data.Set.Insert

/-! Files by their paths, and what the usual calls change of them. -/
namespace BatCave.Lib.Files

structure File (A : Type) where
  bytes : List UInt8
  attributes : A
  deriving DecidableEq, Repr

/-- What stands at each path, if anything. -/
abbrev Disk (π A : Type) := π → Option (File A)

section Untouched
variable {π A : Type}

/-- Nothing has changed outside of these paths. -/
def Untouched (ps : Set π) (fs fs' : Disk π A) : Prop := ∀ q, q∉ps → fs' q=fs q

variable {fs fs' fs'' : Disk π A} {ps : Set π}

theorem Untouched.refl (ps : Set π) (fs : Disk π A) : Untouched ps fs fs := fun _ _ => rfl

theorem Untouched.trans (h : Untouched ps fs fs') (h' : Untouched ps fs' fs'') :
    Untouched ps fs fs'' := fun q hq => (h' q hq).trans (h q hq)

theorem Untouched.mono {ps' : Set π} (h : Untouched ps fs fs') (hsub : ps ⊆ ps') :
    Untouched ps' fs fs' := fun q hq => h q (fun hin => hq (hsub hin))

end Untouched

section Calls
variable {π A : Type} [DecidableEq π]

/-- A file is put at a path. -/
def Disk.put (fs : Disk π A) (p : π) (file : File A) : Disk π A := Function.update fs p (some file)

/-- The file at a path, if there is one, is another. -/
def Disk.modify (fs : Disk π A) (p : π) (f : File A → File A) : Disk π A :=
  Function.update fs p ((fs p).map f)

def Disk.remove (fs : Disk π A) (p : π) : Disk π A := Function.update fs p none

/-- What stands at one path takes the place of what stands at another. -/
def Disk.rename (fs : Disk π A) (source target : π) : Disk π A :=
  if source=target then fs else Function.update (Function.update fs target (fs source)) source none

variable {fs : Disk π A} {ps : Set π} {p q : π}

@[simp] theorem put_same (file : File A) : fs.put p file p=some file := Function.update_self ..

@[simp] theorem put_other (file : File A) (h : q≠p) : fs.put p file q=fs q :=
  Function.update_of_ne h ..

@[simp] theorem modify_same (f : File A → File A) : fs.modify p f p=(fs p).map f :=
  Function.update_self ..

@[simp] theorem modify_other (f : File A → File A) (h : q≠p) : fs.modify p f q=fs q :=
  Function.update_of_ne h ..

@[simp] theorem remove_other (h : q≠p) : fs.remove p q=fs q := Function.update_of_ne h ..

theorem rename_target (h : p≠q) : fs.rename p q q=fs p := by
  rw [Disk.rename,if_neg h,Function.update_of_ne (Ne.symm h),Function.update_self]

theorem untouched_put (file : File A) (h : p∈ps) : Untouched ps fs (fs.put p file) :=
  fun _ hq => put_other file (fun heq => hq (heq ▸ h))

theorem untouched_modify (f : File A → File A) (h : p∈ps) : Untouched ps fs (fs.modify p f) :=
  fun _ hq => modify_other f (fun heq => hq (heq ▸ h))

theorem untouched_remove (h : p∈ps) : Untouched ps fs (fs.remove p) :=
  fun _ hq => remove_other (fun heq => hq (heq ▸ h))

theorem untouched_rename (hp : p∈ps) (hq : q∈ps) : Untouched ps fs (fs.rename p q) := by
  intro r hr
  have hrp : r≠p := fun heq => hr (heq ▸ hp)
  have hrq : r≠q := fun heq => hr (heq ▸ hq)
  by_cases hsame : p=q
  · rw [Disk.rename,if_pos hsame]
  · rw [Disk.rename,if_neg hsame,Function.update_of_ne hrp,Function.update_of_ne hrq]

end Calls
end BatCave.Lib.Files
