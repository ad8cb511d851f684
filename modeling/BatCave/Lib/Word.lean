import Mathlib.Algebra.Ring.Nat
import Mathlib.Data.Nat.Basic
import Mathlib.Algebra.BigOperators.Group.List.Basic
import Mathlib.Algebra.Order.Group.Nat

/-! `u64` arithmetic over the naturals: the checked and the saturating addition. -/
namespace BatCave.Lib.Word

def u64Max : Nat := 2^64-1

def checkedAdd (a b : Nat) : Option Nat := if a+b ≤ u64Max then some (a+b) else none

def satAdd (a b : Nat) : Nat := min (a+b) u64Max

theorem satAdd_min (a b : Nat) : satAdd (min a u64Max) b=min (a+b) u64Max := by
  simp only [satAdd]
  omega

end BatCave.Lib.Word
