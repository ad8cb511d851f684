import BatCave.Lib.Text

/-! Integers with a sign as text, and what a refused one is told. -/
namespace BatCave.Lib.Integer
open BatCave.Lib.Text

/-- `str::parse` for a signed integer of `2*half` values: a sign, then ASCII digits. -/
def parseSigned (half : Nat) (s : String) : Option Int :=
  match s.toList with
  | '-'::ds =>
    if ds.isEmpty || !ds.all Char.isDigit then none
    else if Nat.ofDigitChars 10 ds 0 ≤ half then some (-(Nat.ofDigitChars 10 ds 0 : Int)) else none
  | _ => (parseUnsigned half s).map Int.ofNat

def parseI64 (s : String) : Option Int := parseSigned (2^63) s

/-- What a text that is no integer is told: the first digit that does not fit decides. -/
def parseIntError (bound : Nat) (s : String) : String :=
  if s="" then "cannot parse integer from empty string"
  else if bound ≤ Nat.ofDigitChars 10 ((stripPlus s.toList).takeWhile Char.isDigit) 0 then
    "number too large to fit in target type"
  else "invalid digit found in string"

/-- The same for a signed integer. -/
def parseSignedError (half : Nat) (s : String) : String :=
  match s.toList with
  | '-'::ds =>
    if half < Nat.ofDigitChars 10 (ds.takeWhile Char.isDigit) 0 then
      "number too small to fit in target type"
    else "invalid digit found in string"
  | _ => parseIntError half s

/-- `to_string` -/
def decimal : Int → String
  | .ofNat n => Nat.repr n
  | .negSucc n => "-"++Nat.repr (n+1)

/-- The values that are parsed are those of the type. -/
theorem parseSigned_bounds {half : Nat} (hhalf : 0 < half) {s : String} {n : Int}
    (h : parseSigned half s=some n) : -(half : Int) ≤ n ∧ n < half := by
  unfold parseSigned at h
  split at h
  · split at h
    · cases h
    · split at h
      · next ds _ _ hle =>
        have hn := Option.some.inj h
        omega
      · cases h
  · obtain ⟨m,hm,hn⟩ := Option.map_eq_some_iff.mp h
    have hlt := parseUnsigned_lt hm
    rw [Int.ofNat_eq_natCast] at hn
    omega

theorem minus_notMem_toDigits (n : Nat) : '-' ∉ Nat.toDigits 10 n := by
  intro hm
  exact absurd (Nat.isDigit_of_mem_toDigits (by decide) (by decide) hm) (by decide)

/-- What `to_string` prints, `parse` reads back. -/
theorem parseSigned_decimal {half : Nat} {n : Int} (hlow : -(half : Int) ≤ n) (hhigh : n < half) :
    parseSigned half (decimal n)=some n := by
  cases n with
  | ofNat m =>
    have hm : m < half := by
      have hcast : ((Int.ofNat m) : Int)=(m : Int) := rfl
      omega
    unfold parseSigned decimal
    split
    · next ds hdigits =>
      rw [Nat.toList_repr] at hdigits
      exact absurd (hdigits ▸ List.mem_cons_self) (minus_notMem_toDigits m)
    · rw [parseUnsigned_repr hm]
      rfl
  | negSucc m =>
    have hm : m+1 ≤ half := by
      have hcast : Int.negSucc m=-((m : Int)+1) := Int.negSucc_eq m
      omega
    have htext : (decimal (.negSucc m)).toList= '-'::Nat.toDigits 10 (m+1) := by
      rw [decimal,String.toList_append,Nat.toList_repr]
      rfl
    have hne : (Nat.toDigits 10 (m+1)).isEmpty=false := by simp
    have hall : (Nat.toDigits 10 (m+1)).all Char.isDigit=true :=
      List.all_eq_true.mpr (fun c hc => Nat.isDigit_of_mem_toDigits (by decide) (by decide) hc)
    rw [parseSigned,htext]
    simp only [hne,hall,Nat.ofDigitChars_ten_toDigits,Bool.not_true,Bool.or_false,
      Bool.false_eq_true,if_false,if_pos hm]
    rfl

theorem parseI64_bounds {s : String} {n : Int} (h : parseI64 s=some n) : -2^63 ≤ n ∧ n < 2^63 :=
  parseSigned_bounds (by decide) h

theorem parseI64_decimal {n : Int} (hlow : -2^63 ≤ n) (hhigh : n < 2^63) :
    parseI64 (decimal n)=some n := parseSigned_decimal hlow hhigh

theorem mem_decimal {n : Int} {c : Char} (h : c∈(decimal n).toList) : c.isDigit=true ∨ c= '-' := by
  cases n with
  | ofNat m =>
    rw [decimal,Nat.toList_repr] at h
    exact .inl (Nat.isDigit_of_mem_toDigits (by decide) (by decide) h)
  | negSucc m =>
    rw [decimal,String.toList_append,Nat.toList_repr,List.mem_append] at h
    cases h with
    | inl hminus => exact .inr (by simpa using hminus)
    | inr hdigit => exact .inl (Nat.isDigit_of_mem_toDigits (by decide) (by decide) hdigit)

theorem word_decimal (n : Int) : Word (decimal n) := by
  cases n with
  | ofNat m => exact word_repr m
  | negSucc m =>
    obtain ⟨hne,hvisible⟩ := word_repr (m+1)
    refine ⟨by simp [decimal],?_⟩
    intro c hc
    rw [decimal,String.toList_append,List.mem_append] at hc
    cases hc with
    | inl hminus =>
      have heq : c= '-' := by simpa using hminus
      rw [heq]
      decide
    | inr hdigit => exact hvisible c hdigit

end BatCave.Lib.Integer
