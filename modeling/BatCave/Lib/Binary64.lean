import Mathlib.Algebra.Ring.Nat

/-! `f64` as Lean's binary64 `Float`: the conversions and the rounding that Rust's primitive
type has, and the sign that they keep. Nothing computed from values without a minus sign
has one. -/
namespace BatCave.Lib.Binary64
open Float.Model Float.Model.UnpackedFloat

/-- `n as f64` for an unsigned integer. -/
def ofUnsigned (n : Nat) : Float := .ofModel (.ofNat n)

/-- `x as u64`: truncation that saturates, and zero for a NaN. -/
def toU64 (x : Float) : Nat := x.toUInt64.toNat

/-- `f64::max`: a NaN loses against any number. -/
def max (x y : Float) : Float :=
  if x.isNaN then y else if y.isNaN then x else if x < y then y else x

/-- The nearest integer, ties away from zero. An exponent that is not negative leaves
nothing to round. -/
def roundUnpacked : UnpackedFloat → UnpackedFloat
  | .finite sign mantissa exponent hm =>
    if 0 ≤ exponent then .finite sign mantissa exponent hm
    else
      let bits := (-exponent).toNat
      normalize .binary64 (sign.apply ((mantissa+2^(bits-1))/2^bits : Nat)) 0 sign
  | x => x

/-- `f64::round` -/
def round (x : Float) : Float := .ofModel (.pack (roundUnpacked x.toModel.unpack))

example : round 2.5=3.0 ∧ round (-0.4)=-0.0 ∧ toU64 (round 7.49)=7 := by decide

/-- The least integer that is no smaller. -/
def ceilUnpacked : UnpackedFloat → UnpackedFloat
  | .finite sign mantissa exponent hm =>
    if 0 ≤ exponent then .finite sign mantissa exponent hm
    else
      let unit : Nat := 2^(-exponent).toNat
      let units : Nat := match sign with
        | .positive => (mantissa+(unit-1))/unit
        | .negative => mantissa/unit
      normalize .binary64 (sign.apply units) 0 sign
  | x => x

/-- `f64::ceil` -/
def ceil (x : Float) : Float := .ofModel (.pack (ceilUnpacked x.toModel.unpack))

example : ceil 2.1=3.0 ∧ ceil (-2.9)=-2.0 ∧ ceil (-0.4)=-0.0 ∧ ceil 40.0=40.0 := by decide

def Unsigned : UnpackedFloat → Prop
  | .infinity sign => sign=.positive
  | .notANumber => True
  | .zero sign => sign=.positive
  | .finite sign _ _ _ => sign=.positive

/-- A value without a minus sign, or a NaN. -/
def NonNeg (x : Float) : Prop := Unsigned x.toModel.unpack

section Packing

theorem sign_packComponents {spec : Format} {sign : Sign} {exponent : BitVec spec.exponentBits}
    {mantissa : BitVec spec.mantissaBitsWithoutImplicit} :
    Sign.ofBitVec (unpackSign (packComponents spec sign exponent mantissa))=sign := by
  have hbit : unpackSign (packComponents spec sign exponent mantissa)=sign.toBitVec := by
    ext i hi
    obtain rfl : i=0 := by omega
    delta unpackSign
    simp [packComponents,BitVec.getElem_eq_testBit_toNat,BitVec.testBit_toNat]
  rw [hbit]
  cases sign <;> rfl

theorem unsigned_dite {p : Prop} [Decidable p] {x : p → UnpackedFloat} {y : ¬p → UnpackedFloat}
    (hx : ∀ h, Unsigned (x h)) (hy : ∀ h, Unsigned (y h)) : Unsigned (dite p x y) := by
  by_cases h : p
  · rw [dif_pos h]
    exact hx h
  · rw [dif_neg h]
    exact hy h

theorem unsigned_unpack {bits : BitVec Format.binary64.numBits}
    (h : Sign.ofBitVec (unpackSign bits)=.positive) : Unsigned (unpack .binary64 bits) := by
  -- The mantissa and the exponent choose the kind of value; each kind keeps the sign bit.
  refine iteInduction (motive:=Unsigned) (fun _ => ?_) (fun _ => ?_)
  · exact iteInduction (motive:=Unsigned) (fun _ => h) (fun _ => trivial)
  · refine iteInduction (motive:=Unsigned) (fun _ => ?_) (fun _ => h)
    exact unsigned_dite (fun _ => h) (fun _ => h)

theorem unsigned_pack {x : UnpackedFloat} (h : Unsigned x) :
    Unsigned (unpack .binary64 (pack .binary64 x)) := by
  cases x with
  | notANumber => exact unsigned_unpack sign_packComponents
  | infinity sign =>
    apply unsigned_unpack
    change Sign.ofBitVec (unpackSign (packedInfinity .binary64 sign))=.positive
    rw [packedInfinity,sign_packComponents]
    exact h
  | zero sign =>
    apply unsigned_unpack
    change Sign.ofBitVec (unpackSign (packedZero .binary64 sign))=.positive
    rw [packedZero,sign_packComponents]
    exact h
  | finite sign mantissa exponent hm =>
    apply unsigned_unpack
    refine iteInduction (motive:=fun bits => Sign.ofBitVec (unpackSign bits)=.positive)
      (fun _ => ?_) (fun _ => ?_)
    · rw [packedInfinity,sign_packComponents]
      exact h
    · refine iteInduction (motive:=fun bits => Sign.ofBitVec (unpackSign bits)=.positive)
        (fun _ => ?_) (fun _ => ?_)
      · rw [sign_packComponents]
        exact h
      · rw [sign_packComponents]
        exact h

theorem nonNeg_pack {x : UnpackedFloat} (h : Unsigned x) : NonNeg (.ofModel (.pack x)) :=
  unsigned_pack h

end Packing

section Operations
variable {x y : UnpackedFloat} {mantissa : Nat} {exponent : Int}

theorem unsigned_roundWithAccuracy {accuracy : Accuracy} :
    Unsigned (roundWithAccuracy .binary64 .positive mantissa exponent accuracy) :=
  unsigned_dite (fun _ => rfl) (fun _ => rfl)

theorem unsigned_normalize {mantissa : Int} (h : 0 ≤ mantissa) :
    Unsigned (normalize .binary64 mantissa exponent .positive) := by
  simp only [UnpackedFloat.normalize]
  split
  · next hlt => exact absurd (Int.compare_eq_lt.mp hlt) (by omega)
  · rfl
  · exact unsigned_roundWithAccuracy

theorem unsigned_div (hx : Unsigned x) (hy : Unsigned y) :
    Unsigned (UnpackedFloat.div .binary64 x y) := by
  cases x <;> cases y <;> first
    | trivial
    | (cases hx; cases hy; first | rfl | exact unsigned_roundWithAccuracy)

theorem unsigned_mul (hx : Unsigned x) (hy : Unsigned y) :
    Unsigned (UnpackedFloat.mul .binary64 x y) := by
  cases x <;> cases y <;> first
    | trivial
    | (cases hx; cases hy; first | rfl | exact unsigned_roundWithAccuracy)

theorem unsigned_round (hx : Unsigned x) : Unsigned (roundUnpacked x) := by
  cases x with
  | finite sign mantissa exponent hm =>
    cases hx
    exact iteInduction (motive:=Unsigned) (fun _ => rfl)
      (fun _ => unsigned_normalize (Int.natCast_nonneg _))
  | _ => exact hx

end Operations

section NonNeg
variable {x y : Float}

theorem nonNeg_ofUnsigned (n : Nat) : NonNeg (ofUnsigned n) :=
  nonNeg_pack (unsigned_normalize (Int.natCast_nonneg n))

theorem NonNeg.div (hx : NonNeg x) (hy : NonNeg y) : NonNeg (x/y) :=
  nonNeg_pack (unsigned_div hx hy)

theorem NonNeg.mul (hx : NonNeg x) (hy : NonNeg y) : NonNeg (x*y) :=
  nonNeg_pack (unsigned_mul hx hy)

theorem NonNeg.round (hx : NonNeg x) : NonNeg (Binary64.round x) := nonNeg_pack (unsigned_round hx)

theorem nonNeg_zero : NonNeg 0.0 := by
  have h : (0.0 : Float)=ofUnsigned 0 := by decide
  rw [h]
  exact nonNeg_ofUnsigned 0

/-- A value without a minus sign is not below zero. -/
theorem NonNeg.not_lt (hx : NonNeg x) : ¬x < 0.0 := by
  have hz : (0.0 : Float).toModel.unpack=.zero .positive := by
    have h : (0.0 : Float)=ofUnsigned 0 := by decide
    rw [h]
    rfl
  intro h
  have hlt : x.toModel.unpack.lt (.zero .positive)=true := by
    rw [← hz]
    exact of_decide_eq_true h
  simp only [NonNeg] at hx
  cases hm : x.toModel.unpack <;> rw [hm] at hx hlt
  · cases hx; cases hlt
  · cases hlt
  · cases hx; cases hlt
  · cases hx; cases hlt

end NonNeg

section NotBelow

theorem unsigned_add {x y : UnpackedFloat} (hx : Unsigned x) (hy : Unsigned y) :
    Unsigned (UnpackedFloat.add .binary64 x y) := by
  cases x with
  | notANumber => cases y <;> trivial
  | infinity sign =>
    cases hx
    cases y with
    | infinity sign' =>
      cases hy
      rfl
    | _ => trivial
  | zero sign =>
    cases hx
    cases y with
    | zero sign' =>
      cases hy
      rfl
    | _ => exact hy
  | finite sign mantissa exponent hm =>
    cases hx
    cases y with
    | notANumber => trivial
    | infinity sign' => exact hy
    | zero sign' => rfl
    | finite sign' mantissa' exponent' hm' =>
      cases hy
      exact unsigned_normalize (Int.add_nonneg (Int.natCast_nonneg _) (Int.natCast_nonneg _))

/-- A value that is not below zero, or a NaN: zero may have a minus sign. -/
def NotBelow (x : Float) : Prop := NonNeg x ∨ x.toModel.unpack=.zero .negative

theorem notBelow_pack {x : UnpackedFloat} (h : Unsigned x ∨ x=.zero .negative) :
    NotBelow (.ofModel (.pack x)) := by
  cases h with
  | inl h => exact .inl (nonNeg_pack h)
  | inr h =>
    rw [h]
    exact .inr rfl

variable {x y : Float}

theorem NotBelow.add (hx : NotBelow x) (hy : NotBelow y) : NotBelow (x+y) := by
  refine notBelow_pack ?_
  cases hx with
  | inl hx =>
    cases hy with
    | inl hy => exact .inl (unsigned_add hx hy)
    | inr hy =>
      rw [hy]
      simp only [NonNeg] at hx
      cases hm : x.toModel.unpack with
      | zero sign =>
        cases sign with
        | positive => exact .inl rfl
        | negative => exact .inr rfl
      | _ =>
        rw [hm] at hx
        exact .inl hx
  | inr hx =>
    rw [hx]
    cases hy with
    | inl hy =>
      simp only [NonNeg] at hy
      cases hm : y.toModel.unpack with
      | zero sign =>
        cases sign with
        | positive => exact .inl rfl
        | negative => exact .inr rfl
      | _ =>
        rw [hm] at hy
        exact .inl hy
    | inr hy =>
      rw [hy]
      exact .inr rfl

theorem NotBelow.mul (hx : NotBelow x) (hy : NonNeg y) : NotBelow (x*y) := by
  refine notBelow_pack ?_
  cases hx with
  | inl hx => exact .inl (unsigned_mul hx hy)
  | inr hx =>
    rw [hx]
    simp only [NonNeg] at hy
    cases hm : y.toModel.unpack with
    | notANumber => exact .inl trivial
    | infinity sign => exact .inl trivial
    | zero sign =>
      rw [hm] at hy
      cases hy
      exact .inr rfl
    | finite sign mantissa exponent h =>
      rw [hm] at hy
      cases hy
      exact .inr rfl

theorem NotBelow.div (hx : NotBelow x) (hy : NonNeg y) : NotBelow (x/y) := by
  refine notBelow_pack ?_
  cases hx with
  | inl hx => exact .inl (unsigned_div hx hy)
  | inr hx =>
    rw [hx]
    simp only [NonNeg] at hy
    cases hm : y.toModel.unpack with
    | notANumber => exact .inl trivial
    | infinity sign =>
      rw [hm] at hy
      cases hy
      exact .inr rfl
    | zero sign => exact .inl trivial
    | finite sign mantissa exponent h =>
      rw [hm] at hy
      cases hy
      exact .inr rfl

theorem NotBelow.round (hx : NotBelow x) : NotBelow (Binary64.round x) := by
  refine notBelow_pack ?_
  cases hx with
  | inl hx => exact .inl (unsigned_round hx)
  | inr hx =>
    rw [hx]
    exact .inr rfl

theorem notBelow_iff : NotBelow x ↔ ¬x < 0.0 := by
  have hz : (0.0 : Float).toModel.unpack=.zero .positive := by
    have h : (0.0 : Float)=ofUnsigned 0 := by decide
    rw [h]
    rfl
  have hlt : x < 0.0 ↔ x.toModel.unpack.lt (.zero .positive)=true := by
    rw [← hz]
    exact ⟨of_decide_eq_true,decide_eq_true⟩
  rw [hlt,NotBelow,NonNeg]
  cases hm : x.toModel.unpack with
  | notANumber => exact ⟨fun _ => Bool.false_ne_true,fun _ => .inl trivial⟩
  | zero sign =>
    cases sign with
    | positive => exact ⟨fun _ => Bool.false_ne_true,fun _ => .inl rfl⟩
    | negative => exact ⟨fun _ => Bool.false_ne_true,fun _ => .inr rfl⟩
  | infinity sign =>
    cases sign with
    | positive => exact ⟨fun _ => Bool.false_ne_true,fun _ => .inl rfl⟩
    | negative =>
      refine ⟨fun hbelow => ?_,fun hnot => absurd rfl hnot⟩
      cases hbelow with
      | inl hunsigned => cases hunsigned
      | inr hzero => cases hzero
  | finite sign mantissa exponent h =>
    cases sign with
    | positive => exact ⟨fun _ => Bool.false_ne_true,fun _ => .inl rfl⟩
    | negative =>
      refine ⟨fun hbelow => ?_,fun hnot => absurd rfl hnot⟩
      cases hbelow with
      | inl hunsigned => cases hunsigned
      | inr hzero => cases hzero

end NotBelow

/-- Zero divided by anything counts as zero, also where it is no number. -/
theorem toU64_round_zero_div (y : Float) : toU64 (round (ofUnsigned 0/y))=0 := by
  have hzero : ∀ sign, toU64 (round (.ofModel (.pack (.zero sign))))=0 := by
    intro sign
    cases sign <;> decide
  have hnan : toU64 (round (.ofModel (.pack .notANumber)))=0 := by decide
  have hdiv : ofUnsigned 0/y=.ofModel (.pack (UnpackedFloat.div .binary64 (.zero .positive)
    y.toModel.unpack)) := rfl
  rw [hdiv]
  cases y.toModel.unpack with
  | infinity sign => exact hzero _
  | notANumber => exact hnan
  | zero sign => exact hnan
  | finite sign mantissa exponent hm => exact hzero _

end BatCave.Lib.Binary64
