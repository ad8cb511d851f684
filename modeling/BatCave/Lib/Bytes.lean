import Mathlib.Data.List.Basic
import Mathlib.Tactic.Ring

/-! Little-endian byte strings of arbitrary width. Nothing here knows what the
bytes are used for. -/
namespace BatCave.Lib.Bytes

/-- The number a little-endian byte string denotes, least significant byte first. -/
def fromLe : List UInt8 → Nat
  | [] => 0
  | b::bs => b.toNat+256*fromLe bs

/-- The `w` low bytes of a number, least significant byte first. -/
def toLe : Nat → Nat → List UInt8
  | 0, _ => []
  | w+1, n => UInt8.ofNat n::toLe w (n/256)

@[simp] theorem toLe_length (w n : Nat) : (toLe w n).length=w := by
  induction w generalizing n with
  | zero => rfl
  | succ w ih => simp [toLe,ih]

theorem fromLe_toLe (w n : Nat) (h : n < 256^w) : fromLe (toLe w n)=n := by
  induction w generalizing n with
  | zero => simp at h; simp [toLe,fromLe,h]
  | succ w ih =>
    have hq : n/256 < 256^w := by
      rw [pow_succ] at h
      omega
    simp only [toLe,fromLe,ih _ hq,UInt8.toNat_ofNat']
    omega

theorem toLe_fromLe (bs : List UInt8) : toLe bs.length (fromLe bs)=bs := by
  induction bs with
  | nil => rfl
  | cons b bs ih =>
    have hb : b.toNat < 256 := b.toNat_lt
    have hq : (b.toNat+256*fromLe bs)/256=fromLe bs := by omega
    have hd : UInt8.ofNat (b.toNat+256*fromLe bs)=b := by
      apply UInt8.toNat_inj.mp
      simp only [UInt8.toNat_ofNat']
      omega
    simp only [List.length_cons,toLe,fromLe,hq,hd,ih]

/-- A byte string behind its own length in eight bytes. -/
def lengthPrefixed (bs : List UInt8) : List UInt8 := toLe 8 bs.length++bs

theorem lengthPrefixed_append {xs ys s t : List UInt8} (hx : xs.length < 2^64)
    (hy : ys.length < 2^64) (h : lengthPrefixed xs++s=lengthPrefixed ys++t) : xs=ys ∧ s=t := by
  simp only [lengthPrefixed,List.append_assoc] at h
  obtain ⟨hlen,htail⟩ := List.append_inj h (by simp)
  have heq : xs.length=ys.length := by
    rw [← fromLe_toLe 8 xs.length (by omega),hlen,fromLe_toLe 8 ys.length (by omega)]
  exact List.append_inj htail heq

theorem lengthPrefixed_length (bs : List UInt8) : (lengthPrefixed bs).length=8+bs.length := by
  simp [lengthPrefixed]

/-- Of two sequences of prefixed strings that start the same text, one continues the
other. -/
theorem flatMap_lengthPrefixed_append {xs ys : List (List UInt8)} {s t : List UInt8}
    (hx : ∀ x∈xs, x.length < 2^64) (hy : ∀ y∈ys, y.length < 2^64)
    (h : xs.flatMap lengthPrefixed++s=ys.flatMap lengthPrefixed++t) :
    (∃ zs, ys=xs++zs ∧ s=zs.flatMap lengthPrefixed++t) ∨
    (∃ zs, xs=ys++zs ∧ t=zs.flatMap lengthPrefixed++s) := by
  induction xs generalizing ys with
  | nil => exact .inl ⟨ys,rfl,by simpa using h⟩
  | cons x xs ih =>
    cases ys with
    | nil => exact .inr ⟨x::xs,rfl,by simpa using h.symm⟩
    | cons y ys =>
      simp only [List.flatMap_cons,List.append_assoc] at h
      obtain ⟨hxy,hrest⟩ := lengthPrefixed_append (hx x (by simp)) (hy y (by simp)) h
      have htail := ih (fun z hz => hx z (by simp [hz])) (fun z hz => hy z (by simp [hz])) hrest
      cases htail with
      | inl h =>
        obtain ⟨zs,he,hs⟩ := h
        exact .inl ⟨zs,by rw [hxy,he,List.cons_append],hs⟩
      | inr h =>
        obtain ⟨zs,he,ht⟩ := h
        exact .inr ⟨zs,by rw [hxy,he,List.cons_append],ht⟩

theorem flatMap_lengthPrefixed_eq_nil {zs : List (List UInt8)}
    (h : zs.flatMap lengthPrefixed=[]) : zs=[] := by
  cases zs with
  | nil => rfl
  | cons z zs =>
    have hl := congrArg List.length h
    simp only [List.flatMap_cons,List.length_append,lengthPrefixed_length,List.length_nil] at hl
    omega

/-- A sequence of prefixed strings can be read back. -/
theorem flatMap_lengthPrefixed_inj {xs ys : List (List UInt8)}
    (hx : ∀ x∈xs, x.length < 2^64) (hy : ∀ y∈ys, y.length < 2^64)
    (h : xs.flatMap lengthPrefixed=ys.flatMap lengthPrefixed) : xs=ys := by
  have happ : xs.flatMap lengthPrefixed++[]=ys.flatMap lengthPrefixed++[] := by rw [h]
  cases flatMap_lengthPrefixed_append hx hy happ with
  | inl h =>
    obtain ⟨zs,he,hs⟩ := h
    rw [List.append_nil] at hs
    rw [he,flatMap_lengthPrefixed_eq_nil hs.symm,List.append_nil]
  | inr h =>
    obtain ⟨zs,he,hs⟩ := h
    rw [List.append_nil] at hs
    rw [he,flatMap_lengthPrefixed_eq_nil hs.symm,List.append_nil]

/-- Eight bytes behind prefixed strings are not one more of them, unless it is empty. -/
theorem suffix_of_flatMap_lengthPrefixed {xs ys : List (List UInt8)} {s : List UInt8}
    (hx : ∀ x∈xs, x.length < 2^64) (hy : ∀ y∈ys, y.length < 2^64) (hs : s.length=8)
    (h : xs.flatMap lengthPrefixed++s=ys.flatMap lengthPrefixed) : ys=xs++[[]] := by
  have happ : xs.flatMap lengthPrefixed++s=ys.flatMap lengthPrefixed++[] := by
    rw [h,List.append_nil]
  cases flatMap_lengthPrefixed_append hx hy happ with
  | inl h =>
    obtain ⟨zs,he,hz⟩ := h
    have hl := congrArg List.length hz
    rw [hs,List.append_nil] at hl
    match zs with
    | [] => simp at hl
    | [z] =>
      simp only [List.flatMap_cons,List.flatMap_nil,List.append_nil,lengthPrefixed_length] at hl
      have hnil : z=[] := List.length_eq_zero_iff.mp (by omega)
      rw [he,hnil]
    | z::z'::rest =>
      simp only [List.flatMap_cons,List.length_append,lengthPrefixed_length] at hl
      omega
  | inr h =>
    obtain ⟨zs,_,hz⟩ := h
    have hl := congrArg List.length hz
    simp only [List.length_nil,List.length_append] at hl
    omega

end BatCave.Lib.Bytes
