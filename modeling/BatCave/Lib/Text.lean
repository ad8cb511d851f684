import Mathlib.Algebra.Ring.Nat
import Mathlib.Data.List.Basic
import Mathlib.Data.List.Infix
import Mathlib.Data.List.TakeWhile
import Mathlib.Algebra.Order.BigOperators.Group.List
import Mathlib.Algebra.Order.Group.Nat

/-! Text as Rust's `str` reads it: splitting on Unicode white space and parsing
unsigned decimals. Only what a reader of ASCII lines needs. -/
namespace BatCave.Lib.Text

/-- The Unicode `White_Space` property, which `char::is_whitespace` decides. -/
def isWhitespace (c : Char) : Bool :=
  let n := c.toNat
  (9 ≤ n && n ≤ 13) || n==0x20 || n==0x85 || n==0xA0 || n==0x1680 || (0x2000 ≤ n && n ≤ 0x200A) ||
    n==0x2028 || n==0x2029 || n==0x202F || n==0x205F || n==0x3000

/-- `str::split_whitespace`: the nonempty pieces between white space. -/
def splitWhitespace (s : String) : List String :=
  ((s.toList.splitOnP isWhitespace).filter (fun w => !w.isEmpty)).map String.ofList

/-- `str::trim`. -/
def trim (s : String) : String :=
  String.ofList ((s.toList.dropWhile isWhitespace).reverse.dropWhile isWhitespace).reverse

/-- Text with something other than white space in it is not blank. -/
theorem trim_ne_empty {s : String} {c : Char} (hc : c∈s.toList) (hw : isWhitespace c=false) :
    trim s≠"" := by
  intro h
  have hnil : (s.toList.dropWhile isWhitespace).reverse.dropWhile isWhitespace=[] := by
    have hlist := congrArg String.toList h
    simpa [trim] using hlist
  rw [List.dropWhile_eq_nil_iff] at hnil
  have hfront : s.toList.dropWhile isWhitespace≠[] := by
    intro hempty
    rw [List.dropWhile_eq_nil_iff] at hempty
    rw [hempty c hc] at hw
    cases hw
  have hhead := List.head_dropWhile_not isWhitespace hfront
  rw [hnil _ (List.mem_reverse.mpr (List.head_mem hfront))] at hhead
  cases hhead

theorem trim_ne_empty_iff {s : String} : trim s≠"" ↔ ∃ c∈s.toList, isWhitespace c=false := by
  constructor
  · intro h
    by_contra hnone
    have hdrop : s.toList.dropWhile isWhitespace=[] := by
      rw [List.dropWhile_eq_nil_iff]
      intro c hc
      by_contra hvisible
      exact hnone ⟨c,hc,Bool.not_eq_true _ ▸ hvisible⟩
    rw [trim,hdrop] at h
    exact h rfl
  · intro ⟨c,hc,hvisible⟩
    exact trim_ne_empty hc hvisible

/-- What says something after any front says something. -/
theorem trim_append_ne_empty {front back : String} (h : trim back≠"") :
    trim (front++back)≠"" := by
  obtain ⟨c,hc,hvisible⟩ := trim_ne_empty_iff.mp h
  exact trim_ne_empty (by rw [String.toList_append]; exact List.mem_append_right _ hc) hvisible

def stripPlus : List Char → List Char
  | '+'::ds => ds
  | ds => ds

/-- `str::parse` for an unsigned integer below `bound`: an optional plus sign,
then at least one ASCII digit and nothing else. Leading zeros are accepted. -/
def parseUnsigned (bound : Nat) (s : String) : Option Nat :=
  let digits := stripPlus s.toList
  if digits.isEmpty || !digits.all Char.isDigit then none
  else if Nat.ofDigitChars 10 digits 0 < bound then some (Nat.ofDigitChars 10 digits 0)
  else none

def parseU32 (s : String) : Option Nat := parseUnsigned (2^32) s
def parseU64 (s : String) : Option Nat := parseUnsigned (2^64) s

theorem parseUnsigned_lt {bound n : Nat} {s : String} (h : parseUnsigned bound s=some n) :
    n < bound := by
  simp only [parseUnsigned] at h
  split at h
  · simp at h
  · split at h
    · simp only [Option.some.injEq] at h
      omega
    · simp at h

/-- What `to_string` prints, `parse` reads back if it is below the bound. -/
theorem parseUnsigned_repr_eq (bound n : Nat) :
    parseUnsigned bound (Nat.repr n)=if n < bound then some n else none := by
  have hd : ∀ c∈Nat.toDigits 10 n, c.isDigit := fun c hc =>
    Nat.isDigit_of_mem_toDigits (by decide) (by decide) hc
  have hs : stripPlus (Nat.toDigits 10 n)=Nat.toDigits 10 n := by
    cases hl : Nat.toDigits 10 n with
    | nil => rfl
    | cons c cs =>
      have hc := hd c (by rw [hl]; simp)
      unfold stripPlus
      split
      · next he =>
        simp only [List.cons.injEq] at he
        rw [he.1] at hc
        exact absurd hc (by decide)
      · rfl
  have hne : (Nat.toDigits 10 n).isEmpty=false := by
    simp
  have hall : (Nat.toDigits 10 n).all Char.isDigit=true := List.all_eq_true.mpr hd
  simp only [parseUnsigned,Nat.toList_repr,hs,hne,hall,Nat.ofDigitChars_ten_toDigits]
  rfl

theorem parseUnsigned_repr {bound n : Nat} (h : n < bound) :
    parseUnsigned bound (Nat.repr n)=some n := by
  rw [parseUnsigned_repr_eq,if_pos h]

theorem eq_of_parseUnsigned_repr {bound m n : Nat}
    (h : parseUnsigned bound (Nat.repr n)=some m) : m=n := by
  rw [parseUnsigned_repr_eq] at h
  split at h
  · exact (Option.some.inj h).symm
  · cases h

theorem parseU32_repr {n : Nat} (h : n < 2^32) : parseU32 (Nat.repr n)=some n :=
  parseUnsigned_repr h

theorem parseU64_repr {n : Nat} (h : n < 2^64) : parseU64 (Nat.repr n)=some n :=
  parseUnsigned_repr h

/-- A piece of text that splitting leaves alone. -/
def Word (w : String) : Prop := w.toList≠[] ∧ ∀ c∈w.toList, isWhitespace c=false

instance (w : String) : Decidable (Word w) :=
  decidable_of_iff (w.toList≠[] ∧ w.toList.all (!isWhitespace ·)) (by simp [Word])

theorem word_repr (n : Nat) : Word (Nat.repr n) := by
  refine ⟨by simp,?_⟩
  intro c hc
  rw [Nat.toList_repr] at hc
  have hd := Nat.isDigit_of_mem_toDigits (by decide) (by decide) hc
  have hn : 48 ≤ c.toNat ∧ c.toNat ≤ 57 := by
    simp only [Char.isDigit,Bool.and_eq_true,decide_eq_true_eq] at hd
    exact ⟨UInt32.le_iff_toNat_le.mp hd.1,UInt32.le_iff_toNat_le.mp hd.2⟩
  simp only [isWhitespace,Bool.or_eq_false_iff,Bool.and_eq_false_iff,decide_eq_false_iff_not,
    beq_eq_false_iff_ne]
  omega

/-- Words joined by single spaces split back into the same words. -/
theorem splitWhitespace_join {ws : List String} (h : ∀ w∈ws, Word w) :
    splitWhitespace (" ".intercalate ws)=ws := by
  have hsp : isWhitespace ' '=true := by decide
  induction ws with
  | nil => decide
  | cons w ws ih =>
    have hw := h w (by simp)
    have hne : w.toList.isEmpty=false := by simpa using hw.1
    cases ws with
    | nil =>
      rw [String.intercalate_singleton,splitWhitespace,List.splitOnP_eq_singleton hw.2]
      simp [hne]
    | cons v vs =>
      have hv := ih (fun u hu => h u (List.mem_cons_of_mem w hu))
      have hl : (" ".intercalate (w::v::vs)).toList=
          w.toList++ ' '::(" ".intercalate (v::vs)).toList := by
        rw [String.intercalate_cons_cons]
        simp
      rw [splitWhitespace] at hv ⊢
      rw [hl,List.splitOnP_append_cons_of_forall_mem hw.2 ' ' hsp]
      rw [List.filter_cons_of_pos (by simp [hne]),List.map_cons,hv,String.ofList_toList]

theorem notMem_intercalate {words : List String} {c : Char} (hc : c≠ ' ')
    (h : ∀ w∈words, c∉w.toList) : c∉(" ".intercalate words).toList := by
  induction words with
  | nil => simp
  | cons w ws ih =>
    have hw := h w List.mem_cons_self
    have hws := ih (fun v hv => h v (List.mem_cons_of_mem w hv))
    cases ws with
    | nil => simpa using hw
    | cons v vs =>
      rw [String.intercalate_cons_cons]
      simp only [String.toList_append,List.mem_append,not_or]
      exact ⟨⟨hw,by simpa using hc⟩,hws⟩

theorem splitWhitespace_space (s : String) : splitWhitespace (" "++s)=splitWhitespace s := by
  have hsp : isWhitespace ' '=true := by decide
  have hl : (" "++s).toList=[]++ ' '::s.toList := by simp
  rw [splitWhitespace,hl,List.splitOnP_append_cons_of_forall_mem (by simp) ' ' hsp]
  rfl

theorem mem_splitOnP {α : Type} {p : α → Bool} {xs piece : List α} (h : piece∈xs.splitOnP p) :
    ∀ x∈piece, p x=false ∧ x∈xs := by
  induction xs generalizing piece with
  | nil =>
    rw [List.splitOnP_nil,List.mem_singleton] at h
    subst h
    simp
  | cons x xs ih =>
    rw [List.splitOnP_cons_eq_if_modifyHead] at h
    split at h
    · cases List.mem_cons.mp h with
      | inl hnil => simp [hnil]
      | inr hrest =>
        intro y hy
        obtain ⟨hp,hmem⟩ := ih hrest y hy
        exact ⟨hp,List.mem_cons_of_mem _ hmem⟩
    · next hx =>
      cases hsplit : xs.splitOnP p with
      | nil => exact absurd hsplit (List.splitOnP_ne_nil p xs)
      | cons first rest =>
        rw [hsplit,List.modifyHead_cons] at h
        intro y hy
        cases List.mem_cons.mp h with
        | inl hfirst =>
          rw [hfirst] at hy
          cases List.mem_cons.mp hy with
          | inl hxy => exact ⟨by simpa [hxy] using hx,by simp [hxy]⟩
          | inr hin =>
            obtain ⟨hp,hmem⟩ := ih (by rw [hsplit]; exact List.mem_cons_self) y hin
            exact ⟨hp,List.mem_cons_of_mem _ hmem⟩
        | inr hrest =>
          obtain ⟨hp,hmem⟩ := ih (by rw [hsplit]; exact List.mem_cons_of_mem _ hrest) y hy
          exact ⟨hp,List.mem_cons_of_mem _ hmem⟩

theorem mem_splitWhitespace {s w : String} (h : w∈splitWhitespace s) :
    Word w ∧ ∀ c∈w.toList, c∈s.toList := by
  obtain ⟨piece,hpiece,heq⟩ := List.mem_map.mp h
  obtain ⟨hmem,hne⟩ := List.mem_filter.mp hpiece
  subst heq
  have hnonempty : piece≠[] := by simpa using hne
  rw [Word,String.toList_ofList]
  exact ⟨⟨hnonempty,fun c hc => (mem_splitOnP hmem c hc).1⟩,
    fun c hc => (mem_splitOnP hmem c hc).2⟩

/-- A word with a space behind it, trimmed. -/
theorem trim_word_space {w : String} (h : Word w) : trim (w++" ")=w := by
  obtain ⟨hne,hvisible⟩ := h
  have hdrop : ∀ xs ys : List Char, xs≠[] → (∀ c∈xs, isWhitespace c=false) →
      (xs++ys).dropWhile isWhitespace=xs++ys := by
    intro xs ys hxs hall
    cases xs with
    | nil => exact absurd rfl hxs
    | cons x xs =>
      have hx : ¬isWhitespace x=true := by simp [hall x List.mem_cons_self]
      rw [List.cons_append,List.dropWhile_cons_of_neg hx]
  have hfront := hdrop w.toList [' '] hne hvisible
  have hback := hdrop w.toList.reverse [] (by simpa using hne)
    (fun c hc => hvisible c (List.mem_reverse.mp hc))
  rw [List.append_nil] at hback
  have htext : (w++" ").toList=w.toList++[' '] := by simp
  have hblank : isWhitespace ' '=true := by decide
  rw [trim,htext,hfront,List.reverse_append,List.reverse_singleton,List.singleton_append,
    List.dropWhile_cons_of_pos hblank,hback,List.reverse_reverse,String.ofList_toList]

/-- The Unicode category `Cc`, which `char::is_control` decides. -/
def isControl (c : Char) : Bool :=
  c.toNat ≤ 0x1F || (0x7F ≤ c.toNat && c.toNat ≤ 0x9F)

/-- `str::as_bytes` -/
def utf8 (s : String) : List UInt8 := s.toUTF8.data.toList

theorem utf8_length (s : String) : (utf8 s).length=s.utf8ByteSize := by
  simp [utf8]

theorem utf8_injective : Function.Injective utf8 := by
  intro s t h
  apply String.toByteArray_inj.mp
  apply ByteArray.ext
  exact Array.toList_inj.mp h

/-- Each byte as two lower-case hexadecimal digits, `{byte:02x}`. -/
def hexDigits (bs : List UInt8) : List Char :=
  bs.flatMap (fun b => [Nat.digitChar (b.toNat/16),Nat.digitChar (b.toNat%16)])

def hex (bs : List UInt8) : String := String.ofList (hexDigits bs)

theorem digitChar_inj {m n : Nat} (hm : m < 16) (hn : n < 16)
    (h : Nat.digitChar m=Nat.digitChar n) : m=n := by
  have hall : ∀ i j : Fin 16, Nat.digitChar i=Nat.digitChar j → i=j := by decide
  exact congrArg Fin.val (hall ⟨m,hm⟩ ⟨n,hn⟩ h)

theorem hexDigits_injective : Function.Injective hexDigits := by
  intro xs ys h
  induction xs generalizing ys with
  | nil =>
    cases ys with
    | nil => rfl
    | cons y ys => simp [hexDigits] at h
  | cons x xs ih =>
    cases ys with
    | nil => simp [hexDigits] at h
    | cons y ys =>
      simp only [hexDigits,List.flatMap_cons,List.cons_append,List.nil_append,
        List.cons.injEq] at h
      obtain ⟨hhigh,hlow,htail⟩ := h
      have hx : x.toNat < 256 := x.toNat_lt
      have hy : y.toNat < 256 := y.toNat_lt
      have hq := digitChar_inj (by omega) (by omega) hhigh
      have hr := digitChar_inj (by omega) (by omega) hlow
      have hxy : x=y := UInt8.toNat_inj.mp (by omega)
      rw [hxy,ih htail]

theorem hex_injective : Function.Injective hex := by
  intro xs ys h
  have hl : (hex xs).toList=(hex ys).toList := by rw [h]
  simp only [hex,String.toList_ofList] at hl
  exact hexDigits_injective hl

/-- What follows the last of a separator is found again when it does not hold one. -/
theorem append_cons_inj {α : Type*} {c : α} {xs ys ds es : List α} (hd : c∉ds) (he : c∉es)
    (h : xs++c::ds=ys++c::es) : xs=ys ∧ ds=es := by
  induction xs generalizing ys with
  | nil =>
    cases ys with
    | nil =>
      rw [List.nil_append,List.nil_append,List.cons.injEq] at h
      exact ⟨rfl,h.2⟩
    | cons y ys =>
      rw [List.nil_append,List.cons_append,List.cons.injEq] at h
      exact absurd (by rw [h.2]; simp) hd
  | cons x xs ih =>
    cases ys with
    | nil =>
      rw [List.nil_append,List.cons_append,List.cons.injEq] at h
      exact absurd (by rw [← h.2]; simp) he
    | cons y ys =>
      rw [List.cons_append,List.cons_append,List.cons.injEq] at h
      obtain ⟨hxs,hds⟩ := ih h.2
      exact ⟨by rw [h.1,hxs],hds⟩

/-- What is before the first of a separator is found again when it does not hold one. -/
theorem append_cons_inj_left {α : Type*} {c : α} {xs ys ds es : List α} (hx : c∉xs) (hy : c∉ys)
    (h : xs++c::ds=ys++c::es) : xs=ys ∧ ds=es := by
  have hreverse := congrArg List.reverse h
  simp only [List.reverse_append,List.reverse_cons,List.append_assoc,List.singleton_append]
    at hreverse
  obtain ⟨hrest,hfront⟩ := append_cons_inj (by simpa using hx) (by simpa using hy) hreverse
  exact ⟨List.reverse_injective hfront,List.reverse_injective hrest⟩

theorem colon_notMem_toDigits (n : Nat) : ':'∉Nat.toDigits 10 n := by
  intro hm
  exact absurd (Nat.isDigit_of_mem_toDigits (by decide) (by decide) hm) (by decide)

/-- The decimal of a positive number does not start with a zero. -/
theorem head?_toDigits {n : Nat} (h : 0 < n) : (Nat.toDigits 10 n).head?≠some '0' := by
  induction n using Nat.strongRecOn with
  | ind n ih =>
    by_cases hsmall : n < 10
    · rw [Nat.toDigits_of_lt_base hsmall]
      have hdigits : ∀ m < 10, 0 < m → [m.digitChar].head?≠some '0' := by decide
      exact hdigits n hsmall h
    · rw [Nat.toDigits_of_base_le (by decide) (by omega),List.head?_append_of_ne_nil _
        Nat.toDigits_ne_nil]
      exact ih (n/10) (by omega) (by omega)

theorem utf8ByteSize_ofList (cs : List Char) :
    (String.ofList cs).utf8ByteSize=(cs.map Char.utf8Size).sum := by
  induction cs with
  | nil => rfl
  | cons c cs ih =>
    have hcons : String.ofList (c::cs)=String.singleton c++String.ofList cs := by
      apply String.toList_inj.mp
      simp
    rw [hcons,String.utf8ByteSize_append,ih]
    simp

/-- `split(sep)` on the characters. -/
def split (sep : Char) (s : String) : List String :=
  (s.toList.splitOn sep).map String.ofList

section Sizes
variable {sep : Char}

theorem sum_intercalate (hsep : sep.utf8Size=1) (c : List Char) (cs : List (List Char)) :
    ((c::cs).map (fun d => (d.map Char.utf8Size).sum+1)).sum=
      (([sep].intercalate (c::cs)).map Char.utf8Size).sum+1 := by
  induction cs generalizing c with
  | nil => simp
  | cons d ds ih =>
    rw [List.map_cons,List.sum_cons,ih d,List.intercalate_cons_cons]
    simp only [List.map_append,List.sum_append,List.map_cons,List.map_nil,List.sum_cons,
      List.sum_nil,hsep]
    omega

/-- The pieces of a split are as long as the whole, a separator for each but one. -/
theorem split_sizes (hsep : sep.utf8Size=1) (s : String) :
    ((split sep s).map (fun part => part.utf8ByteSize+1)).sum=s.utf8ByteSize+1 := by
  have hjoin : [sep].intercalate (s.toList.splitOn sep)=s.toList := List.intercalate_splitOn sep
  have hsize : s.utf8ByteSize=(s.toList.map Char.utf8Size).sum := by
    rw [← utf8ByteSize_ofList,String.ofList_toList]
  simp only [split,List.map_map,Function.comp_def,utf8ByteSize_ofList]
  cases hparts : s.toList.splitOn sep with
  | nil => exact absurd hparts (List.splitOn_ne_nil sep s.toList)
  | cons c cs => rw [sum_intercalate hsep,← hparts,hjoin,hsize]

theorem intercalate_size_le {sep : String} (hsep : sep.utf8ByteSize=1) (ps : List String) :
    (sep.intercalate ps).utf8ByteSize ≤ (ps.map (fun part => part.utf8ByteSize+1)).sum := by
  induction ps with
  | nil => simp
  | cons p ps ih =>
    cases ps with
    | nil => simp
    | cons q qs =>
      rw [String.intercalate_cons_cons,String.utf8ByteSize_append,String.utf8ByteSize_append,hsep,
        List.map_cons,List.sum_cons]
      omega

/-- Joining some of the pieces of a split takes no more room than the whole. -/
theorem intercalate_split_size_le {sep : String} {c : Char} (hsep : sep.utf8ByteSize=1)
    (hc : c.utf8Size=1) {s : String} {ps : List String} (h : ps.Sublist (split c s)) :
    (sep.intercalate ps).utf8ByteSize ≤ s.utf8ByteSize+1 := by
  have hsum := (h.map (fun part => part.utf8ByteSize+1)).sum_le_sum (fun _ _ => Nat.zero_le _)
  have hle := intercalate_size_le hsep ps
  rw [split_sizes hc] at hsum
  omega

end Sizes

theorem repr_size_le {n k : Nat} (hk : 0 < k) (h : n < 10^k) : (Nat.repr n).utf8ByteSize ≤ k := by
  have hdigits : ∀ c∈Nat.toDigits 10 n, c.utf8Size=1 := by
    intro c hc
    have hd := Nat.isDigit_of_mem_toDigits (by decide) (by decide) hc
    simp only [Char.isDigit,Bool.and_eq_true,decide_eq_true_eq] at hd
    exact Char.utf8Size_eq_one_iff.mpr (UInt32.le_trans hd.2 (by decide))
  have hsum : ∀ cs : List Char, (∀ c∈cs, c.utf8Size=1) → (cs.map Char.utf8Size).sum=cs.length := by
    intro cs hcs
    induction cs with
    | nil => rfl
    | cons c cs ih =>
      rw [List.map_cons,List.sum_cons,hcs c (by simp),ih (fun d hd => hcs d (by simp [hd])),
        List.length_cons,Nat.add_comm]
  rw [Nat.repr_eq_ofList_toDigits,utf8ByteSize_ofList,hsum _ hdigits]
  exact (Nat.length_toDigits_le_iff (by decide) hk).mpr h

/-- `str::contains` with a text as its pattern. -/
def contains (s needle : String) : Bool := needle.toList <:+: s.toList

/-- `str::to_lowercase`. The Unicode tables stay abstract; no text is made out of none. -/
structure Lowercase where
  apply : String → String
  apply_empty : apply ""=""

/-- The tables cut down to ASCII. -/
def Lowercase.ascii : Lowercase where
  apply s := String.ofList (s.toList.map Char.toLower)
  apply_empty := rfl

end BatCave.Lib.Text
