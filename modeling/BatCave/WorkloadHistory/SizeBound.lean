import BatCave.Lib.Serde
import BatCave.Lib.Word

/-! The bound on the size of a serialized value that admission to the archive goes by: a
serializer that only counts. Sizes are `usize`, 64 bits wide. -/
namespace BatCave.WorkloadHistory.SizeBound
open BatCave.Lib.Serde BatCave.Lib.Text BatCave.Lib.Word

def byteSize (byte : UInt8) : Nat :=
  if byte ≤ 0x1F then 6 else if byte=0x22 ∨ byte=0x5C then 2 else 1

/-- `string` -/
def stringSize (value : String) : Nat :=
  (utf8 value).foldl (fun bytes byte => satAdd bytes (byteSize byte)) 2

def satMul (a b : Nat) : Nat := min (a*b) u64Max

/-- `DisplaySize`, with what each write adds. -/
def displaySize (pieces : List String) : Nat :=
  pieces.foldl (fun count value => satAdd count (stringSize value-2)) 2

mutual

/-- `JsonSize`. No method of it fails. -/
def jsonSize : Value → Nat
  | .bool _ => 5
  | .i8 _ => 4
  | .i16 _ => 6
  | .i32 _ => 11
  | .i64 _ => 20
  | .i128 _ => 40
  | .u8 _ => 3
  | .u16 _ => 5
  | .u32 _ => 10
  | .u64 _ => 20
  | .u128 _ => 39
  | .f32 _ => 24
  | .f64 _ => 24
  | .char _ => 8
  | .str value => stringSize value
  | .bytes value => satAdd (satMul value.length 4) 2
  | .none => 4
  | .some value => jsonSize value
  | .unit => 4
  | .unitStruct _ => 4
  | .unitVariant _ _ variant => stringSize variant
  | .newtypeStruct _ value => jsonSize value
  | .newtypeVariant _ _ variant value => satAdd (satAdd (stringSize variant) (jsonSize value)) 3
  | .seq items => itemsSize 2 items
  | .tuple items => itemsSize 2 items
  | .tupleStruct _ items => itemsSize 2 items
  | .tupleVariant _ _ variant items => itemsSize (satAdd (stringSize variant) 5) items
  | .map entries => entriesSize 2 entries
  | .struct _ fields => fieldsSize 2 fields
  | .structVariant _ _ variant fields => fieldsSize (satAdd (stringSize variant) 5) fields
  | .display pieces => displaySize pieces

/-- The items a `Container` is given. -/
def itemsSize (size : Nat) : List Value → Nat
  | [] => size
  | value::rest => itemsSize (satAdd (satAdd size (jsonSize value)) 1) rest

/-- The keys and values of a map: a key is quoted even where it is a number. -/
def entriesSize (size : Nat) : List (Value × Value) → Nat
  | [] => size
  | (key,value)::rest =>
    let size := satAdd (satAdd (satAdd size 2) (jsonSize key)) 1
    entriesSize (satAdd (satAdd size (jsonSize value)) 1) rest

def fieldsSize (size : Nat) : List (String × Value) → Nat
  | [] => size
  | (key,value)::rest =>
    let size := satAdd (satAdd size (stringSize key)) 1
    fieldsSize (satAdd (satAdd size (jsonSize value)) 1) rest

end

/-- `serialized_size_bound` -/
def serializedSizeBound (value : Value) : Nat := jsonSize value

/-- The count is at least so many bytes, or as large as a count can be. -/
def Covers (count bytes : Nat) : Prop := min bytes u64Max ≤ count

section Counts

theorem Covers.satAdd {a b x y : Nat} (h : Covers a x) (h' : Covers b y) :
    Covers (satAdd a b) (x+y) := by
  simp only [Covers,Lib.Word.satAdd] at *
  omega

theorem Covers.mono {a x y : Nat} (h : Covers a y) (hle : x ≤ y) : Covers a x := by
  simp only [Covers] at *
  omega

theorem covers_of_le {a x : Nat} (h : x ≤ a) : Covers a x := by
  simp only [Covers]
  omega

theorem escapeByte_length (b : UInt8) : (escapeByte b).length ≤ byteSize b := by
  have hcontrol : (escapeByte b).length ≤ 6 := by
    have hcode : (utf8 "\\u00").length=4 := by decide
    rw [escapeByte]
    repeat' split
    all_goals first | decide | simp [hcode]
  rw [byteSize]
  split
  · exact hcontrol
  · next hprinted =>
    split
    · next hquoted =>
      rw [escapeByte,if_pos hquoted]
      exact Nat.le_refl 2
    · next hplain =>
      have hnot : ∀ c : UInt8, c ≤ 0x1F → b≠c := fun c hc he => hprinted (he ▸ hc)
      have hlarge : ¬b < 0x20 := by
        simp only [UInt8.le_iff_toNat_le,UInt8.lt_iff_toNat_lt,UInt8.reduceToNat] at *
        omega
      rw [escapeByte,if_neg hplain,if_neg (hnot 0x08 (by decide)),if_neg (hnot 0x09 (by decide)),
        if_neg (hnot 0x0A (by decide)),if_neg (hnot 0x0C (by decide)),
        if_neg (hnot 0x0D (by decide)),if_neg hlarge]
      exact Nat.le_refl 1

theorem covers_bytes (bs : List UInt8) {count x : Nat} (h : Covers count x) :
    Covers (bs.foldl (fun bytes byte => satAdd bytes (byteSize byte)) count)
      (x+(bs.flatMap escapeByte).length) := by
  induction bs generalizing count x with
  | nil => exact h
  | cons b bs ih =>
    have hb : Covers (byteSize b) (escapeByte b).length := covers_of_le (escapeByte_length b)
    have hrest := ih (h.satAdd hb)
    rw [List.flatMap_cons,List.length_append,← Nat.add_assoc]
    exact hrest

theorem length_quote (contents : List UInt8) : (quote contents).length=2+contents.length := by
  simp [quote]
  omega

theorem covers_text (s : String) : Covers (stringSize s) (text s).length := by
  rw [text,length_quote]
  exact covers_bytes (utf8 s) (covers_of_le (Nat.le_refl 2))

/-- A piece less its quotes. A count is at least 2 from the start, so that a saturated piece
saturates it. -/
theorem covers_piece {count x : Nat} (h : Covers count x) (hcount : 2 ≤ count) (piece : String) :
    Covers (satAdd count (stringSize piece-2)) (x+(escaped piece).length) ∧
      2 ≤ satAdd count (stringSize piece-2) := by
  have hpiece := covers_text piece
  rw [text,length_quote] at hpiece
  have hmax : 2 ≤ u64Max := by decide
  simp only [Covers,Lib.Word.satAdd] at *
  omega

theorem covers_display (pieces : List String) :
    Covers (displaySize pieces) (quote (pieces.flatMap escaped)).length := by
  have hall : ∀ (pieces : List String) {count x : Nat}, Covers count x → 2 ≤ count →
      Covers (pieces.foldl (fun count value => satAdd count (stringSize value-2)) count)
        (x+(pieces.flatMap escaped).length) := by
    intro pieces
    induction pieces with
    | nil =>
      intro count x h _
      exact h
    | cons piece pieces ih =>
      intro count x h hcount
      obtain ⟨hpiece,hnext⟩ := covers_piece h hcount piece
      have hrest := ih hpiece hnext
      rw [List.flatMap_cons,List.length_append,← Nat.add_assoc]
      exact hrest
  rw [length_quote]
  exact hall pieces (covers_of_le (Nat.le_refl 2)) (Nat.le_refl 2)

theorem length_separated_cons (part : List UInt8) (parts : List (List UInt8)) :
    (separated (part::parts)).length+1=((part::parts).map (fun part => part.length+1)).sum := by
  rw [separated]
  induction parts generalizing part with
  | nil => simp [List.intercalate]
  | cons other parts ih =>
    have hrest := ih other
    rw [List.intercalate_cons_cons]
    simp only [List.length_append,List.map_cons,List.sum_cons,List.length_cons,
      List.length_nil] at *
    omega

theorem length_separated (parts : List (List UInt8)) :
    (separated parts).length ≤ (parts.map (fun part => part.length+1)).sum := by
  cases parts with
  | nil => exact Nat.zero_le _
  | cons part parts =>
    have hlength := length_separated_cons part parts
    omega

theorem length_array (parts : List (List UInt8)) :
    (array parts).length ≤ 2+(parts.map (fun part => part.length+1)).sum := by
  have hparts := length_separated parts
  simp only [array,List.length_append,List.length_cons,List.length_nil]
  omega

theorem length_object (parts : List (List UInt8)) :
    (object parts).length ≤ 2+(parts.map (fun part => part.length+1)).sum := by
  have hparts := length_separated parts
  simp only [object,List.length_append,List.length_cons,List.length_nil]
  omega

theorem length_member (key value : List UInt8) :
    (member key value).length=key.length+value.length+1 := by
  simp [member]
  omega

end Counts

section Numerals

theorem length_repr {n k : Nat} (hk : 0 < k) (h : n < 10^k) : (utf8 (Nat.repr n)).length ≤ k := by
  rw [utf8_length]
  exact repr_size_le hk h

theorem length_int {n : Int} {k : Nat} (hk : 0 < k) (h : n.natAbs < 10^k) :
    (utf8 (toString n)).length ≤ k+1 := by
  rw [utf8_length]
  cases n with
  | ofNat m =>
    have hle := repr_size_le hk h
    change (Nat.repr m).utf8ByteSize ≤ k+1
    exact Nat.le_succ_of_le hle
  | negSucc m =>
    have hle := repr_size_le hk h
    change ("-"++Nat.repr (m+1)).utf8ByteSize ≤ k+1
    rw [String.utf8ByteSize_append]
    have hsign : "-".utf8ByteSize=1 := by decide
    have hsame : (Int.negSucc m).natAbs=m+1 := rfl
    rw [hsame] at hle
    omega

end Numerals

section Characters

theorem length_escape_high {n : Nat} (h : 128 ≤ n) (hn : n < 256) :
    (escapeByte (UInt8.ofNat n)).length ≤ 1 := by
  have hsize : byteSize (UInt8.ofNat n)=1 := by
    have hnat : (UInt8.ofNat n).toNat=n := by
      rw [UInt8.toNat_ofNat']
      exact Nat.mod_eq_of_lt hn
    rw [byteSize,if_neg,if_neg]
    · intro he
      cases he with
      | inl he =>
        rw [he] at hnat
        simp at hnat
        omega
      | inr he =>
        rw [he] at hnat
        simp at hnat
        omega
    · rw [UInt8.le_iff_toNat_le,hnat]
      simp
      omega
  exact hsize ▸ escapeByte_length _

theorem utf8_singleton (c : Char) : utf8 (String.singleton c)=String.utf8EncodeChar c := by
  rw [utf8]
  change (String.singleton c).toByteArray.data.toList=_
  rw [String.toByteArray_singleton,List.utf8Encode_singleton]
  simp

theorem length_char (c : Char) : (text (String.singleton c)).length ≤ 8 := by
  have hsix : ∀ b, (escapeByte b).length ≤ 6 := fun b => by
    have hle := escapeByte_length b
    have hsize : byteSize b ≤ 6 := by
      rw [byteSize]
      repeat' split
      all_goals decide
    omega
  rw [text,length_quote,escaped,utf8_singleton,String.utf8EncodeChar]
  split
  · have hone := hsix (UInt8.ofNat c.val.toNat)
    simp only [List.flatMap_cons,List.flatMap_nil,List.append_nil]
    omega
  · split
    · have h₁ := length_escape_high (n := c.val.toNat/64%0x20+0xc0) (by omega) (by omega)
      have h₂ := length_escape_high (n := c.val.toNat%0x40+0x80) (by omega) (by omega)
      simp only [List.flatMap_cons,List.flatMap_nil,List.append_nil,List.length_append]
      omega
    · split
      · have h₁ := length_escape_high (n := c.val.toNat/4096%0x10+0xe0) (by omega) (by omega)
        have h₂ := length_escape_high (n := c.val.toNat/64%0x40+0x80) (by omega) (by omega)
        have h₃ := length_escape_high (n := c.val.toNat%0x40+0x80) (by omega) (by omega)
        simp only [List.flatMap_cons,List.flatMap_nil,List.append_nil,List.length_append]
        omega
      · have h₁ := length_escape_high (n := c.val.toNat/262144%0x08+0xf0) (by omega) (by omega)
        have h₂ := length_escape_high (n := c.val.toNat/4096%0x40+0x80) (by omega) (by omega)
        have h₃ := length_escape_high (n := c.val.toNat/64%0x40+0x80) (by omega) (by omega)
        have h₄ := length_escape_high (n := c.val.toNat%0x40+0x80) (by omega) (by omega)
        simp only [List.flatMap_cons,List.flatMap_nil,List.append_nil,List.length_append]
        omega

end Characters

/-- What is documented of the printing of floats: no text is longer than 24 characters. -/
structure Documented (numbers : Numbers) : Prop where
  f32 : ∀ x, (numbers.f32 x).utf8ByteSize ≤ 24
  f64 : ∀ x, (numbers.f64 x).utf8ByteSize ≤ 24

section Values
variable {numbers : Numbers}

theorem length_null : null.length=4 := by decide

theorem length_float32 (h : Documented numbers) {x : Float32} {bs : List UInt8}
    (hx : float32 numbers x=some bs) : bs.length ≤ 24 := by
  rw [float32] at hx
  split at hx
  · cases hx
    rw [utf8_length]
    exact h.f32 x
  · cases hx

theorem length_float64 (h : Documented numbers) {x : Float} {bs : List UInt8}
    (hx : float64 numbers x=some bs) : bs.length ≤ 24 := by
  rw [float64] at hx
  split at hx
  · cases hx
    rw [utf8_length]
    exact h.f64 x
  · cases hx

theorem length_scalar (h : Documented numbers) {v : Value} {bs : List UInt8}
    (hv : scalar numbers v=some bs) : bs.length ≤ jsonSize v := by
  cases v with
  | bool b =>
    cases hv
    cases b with
    | false => decide
    | true => decide
  | i8 n =>
    cases hv
    have hlow := n.le_toInt
    have hhigh := n.toInt_lt
    exact length_int (k := 3) (by omega) (by omega)
  | i16 n =>
    cases hv
    have hlow := n.le_toInt
    have hhigh := n.toInt_lt
    exact length_int (k := 5) (by omega) (by omega)
  | i32 n =>
    cases hv
    have hlow := n.le_toInt
    have hhigh := n.toInt_lt
    exact length_int (k := 10) (by omega) (by omega)
  | i64 n =>
    cases hv
    have hlow := n.le_toInt
    have hhigh := n.toInt_lt
    exact length_int (k := 19) (by omega) (by omega)
  | i128 n =>
    cases hv
    have hlow := n.le_toInt
    have hhigh : n.toInt < 2^127 := BitVec.toInt_lt
    exact length_int (k := 39) (by omega) (by omega)
  | u8 n =>
    cases hv
    have hhigh := n.toNat_lt
    exact length_repr (k := 3) (by omega) (by omega)
  | u16 n =>
    cases hv
    have hhigh := n.toNat_lt
    exact length_repr (k := 5) (by omega) (by omega)
  | u32 n =>
    cases hv
    have hhigh := n.toNat_lt
    exact length_repr (k := 10) (by omega) (by omega)
  | u64 n =>
    cases hv
    have hhigh := n.toNat_lt
    exact length_repr (k := 20) (by omega) (by omega)
  | u128 n =>
    cases hv
    have hhigh := n.isLt
    exact length_repr (k := 39) (by omega) (by omega)
  | f32 x => exact length_float32 h hv
  | f64 x => exact length_float64 h hv
  | _ => cases hv

theorem covers_scalar_key (h : Documented numbers) {v : Value} {bs : List UInt8}
    (hv : (scalar numbers v).map quote=some bs) : ∃ n, bs.length ≤ 2+n ∧ Covers (jsonSize v) n := by
  obtain ⟨digits,hdigits,hbs⟩ := Option.map_eq_some_iff.1 hv
  refine ⟨digits.length,?_,covers_of_le (length_scalar h hdigits)⟩
  rw [← hbs,length_quote]

/-- A key takes at most two bytes, its quotes, more than what it is counted with. -/
theorem covers_key (h : Documented numbers) (v : Value) {bs : List UInt8}
    (hv : encodeKey numbers v=some bs) : ∃ n, bs.length ≤ 2+n ∧ Covers (jsonSize v) n := by
  cases v with
  | char c =>
    cases hv
    exact ⟨_,Nat.le_add_left _ 2,covers_of_le (length_char c)⟩
  | str s =>
    cases hv
    exact ⟨_,Nat.le_add_left _ 2,covers_text s⟩
  | display pieces =>
    cases hv
    exact ⟨_,Nat.le_add_left _ 2,covers_display pieces⟩
  | unitVariant _ _ variant =>
    cases hv
    exact ⟨_,Nat.le_add_left _ 2,covers_text variant⟩
  | newtypeStruct _ v => exact covers_key h v hv
  | some v => exact covers_key h v hv
  | _ => exact covers_scalar_key h hv

theorem covers_array {count : Nat} (parts : List (List UInt8)) {extra : Nat}
    (h : Covers count (extra+(parts.map (fun part => part.length+1)).sum)) (hextra : 2 ≤ extra) :
    Covers count (extra-2+(array parts).length) :=
  h.mono (by have hlength := length_array parts; omega)

theorem covers_object {count : Nat} (parts : List (List UInt8)) {extra : Nat}
    (h : Covers count (extra+(parts.map (fun part => part.length+1)).sum)) (hextra : 2 ≤ extra) :
    Covers count (extra-2+(object parts).length) :=
  h.mono (by have hlength := length_object parts; omega)

/-- An object of one member, as an enum variant is encoded. -/
theorem length_variant (variant : String) (value : List UInt8) :
    (object [member (text variant) value]).length=(text variant).length+value.length+3 := by
  simp only [object,separated,List.intercalate_singleton,List.length_append,List.length_cons,
    List.length_nil,length_member]

theorem covers_variant (variant : String) : Covers (satAdd (stringSize variant) 5)
    ((text variant).length+5) := (covers_text variant).satAdd (covers_of_le (Nat.le_refl 5))

theorem covers_bytes_value (bs : List UInt8) :
    Covers (jsonSize (.bytes bs)) (array (bs.map (fun b => utf8 (Nat.repr b.toNat)))).length := by
  have hparts : ((bs.map (fun b => utf8 (Nat.repr b.toNat))).map
      (fun part => part.length+1)).sum ≤ bs.length*4 := by
    induction bs with
    | nil => exact Nat.zero_le _
    | cons b bs ih =>
      have hhigh := b.toNat_lt
      have hdigits : (utf8 (Nat.repr b.toNat)).length ≤ 3 := length_repr (by omega) (by omega)
      simp only [List.map_cons,List.sum_cons,List.length_cons]
      omega
  have hlength := length_array (bs.map (fun b => utf8 (Nat.repr b.toNat)))
  rw [jsonSize]
  simp only [Covers,satMul,Lib.Word.satAdd]
  omega

mutual

theorem covers_encode (h : Documented numbers) (v : Value) {bs : List UInt8}
    (hv : encode numbers v=some bs) : Covers (jsonSize v) bs.length := by
  cases v with
  | char c =>
    cases hv
    exact covers_of_le (length_char c)
  | str s =>
    cases hv
    exact covers_text s
  | bytes value =>
    cases hv
    exact covers_bytes_value value
  | none =>
    cases hv
    exact covers_of_le (Nat.le_of_eq length_null)
  | unit =>
    cases hv
    exact covers_of_le (Nat.le_of_eq length_null)
  | unitStruct _ =>
    cases hv
    exact covers_of_le (Nat.le_of_eq length_null)
  | some v => exact covers_encode h v hv
  | newtypeStruct _ v => exact covers_encode h v hv
  | unitVariant _ _ variant =>
    cases hv
    exact covers_text variant
  | newtypeVariant _ _ variant v =>
    obtain ⟨value,hvalue,hbs⟩ := Option.map_eq_some_iff.1 hv
    have hcovered := ((covers_text variant).satAdd (covers_encode h v hvalue)).satAdd
      (covers_of_le (Nat.le_refl 3))
    rw [← hbs,length_variant]
    exact hcovered
  | seq items =>
    obtain ⟨parts,hparts,hbs⟩ := Option.map_eq_some_iff.1 hv
    have hcovered := covers_items h items hparts (covers_of_le (Nat.le_refl 2))
    rw [← hbs,← Nat.zero_add (array parts).length]
    exact covers_array parts hcovered (Nat.le_refl 2)
  | tuple items =>
    obtain ⟨parts,hparts,hbs⟩ := Option.map_eq_some_iff.1 hv
    have hcovered := covers_items h items hparts (covers_of_le (Nat.le_refl 2))
    rw [← hbs,← Nat.zero_add (array parts).length]
    exact covers_array parts hcovered (Nat.le_refl 2)
  | tupleStruct _ items =>
    obtain ⟨parts,hparts,hbs⟩ := Option.map_eq_some_iff.1 hv
    have hcovered := covers_items h items hparts (covers_of_le (Nat.le_refl 2))
    rw [← hbs,← Nat.zero_add (array parts).length]
    exact covers_array parts hcovered (Nat.le_refl 2)
  | tupleVariant _ _ variant items =>
    obtain ⟨parts,hparts,hbs⟩ := Option.map_eq_some_iff.1 hv
    have hcovered := covers_array parts (covers_items h items hparts (covers_variant variant))
      (by omega)
    rw [← hbs,length_variant]
    exact hcovered.mono (by omega)
  | map entries =>
    obtain ⟨parts,hparts,hbs⟩ := Option.map_eq_some_iff.1 hv
    have hcovered := covers_entries h entries hparts (covers_of_le (Nat.le_refl 2))
    rw [← hbs,← Nat.zero_add (object parts).length]
    exact covers_object parts hcovered (Nat.le_refl 2)
  | struct _ fields =>
    obtain ⟨parts,hparts,hbs⟩ := Option.map_eq_some_iff.1 hv
    have hcovered := covers_fields h fields hparts (covers_of_le (Nat.le_refl 2))
    rw [← hbs,← Nat.zero_add (object parts).length]
    exact covers_object parts hcovered (Nat.le_refl 2)
  | structVariant _ _ variant fields =>
    obtain ⟨parts,hparts,hbs⟩ := Option.map_eq_some_iff.1 hv
    have hcovered := covers_object parts (covers_fields h fields hparts (covers_variant variant))
      (by omega)
    rw [← hbs,length_variant]
    exact hcovered.mono (by omega)
  | display pieces =>
    cases hv
    exact covers_display pieces
  | f32 x =>
    cases hv
    cases hx : float32 numbers x with
    | none =>
      have hnull : null.length ≤ 24 := by decide
      exact covers_of_le hnull
    | some digits => exact covers_of_le (length_float32 h hx)
  | f64 x =>
    cases hv
    cases hx : float64 numbers x with
    | none =>
      have hnull : null.length ≤ 24 := by decide
      exact covers_of_le hnull
    | some digits => exact covers_of_le (length_float64 h hx)
  | _ => exact covers_of_le (length_scalar h hv)

theorem covers_items (h : Documented numbers) (items : List Value) {parts : List (List UInt8)}
    {count x : Nat} (hparts : encodeItems numbers items=some parts) (hcount : Covers count x) :
    Covers (itemsSize count items) (x+(parts.map (fun part => part.length+1)).sum) := by
  cases items with
  | nil =>
    cases hparts
    exact hcount
  | cons v rest =>
    simp only [encodeItems,Option.bind_eq_bind,Option.bind_eq_some_iff] at hparts
    obtain ⟨value,hvalue,others,hothers,hparts⟩ := hparts
    cases hparts
    have hnext := (hcount.satAdd (covers_encode h v hvalue)).satAdd (covers_of_le (Nat.le_refl 1))
    have hrest := covers_items h rest hothers hnext
    rw [List.map_cons,List.sum_cons,← Nat.add_assoc,← Nat.add_assoc]
    exact hrest

theorem covers_entries (h : Documented numbers) (entries : List (Value × Value))
    {parts : List (List UInt8)} {count x : Nat} (hparts : encodeEntries numbers entries=some parts)
    (hcount : Covers count x) :
    Covers (entriesSize count entries) (x+(parts.map (fun part => part.length+1)).sum) := by
  cases entries with
  | nil =>
    cases hparts
    exact hcount
  | cons entry rest =>
    obtain ⟨k,v⟩ := entry
    simp only [encodeEntries,Option.bind_eq_bind,Option.bind_eq_some_iff] at hparts
    obtain ⟨key,hkey,value,hvalue,others,hothers,hparts⟩ := hparts
    cases hparts
    obtain ⟨n,hn,hcovers⟩ := covers_key h k hkey
    have hnext := ((((hcount.satAdd (covers_of_le (Nat.le_refl 2))).satAdd hcovers).satAdd
      (covers_of_le (Nat.le_refl 1))).satAdd (covers_encode h v hvalue)).satAdd
        (covers_of_le (Nat.le_refl 1))
    have hrest := covers_entries h rest hothers hnext
    apply hrest.mono
    simp only [List.map_cons,List.sum_cons,length_member]
    omega

theorem covers_fields (h : Documented numbers) (fields : List (String × Value))
    {parts : List (List UInt8)} {count x : Nat} (hparts : encodeFields numbers fields=some parts)
    (hcount : Covers count x) :
    Covers (fieldsSize count fields) (x+(parts.map (fun part => part.length+1)).sum) := by
  cases fields with
  | nil =>
    cases hparts
    exact hcount
  | cons field rest =>
    obtain ⟨k,v⟩ := field
    simp only [encodeFields,Option.bind_eq_bind,Option.bind_eq_some_iff] at hparts
    obtain ⟨value,hvalue,others,hothers,hparts⟩ := hparts
    cases hparts
    have hnext := (((hcount.satAdd (covers_text k)).satAdd (covers_of_le (Nat.le_refl 1))).satAdd
      (covers_encode h v hvalue)).satAdd (covers_of_le (Nat.le_refl 1))
    have hrest := covers_fields h rest hothers hnext
    apply hrest.mono
    simp only [List.map_cons,List.sum_cons,length_member]
    omega

end

end Values

/-- The bound covers the compact encoding of every value that has one: it is at least the
encoding's length in bytes, or the largest `usize`, at which counting stops. -/
theorem size_bound_covers (numbers : Numbers) (h : Documented numbers) (v : Value)
    (bs : List UInt8) (hv : encode numbers v=some bs) :
    min bs.length u64Max ≤ serializedSizeBound v := covers_encode h v hv

/-- Prints every float as one half. -/
def half : Numbers := ⟨fun _ => "0.5",fun _ => "0.5"⟩

/-- A map of a number to one half in a text that is escaped. -/
def quotedHalf : Value :=
  .map [(.i8 (-5),.f64 0.5),(.str "a\n\"",.newtypeVariant "Some" 1 "é" (.bytes [0,255]))]

theorem half_documented : Documented half :=
  ⟨fun _ => Nat.le_of_ble_eq_true rfl,fun _ => Nat.le_of_ble_eq_true rfl⟩

def quotedHalfText : List UInt8 :=
  utf8 "\x7b\"-5\":0.5,\"a\\n\\\"\":\x7b\"é\":[0,255]\x7d\x7d"

theorem quotedHalf_covered : encode half quotedHalf=some quotedHalfText ∧
    min quotedHalfText.length u64Max ≤ serializedSizeBound quotedHalf := by
  have hencoded : encode half quotedHalf=some quotedHalfText := by decide
  exact ⟨hencoded,size_bound_covers half half_documented quotedHalf quotedHalfText hencoded⟩

theorem length_many_bytes (n : Nat) :
    (array ((List.replicate (n+1) (255 : UInt8)).map (fun b => utf8 (Nat.repr b.toNat)))).length=
      4*(n+1)+1 := by
  have hdigits : (utf8 (Nat.repr (255 : UInt8).toNat)).length=3 := by decide
  have hparts := length_separated_cons (utf8 (Nat.repr (255 : UInt8).toNat))
    (List.replicate n (utf8 (Nat.repr (255 : UInt8).toNat)))
  rw [← List.replicate_succ,List.map_replicate,hdigits,List.sum_replicate] at hparts
  rw [List.map_replicate]
  simp only [array,List.length_append,List.length_cons,List.length_nil]
  rw [Nat.nsmul_eq_mul] at hparts
  omega

/-- A quarter of the addressable bytes, as a byte slice, takes more than a `usize` can count. -/
theorem endless_bytes_not_covered : ¬∀ (numbers : Numbers), Documented numbers →
    ∀ (v : Value) (bs : List UInt8), encode numbers v=some bs →
      bs.length ≤ serializedSizeBound v := by
  intro hall
  have hle := hall half half_documented (.bytes (List.replicate (2^62-1+1) 255)) _ rfl
  rw [length_many_bytes] at hle
  have hbound : serializedSizeBound (.bytes (List.replicate (2^62-1+1) 255)) ≤ u64Max :=
    Nat.min_le_right _ _
  have hmax : u64Max=2^64-1 := rfl
  omega

end BatCave.WorkloadHistory.SizeBound
