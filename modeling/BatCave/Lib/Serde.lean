import BatCave.Lib.Text

/-! The data model of serde, a value being what it hands to a serializer, and the compact
encoding serde_json documents for it. How finite floats are printed is a parameter. -/
namespace BatCave.Lib.Serde
open BatCave.Lib.Text

inductive Value where
  | bool (b : Bool)
  | i8 (n : Int8)
  | i16 (n : Int16)
  | i32 (n : Int32)
  | i64 (n : Int64)
  | i128 (n : BitVec 128)
  | u8 (n : UInt8)
  | u16 (n : UInt16)
  | u32 (n : UInt32)
  | u64 (n : UInt64)
  | u128 (n : BitVec 128)
  | f32 (x : Float32)
  | f64 (x : Float)
  | char (c : Char)
  | str (s : String)
  | bytes (bs : List UInt8)
  | none
  | some (v : Value)
  | unit
  | unitStruct (name : String)
  | unitVariant (name : String) (index : UInt32) (variant : String)
  | newtypeStruct (name : String) (v : Value)
  | newtypeVariant (name : String) (index : UInt32) (variant : String) (v : Value)
  | seq (items : List Value)
  | tuple (items : List Value)
  | tupleStruct (name : String) (items : List Value)
  | tupleVariant (name : String) (index : UInt32) (variant : String) (items : List Value)
  | map (entries : List (Value × Value))
  | struct (name : String) (fields : List (String × Value))
  | structVariant (name : String) (index : UInt32) (variant : String)
      (fields : List (String × Value))
  /-- `collect_str`, with the pieces that are written. -/
  | display (pieces : List String)

/-- How finite floats are printed. -/
structure Numbers where
  f32 : Float32 → String
  f64 : Float → String

section Texts

def hexDigit (n : UInt8) : UInt8 := if n < 10 then 0x30+n else 0x57+n

def escapeByte (b : UInt8) : List UInt8 :=
  if b=0x22 ∨ b=0x5C then [0x5C,b]
  else if b=0x08 then utf8 "\\b"
  else if b=0x09 then utf8 "\\t"
  else if b=0x0A then utf8 "\\n"
  else if b=0x0C then utf8 "\\f"
  else if b=0x0D then utf8 "\\r"
  else if b < 0x20 then utf8 "\\u00"++[hexDigit (b >>> 4),hexDigit (b &&& 0x0F)]
  else [b]

def escaped (s : String) : List UInt8 := (utf8 s).flatMap escapeByte

def quote (contents : List UInt8) : List UInt8 := 0x22::contents++[0x22]

def text (s : String) : List UInt8 := quote (escaped s)

def separated (parts : List (List UInt8)) : List UInt8 := [(0x2C : UInt8)].intercalate parts

def array (parts : List (List UInt8)) : List UInt8 := 0x5B::separated parts++[0x5D]

def object (parts : List (List UInt8)) : List UInt8 := 0x7B::separated parts++[0x7D]

def member (key value : List UInt8) : List UInt8 := key++0x3A::value

end Texts

section Encoding
variable (numbers : Numbers)

def float32 (x : Float32) : Option (List UInt8) :=
  if x.isFinite then some (utf8 (numbers.f32 x)) else none

def float64 (x : Float) : Option (List UInt8) :=
  if x.isFinite then some (utf8 (numbers.f64 x)) else none

/-- The text of a number or of a boolean. -/
def scalar : Value → Option (List UInt8)
  | .bool b => some (utf8 (if b then "true" else "false"))
  | .i8 n => some (utf8 (toString n.toInt))
  | .i16 n => some (utf8 (toString n.toInt))
  | .i32 n => some (utf8 (toString n.toInt))
  | .i64 n => some (utf8 (toString n.toInt))
  | .i128 n => some (utf8 (toString n.toInt))
  | .u8 n => some (utf8 (Nat.repr n.toNat))
  | .u16 n => some (utf8 (Nat.repr n.toNat))
  | .u32 n => some (utf8 (Nat.repr n.toNat))
  | .u64 n => some (utf8 (Nat.repr n.toNat))
  | .u128 n => some (utf8 (Nat.repr n.toNat))
  | .f32 x => float32 numbers x
  | .f64 x => float64 numbers x
  | _ => none

/-- A key: a text, or a scalar that is put in quotes. Nothing else can be one. -/
def encodeKey : Value → Option (List UInt8)
  | .char c => some (text (String.singleton c))
  | .str s => some (text s)
  | .display pieces => some (quote (pieces.flatMap escaped))
  | .unitVariant _ _ variant => some (text variant)
  | .newtypeStruct _ v => encodeKey v
  | .some v => encodeKey v
  | v => (scalar numbers v).map quote

def null : List UInt8 := utf8 "null"

mutual

/-- `none` where serde_json refuses: only for a key. -/
def encode : Value → Option (List UInt8)
  | .char c => some (text (String.singleton c))
  | .str s => some (text s)
  | .bytes bs => some (array (bs.map (fun b => utf8 (Nat.repr b.toNat))))
  | .none => some null
  | .some v => encode v
  | .unit => some null
  | .unitStruct _ => some null
  | .unitVariant _ _ variant => some (text variant)
  | .newtypeStruct _ v => encode v
  | .newtypeVariant _ _ variant v => (encode v).map (fun v => object [member (text variant) v])
  | .seq items => (encodeItems items).map array
  | .tuple items => (encodeItems items).map array
  | .tupleStruct _ items => (encodeItems items).map array
  | .tupleVariant _ _ variant items =>
    (encodeItems items).map (fun parts => object [member (text variant) (array parts)])
  | .map entries => (encodeEntries entries).map object
  | .struct _ fields => (encodeFields fields).map object
  | .structVariant _ _ variant fields =>
    (encodeFields fields).map (fun parts => object [member (text variant) (object parts)])
  | .display pieces => some (quote (pieces.flatMap escaped))
  -- A float that is not finite is null.
  | .f32 x => some ((float32 numbers x).getD null)
  | .f64 x => some ((float64 numbers x).getD null)
  | .bool b => scalar numbers (.bool b)
  | .i8 n => scalar numbers (.i8 n)
  | .i16 n => scalar numbers (.i16 n)
  | .i32 n => scalar numbers (.i32 n)
  | .i64 n => scalar numbers (.i64 n)
  | .i128 n => scalar numbers (.i128 n)
  | .u8 n => scalar numbers (.u8 n)
  | .u16 n => scalar numbers (.u16 n)
  | .u32 n => scalar numbers (.u32 n)
  | .u64 n => scalar numbers (.u64 n)
  | .u128 n => scalar numbers (.u128 n)

def encodeItems : List Value → Option (List (List UInt8))
  | [] => some []
  | v::vs => do
    let v ← encode v
    let vs ← encodeItems vs
    some (v::vs)

def encodeEntries : List (Value × Value) → Option (List (List UInt8))
  | [] => some []
  | (k,v)::rest => do
    let k ← encodeKey numbers k
    let v ← encode v
    let rest ← encodeEntries rest
    some (member k v::rest)

def encodeFields : List (String × Value) → Option (List (List UInt8))
  | [] => some []
  | (k,v)::rest => do
    let v ← encode v
    let rest ← encodeFields rest
    some (member (text k) v::rest)

end

end Encoding

example : encode ⟨fun _ => "",fun _ => ""⟩ (.struct "Point" [("x",.i8 (-5)),("y",.none)])=
    some (utf8 "\x7b\"x\":-5,\"y\":null\x7d") := by decide

end BatCave.Lib.Serde
