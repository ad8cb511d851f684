import BatCave.Lib.Binary64
import BatCave.Lib.Text

/-! Values as `JSON.parse` leaves them in JavaScript, and the operations on them that a
reader of data needs: reads of properties and elements, tests of kinds and of numbers,
comparison without coercion and the trimming of texts. -/
namespace BatCave.Lib.Js
open BatCave.Lib.Text

/-- A value. A number is kept as it was written: as an unsigned integer or with a fraction. -/
inductive Value where
  | undefined
  | null
  | bool (value : Bool)
  | nat (value : Nat)
  | num (value : Float)
  | str (value : String)
  | arr (items : List Value)
  | obj (fields : List (String × Value))

/-- `Number.MAX_SAFE_INTEGER` -/
def maxSafeInteger : Nat := 2^53-1

/-- White space and line terminators, which `String.prototype.trim` takes off. -/
def isWhitespace (c : Char) : Bool :=
  let n := c.toNat
  (9 ≤ n && n ≤ 13) || n==0x20 || n==0xA0 || n==0x1680 || (0x2000 ≤ n && n ≤ 0x200A) ||
    n==0x2028 || n==0x2029 || n==0x202F || n==0x205F || n==0x3000 || n==0xFEFF

/-- `String.prototype.trim` -/
def trim (s : String) : String :=
  String.ofList ((s.toList.dropWhile isWhitespace).reverse.dropWhile isWhitespace).reverse

/-- Only white space is trimmed away completely. -/
theorem trim_length_eq_zero {s : String} :
    (trim s).length=0 ↔ ∀ c∈s.toList, isWhitespace c=true := by
  rw [← String.length_toList,trim,String.toList_ofList,List.length_eq_zero_iff,
    List.reverse_eq_nil_iff,List.dropWhile_eq_nil_iff]
  constructor
  · intro h
    cases hfront : s.toList.dropWhile isWhitespace with
    | nil => exact List.dropWhile_eq_nil_iff.1 hfront
    | cons c cs =>
      have hhead :=
        List.head_dropWhile_not isWhitespace (by rw [hfront]; exact List.cons_ne_nil c cs)
      rw [h _ (List.mem_reverse.2 (List.head_mem _))] at hhead
      cases hhead
  · intro h c hc
    exact h c ((List.dropWhile_sublist isWhitespace).mem (List.mem_reverse.1 hc))

namespace Value

/-- A property; what is no object has none. -/
def get (v : Value) (key : String) : Value :=
  match v with
  | obj fields => (fields.lookup key).getD undefined
  | _ => undefined

/-- The elements that an iteration runs over. -/
@[simp] def items : Value → List Value
  | arr items => items
  | _ => []

@[simp] def isArray : Value → Bool
  | arr _ => true
  | _ => false

/-- `typeof v === "object" && v !== null && !Array.isArray(v)` -/
@[simp] def isRecord : Value → Bool
  | obj _ => true
  | _ => false

@[simp] def isNull : Value → Bool
  | null => true
  | _ => false

/-- `typeof v === "string"` -/
@[simp] def isString : Value → Bool
  | str _ => true
  | _ => false

/-- `typeof v === "boolean"` -/
@[simp] def isBoolean : Value → Bool
  | bool _ => true
  | _ => false

/-- Whether a value counts as true in a condition. -/
def truthy : Value → Bool
  | undefined => false
  | null => false
  | bool b => b
  | nat n => n != 0
  | num x => !(x==0.0 || x.isNaN)
  | str s => s != ""
  | arr _ => true
  | obj _ => true

/-- `Number.isSafeInteger(v) && v >= 0` for a number. -/
def isSafeNatural : Value → Bool
  | nat n => n ≤ maxSafeInteger
  | num x => x.isFinite && Binary64.round x==x && !(x < 0.0) &&
      !(Binary64.ofUnsigned maxSafeInteger < x)
  | _ => false

/-- `Number.isFinite(v) && v >= 0` for a number. -/
def isFiniteNonNegative : Value → Bool
  | nat _ => true
  | num x => x.isFinite && !(x < 0.0)
  | _ => false

def toFloat? : Value → Option Float
  | nat n => some (Binary64.ofUnsigned n)
  | num x => some x
  | _ => none

/-- `v < w` on numbers; exact where both were written as integers. -/
def lt (v w : Value) : Bool :=
  match v,w with
  | nat m,nat n => m < n
  | v,w =>
    match v.toFloat?,w.toFloat? with
    | some x,some y => x < y
    | _,_ => false

/-- `v === w` on what is no object. -/
def same (v w : Value) : Bool :=
  match v,w with
  | undefined,undefined => true
  | null,null => true
  | bool b,bool c => b==c
  | str s,str t => s==t
  | nat m,nat n => m==n
  | v,w =>
    match v.toFloat?,w.toFloat? with
    | some x,some y => x==y
    | _,_ => false

/-- `v === "..."` -/
def isStr (v : Value) (s : String) : Bool := v.same (str s)

/-- `v - w` on integers that were written so. -/
def sub (v w : Value) : Value :=
  match v,w with
  | nat m,nat n => nat (m-n)
  | _,_ => undefined

/-- An element; the index is a number that has one. -/
def atIndex (v index : Value) : Value :=
  match index with
  | nat n => v.items[n]?.getD undefined
  | num x => if (num x).isSafeNatural then v.items[Binary64.toU64 x]?.getD undefined else undefined
  | _ => undefined

/-- The text of a text; what is none has no characters. -/
@[simp] def text : Value → String
  | str s => s
  | _ => ""

/-- What a template literal prints of a text or of an integer. -/
def shown : Value → String
  | str s => s
  | nat n => toString n
  | null => "null"
  | undefined => "undefined"
  | _ => ""

/-- `new Set(vs).size === vs.length` -/
def distinct : List Value → Bool
  | [] => true
  | v::vs => !vs.any v.same && distinct vs

/-- `set.has(v)` for a set of texts. -/
def isIn (v : Value) (set : List String) : Bool :=
  match v with
  | str s => set.contains s
  | _ => false

/-- `None` is written as null. -/
def orNull {α : Type} (write : α → Value) (o : Option α) : Value := o.elim null write

section Written
variable {α : Type} {write : α → Value}

@[simp] theorem orNull_none : orNull write none=null := rfl

@[simp] theorem orNull_some (a : α) : orNull write (some a)=write a := rfl

@[simp] theorem isNull_orNull (hwrite : ∀ a, (write a).isNull=false) (o : Option α) :
    (orNull write o).isNull=o.isNone := by
  cases o with
  | none => rfl
  | some a => exact hwrite a

/-- `v !== null && bad(v)` -/
theorem and_orNull (hwrite : ∀ a, (write a).isNull=false) (P : Value → Bool) (o : Option α) :
    (!(orNull write o).isNull && P (orNull write o))=o.any (fun a => P (write a)) := by
  cases o with
  | none => rfl
  | some a =>
    rw [orNull_some,hwrite]
    rfl

theorem isString_str (s : String) : (str s).isString=true := rfl

theorem text_str (s : String) : (str s).text=s := rfl

theorem isRecord_obj (fields : List (String × Value)) : (obj fields).isRecord=true := rfl

theorem isBoolean_bool (b : Bool) : (bool b).isBoolean=true := rfl

/-- An absent text passes as one. -/
theorem and_orNull_isString (o : Option String) :
    (!(orNull str o).isNull && !(orNull str o).isString)=false := by
  cases o with
  | none => rfl
  | some s => rfl

theorem same_str (s t : String) : (str s).same (str t)=(s==t) := rfl

theorem distinct_map {vs : List α} (hsame : ∀ a b, (write a).same (write b)=true ↔ a=b) :
    distinct (vs.map write)=true ↔ vs.Nodup := by
  induction vs with
  | nil => simp [distinct]
  | cons a vs ih =>
    have hnew : (!(vs.map write).any (write a).same)=true ↔ a∉vs := by
      rw [Bool.not_eq_true',List.any_map,List.any_eq_false]
      constructor
      · intro h hmem
        exact h a hmem ((hsame a a).2 rfl)
      · intro h b hmem hb
        rw [(hsame a b).1 hb] at h
        exact h hmem
    rw [List.map_cons,distinct,Bool.and_eq_true,ih,List.nodup_cons,hnew]

end Written
end Value

end BatCave.Lib.Js
