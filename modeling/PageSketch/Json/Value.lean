import PageSketch.Keyed
import PageSketch.Number.Layout

/-!
# JSON values

A number is a whole number that fits 64 bits, signed or unsigned, or a finite double. The same
quantity has two forms, and they differ in their text: `1` and `1.0`. The members of an object stand in
the order of the text, and a key may be repeated there. `dedup` and `sorted` are the two ways of keeping
every key once.
-/

namespace PageSketch.Json

/-! ## Numbers -/

/-- A JSON number. -/
inductive Number where
  | integer (value : Int) (lower : -9223372036854775808 ≤ value)
      (upper : value ≤ 18446744073709551615)
  | float (value : Binary .double)
deriving DecidableEq

namespace Number

/-- The whole number as a JSON number, if it fits 64 bits. -/
def ofInt? (value : Int) : Option Number :=
  if h : -9223372036854775808 ≤ value ∧ value ≤ 18446744073709551615 then
    some (.integer value h.1 h.2)
  else none

/-- A whole number of 64 signed bits as a JSON number. -/
def ofInt64 (n : Int64) : Number :=
  .integer n.toInt (by have := n.le_toInt; omega) (by have := n.toInt_lt; omega)

/-- The text of a number. -/
def text : Number → String
  | .integer value _ _ => toString value
  | .float value => DecimalStyle.jsonDouble.text value

/-- The exact value of a number, if it is whole. -/
def toInt? : Number → Option Int
  | .integer value _ _ => some value
  | .float value => value.toInt?

/-- The single-precision number nearest to a number. -/
def toSingle : Number → ExtendedBinary .single
  | .float value => value.convert .single
  | .integer value _ _ =>
    match Binary.nearest? .single (value < 0) value.natAbs 1 with
    | some x => .finite x
    | none => .infinite (value < 0)

/-- A double as a number; the infinities and the undefined result have no JSON form. -/
def ofDouble? : ExtendedBinary .double → Option Number
  | .finite value => some (.float value)
  | _ => none

end Number

/-! ## Values -/

/-- A JSON value; the members of an object stand in the order of the text. -/
inductive Value where
  | null
  | bool (value : Bool)
  | number (value : Number)
  | string (value : String)
  | array (items : List Value)
  | object (members : List (String × Value))
deriving Inhabited

namespace Value

mutual

/-- The value with every key kept once: a repeated key has its first place and its last value. -/
def dedup : Value → Value
  | .array items => .array (dedupItems items)
  | .object members => .object (dedupMembers [] members)
  | .null => .null
  | .bool b => .bool b
  | .number n => .number n
  | .string s => .string s

/-- `dedup` on every item. -/
def dedupItems : List Value → List Value
  | [] => []
  | item :: rest => dedup item :: dedupItems rest

/-- Sets the members one after another. -/
def dedupMembers (done : List (String × Value)) : List (String × Value) → List (String × Value)
  | [] => done
  | (key, value) :: rest => dedupMembers (put key (dedup value) done) rest

end

mutual

/-- The value with the keys of every object ascending: a repeated key has its last value. -/
def sorted : Value → Value
  | .array items => .array (sortedItems items)
  | .object members => .object (sortedMembers [] members)
  | .null => .null
  | .bool b => .bool b
  | .number n => .number n
  | .string s => .string s

/-- `sorted` on every item. -/
def sortedItems : List Value → List Value
  | [] => []
  | item :: rest => sorted item :: sortedItems rest

/-- Sets the members one after another in ascending order. -/
def sortedMembers (done : List (String × Value)) : List (String × Value) → List (String × Value)
  | [] => done
  | (key, value) :: rest => sortedMembers (putSorted key (sorted value) done) rest

end

/-- The value under a key of an object. -/
def member? (key : String) : Value → Option Value
  | .object members => valueAt? key members
  | _ => none

/-- The first item of an array. -/
def first? : Value → Option Value
  | .array items => items.head?
  | _ => none

/-- The text of a string. -/
def string? : Value → Option String
  | .string text => some text
  | _ => none

end Value

end PageSketch.Json
