import PageSketch.Number.Binary

/-!
# Reading decimal text

Digits, whole numbers and correctly rounded binary numbers, read from text. The grammar of a
binary number is an optional sign, then `inf`, `infinity` or `nan` in any case, or digits with an
optional point somewhere and an optional exponent; nothing may stand before or after it.
-/

namespace PageSketch

/-- Whether a character is an ASCII digit. -/
def isDigit (c : Char) : Bool := '0' ≤ c && c ≤ '9'

/-- The value of an ASCII digit. -/
def digitValue (c : Char) : Nat := c.toNat - '0'.toNat

/-- The number written by digits, after the digits that make up `before`. -/
def digitsFrom (before : Nat) (ds : List Char) : Nat :=
  ds.foldl (fun n d => 10 * n + digitValue d) before

/-- The number written by digits. -/
def digitsValue (ds : List Char) : Nat := digitsFrom 0 ds

/-- An optional sign: whether it is a minus, and what follows. -/
def readSign : List Char → Bool × List Char
  | '-' :: rest => (true, rest)
  | '+' :: rest => (false, rest)
  | cs => (false, cs)

/-- A whole number: an optional sign and digits, up to the end of the text. -/
def readInt? (cs : List Char) : Option Int :=
  let (negative, ds) := readSign cs
  if ds.isEmpty || !ds.all isDigit then none
  else some (if negative then -(digitsValue ds : Int) else digitsValue ds)

/-- A whole number within 64 signed bits. -/
def readInt64? (cs : List Char) : Option Int64 :=
  (readInt? cs).bind int64?

/-- The power of ten that follows the digits of a binary number: an empty text stands for `0`. -/
def readExponent? : List Char → Option Int
  | [] => some 0
  | c :: rest => if c = 'e' || c = 'E' then readInt? rest else none

/-- The binary number nearest to `significand * 10 ^ exponent`. Powers of ten beyond the range of
the format are told by their size alone. -/
def scaleDecimal (format : BinaryFormat) (negative : Bool) (significand : Nat) (exponent : Int) :
    ExtendedBinary format :=
  let size := exponent + (Nat.toDigits 10 significand).length
  if significand = 0 ∨ size < -(format.places : Int) then .finite (Binary.zero format negative)
  else if (format.limit : Int) < size then .infinite negative
  else
    match Binary.nearest? format negative (significand * tenTo exponent.toNat)
        (tenTo (-exponent).toNat) with
    | some x => .finite x
    | none => .infinite negative

/-- The binary number that a text names. -/
def readBinary? (format : BinaryFormat) (text : String) : Option (ExtendedBinary format) :=
  let (negative, body) := readSign text.toList
  let word := String.ofList (body.map Char.toLower)
  if word = "inf" ∨ word = "infinity" then some (.infinite negative)
  else if word = "nan" then some .undefined
  else
    let whole := body.takeWhile isDigit
    let (fraction, rest) := match body.dropWhile isDigit with
      | '.' :: tail => (tail.takeWhile isDigit, tail.dropWhile isDigit)
      | tail => ([], tail)
    if whole.isEmpty && fraction.isEmpty then none
    else
      (readExponent? rest).map fun exponent =>
        scaleDecimal format negative (digitsValue (whole ++ fraction))
          (exponent - fraction.length)

end PageSketch
