import PageSketch.Json.Value
import PageSketch.Number.Reading

/-!
# Number literals and their values

A literal keeps its digits as they were written. Its value is not the nearest double in every
case: the digits go into a significand of 64 bits, digits beyond that only count as places, and
the significand is then multiplied or divided by a power of ten with one rounding each.
-/

namespace PageSketch.Json

/-- The exponent of a literal. -/
structure Exponent where
  negative : Bool
  digits : List Char
deriving DecidableEq

/-- A number literal. -/
structure Numeral where
  negative : Bool
  whole : List Char
  fraction : List Char
  exponent : Option Exponent
deriving DecidableEq

/-- Appends digits to a number while it stays within the limit; also gives the digits left over. -/
def accumulate (limit : Nat) (n : Nat) : List Char → Nat × List Char
  | [] => (n, [])
  | d :: rest =>
    if 10 * n + digitValue d ≤ limit then accumulate limit (10 * n + digitValue d) rest
    else (n, d :: rest)

/-- What is accumulated stays within the limit. -/
theorem accumulate_fst_le {limit n : Nat} (h : n ≤ limit) (ds : List Char) :
    (accumulate limit n ds).1 ≤ limit := by
  induction ds generalizing n with
  | nil => simpa [accumulate] using h
  | cons d rest ih =>
    unfold accumulate
    split
    · rename_i hd
      exact ih hd
    · exact h

/-! ## Scaling by powers of ten -/

/-- The units of the double nearest to a power of ten. -/
def tenPower (k : Nat) : Nat := Binary.nearestUnits .double (tenTo k * twoTo 1074) 1

/-- Divides by the power `308` of ten while anything is left, at most `steps` times. -/
def shrink : Nat → Nat → Nat
  | 0, units => units
  | steps + 1, units =>
    if units = 0 then 0
    else shrink steps (Binary.nearestUnits .double (units * twoTo 1074) (tenPower 308))

/-- The units of a significand scaled by a power of ten; none if the power is out of range. -/
def scaleUnits? (significand : Nat) (exponent : Int) : Option Nat :=
  let units := Binary.nearestUnits .double (significand * twoTo 1074) 1
  let size := exponent.natAbs
  if 0 ≤ exponent then
    if size ≤ 308 then some (Binary.nearestUnits .double (units * tenPower size) (twoTo 1074))
    else if units = 0 then some 0
    else none
  else
    let steps := (size - 1) / 308
    let shrunk := shrink steps units
    some (Binary.nearestUnits .double (shrunk * twoTo 1074) (tenPower (size - 308 * steps)))

/-- The double of a significand scaled by a power of ten. -/
def scale? (negative : Bool) (significand : Nat) (exponent : Int) : Option Number :=
  (scaleUnits? significand exponent).bind fun units =>
    (Binary.ofUnits? .double negative units).map .float

/-! ## The value of a literal -/

namespace Numeral

/-- The greatest significand: the greatest number of 64 bits. -/
def maxSignificand : Nat := 18446744073709551615

/-- The greatest written exponent: the greatest number of 32 signed bits. -/
def maxExponent : Nat := 2147483647

/-- The value of a literal of digits only. -/
def wholeValue? (negative : Bool) (significand : Nat) : Option Number :=
  if !negative then Number.ofInt? significand
  else if 0 < significand ∧ significand ≤ 9223372036854775808 then Number.ofInt? (-significand)
  else scale? true significand 0

/-- The value of a literal with a written exponent. When the exponent itself is out of range, only
a zero or a negative exponent has a value. -/
def exponentValue? (negative : Bool) (significand : Nat) (places : Int) (exponent : Exponent) :
    Option Number :=
  let (size, unread) := accumulate maxExponent 0 exponent.digits
  if unread.isEmpty then
    scale? negative significand (if exponent.negative then places - size else places + size)
  else if significand = 0 ∨ exponent.negative then some (.float (Binary.zero .double negative))
  else none

/-- The value of a literal; none when it is out of range. -/
def value? (numeral : Numeral) : Option Number :=
  let (head, extra) := accumulate maxSignificand 0 numeral.whole
  let (significand, ignored) := accumulate maxSignificand head numeral.fraction
  let places : Int := extra.length - (numeral.fraction.length - ignored.length : Nat)
  match numeral.exponent with
  | some exponent => exponentValue? numeral.negative significand places exponent
  | none =>
    if numeral.fraction.isEmpty && extra.isEmpty then wholeValue? numeral.negative significand
    else scale? numeral.negative significand places

/-- How many digits of the exponent are still unread when a literal turns out to be out of range:
an exponent is given up at the first digit that makes it too large. -/
def unreadDigits (numeral : Numeral) : Nat :=
  match numeral.exponent with
  | some exponent => (accumulate maxExponent 0 exponent.digits).2.length - 1
  | none => 0

end Numeral

end PageSketch.Json
