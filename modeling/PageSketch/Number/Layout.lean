import PageSketch.Number.Binary

/-!
# Decimal text of binary numbers

Every decimal strictly between the midpoints to a number's two neighbours rounds to that number,
and the midpoints do too when its significand is even. `Binary.shortest` looks for the coarsest
decimal grid with a point in that interval, and takes the grid point nearest to the number.

A `DecimalStyle` holds the choices that a text format makes about a number: where positional
notation ends, whether a whole number keeps a point, and which way ties go. The three styles in
use stand at the end.
-/

namespace PageSketch

/-! ## The fewest digits that read back -/

/-- The decimal `significand * 10 ^ exponent`. -/
structure Decimal where
  significand : Nat
  exponent : Int
deriving DecidableEq, Repr

/-- Which of two equally near grid points is taken. -/
inductive TieRule where
  | even
  | upper
deriving DecidableEq, Repr

/-- The power of ten with a whole exponent, as a numerator and a denominator. -/
def tenFraction (k : Int) : Nat × Nat := (tenTo k.toNat, tenTo (-k).toNat)

namespace Binary

variable {format : BinaryFormat}

/-- The distance in units from a magnitude down to its lower neighbour: at a power of two the
spacing below is half the spacing above. -/
def spacingBelow (format : BinaryFormat) (units : Nat) : Nat :=
  let step := format.spacing units
  if 1 < step ∧ units = twoTo units.log2 then step / 2 else step

/-- Whether the decimal `c * 10 ^ k` rounds to the magnitude. All lengths are in half units. -/
def readsBack (format : BinaryFormat) (units c : Nat) (k : Int) : Bool :=
  let point := c * (tenFraction k).1 * twoTo (format.places + 1)
  let low := (2 * units - spacingBelow format units) * (tenFraction k).2
  let high := (2 * units + format.spacing units) * (tenFraction k).2
  if units / format.spacing units % 2 = 0 then low ≤ point && point ≤ high
  else low < point && point < high

/-- The multiple of `10 ^ k` that rounds to the magnitude and is nearest to it, if there is one. -/
def gridPoint? (format : BinaryFormat) (tie : TieRule) (units : Nat) (k : Int) : Option Nat :=
  let num := units * (tenFraction k).2
  let den := twoTo format.places * (tenFraction k).1
  let below := num / den
  match readsBack format units below k, readsBack format units (below + 1) k with
  | false, false => none
  | true, false => some below
  | false, true => some (below + 1)
  | true, true =>
    if 2 * num < (2 * below + 1) * den then some below
    else if (2 * below + 1) * den < 2 * num then some (below + 1)
    else match tie with
      | .even => some (below + below % 2)
      | .upper => some (below + 1)

/-- Tries the grids from `10 ^ k` downwards, at most `steps` of them. Every number is a multiple of
the last grid `10 ^ -places`, so its own decimal stands at the end. -/
def searchGrids (format : BinaryFormat) (tie : TieRule) (units : Nat) : Nat → Int → Decimal
  | 0, _ => ⟨units * Nat.pow 5 format.places, -format.places⟩
  | steps + 1, k =>
    match gridPoint? format tie units k with
    | some c => ⟨c, k⟩
    | none => searchGrids format tie units steps (k - 1)

/-- The decimal with the fewest digits that reads back as the magnitude of `x`. -/
def shortest (tie : TieRule) (x : Binary format) : Decimal :=
  let start := (Nat.toDigits 10 (2 * x.units / twoTo format.places)).length
  searchGrids format tie x.units (start + format.places) start

end Binary

/-! ## Notations -/

/-- How the digits of a number are laid out. A missing bound means positional notation on that
side whatever the size. -/
structure DecimalStyle where
  /-- The least decimal exponent of the first digit written in positional notation. -/
  leastPositional : Option Int
  /-- The greatest decimal exponent of the first digit written in positional notation. -/
  greatestPositional : Option Int
  /-- Whether a whole number ends in a point and a zero. -/
  keepsPoint : Bool
  tie : TieRule

/-- A run of zeros. -/
def zeros (n : Nat) : String := String.ofList (List.replicate n '0')

namespace Decimal

/-- The digits of the significand. -/
def digits (d : Decimal) : List Char := Nat.toDigits 10 d.significand

/-- The decimal exponent of the first digit. -/
def leading (d : Decimal) : Int := d.exponent + d.digits.length - 1

/-- Positional notation. -/
def positional (keepsPoint : Bool) (d : Decimal) : String :=
  if 0 ≤ d.exponent then
    String.ofList d.digits ++ zeros d.exponent.toNat ++ (if keepsPoint then ".0" else "")
  else if 0 ≤ d.leading then
    String.ofList (d.digits.take (d.leading.toNat + 1)) ++ "." ++
      String.ofList (d.digits.drop (d.leading.toNat + 1))
  else
    "0." ++ zeros (-d.leading - 1).toNat ++ String.ofList d.digits

/-- One digit before the point, and the exponent with its sign. -/
def scientific (d : Decimal) : String :=
  String.ofList (d.digits.take 1) ++
    (if d.digits.length ≤ 1 then "" else "." ++ String.ofList (d.digits.drop 1)) ++
    (if d.leading < 0 then "e-" else "e+") ++ toString d.leading.natAbs

end Decimal

namespace DecimalStyle

/-- Whether a first digit with this exponent is written in positional notation. -/
def isPositional (style : DecimalStyle) (leading : Int) : Bool :=
  style.leastPositional.all (· ≤ leading) && style.greatestPositional.all (leading ≤ ·)

/-- The text of a magnitude. -/
def magnitude {format : BinaryFormat} (style : DecimalStyle) (x : Binary format) : String :=
  if x.units = 0 then if style.keepsPoint then "0.0" else "0"
  else
    let d := x.shortest style.tie
    if style.isPositional d.leading then d.positional style.keepsPoint else d.scientific

/-- The text of a finite number. -/
def text {format : BinaryFormat} (style : DecimalStyle) (x : Binary format) : String :=
  (if x.negative then "-" else "") ++ style.magnitude x

/-- Double precision in JSON text: positional from `0.00001` up to sixteen digits. -/
def jsonDouble : DecimalStyle := ⟨some (-5), some 15, true, .even⟩

/-- Single precision in JSON text: positional from `0.000001` up to thirteen digits. -/
def jsonSingle : DecimalStyle := ⟨some (-6), some 12, true, .even⟩

/-- Numbers shown to a reader: always positional, without a bare point. -/
def plain : DecimalStyle := ⟨none, none, false, .upper⟩

end DecimalStyle

namespace ExtendedBinary

/-- The text of a number shown to a reader. -/
def display {format : BinaryFormat} : ExtendedBinary format → String
  | .finite x => DecimalStyle.plain.text x
  | .infinite negative => if negative then "-inf" else "inf"
  | .undefined => "NaN"

end ExtendedBinary

end PageSketch
