/-!
# Binary floating-point numbers, exactly

A finite number of a binary format is a sign and a whole number of units, the unit being the
smallest positive number of the format. So every comparison, rounding and test below is plain
arithmetic on natural numbers. A magnitude belongs to the format when it is a multiple of the
spacing that the precision leaves at its size, and when it stays below the limit. The powers that
numbers are made of, and the whole numbers of 64 bits, come first.
-/

namespace PageSketch

/-! ## Powers of two and ten -/

/-- The power of two with an exponent. -/
def twoTo (k : Nat) : Nat := Nat.pow 2 k

/-- The power of ten with an exponent. -/
def tenTo (k : Nat) : Nat := Nat.pow 10 k

/-- A power of two is positive. -/
theorem twoTo_pos (k : Nat) : 0 < twoTo k := Nat.pow_pos (by decide)

/-- A power of ten is positive. -/
theorem tenTo_pos (k : Nat) : 0 < tenTo k := Nat.pow_pos (by decide)

/-- One more in the exponent is a factor of two. -/
theorem twoTo_succ (k : Nat) : twoTo (k + 1) = twoTo k * 2 := rfl

/-! ## Whole numbers of 64 bits -/

/-- A whole number of 64 signed bits, if it is one. -/
def int64? (n : Int) : Option Int64 :=
  if Int64.minValue.toInt ≤ n ∧ n ≤ Int64.maxValue.toInt then some (Int64.ofInt n) else none

/-- The whole number of 64 signed bits that is nearest. -/
def clampInt64 (n : Int) : Int64 :=
  if n < Int64.minValue.toInt then Int64.minValue
  else if Int64.maxValue.toInt < n then Int64.maxValue
  else Int64.ofInt n

/-- Every whole number of 64 signed bits is one. -/
theorem int64?_toInt (n : Int64) : int64? n.toInt = some n := by
  rw [int64?, if_pos ⟨n.minValue_le_toInt, n.toInt_le⟩, Int64.ofInt_toInt]

/-- A whole number of 64 signed bits is its own nearest. -/
theorem clampInt64_toInt (n : Int64) : clampInt64 n.toInt = n := by
  rw [clampInt64, if_neg (Int.not_lt.mpr n.minValue_le_toInt),
    if_neg (Int.not_lt.mpr n.toInt_le), Int64.ofInt_toInt]

/-! ## Formats -/

/-- A binary format: the width of its significands, the number of binary places of its unit, and
the exponent of the power of two that bounds its finite numbers. -/
structure BinaryFormat where
  precision : Nat
  places : Nat
  limit : Nat
deriving DecidableEq

namespace BinaryFormat

/-- Double precision. -/
def double : BinaryFormat := ⟨53, 1074, 1024⟩

/-- Single precision. -/
def single : BinaryFormat := ⟨24, 149, 128⟩

/-- The distance between neighbouring numbers of the format around a magnitude in units. -/
def spacing (format : BinaryFormat) (units : Nat) : Nat :=
  twoTo (units.log2 + 1 - format.precision)

end BinaryFormat

/-- A finite number of a binary format: `units` counts the format's unit. -/
structure Binary (format : BinaryFormat) where
  negative : Bool
  units : Nat
  aligned : format.spacing units ∣ units
  bounded : units < twoTo (format.places + format.limit)
deriving DecidableEq

/-- A number of a binary format with the infinities and the undefined result. -/
inductive ExtendedBinary (format : BinaryFormat) where
  | finite (value : Binary format)
  | infinite (negative : Bool)
  | undefined
deriving DecidableEq

/-! ## Rounding -/

/-- The whole number nearest to `num / den`; a half goes to the even neighbour. -/
def divNearest (num den : Nat) : Nat :=
  let quotient := num / den
  let rest := num % den
  if 2 * rest < den then quotient
  else if den < 2 * rest then quotient + 1
  else quotient + quotient % 2

namespace Binary

variable {format : BinaryFormat}

/-- The number with the given sign and units, if the format has it. -/
def ofUnits? (format : BinaryFormat) (negative : Bool) (units : Nat) : Option (Binary format) :=
  if h : format.spacing units ∣ units ∧ units < twoTo (format.places + format.limit) then
    some ⟨negative, units, h.1, h.2⟩
  else none

/-- The units of the number of the format nearest to `num / den` units, with a half going to the
even neighbour. -/
def nearestUnits (format : BinaryFormat) (num den : Nat) : Nat :=
  let step := format.spacing (num / den)
  step * divNearest num (den * step)

/-- The number of the format nearest to `num / den`; none when that is beyond the limit. -/
def nearest? (format : BinaryFormat) (negative : Bool) (num den : Nat) : Option (Binary format) :=
  ofUnits? format negative (nearestUnits format (num * twoTo format.places) den)

/-- Zero with a sign. -/
def zero (format : BinaryFormat) (negative : Bool) : Binary format :=
  ⟨negative, 0, Nat.dvd_zero _, twoTo_pos _⟩

/-- The number of another format nearest to this one. -/
def convert (target : BinaryFormat) (x : Binary format) : ExtendedBinary target :=
  match nearest? target x.negative x.units (twoTo format.places) with
  | some y => .finite y
  | none => .infinite x.negative

/-- The number as a whole number, if it is one. -/
def toInt? (x : Binary format) : Option Int :=
  if x.units % twoTo format.places = 0 then
    let magnitude : Int := x.units / twoTo format.places
    some (if x.negative then -magnitude else magnitude)
  else none

end Binary

end PageSketch
