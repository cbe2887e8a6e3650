import Mathlib.Data.Int.Cast.Lemmas
import Mathlib.Data.Rat.Cast.Order
import PageSketch.Proofs.Json.Integers
import PageSketch.Proofs.Number.Rounding

/-!
# The quantities of numbers

A JSON number is a rational number, and it is taken as a whole number exactly when that is one. A text
that is read as a whole number with a sign and digits may be a numeral as well; the value of that
numeral is then the same whole number, if it has 64 signed bits, although the numeral of a negative
zero is worth a double.
-/

namespace PageSketch

open Json

/-! ## Quantities -/

/-- The quantity that a finite binary number is. -/
def Binary.quantity {format : BinaryFormat} (x : Binary format) : ℚ :=
  (if x.negative then -1 else 1) * (x.units / twoTo format.places)

/-- The quantity that a JSON number is. -/
def Json.Number.quantity : Number → ℚ
  | .integer value _ _ => value
  | .float x => x.quantity

/-- The quantity of a zero is zero, with either sign. -/
theorem Binary.quantity_zero (format : BinaryFormat) (negative : Bool) :
    (Binary.zero format negative).quantity = 0 := by
  simp [quantity, zero]

/-- A quotient is a whole number when nothing is left over, and then it is the quotient of whole
numbers. -/
theorem natCast_div_eq_intCast_iff {a b : Nat} (hb : b ≠ 0) {n : Int} :
    (a / b : ℚ) = n ↔ a % b = 0 ∧ (a : Int) / b = n := by
  have hbq : (b : ℚ) ≠ 0 := by exact_mod_cast hb
  have hbz : (b : Int) ≠ 0 := by exact_mod_cast hb
  rw [div_eq_iff hbq]
  constructor
  · intro h
    have hproduct : (a : Int) = n * b := by exact_mod_cast h
    have hdvd : b ∣ a := Int.natCast_dvd_natCast.mp ⟨n, by rw [hproduct, mul_comm]⟩
    exact ⟨Nat.mod_eq_zero_of_dvd hdvd, by rw [hproduct, Int.mul_ediv_cancel _ hbz]⟩
  · rintro ⟨hmod, rfl⟩
    have hdvd : (b : Int) ∣ a := Int.natCast_dvd_natCast.mpr (Nat.dvd_of_mod_eq_zero hmod)
    exact_mod_cast (Int.ediv_mul_cancel hdvd).symm

/-- A binary number is a whole number when the quantity is one. -/
theorem Binary.toInt?_eq_some_iff {format : BinaryFormat} {x : Binary format} {n : Int} :
    x.toInt? = some n ↔ x.quantity = n := by
  have hquotient {k : Int} := @natCast_div_eq_intCast_iff x.units _ (twoTo_pos format.places).ne' k
  rw [Binary.toInt?, Binary.quantity]
  cases x.negative with
  | false =>
    rw [if_neg Bool.false_ne_true, one_mul, hquotient]
    simp
  | true =>
    rw [if_pos rfl, neg_one_mul, neg_eq_iff_eq_neg, ← Int.cast_neg, hquotient]
    simp [neg_eq_iff_eq_neg]

/-- A JSON number is a whole number when the quantity is one. -/
theorem Json.Number.toInt?_eq_some_iff {number : Number} {n : Int} :
    number.toInt? = some n ↔ number.quantity = n := by
  cases number with
  | integer value lower upper => simp [toInt?, quantity]
  | float x => exact Binary.toInt?_eq_some_iff

/-- A whole number has 64 signed bits when one of those is equal to it. -/
theorem int64?_eq_some_iff {n : Int} {k : Int64} : int64? n = some k ↔ k.toInt = n := by
  constructor
  · intro h
    rw [int64?] at h
    split at h
    · rename_i hrange
      obtain rfl := Option.some.inj h
      exact Int64.toInt_ofInt_of_le hrange.1 (Int.lt_of_le_of_lt hrange.2 (by decide))
    · cases h
  · rintro rfl
    exact int64?_toInt k

/-! ## Numerals that are whole numbers -/

/-- The sign of a numeral is read, and its digits are left. -/
theorem readSign_signText (negative : Bool) {cs : List Char}
    (h : ∃ d ds, cs = d :: ds ∧ isDigit d = true) :
    readSign (signText negative ++ cs) = (negative, cs) := by
  obtain ⟨d, ds, rfl, hd⟩ := h
  cases negative with
  | true => rfl
  | false =>
    have hminus : d ≠ '-' := ne_of_isDigit hd (by decide)
    have hplus : d ≠ '+' := ne_of_isDigit hd (by decide)
    simp [signText, readSign, hminus, hplus]

/-- The whole number of digits with a sign. -/
def signed (negative : Bool) (n : Nat) : Int := if negative then -n else n

/-- A fraction without a point is none. -/
theorem Json.FractionText.eq_nil {fraction digits : List Char} (h : FractionText fraction digits)
    (hdigits : AreDigits fraction) : fraction = [] ∧ digits = [] := by
  cases h with
  | absent => exact ⟨rfl, rfl⟩
  | digits => exact absurd (hdigits '.' List.mem_cons_self) (by decide)

/-- An exponent without a mark is none. -/
theorem Json.ExponentText.eq_nil {exponent : List Char} {power : Option Exponent}
    (h : ExponentText exponent power) (hdigits : AreDigits exponent) :
    exponent = [] ∧ power = none := by
  cases h with
  | absent => exact ⟨rfl, rfl⟩
  | bare mark | plus mark | minus mark =>
    have hmark := hdigits _ List.mem_cons_self
    rcases mark with rfl | rfl <;> exact absurd hmark (by decide)

/-- A numeral that is read as a whole number has digits before the point only. -/
theorem Json.NumeralText.of_readInt? {text : List Char} {numeral : Numeral} {n : Int}
    (h : NumeralText text numeral) (hread : readInt? text = some n) :
    numeral = ⟨numeral.negative, numeral.whole, [], none⟩ ∧
      n = signed numeral.negative (Nat.ofDigitChars 10 numeral.whole 0) := by
  obtain @⟨negative, whole, fraction, digits, exponent, power, wholeText, fractionText,
    exponentText⟩ := h
  obtain ⟨d, ds, hwhole, hd⟩ := wholeText.exists_cons
  have hsign : readSign (signText negative ++ (whole ++ (fraction ++ exponent))) =
      (negative, whole ++ (fraction ++ exponent)) :=
    readSign_signText negative ⟨d, ds ++ (fraction ++ exponent), by simp [hwhole], hd⟩
  simp only [readInt?, hsign] at hread
  split at hread
  · cases hread
  · rename_i hdigits
    -- A point or the mark of an exponent would be among the digits.
    rw [Bool.or_eq_true, not_or, Bool.not_eq_true', Bool.not_eq_false, List.all_eq_true,
      List.forall_mem_append, List.forall_mem_append] at hdigits
    obtain ⟨-, -, hfraction, hexponent⟩ := hdigits
    obtain ⟨rfl, rfl⟩ := fractionText.eq_nil hfraction
    obtain ⟨rfl, rfl⟩ := exponentText.eq_nil hexponent
    rw [List.nil_append, List.append_nil] at hread
    exact ⟨rfl, (Option.some.inj hread).symm⟩

/-- A whole number that is taken as a JSON number stays what it is. -/
theorem toInt?_of_ofInt? {n : Int} {number : Number} (h : Number.ofInt? n = some number) :
    number.toInt? = some n := by
  rw [Number.ofInt?] at h
  split at h
  · obtain rfl := Option.some.inj h
    rfl
  · cases h

/-- Zero stays zero when it is scaled. -/
theorem toInt?_of_scale?_zero {negative : Bool} {number : Number}
    (h : scale? negative 0 0 = some number) : number.toInt? = some 0 := by
  have hunits : scaleUnits? 0 0 = some 0 := by
    simp [scaleUnits?]
  have hzero : Binary.ofUnits? .double negative 0 = some (Binary.zero .double negative) :=
    dif_pos ⟨Nat.dvd_zero _, twoTo_pos _⟩
  rw [scale?, hunits, Option.bind_some, hzero, Option.map_some, Option.some.injEq] at h
  subst h
  exact Number.toInt?_eq_some_iff.mpr (Binary.quantity_zero .double negative)

/-- The value of digits with a sign is the whole number that they are read as, if this has 64 signed
bits. -/
theorem toInt?_of_value? {negative : Bool} {whole : List Char} {number : Number} {width : Int64}
    (hvalue : Numeral.value? ⟨negative, whole, [], none⟩ = some number)
    (hwidth : width.toInt = signed negative (Nat.ofDigitChars 10 whole 0)) :
    number.toInt? = some width.toInt := by
  have hlow := width.le_toInt
  have hhigh := width.toInt_lt
  have hlimit : Nat.ofDigitChars 10 whole 0 ≤ Numeral.maxSignificand := by
    rw [Numeral.maxSignificand]
    cases negative <;> simp [signed] at hwidth <;> omega
  rw [Numeral.value?_of_digits hlimit] at hvalue
  rw [hwidth] at hlow ⊢
  generalize Nat.ofDigitChars 10 whole 0 = n at hvalue hlow ⊢
  cases negative with
  | false => exact toInt?_of_ofInt? hvalue
  | true =>
    simp only [signed, if_true] at hlow ⊢
    rw [Numeral.wholeValue?, if_neg (by decide)] at hvalue
    split at hvalue
    · exact toInt?_of_ofInt? hvalue
    · -- Only a minus in front of zeros is left, and that is a double.
      obtain rfl : n = 0 := by omega
      exact toInt?_of_scale?_zero hvalue

end PageSketch
