import PageSketch.Proofs.Json.Integers
import PageSketch.Proofs.Number.Shortest

/-!
# Binary numbers in texts

A finite number is written as a numeral: the decimal that is found for a magnitude other than zero is
not zero either, so the digits before the point have no leading zero in any of the notations. The
numeral shows the sign and the decimal of the number, no whole number is written like it, and it has
no more places before the point than the decimal.
-/

namespace PageSketch

namespace Json

/-! ## Notations -/

/-- Zeros are digits. -/
theorem areDigits_zeros (n : Nat) : AreDigits (zeros n).toList := by
  intro c hc
  rw [zeros, String.toList_ofList] at hc
  obtain rfl := List.eq_of_mem_replicate hc
  decide

variable {d : Decimal}

/-- The digits of a decimal that is not zero: one that is not zero, and others. -/
theorem exists_digits (h : 0 < d.significand) :
    ∃ first rest, d.digits = first :: rest ∧ isDigit first = true ∧ first ≠ '0' ∧ AreDigits rest := by
  obtain ⟨first, rest, hdigits, hfirst⟩ := exists_toDigits_cons h
  have hall := areDigits_toDigits d.significand
  rw [hdigits] at hall
  exact ⟨first, rest, hdigits, hall first List.mem_cons_self, hfirst,
    fun c hc => hall c (List.mem_cons_of_mem _ hc)⟩

/-- A point and a zero are a fraction. -/
theorem fractionText_zero : FractionText ['.', '0'] ['0'] := by
  refine .digits (by simp) fun c hc => ?_
  obtain rfl : c = '0' := by simpa using hc
  decide

/-! ## What a notation shows -/

/-- The power of ten by which the digits of a numeral are multiplied. -/
def Numeral.power (numeral : Numeral) : Int :=
  (match numeral.exponent with
    | some exponent =>
      let size : Int := Nat.ofDigitChars 10 exponent.digits 0
      if exponent.negative then -size else size
    | none => 0) - numeral.fraction.length

/-- The places before the point of a numeral, once its exponent has moved the point. -/
def Numeral.wholePlaces (numeral : Numeral) : Int :=
  numeral.whole.length + numeral.fraction.length + numeral.power

/-- Whether a numeral is written for a sign and a decimal. Its digits are those of the decimal, with
zeros where the point needs them, and a fraction or an exponent tells it from a whole number. -/
structure Numeral.Shows (numeral : Numeral) (negative : Bool) (d : Decimal) : Prop where
  negative_eq : numeral.negative = negative
  digits : ∃ n, Nat.ofDigitChars 10 (numeral.whole ++ numeral.fraction) 0 =
    d.significand * tenTo n ∧ numeral.power + n = d.exponent
  notWhole : numeral.fraction ≠ [] ∨ numeral.exponent ≠ none

/-- The digits of a decimal make up its significand. -/
theorem ofDigitChars_digits (d : Decimal) : Nat.ofDigitChars 10 d.digits 0 = d.significand :=
  Nat.ofDigitChars_ten_toDigits

/-- Zeros behind the digits of a decimal multiply its significand. -/
theorem ofDigitChars_digits_zeros (d : Decimal) (n : Nat) :
    Nat.ofDigitChars 10 (d.digits ++ List.replicate n '0') 0 = d.significand * tenTo n := by
  rw [Nat.ofDigitChars_append, Nat.ofDigitChars_replicate_zero, ofDigitChars_digits, Nat.mul_comm]
  rfl

/-- Zeros before the digits of a decimal do not. -/
theorem ofDigitChars_zeros_digits (d : Decimal) (n : Nat) :
    Nat.ofDigitChars 10 (List.replicate n '0' ++ d.digits) 0 = d.significand := by
  rw [Nat.ofDigitChars_append, Nat.ofDigitChars_replicate_zero, Nat.mul_zero, ofDigitChars_digits]

/-- Zero is shown by a zero on either side of the point. -/
theorem shows_zero (negative : Bool) :
    Numeral.Shows ⟨negative, ['0'], ['0'], none⟩ negative ⟨0, 0⟩ where
  negative_eq := rfl
  digits := ⟨1, rfl, rfl⟩
  notWhole := .inl (by simp)

/-- Positional notation with a point is a numeral that shows the decimal, with as many places. -/
theorem exists_numeralText_positional (h : 0 < d.significand) (negative : Bool) :
    ∃ numeral, NumeralText (signText negative ++ (d.positional true).toList) numeral ∧
      numeral.Shows negative d ∧ numeral.wholePlaces ≤ max d.leading 0 + 1 := by
  obtain ⟨first, rest, hdigits, hfirst, hne, hrest⟩ := exists_digits h
  have hlength : d.digits.length = rest.length + 1 := by rw [hdigits, List.length_cons]
  have hleading : d.leading = d.exponent + d.digits.length - 1 := rfl
  rw [Decimal.positional]
  split
  · rename_i hexponent
    have hwhole : WholeText (first :: (rest ++ (zeros d.exponent.toNat).toList)) :=
      .digits hfirst hne (AreDigits.append hrest (areDigits_zeros _))
    have htext := @NumeralText.mk negative _ _ _ _ _ hwhole fractionText_zero .absent
    refine ⟨_, by simpa [hdigits] using htext,
      ⟨rfl, ⟨d.exponent.toNat + 1, ?_, ?_⟩, .inl (by simp)⟩, ?_⟩
    · rw [← ofDigitChars_digits_zeros, hdigits]
      simp [zeros, List.replicate_succ']
    · simp only [Numeral.power, List.length_singleton]
      omega
    · simp only [Numeral.wholePlaces, Numeral.power, List.length_cons, List.length_append, zeros,
        String.toList_ofList, List.length_replicate]
      omega
  · rename_i hexponent
    split
    · rename_i hnonneg
      -- The exponent is negative, so the point does not stand behind the last digit.
      have hwhole : WholeText (first :: rest.take d.leading.toNat) :=
        .digits hfirst hne fun c hc => hrest c (List.mem_of_mem_take hc)
      have hfractionNe : rest.drop d.leading.toNat ≠ [] := by
        rw [ne_eq, List.drop_eq_nil_iff]
        omega
      have hfraction : FractionText ('.' :: rest.drop d.leading.toNat)
          (rest.drop d.leading.toNat) :=
        .digits hfractionNe fun c hc => hrest c (List.mem_of_mem_drop hc)
      have htext := @NumeralText.mk negative _ _ _ _ _ hwhole hfraction .absent
      refine ⟨_, by simpa [hdigits] using htext, ⟨rfl, ⟨0, ?_, ?_⟩, .inl hfractionNe⟩, ?_⟩
      · rw [← ofDigitChars_digits_zeros, hdigits]
        simp
      · simp only [Numeral.power, List.length_drop]
        omega
      · simp only [Numeral.wholePlaces, Numeral.power, List.length_cons, List.length_take]
        omega
    · have hfraction : FractionText
          ('.' :: ((zeros (-d.leading - 1).toNat).toList ++ first :: rest))
          ((zeros (-d.leading - 1).toNat).toList ++ first :: rest) := by
        have hall : AreDigits (first :: rest) := List.forall_mem_cons.mpr ⟨hfirst, hrest⟩
        exact .digits (by simp) (AreDigits.append (areDigits_zeros _) hall)
      have htext := @NumeralText.mk negative _ _ _ _ _ .zero hfraction .absent
      refine ⟨_, by simpa [hdigits] using htext, ⟨rfl, ⟨0, ?_, ?_⟩, .inl (by simp)⟩, ?_⟩
      · rw [← hdigits, zeros, String.toList_ofList, ← List.append_assoc, List.singleton_append,
          ← List.replicate_succ, ofDigitChars_zeros_digits]
        simp [tenTo]
      · simp only [Numeral.power, List.length_append, zeros, String.toList_ofList,
          List.length_replicate, List.length_cons]
        omega
      · simp only [Numeral.wholePlaces, Numeral.power, List.length_singleton]
        omega

/-- Scientific notation is a numeral that shows the decimal, with as many places. -/
theorem exists_numeralText_scientific (h : 0 < d.significand) (negative : Bool) :
    ∃ numeral, NumeralText (signText negative ++ d.scientific.toList) numeral ∧
      numeral.Shows negative d ∧ numeral.wholePlaces ≤ max d.leading 0 + 1 := by
  obtain ⟨first, rest, hdigits, hfirst, hne, hrest⟩ := exists_digits h
  have hwhole : WholeText [first] := .digits hfirst hne (by simp [AreDigits])
  have hfraction : FractionText
      (if d.digits.length ≤ 1 then "" else "." ++ String.ofList (d.digits.drop 1)).toList rest := by
    rw [hdigits]
    split
    · rename_i hlength
      have hrestNil : rest = [] := by simpa using hlength
      rw [hrestNil]
      exact .absent
    · rename_i hlength
      have hrestNe : rest ≠ [] := by
        rintro rfl
        simp at hlength
      simpa using FractionText.digits hrestNe hrest
  have hexponent : ExponentText
      ((if d.leading < 0 then "e-" else "e+") ++ toString d.leading.natAbs).toList
      (some ⟨decide (d.leading < 0), Nat.toDigits 10 d.leading.natAbs⟩) := by
    have hpower := areDigits_toDigits d.leading.natAbs
    have hnil : Nat.toDigits 10 d.leading.natAbs ≠ [] := Nat.toDigits_ne_nil
    split
    · rename_i hnegative
      simpa [hnegative] using ExponentText.minus (.inl rfl) hnil hpower
    · rename_i hnegative
      simpa [hnegative] using ExponentText.plus (.inl rfl) hnil hpower
  have htext := @NumeralText.mk negative _ _ _ _ _ hwhole hfraction hexponent
  refine ⟨_, by simpa [Decimal.scientific, hdigits] using htext,
    ⟨rfl, ⟨0, ?_, ?_⟩, .inr (by simp)⟩, ?_⟩
  · rw [← ofDigitChars_digits_zeros, hdigits]
    simp
  · have hleading : d.leading = d.exponent + d.digits.length - 1 := rfl
    have hlength : d.digits.length = rest.length + 1 := by rw [hdigits, List.length_cons]
    simp only [Numeral.power, Nat.ofDigitChars_ten_toDigits, decide_eq_true_eq]
    split <;> omega
  · simp only [Numeral.wholePlaces, Numeral.power, Nat.ofDigitChars_ten_toDigits,
      decide_eq_true_eq, List.length_singleton]
    split <;> omega

/-! ## Numbers -/

/-- In a style with a point a number is written as a numeral that shows its sign and its decimal,
with no more places before the point. -/
theorem exists_numeralText_binary {format : BinaryFormat} (style : DecimalStyle)
    (hstyle : style.keepsPoint = true) (x : Binary format) :
    ∃ numeral, NumeralText (style.text x).toList numeral ∧
      numeral.Shows x.negative (x.decimal style.tie) ∧
      numeral.wholePlaces ≤ max (x.decimal style.tie).leading 0 + 1 := by
  -- A number is its sign and the text of its magnitude.
  have htext : (style.text x).toList = signText x.negative ++ (style.magnitude x).toList := by
    rw [DecimalStyle.text, String.toList_append, signText]
    cases x.negative <;> rfl
  rw [htext, DecimalStyle.magnitude, Binary.decimal, hstyle]
  split
  · have hzero := @NumeralText.mk x.negative _ _ _ _ _ .zero fractionText_zero .absent
    refine ⟨_, hzero, shows_zero x.negative, ?_⟩
    simp only [Numeral.wholePlaces, Numeral.power, List.length_singleton]
    omega
  · rename_i hunits
    have hpos := Binary.shortest_pos hunits style.tie
    simp only
    split
    · exact exists_numeralText_positional hpos x.negative
    · exact exists_numeralText_scientific hpos x.negative

/-- A double is written as a numeral that shows its sign and its decimal. -/
theorem exists_numeralText_float (x : Binary .double) :
    ∃ numeral, NumeralText (Number.float x).text.toList numeral ∧
      numeral.Shows x.negative (x.decimal DecimalStyle.jsonDouble.tie) := by
  obtain ⟨numeral, htext, hshows, -⟩ := exists_numeralText_binary .jsonDouble rfl x
  exact ⟨numeral, htext, hshows⟩

/-- A number is written as a numeral. -/
theorem Number.exists_numeralText (n : Number) : ∃ numeral, NumeralText n.text.toList numeral := by
  cases n with
  | integer value lower upper => exact ⟨.ofInt value, numeralText_ofInt value⟩
  | float x =>
    obtain ⟨numeral, htext, -⟩ := exists_numeralText_float x
    exact ⟨numeral, htext⟩

end Json

end PageSketch
