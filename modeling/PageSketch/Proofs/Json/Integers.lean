import PageSketch.Proofs.Json.Tokens

/-!
# Whole numbers in texts

A whole number is written in decimal digits without leading zeros, which is a numeral, and the value
of that numeral is the number again: within 64 bits no digit is left over.
-/

namespace PageSketch.Json

/-! ## Decimal digits -/

/-- The digits of a number are digits. -/
theorem areDigits_toDigits (n : Nat) : AreDigits (Nat.toDigits 10 n) := by
  intro c hc
  have hdigit : c.isDigit = true := Nat.isDigit_of_mem_toDigits (by decide) (by decide) hc
  rw [Char.isDigit, Bool.and_eq_true, decide_eq_true_eq, decide_eq_true_eq] at hdigit
  exact isDigit_iff.mpr hdigit

/-- The first digit of a positive number is not a zero. -/
theorem exists_toDigits_cons {n : Nat} (h : 0 < n) :
    ∃ d ds, Nat.toDigits 10 n = d :: ds ∧ d ≠ '0' := by
  induction n using Nat.strongRecOn with
  | ind n ih =>
    by_cases hn : n < 10
    · refine ⟨Nat.digitChar n, [], Nat.toDigits_of_lt_base hn, ?_⟩
      have hdigits : ∀ d < 10, 0 < d → Nat.digitChar d ≠ '0' := by decide
      exact hdigits n hn h
    · obtain ⟨d, ds, hdigits, hd⟩ := ih (n / 10) (by omega) (by omega)
      refine ⟨d, ds ++ [Nat.digitChar (n % 10)], ?_, hd⟩
      rw [Nat.toDigits_of_base_le (by decide) (Nat.not_lt.mp hn), hdigits, List.cons_append]

/-- The digits of a number are the whole part of a numeral. -/
theorem wholeText_toDigits (n : Nat) : WholeText (Nat.toDigits 10 n) := by
  by_cases hn : n = 0
  · rw [hn, Nat.toDigits_zero]
    exact .zero
  · obtain ⟨d, ds, hdigits, hd⟩ := exists_toDigits_cons (Nat.pos_of_ne_zero hn)
    have hall := areDigits_toDigits n
    rw [hdigits] at hall ⊢
    exact .digits (hall d List.mem_cons_self) hd fun c hc => hall c (List.mem_cons_of_mem _ hc)

/-! ## Their value -/

/-- More digits do not make a number smaller. -/
theorem le_ofDigitChars (ds : List Char) (n : Nat) : n ≤ Nat.ofDigitChars 10 ds n := by
  induction ds generalizing n with
  | nil => simp
  | cons d ds ih =>
    rw [Nat.ofDigitChars_cons]
    have hmore := ih (10 * n + (d.toNat - '0'.toNat))
    omega

/-- Digits of a number within the limit are accumulated to the last one. -/
theorem accumulate_eq {limit : Nat} (ds : List Char) (n : Nat)
    (h : Nat.ofDigitChars 10 ds n ≤ limit) :
    accumulate limit n ds = (Nat.ofDigitChars 10 ds n, []) := by
  induction ds generalizing n with
  | nil => simp [accumulate]
  | cons d ds ih =>
    rw [Nat.ofDigitChars_cons] at h ⊢
    have hmore := le_ofDigitChars ds (10 * n + (d.toNat - '0'.toNat))
    rw [accumulate, digitValue, if_pos (by omega), ih _ h]

/-- Digits of a number of 64 bits, without a point and an exponent, are a whole value. -/
theorem Numeral.value?_of_digits {negative : Bool} {whole : List Char}
    (h : Nat.ofDigitChars 10 whole 0 ≤ maxSignificand) :
    Numeral.value? ⟨negative, whole, [], none⟩ =
      wholeValue? negative (Nat.ofDigitChars 10 whole 0) := by
  simp [value?, accumulate_eq whole 0 h, accumulate]

/-- The numeral of a whole number. -/
def Numeral.ofInt (value : Int) : Numeral :=
  ⟨decide (value < 0), Nat.toDigits 10 value.natAbs, [], none⟩

/-- The numeral of a whole number is written as the number. -/
theorem numeralText_ofInt (value : Int) : NumeralText (toString value).toList (.ofInt value) := by
  have htext : NumeralText
      (signText (decide (value < 0)) ++ (Nat.toDigits 10 value.natAbs ++ ([] ++ [])))
      (.ofInt value) := .mk (wholeText_toDigits value.natAbs) .absent .absent
  have htoString : (toString value).toList =
      signText (decide (value < 0)) ++ (Nat.toDigits 10 value.natAbs ++ ([] ++ [])) := by
    rw [Int.toString_eq_repr, Int.repr_eq_if]
    by_cases hvalue : 0 ≤ value
    · rw [if_pos hvalue, Nat.toList_repr, show value.toNat = value.natAbs by omega]
      simp [signText, Int.not_lt.mpr hvalue]
    · rw [if_neg hvalue, String.toList_append, Nat.toList_repr,
        show (-value).toNat = value.natAbs by omega]
      simp [signText, Int.not_le.mp hvalue]
  rwa [htoString]

/-- A whole number within 64 bits is a number. -/
theorem Number.ofInt?_eq {value other : Int} (lower : -9223372036854775808 ≤ value)
    (upper : value ≤ 18446744073709551615) (h : other = value) :
    Number.ofInt? other = some (.integer value lower upper) := by
  subst h
  exact dif_pos ⟨lower, upper⟩

/-- The value of the numeral of a whole number within 64 bits is the number. -/
theorem value?_ofInt {value : Int} (lower : -9223372036854775808 ≤ value)
    (upper : value ≤ 18446744073709551615) :
    (Numeral.ofInt value).value? = some (.integer value lower upper) := by
  -- The magnitude is within 64 bits, so no digit is cut off.
  have hlimit : Nat.ofDigitChars 10 (Nat.toDigits 10 value.natAbs) 0 ≤
      Numeral.maxSignificand := by
    rw [Nat.ofDigitChars_ten_toDigits, Numeral.maxSignificand]
    omega
  rw [Numeral.ofInt, Numeral.value?_of_digits hlimit, Nat.ofDigitChars_ten_toDigits,
    Numeral.wholeValue?]
  by_cases hvalue : value < 0
  · have hrange : 0 < value.natAbs ∧ value.natAbs ≤ 9223372036854775808 := by omega
    simp only [hvalue, decide_true, Bool.not_true, Bool.false_eq_true, if_false, if_pos hrange]
    exact Number.ofInt?_eq lower upper (by omega)
  · simp only [hvalue, decide_false, Bool.not_false, if_true]
    exact Number.ofInt?_eq lower upper (by omega)

end PageSketch.Json
