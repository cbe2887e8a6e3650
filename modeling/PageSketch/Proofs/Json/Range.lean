import PageSketch.Proofs.Json.Doubles
import PageSketch.Proofs.Number.Rounding

/-!
# Numerals within the range of doubles

A numeral with at most 280 places before the point has a value, whatever its digits are: the
significand is one of 64 bits, and scaling it makes it at most a few times as large as it should be.
The decimal of a single is well below that.
-/

namespace PageSketch.Json

/-! ## Scaling -/

/-- The precision of doubles is not zero. -/
theorem precision_double_pos : 0 < BinaryFormat.double.precision := by decide

/-- A power of ten is less than twice the double nearest to it. -/
theorem lt_two_mul_tenPower (k : Nat) : tenTo k * twoTo 1074 < 2 * tenPower k := by
  have hne : tenTo k * twoTo 1074 / 1 ≠ 0 := by
    rw [Nat.div_one]
    exact (Nat.mul_pos (tenTo_pos k) (twoTo_pos 1074)).ne'
  have hless := Binary.lt_two_mul_nearestUnits precision_double_pos hne
  rwa [Nat.div_one] at hless

/-- The double nearest to a power of ten is at most three times the power. -/
theorem tenPower_le (k : Nat) : tenPower k ≤ 3 * (tenTo k * twoTo 1074) := by
  have hle : tenPower k ≤ 2 * (tenTo k * twoTo 1074 / 1) + 1 :=
    Binary.nearestUnits_le precision_double_pos
  have hpos : 0 < tenTo k * twoTo 1074 := Nat.mul_pos (tenTo_pos k) (twoTo_pos 1074)
  rw [Nat.div_one] at hle
  omega

/-- The double of a power of ten other than one is at least five. -/
theorem mul_twoTo_le_tenPower {k : Nat} (h : 1 ≤ k) : 5 * twoTo 1074 ≤ tenPower k := by
  have hless := lt_two_mul_tenPower k
  have hten : 10 ≤ tenTo k := tenTo_le_tenTo h
  have hmul : 10 * twoTo 1074 ≤ tenTo k * twoTo 1074 := Nat.mul_le_mul_right _ hten
  omega

/-- Dividing by a power of ten other than one makes a magnitude no larger. -/
theorem nearestUnits_tenPower_le (units : Nat) {k : Nat} (h : 1 ≤ k) :
    Binary.nearestUnits .double (units * twoTo 1074) (tenPower k) ≤ units := by
  by_cases hzero : units = 0
  · rw [hzero, Nat.zero_mul, Binary.nearestUnits_zero]
  · have hle : Binary.nearestUnits .double (units * twoTo 1074) (tenPower k) ≤
        2 * (units * twoTo 1074 / tenPower k) + 1 :=
      Binary.nearestUnits_le precision_double_pos
    have hquotient : units * twoTo 1074 / tenPower k ≤ units / 5 := by
      calc units * twoTo 1074 / tenPower k
          ≤ units * twoTo 1074 / (5 * twoTo 1074) :=
            Nat.div_le_div_left (mul_twoTo_le_tenPower h)
              (Nat.mul_pos (by decide) (twoTo_pos 1074))
        _ = units / 5 := Nat.mul_div_mul_right _ _ (twoTo_pos 1074)
    omega

/-- Dividing again and again makes a magnitude no larger. -/
theorem shrink_le (steps units : Nat) : shrink steps units ≤ units := by
  induction steps generalizing units with
  | zero => exact le_rfl
  | succ steps ih =>
    rw [shrink]
    split
    · exact Nat.zero_le _
    · exact (ih _).trans (nearestUnits_tenPower_le units (by decide))

/-- The double of a significand is at most three times as large as the numbers up to it are many. -/
theorem nearestUnits_significand_le (significand : Nat) :
    Binary.nearestUnits .double (significand * twoTo 1074) 1 ≤
      2 * ((significand + 1) * twoTo 1074) := by
  have hle : Binary.nearestUnits .double (significand * twoTo 1074) 1 ≤
      2 * (significand * twoTo 1074 / 1) + 1 :=
    Binary.nearestUnits_le precision_double_pos
  have hpos : 0 < twoTo 1074 := twoTo_pos 1074
  rw [Nat.div_one] at hle
  rw [Nat.add_mul, Nat.one_mul]
  omega

/-- Multiplying by a power of ten makes the product at most thirteen times as large. -/
theorem nearestUnits_mul_tenPower_le {significand units : Nat} (size : Nat)
    (h : units ≤ 2 * ((significand + 1) * twoTo 1074)) :
    Binary.nearestUnits .double (units * tenPower size) (twoTo 1074) ≤
      13 * ((significand + 1) * tenTo size * twoTo 1074) := by
  have hle : Binary.nearestUnits .double (units * tenPower size) (twoTo 1074) ≤
      2 * (units * tenPower size / twoTo 1074) + 1 :=
    Binary.nearestUnits_le precision_double_pos
  have hquotient : units * tenPower size / twoTo 1074 ≤
      6 * ((significand + 1) * tenTo size * twoTo 1074) := by
    calc units * tenPower size / twoTo 1074
        ≤ 2 * ((significand + 1) * twoTo 1074) * (3 * (tenTo size * twoTo 1074)) / twoTo 1074 :=
          Nat.div_le_div_right (Nat.mul_le_mul h (tenPower_le size))
      _ = 6 * ((significand + 1) * tenTo size * twoTo 1074) * twoTo 1074 / twoTo 1074 := by
          generalize twoTo 1074 = unit
          congr 1
          ring
      _ = 6 * ((significand + 1) * tenTo size * twoTo 1074) :=
          Nat.mul_div_cancel _ (twoTo_pos 1074)
  have hpos : 0 < (significand + 1) * tenTo size * twoTo 1074 :=
    Nat.mul_pos (Nat.mul_pos (Nat.succ_pos _) (tenTo_pos size)) (twoTo_pos 1074)
  omega

/-- A significand of 64 bits scaled by a power of ten up to `280` is what rounding makes of some
quotient, and far from the limit. -/
theorem exists_scaleUnits? {significand : Nat} {exponent : Int}
    (hsignificand : significand ≤ Numeral.maxSignificand) (hexponent : exponent ≤ 280) :
    ∃ num den, scaleUnits? significand exponent = some (Binary.nearestUnits .double num den) ∧
      Binary.nearestUnits .double num den ≤
        13 * (tenTo 20 * tenTo 280 * twoTo 1074) := by
  have hunits := nearestUnits_significand_le significand
  have hmany : significand + 1 ≤ tenTo 20 :=
    (Nat.succ_le_succ hsignificand).trans (by decide)
  have hbound : ∀ size ≤ 280, 13 * ((significand + 1) * tenTo size * twoTo 1074) ≤
      13 * (tenTo 20 * tenTo 280 * twoTo 1074) := by
    intro size hsize
    exact Nat.mul_le_mul_left _
      (Nat.mul_le_mul_right _ (Nat.mul_le_mul hmany (tenTo_le_tenTo hsize)))
  simp only [scaleUnits?]
  generalize Binary.nearestUnits .double (significand * twoTo 1074) 1 = units at hunits ⊢
  split
  · rename_i hnonneg
    rw [if_pos (show exponent.natAbs ≤ 308 by omega)]
    exact ⟨_, _, rfl, (nearestUnits_mul_tenPower_le _ hunits).trans (hbound _ (by omega))⟩
  · rename_i hnegative
    refine ⟨_, _, rfl, (nearestUnits_tenPower_le _ (by omega)).trans ?_⟩
    refine (shrink_le _ units).trans (hunits.trans (le_trans ?_ (hbound 0 (by decide))))
    have hone : tenTo 0 = 1 := rfl
    rw [hone, Nat.mul_one]
    omega

/-- A significand of 64 bits scaled by a power of ten up to `280` is a number. -/
theorem exists_scale? (negative : Bool) {significand : Nat} {exponent : Int}
    (hsignificand : significand ≤ Numeral.maxSignificand) (hexponent : exponent ≤ 280) :
    ∃ n, scale? negative significand exponent = some n := by
  obtain ⟨num, den, hscale, hle⟩ := exists_scaleUnits? hsignificand hexponent
  have hlimit : Binary.nearestUnits .double num den <
      twoTo (BinaryFormat.double.places + BinaryFormat.double.limit) := by
    have hsmall : 13 * (tenTo 20 * tenTo 280) < twoTo 1024 := by decide +kernel
    have hmul := Nat.mul_lt_mul_of_pos_right hsmall (twoTo_pos 1074)
    have hsplit : twoTo (BinaryFormat.double.places + BinaryFormat.double.limit) =
        twoTo 1024 * twoTo 1074 := by
      rw [← twoTo_add]
      rfl
    rw [hsplit]
    refine lt_of_le_of_lt hle ?_
    rwa [← Nat.mul_assoc]
  obtain ⟨x, hx⟩ := Binary.exists_ofUnits?_nearestUnits precision_double_pos negative hlimit
  exact ⟨.float x, by rw [scale?, hscale, Option.bind_some, hx, Option.map_some]⟩

/-! ## Digits -/

/-- Digits that are accumulated to the last one make up their number. -/
theorem accumulate_fst_eq {limit n number : Nat} {ds : List Char}
    (h : accumulate limit n ds = (number, [])) : number = Nat.ofDigitChars 10 ds n := by
  induction ds generalizing n with
  | nil =>
    obtain ⟨rfl, -⟩ := Prod.mk.inj h
    rw [Nat.ofDigitChars_nil]
  | cons d ds ih =>
    rw [accumulate] at h
    split at h
    · rw [Nat.ofDigitChars_cons]
      exact ih h
    · cases h

/-- No more digits are left than there are. -/
theorem length_accumulate_snd_le (limit n : Nat) (ds : List Char) :
    (accumulate limit n ds).2.length ≤ ds.length := by
  induction ds generalizing n with
  | nil => exact le_rfl
  | cons d ds ih =>
    rw [accumulate]
    split
    · exact (ih _).trans (Nat.le_succ _)
    · exact le_rfl

namespace Numeral

/-- A literal of digits only within 64 bits has a value. -/
theorem exists_wholeValue? (negative : Bool) {significand : Nat}
    (h : significand ≤ maxSignificand) : ∃ n, wholeValue? negative significand = some n := by
  have hrange : maxSignificand = 18446744073709551615 := rfl
  rw [wholeValue?]
  split
  · exact ⟨_, Number.ofInt?_eq (by omega) (by omega) rfl⟩
  · split
    · exact ⟨_, Number.ofInt?_eq (by omega) (by omega) rfl⟩
    · exact exists_scale? true h (by decide)

/-- A literal with an exponent has a value when it has at most `280` places before the point. -/
theorem exists_exponentValue? (negative : Bool) {significand whole : Nat} {places : Int}
    {exponent : Exponent} (hsignificand : significand ≤ maxSignificand) (hplaces : places ≤ whole)
    (h : (whole : Int) + (if exponent.negative then -(Nat.ofDigitChars 10 exponent.digits 0 : Int)
      else Nat.ofDigitChars 10 exponent.digits 0) ≤ 280) :
    ∃ n, exponentValue? negative significand places exponent = some n := by
  rw [exponentValue?]
  rcases haccumulate : accumulate maxExponent 0 exponent.digits with ⟨size, unread⟩
  cases unread with
  | nil =>
    have hsize := accumulate_fst_eq haccumulate
    simp only [List.isEmpty_nil, if_true]
    refine exists_scale? negative hsignificand ?_
    split at h
    · rename_i hnegative
      rw [if_pos hnegative]
      omega
    · rename_i hpositive
      rw [if_neg hpositive]
      omega
  | cons d rest =>
    -- Only an exponent beyond 32 bits is not read to the end, and then it is negative.
    have hnegative : exponent.negative = true := by
      refine Decidable.byContradiction fun hpositive => ?_
      rw [if_neg hpositive] at h
      have hlimit : Nat.ofDigitChars 10 exponent.digits 0 ≤ maxExponent := by
        rw [maxExponent]
        omega
      rw [accumulate_eq _ 0 hlimit] at haccumulate
      cases haccumulate
    simp [hnegative]

/-- A literal with at most `280` places before the point has a value. -/
theorem exists_value? {numeral : Numeral} (h : numeral.wholePlaces ≤ 280) :
    ∃ n, numeral.value? = some n := by
  obtain ⟨negative, whole, fraction, exponent⟩ := numeral
  simp only [value?]
  have hhead := accumulate_fst_le (Nat.zero_le maxSignificand) whole
  have hextra := length_accumulate_snd_le maxSignificand 0 whole
  generalize accumulate maxSignificand 0 whole = headed at hhead hextra ⊢
  obtain ⟨head, extra⟩ := headed
  have hsignificand := accumulate_fst_le hhead fraction
  generalize accumulate maxSignificand head fraction = read at hsignificand ⊢
  obtain ⟨significand, ignored⟩ := read
  simp only at hhead hextra hsignificand ⊢
  have hplaces : (extra.length : Int) - (fraction.length - ignored.length : Nat) ≤ whole.length := by
    omega
  cases exponent with
  | some exponent =>
    simp only [wholePlaces, power] at h
    exact exists_exponentValue? negative hsignificand hplaces (by omega)
  | none =>
    simp only [wholePlaces, power] at h
    simp only
    split
    · exact exists_wholeValue? negative hsignificand
    · exact exists_scale? negative hsignificand (by omega)

end Numeral

/-! ## Singles -/

/-- A decimal other than zero is not below the power of ten of its first digit. -/
theorem zpow_leading_le_value {d : Decimal} (h : 0 < d.significand) :
    (10 : ℚ) ^ d.leading ≤ d.value := by
  have hlength : 0 < d.digits.length := Nat.length_toDigits_pos
  have hsignificand : 10 ^ (d.digits.length - 1) ≤ d.significand := by
    by_cases hone : d.digits.length = 1
    · rwa [hone]
    · have hlong : ¬d.digits.length ≤ d.digits.length - 1 := by omega
      have hpos : 0 < d.digits.length - 1 := by omega
      have hiff := Nat.length_toDigits_le_iff (n := d.significand) (show 1 < 10 by decide) hpos
      exact Nat.not_lt.mp fun hless => hlong (hiff.mpr hless)
  have hleading : d.leading = (d.digits.length - 1 : ℕ) + d.exponent := by
    rw [Decimal.leading]
    omega
  rw [hleading, zpow_add₀ (by norm_num), zpow_natCast, Decimal.value]
  refine mul_le_mul_of_nonneg_right ?_ (zpow_nonneg (by norm_num) _)
  exact_mod_cast hsignificand

/-- The first digit of a single stands at most `39` places before the point. -/
theorem leading_decimal_lt (tie : TieRule) (x : Binary .single) : (x.decimal tie).leading < 39 := by
  rw [Binary.decimal]
  split
  · decide
  · rename_i hunits
    have hpos := Binary.shortest_pos hunits tie
    obtain ⟨-, hupper, -⟩ := Binary.bounds_of_readsBack (Binary.readsBack_shortest hunits tie)
    generalize x.shortest tie = d at hpos hupper ⊢
    -- The decimal is at most half a spacing above the single, which is below `2 ^ 128`.
    have hspacing : BinaryFormat.single.spacing x.units ≤ x.units :=
      Nat.le_of_dvd (Nat.pos_of_ne_zero hunits) x.aligned
    have hend : Binary.upperEnd .single x.units < 3 * twoTo 277 := by
      have hbounded : x.units < twoTo 277 := x.bounded
      rw [Binary.upperEnd]
      omega
    have hless : (10 : ℚ) ^ d.leading * twoTo 150 < 10 ^ (39 : ℤ) * twoTo 150 := by
      calc (10 : ℚ) ^ d.leading * twoTo 150
          ≤ d.value * twoTo 150 :=
            mul_le_mul_of_nonneg_right (zpow_leading_le_value hpos) (Nat.cast_nonneg _)
        _ ≤ (Binary.upperEnd .single x.units : ℚ) := hupper
        _ < (3 * twoTo 277 : ℕ) := by exact_mod_cast hend
        _ ≤ (tenTo 39 * twoTo 150 : ℕ) := by
            have hsmall : 3 * twoTo 277 ≤ tenTo 39 * twoTo 150 := by decide +kernel
            exact_mod_cast hsmall
        _ = 10 ^ (39 : ℤ) * twoTo 150 := by
            rw [Nat.cast_mul, cast_tenTo]
            rfl
    have hpower : (10 : ℚ) ^ d.leading < 10 ^ (39 : ℤ) :=
      lt_of_mul_lt_mul_right hless (Nat.cast_nonneg _)
    exact (zpow_lt_zpow_iff_right₀ (by norm_num)).mp hpower

/-- In a style with a point the text of a single is a numeral that has a value. -/
theorem exists_value?_single (style : DecimalStyle) (hstyle : style.keepsPoint = true)
    (x : Binary .single) :
    ∃ numeral n, NumeralText (style.text x).toList numeral ∧ numeral.value? = some n := by
  obtain ⟨numeral, htext, -, hplaces⟩ := exists_numeralText_binary style hstyle x
  have hleading := leading_decimal_lt style.tie x
  obtain ⟨n, hn⟩ := numeral.exists_value? (by omega)
  exact ⟨numeral, n, htext, hn⟩

end PageSketch.Json
