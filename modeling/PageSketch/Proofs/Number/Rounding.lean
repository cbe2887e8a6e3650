import PageSketch.Proofs.Number.Shortest

/-!
# Rounding to a binary format

What rounding makes of a quotient is a multiple of the spacing at its own size, and it stays close
to the quotient: at most twice as large and one unit more, and no smaller than the power of two below
the quotient. So whatever stays below the limit of the format is a number of it.
-/

namespace PageSketch

/-- A sum of exponents is a product of powers. -/
theorem twoTo_add (k k' : Nat) : twoTo (k + k') = twoTo k * twoTo k' := Nat.pow_add 2 k k'

/-- A greater exponent makes no smaller power. -/
theorem tenTo_le_tenTo {k k' : Nat} (h : k ≤ k') : tenTo k ≤ tenTo k' :=
  Nat.pow_le_pow_right (by decide) h

/-! ## Quotients -/

/-- The nearest whole number is not below the quotient. -/
theorem le_divNearest (num den : Nat) : num / den ≤ divNearest num den := by
  simp only [divNearest]
  split
  · exact le_rfl
  · split <;> omega

/-- The nearest whole number is at most one above the quotient. -/
theorem divNearest_le (num den : Nat) : divNearest num den ≤ num / den + 1 := by
  simp only [divNearest]
  split
  · omega
  · split <;> omega

namespace Binary

variable {format : BinaryFormat} {num den : Nat}

/-- The spacing at a magnitude is at most the power of two below it. -/
theorem spacing_dvd_twoTo_log2 (hprecision : 0 < format.precision) (units : Nat) :
    format.spacing units ∣ twoTo units.log2 :=
  twoTo_dvd_twoTo (by omega)

/-- What is rounded is the quotient of the quotient and the spacing. -/
theorem nearestUnits_eq (format : BinaryFormat) (num den : Nat) :
    nearestUnits format num den =
      format.spacing (num / den) * divNearest num (den * format.spacing (num / den)) := rfl

/-- Rounding does not go below the power of two below the quotient. -/
theorem twoTo_log2_le_nearestUnits (hprecision : 0 < format.precision) (h : num / den ≠ 0) :
    twoTo (num / den).log2 ≤ nearestUnits format num den := by
  have hdvd := spacing_dvd_twoTo_log2 hprecision (num / den)
  have hquotient : twoTo (num / den).log2 / format.spacing (num / den) ≤
      num / (den * format.spacing (num / den)) := by
    rw [← Nat.div_div_eq_div_mul]
    exact Nat.div_le_div_right (twoTo_log2_le h)
  calc twoTo (num / den).log2
      = format.spacing (num / den) *
          (twoTo (num / den).log2 / format.spacing (num / den)) := (Nat.mul_div_cancel' hdvd).symm
    _ ≤ nearestUnits format num den :=
        Nat.mul_le_mul_left _ (hquotient.trans (le_divNearest _ _))

/-- A quotient is less than twice what it is rounded to. -/
theorem lt_two_mul_nearestUnits (hprecision : 0 < format.precision) (h : num / den ≠ 0) :
    num / den < 2 * nearestUnits format num den := by
  have hbelow := lt_twoTo_log2_succ (num / den)
  have hpower := twoTo_log2_le_nearestUnits hprecision h
  rw [twoTo_succ] at hbelow
  omega

/-- Rounding adds at most one spacing. -/
theorem nearestUnits_le_add (format : BinaryFormat) (num den : Nat) :
    nearestUnits format num den ≤ num / den + format.spacing (num / den) := by
  have hnearest := divNearest_le num (den * format.spacing (num / den))
  rw [← Nat.div_div_eq_div_mul] at hnearest
  calc nearestUnits format num den
      ≤ format.spacing (num / den) * (num / den / format.spacing (num / den) + 1) :=
        Nat.mul_le_mul_left _ hnearest
    _ = format.spacing (num / den) * (num / den / format.spacing (num / den)) +
          format.spacing (num / den) := by rw [Nat.mul_add, Nat.mul_one]
    _ ≤ num / den + format.spacing (num / den) :=
        Nat.add_le_add_right (Nat.mul_div_le _ _) _

/-- Rounding makes a quotient at most twice as large and one unit more. -/
theorem nearestUnits_le (hprecision : 0 < format.precision) :
    nearestUnits format num den ≤ 2 * (num / den) + 1 := by
  have hle := nearestUnits_le_add format num den
  have hspacing : format.spacing (num / den) ≤ twoTo (num / den).log2 :=
    Nat.le_of_dvd (twoTo_pos _) (spacing_dvd_twoTo_log2 hprecision _)
  by_cases hzero : num / den = 0
  · rw [hzero] at hle hspacing ⊢
    exact hle.trans (Nat.add_le_add_left hspacing 0)
  · have hpower := twoTo_log2_le hzero
    omega

/-- Rounding does not go beyond the power of two above the quotient. -/
theorem nearestUnits_le_twoTo (format : BinaryFormat) (num den : Nat) :
    nearestUnits format num den ≤ twoTo ((num / den).log2 + 1) := by
  have hdvd : format.spacing (num / den) ∣ twoTo ((num / den).log2 + 1) :=
    twoTo_dvd_twoTo (by omega)
  have hpos : 0 < format.spacing (num / den) := twoTo_pos _
  have hless : num / den / format.spacing (num / den) <
      twoTo ((num / den).log2 + 1) / format.spacing (num / den) :=
    Nat.div_lt_div_of_lt_of_dvd hdvd (lt_twoTo_log2_succ _)
  have hnearest := divNearest_le num (den * format.spacing (num / den))
  rw [← Nat.div_div_eq_div_mul] at hnearest
  calc nearestUnits format num den
      ≤ format.spacing (num / den) *
          (twoTo ((num / den).log2 + 1) / format.spacing (num / den)) :=
        Nat.mul_le_mul_left _ (by omega)
    _ = twoTo ((num / den).log2 + 1) := Nat.mul_div_cancel' hdvd

/-- What rounding gives is a multiple of the spacing at its own size. -/
theorem spacing_dvd_nearestUnits (hprecision : 0 < format.precision) (num den : Nat) :
    format.spacing (nearestUnits format num den) ∣ nearestUnits format num den := by
  rcases Nat.lt_or_eq_of_le (nearestUnits_le_twoTo format num den) with hless | hpower
  · -- The spacing is at most the one that was rounded to.
    have hlog := log2_lt_of_lt_twoTo (Nat.succ_pos _) hless
    refine Dvd.dvd.trans ?_ (Dvd.intro _ (nearestUnits_eq format num den).symm)
    exact twoTo_dvd_twoTo (by omega)
  · have hdvd := spacing_dvd_twoTo_log2 hprecision (nearestUnits format num den)
    have hlog : (nearestUnits format num den).log2 = (num / den).log2 + 1 := by
      rw [hpower]
      exact Nat.log2_two_pow
    rwa [hlog, ← hpower] at hdvd

/-- What rounding gives is a number of the format when it stays below the limit. -/
theorem exists_ofUnits?_nearestUnits (hprecision : 0 < format.precision) (negative : Bool)
    (h : nearestUnits format num den < twoTo (format.places + format.limit)) :
    ∃ x, ofUnits? format negative (nearestUnits format num den) = some x :=
  ⟨_, dif_pos ⟨spacing_dvd_nearestUnits hprecision num den, h⟩⟩

/-- Zero is rounded to zero. -/
@[simp] theorem nearestUnits_zero (format : BinaryFormat) (den : Nat) :
    nearestUnits format 0 den = 0 := by
  simp [nearestUnits, divNearest]

end Binary

end PageSketch
