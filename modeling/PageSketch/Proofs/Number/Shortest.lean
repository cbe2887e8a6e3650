import Mathlib.Data.Nat.Log
import Mathlib.Data.Rat.Cast.Order
import Mathlib.Tactic.FieldSimp
import Mathlib.Tactic.Linarith
import Mathlib.Tactic.Positivity
import Mathlib.Tactic.Ring
import PageSketch.Number.Layout

/-!
# Shortest decimals name their numbers

The decimals that read back as a magnitude fill an interval between the midpoints to its neighbours.
The intervals of two magnitudes have at most an end in common, and such an end belongs to at most one
of them, because of two neighbours one has an odd significand. The shortest decimal of a number lies
in its interval, so numbers with decimals of the same value have the same magnitude.
-/

namespace PageSketch

/-- The quantity that a decimal names. -/
def Decimal.value (d : Decimal) : ℚ := d.significand * (10 : ℚ) ^ d.exponent

/-! ## Powers -/

/-- A number is less than the power of two behind it. -/
theorem lt_twoTo_log2_succ (n : Nat) : n < twoTo (n.log2 + 1) := Nat.lt_log2_self

/-- A number other than zero is not less than its greatest power of two. -/
theorem twoTo_log2_le {n : Nat} (h : n ≠ 0) : twoTo n.log2 ≤ n := Nat.log2_self_le h

/-- A power of two divides the greater ones. -/
theorem twoTo_dvd_twoTo {k k' : Nat} (h : k ≤ k') : twoTo k ∣ twoTo k' := Nat.pow_dvd_pow 2 h

/-- A greater number has no smaller exponent. -/
theorem log2_le_log2 {n n' : Nat} (h : n ≤ n') : n.log2 ≤ n'.log2 := by
  rw [Nat.log2_eq_log_two, Nat.log2_eq_log_two]
  exact Nat.log_mono_right h

/-- Below a power of two the exponent is smaller. -/
theorem log2_lt_of_lt_twoTo {n k : Nat} (hk : 0 < k) (h : n < twoTo k) : n.log2 < k := by
  by_cases hzero : n = 0
  · rwa [hzero, Nat.log2_zero]
  · exact (Nat.log2_lt hzero).mpr h

/-- A power of ten as a rational number. -/
theorem cast_tenTo (k : Nat) : (tenTo k : ℚ) = 10 ^ k := by
  show ((Nat.pow 10 k : ℕ) : ℚ) = 10 ^ k
  exact_mod_cast rfl

/-- The two parts of a power of ten make up the power. -/
theorem tenFraction_eq (k : Int) :
    (10 : ℚ) ^ k * ((tenFraction k).2 : ℚ) = ((tenFraction k).1 : ℚ) := by
  rw [tenFraction, cast_tenTo, cast_tenTo, ← zpow_natCast, ← zpow_natCast,
    ← zpow_add₀ (by norm_num)]
  congr 1
  omega

namespace Binary

variable {format : BinaryFormat} {tie : TieRule} {units units' : Nat}

/-! ## The shortest decimal reads back -/

/-- The neighbour below is no further away than zero. -/
theorem spacingBelow_le (h : 0 < units) (aligned : format.spacing units ∣ units) :
    spacingBelow format units ≤ units := by
  have hspacing : format.spacing units ≤ units := Nat.le_of_dvd h aligned
  rw [spacingBelow]
  split
  · omega
  · exact hspacing

/-- The neighbour below is another number. -/
theorem spacingBelow_pos (units : Nat) : 0 < spacingBelow format units := by
  have hspacing : 0 < format.spacing units := twoTo_pos _
  rw [spacingBelow]
  split
  · omega
  · exact hspacing

/-- Zero does not read back as a magnitude other than zero. -/
theorem readsBack_zero (h : 0 < units) (aligned : format.spacing units ∣ units) (k : Int) :
    readsBack format units 0 k = false := by
  have hbelow := spacingBelow_le h aligned
  have hlow : 0 < (2 * units - spacingBelow format units) * (tenFraction k).2 :=
    Nat.mul_pos (by omega) (tenTo_pos _)
  rw [readsBack]
  simp only [Nat.zero_mul]
  split
  · simp only [Bool.and_eq_false_iff, decide_eq_false_iff_not]
    omega
  · simp only [Bool.and_eq_false_iff, decide_eq_false_iff_not]
    omega

/-- A magnitude reads back from its own decimal. -/
theorem readsBack_self (h : 0 < units) (aligned : format.spacing units ∣ units) :
    readsBack format units (units * Nat.pow 5 format.places) (-format.places) = true := by
  have hspacing : 0 < format.spacing units := twoTo_pos _
  have hbelow := spacingBelow_le h aligned
  have hbelowPos : 0 < spacingBelow format units := spacingBelow_pos units
  have hten : (tenFraction (-(format.places : Int))).2 = tenTo format.places := by
    simp [tenFraction]
  have hone : (tenFraction (-(format.places : Int))).1 = 1 := by
    simp [tenFraction, tenTo]
  -- The point is the magnitude itself, and it lies between the ends.
  have hpoint : units * Nat.pow 5 format.places * 1 * twoTo (format.places + 1) =
      2 * units * tenTo format.places := by
    have htwo : tenTo format.places = Nat.pow 5 format.places * twoTo format.places := by
      show 10 ^ format.places = 5 ^ format.places * 2 ^ format.places
      rw [← Nat.mul_pow]
    rw [htwo, twoTo_succ]
    ring
  have hlow : (2 * units - spacingBelow format units) * tenTo format.places <
      2 * units * tenTo format.places :=
    Nat.mul_lt_mul_of_pos_right (by omega) (tenTo_pos _)
  have hhigh : 2 * units * tenTo format.places <
      (2 * units + format.spacing units) * tenTo format.places :=
    Nat.mul_lt_mul_of_pos_right (by omega) (tenTo_pos _)
  rw [readsBack]
  simp only [hten, hone, hpoint]
  split
  · simp [hlow.le, hhigh.le]
  · simp [hlow, hhigh]

/-- A grid point that is chosen for a magnitude reads back. -/
theorem readsBack_of_gridPoint? {k : Int} {c : Nat}
    (h : gridPoint? format tie units k = some c) : readsBack format units c k = true := by
  unfold gridPoint? at h
  simp only at h
  generalize units * (tenFraction k).2 / (twoTo format.places * (tenFraction k).1) = below at h
  split at h
  · cases h
  · rename_i hreads _
    obtain rfl := Option.some.inj h
    exact hreads
  · rename_i _ hreads
    obtain rfl := Option.some.inj h
    exact hreads
  · rename_i hbelow habove
    -- Whichever neighbour is nearer, both read back.
    split at h
    · obtain rfl := Option.some.inj h
      exact hbelow
    · split at h
      · obtain rfl := Option.some.inj h
        exact habove
      · cases tie with
        | even =>
          obtain rfl := Option.some.inj h
          rcases Nat.mod_two_eq_zero_or_one below with heven | hodd
          · rwa [heven]
          · rwa [hodd]
        | upper =>
          obtain rfl := Option.some.inj h
          exact habove

/-- The decimal that is found for a magnitude other than zero reads back. -/
theorem readsBack_searchGrids (h : 0 < units) (aligned : format.spacing units ∣ units)
    (steps : Nat) (k : Int) :
    readsBack format units (searchGrids format tie units steps k).significand
      (searchGrids format tie units steps k).exponent = true := by
  induction steps generalizing k with
  | zero => exact readsBack_self h aligned
  | succ steps ih =>
    rw [searchGrids]
    split
    · rename_i c hc
      exact readsBack_of_gridPoint? hc
    · exact ih (k - 1)

/-- The shortest decimal of a number other than zero reads back. -/
theorem readsBack_shortest {x : Binary format} (h : x.units ≠ 0) (tie : TieRule) :
    readsBack format x.units (x.shortest tie).significand (x.shortest tie).exponent = true :=
  readsBack_searchGrids (Nat.pos_of_ne_zero h) x.aligned _ _

/-- The shortest decimal of a number other than zero is not zero. -/
theorem shortest_pos {x : Binary format} (h : x.units ≠ 0) (tie : TieRule) :
    0 < (x.shortest tie).significand := by
  have hreads := readsBack_shortest h tie
  refine Nat.pos_of_ne_zero fun hzero => ?_
  rw [hzero, readsBack_zero (Nat.pos_of_ne_zero h) x.aligned] at hreads
  exact Bool.false_ne_true hreads

/-! ## Intervals -/

/-- The lower end of the interval of a magnitude, in half units. -/
def lowerEnd (format : BinaryFormat) (units : Nat) : Nat := 2 * units - spacingBelow format units

/-- The upper end of the interval of a magnitude, in half units. -/
def upperEnd (format : BinaryFormat) (units : Nat) : Nat := 2 * units + format.spacing units

/-- Whether a magnitude has an even significand, so that the ends belong to its interval. -/
abbrev IsEven (format : BinaryFormat) (units : Nat) : Prop :=
  units / format.spacing units % 2 = 0

/-- The test for reading back, with the ends of the interval. -/
theorem readsBack_iff {c : Nat} {k : Int} :
    readsBack format units c k = true ↔
      lowerEnd format units * (tenFraction k).2 ≤
          c * (tenFraction k).1 * twoTo (format.places + 1) ∧
        c * (tenFraction k).1 * twoTo (format.places + 1) ≤
          upperEnd format units * (tenFraction k).2 ∧
        (lowerEnd format units * (tenFraction k).2 =
            c * (tenFraction k).1 * twoTo (format.places + 1) ∨
          c * (tenFraction k).1 * twoTo (format.places + 1) =
            upperEnd format units * (tenFraction k).2 → IsEven format units) := by
  rw [readsBack, lowerEnd, upperEnd]
  split
  · rename_i heven
    rw [Bool.and_eq_true, decide_eq_true_eq, decide_eq_true_eq]
    exact ⟨fun h => ⟨h.1, h.2, fun _ => heven⟩, fun h => ⟨h.1, h.2.1⟩⟩
  · rename_i hodd
    rw [Bool.and_eq_true, decide_eq_true_eq, decide_eq_true_eq]
    constructor
    · intro h
      refine ⟨h.1.le, h.2.le, fun hend => ?_⟩
      omega
    · intro ⟨hlow, hhigh, hend⟩
      refine ⟨lt_of_le_of_ne hlow fun h => hodd (hend (.inl h)),
        lt_of_le_of_ne hhigh fun h => hodd (hend (.inr h))⟩

/-- A decimal that reads back lies between the ends, and at an end only for an even significand. -/
theorem bounds_of_readsBack {d : Decimal}
    (h : readsBack format units d.significand d.exponent = true) :
    (lowerEnd format units : ℚ) ≤ d.value * twoTo (format.places + 1) ∧
      d.value * twoTo (format.places + 1) ≤ upperEnd format units ∧
      ((lowerEnd format units : ℚ) = d.value * twoTo (format.places + 1) ∨
        d.value * twoTo (format.places + 1) = upperEnd format units → IsEven format units) := by
  obtain ⟨hlow, hhigh, hend⟩ := readsBack_iff.mp h
  have hden : (0 : ℚ) < (tenFraction d.exponent).2 := by exact_mod_cast tenTo_pos _
  have hpoint : ((d.significand * (tenFraction d.exponent).1 * twoTo (format.places + 1) : ℕ) : ℚ) =
      d.value * twoTo (format.places + 1) * (tenFraction d.exponent).2 := by
    push_cast
    rw [← tenFraction_eq, Decimal.value]
    ring
  generalize d.significand * (tenFraction d.exponent).1 * twoTo (format.places + 1) = point at *
  generalize d.value * twoTo (format.places + 1) = x at *
  generalize (tenFraction d.exponent).2 = den at *
  have hlow' : (lowerEnd format units : ℚ) * den ≤ x * den := by
    rw [← hpoint]
    exact_mod_cast hlow
  have hhigh' : x * den ≤ (upperEnd format units : ℚ) * den := by
    rw [← hpoint]
    exact_mod_cast hhigh
  refine ⟨le_of_mul_le_mul_right hlow' hden, le_of_mul_le_mul_right hhigh' hden, ?_⟩
  rintro (hx | hx)
  · refine hend (.inl ?_)
    rw [← hx] at hpoint
    exact_mod_cast hpoint.symm
  · refine hend (.inr ?_)
    rw [hx] at hpoint
    exact_mod_cast hpoint

/-! ## Neighbouring intervals -/

/-- What divides two numbers divides their distance, which is at least as long. -/
theorem add_le_of_dvd {step : Nat} (hdvd : step ∣ units) (hdvd' : step ∣ units')
    (h : units < units') : units + step ≤ units' := by
  have hle : step ≤ units' - units := Nat.le_of_dvd (by omega) (Nat.dvd_sub hdvd' hdvd)
  omega

/-- The spacing of a magnitude divides that of a greater one. -/
theorem spacing_dvd_spacing (h : units ≤ units') :
    format.spacing units ∣ format.spacing units' := by
  have hlog := log2_le_log2 h
  exact twoTo_dvd_twoTo (by omega)

/-- Whether the interval of a magnitude lies below that of another one, and has an end in common with
it only if the other is the next magnitude. -/
def Precedes (format : BinaryFormat) (units units' : Nat) : Prop :=
  upperEnd format units ≤ lowerEnd format units' ∧
    (upperEnd format units = lowerEnd format units' → units' = units + format.spacing units)

/-- The interval of a power of two is shorter below, where the spacing is half of its own. -/
theorem precedes_power (hprecision : 0 < format.precision)
    (hstep : units + format.spacing units ≤ units') (hspacing : format.spacing units' ≤ units')
    (hwide : 1 < format.spacing units') (hpower : units' = twoTo units'.log2) :
    Precedes format units units' := by
  have hpos : 0 < format.spacing units := twoTo_pos _
  have hbelow : units < twoTo (units.log2 + 1) := lt_twoTo_log2_succ units
  have hexponent : units'.log2 + 1 - format.precision = units'.log2 - format.precision + 1 := by
    by_contra hexponent
    have hnarrow : units'.log2 + 1 - format.precision = 0 := by omega
    rw [BinaryFormat.spacing, hnarrow] at hwide
    exact absurd hwide (by decide)
  have hhalf : format.spacing units' = twoTo (units'.log2 - format.precision) * 2 := by
    rw [BinaryFormat.spacing, hexponent, twoTo_succ]
  have hlower : units.log2 < units'.log2 := log2_lt_of_lt_twoTo (by omega) (by omega)
  rw [Precedes, upperEnd, lowerEnd, spacingBelow, if_pos ⟨hwide, hpower⟩, hhalf]
  by_cases hsame : units.log2 + 1 - format.precision = units'.log2 - format.precision
  · have hequal : format.spacing units = twoTo (units'.log2 - format.precision) := by
      rw [BinaryFormat.spacing, hsame]
    omega
  · -- Even further below, twice the magnitude is still less than the power.
    have htwice : 2 * units < units' := by
      have hle : twoTo (units.log2 + 1 + 1) ≤ twoTo units'.log2 :=
        Nat.le_of_dvd (twoTo_pos _) (twoTo_dvd_twoTo (by omega))
      rw [twoTo_succ] at hle
      omega
    have hless : format.spacing units < twoTo (units'.log2 - format.precision) :=
      Nat.pow_lt_pow_right (by decide) (by omega)
    omega

/-- The interval of any other magnitude is as long below as above. -/
theorem precedes_inside (hprecision : 0 < format.precision)
    (aligned : format.spacing units ∣ units) (aligned' : format.spacing units' ∣ units')
    (h : units < units')
    (hinside : ¬(1 < format.spacing units' ∧ units' = twoTo units'.log2)) :
    Precedes format units units' := by
  have hlog := log2_le_log2 h.le
  have hpos : 0 < format.spacing units := twoTo_pos _
  have hbelow : units < twoTo (units.log2 + 1) := lt_twoTo_log2_succ units
  have hspacing : format.spacing units ∣ format.spacing units' := spacing_dvd_spacing h.le
  have hunits' : format.spacing units' ≤ units' := Nat.le_of_dvd (by omega) aligned'
  rw [Precedes, upperEnd, lowerEnd, spacingBelow, if_neg hinside]
  by_cases hsame : units.log2 + 1 - format.precision = units'.log2 + 1 - format.precision
  · have hequal : format.spacing units = format.spacing units' := by
      rw [BinaryFormat.spacing, hsame, BinaryFormat.spacing]
    have hstep := add_le_of_dvd aligned (hspacing.trans aligned') h
    omega
  · -- A power of two stands between the two magnitudes, a step away from each.
    have hwide : 1 < format.spacing units' := Nat.one_lt_two_pow (by omega)
    have hunder : units < twoTo units'.log2 := by
      have hle : twoTo (units.log2 + 1) ≤ twoTo units'.log2 :=
        Nat.le_of_dvd (twoTo_pos _) (twoTo_dvd_twoTo (by omega))
      omega
    have hne : units' ≠ 0 := by omega
    have hover : twoTo units'.log2 < units' :=
      lt_of_le_of_ne (twoTo_log2_le hne) fun heq => hinside ⟨hwide, heq.symm⟩
    have hdvd : format.spacing units' ∣ twoTo units'.log2 := twoTo_dvd_twoTo (by omega)
    have hfirst := add_le_of_dvd aligned (hspacing.trans hdvd) hunder
    have hsecond := add_le_of_dvd hdvd aligned' hover
    omega

/-- The interval of a magnitude lies below that of a greater one. -/
theorem precedes_of_lt (hprecision : 0 < format.precision)
    (aligned : format.spacing units ∣ units) (aligned' : format.spacing units' ∣ units')
    (h : units < units') : Precedes format units units' := by
  by_cases hpower : 1 < format.spacing units' ∧ units' = twoTo units'.log2
  · have hspacing : format.spacing units ∣ format.spacing units' := spacing_dvd_spacing h.le
    have hstep := add_le_of_dvd aligned (hspacing.trans aligned') h
    have hle : format.spacing units' ≤ units' := Nat.le_of_dvd (by omega) aligned'
    exact precedes_power hprecision hstep hle hpower.1 hpower.2
  · exact precedes_inside hprecision aligned aligned' h hpower

/-- A magnitude with an even significand is a multiple of twice its spacing. -/
theorem IsEven.two_mul_dvd (heven : IsEven format units)
    (aligned : format.spacing units ∣ units) : 2 * format.spacing units ∣ units := by
  have hdvd : 2 ∣ units / format.spacing units := Nat.dvd_of_mod_eq_zero heven
  have hmul := Nat.mul_dvd_mul_right hdvd (format.spacing units)
  rwa [Nat.div_mul_cancel aligned] at hmul

/-- Of two neighbours one has an odd significand. -/
theorem not_isEven_of_next (aligned : format.spacing units ∣ units)
    (aligned' : format.spacing units' ∣ units') (hnext : units' = units + format.spacing units)
    (heven : IsEven format units) : ¬IsEven format units' := by
  intro heven'
  have hpos : 0 < format.spacing units := twoTo_pos _
  have hspacing : format.spacing units ∣ format.spacing units' := spacing_dvd_spacing (by omega)
  have hdvd := heven.two_mul_dvd aligned
  have hdvd' : 2 * format.spacing units ∣ units' :=
    (Nat.mul_dvd_mul_left 2 hspacing).trans (heven'.two_mul_dvd aligned')
  -- Then twice the spacing would divide the step between the two.
  have hstep : 2 * format.spacing units ∣ format.spacing units := by
    rw [hnext] at hdvd'
    exact (Nat.dvd_add_right hdvd).mp hdvd'
  have hle := Nat.le_of_dvd hpos hstep
  omega

/-! ## One magnitude for a decimal -/

/-- Decimals of the same value do not read back as a magnitude and as a greater one. -/
theorem not_lt_of_readsBack {d d' : Decimal} (hprecision : 0 < format.precision)
    (aligned : format.spacing units ∣ units) (aligned' : format.spacing units' ∣ units')
    (h : readsBack format units d.significand d.exponent = true)
    (h' : readsBack format units' d'.significand d'.exponent = true)
    (hvalue : d.value = d'.value) : ¬units < units' := by
  intro hlt
  obtain ⟨hends, hnext⟩ := precedes_of_lt hprecision aligned aligned' hlt
  obtain ⟨-, hhigh, heven⟩ := bounds_of_readsBack h
  obtain ⟨hlow', -, heven'⟩ := bounds_of_readsBack h'
  rw [← hvalue] at hlow' heven'
  have hends' : (upperEnd format units : ℚ) ≤ lowerEnd format units' := by exact_mod_cast hends
  -- The value is the common end of the two intervals, so both significands are even.
  have hupper : d.value * twoTo (format.places + 1) = upperEnd format units := by linarith
  have hlower : (lowerEnd format units' : ℚ) = d.value * twoTo (format.places + 1) := by linarith
  have hcommon : upperEnd format units = lowerEnd format units' := by
    exact_mod_cast hupper.symm.trans hlower.symm
  exact not_isEven_of_next aligned aligned' (hnext hcommon) (heven (.inr hupper))
    (heven' (.inl hlower))

/-- Numbers other than zero whose shortest decimals have the same value have the same magnitude. -/
theorem units_eq_of_shortest {x y : Binary format} (hprecision : 0 < format.precision)
    (hx : x.units ≠ 0) (hy : y.units ≠ 0) (h : (x.shortest tie).value = (y.shortest tie).value) :
    x.units = y.units := by
  have hreads := readsBack_shortest hx tie
  have hreads' := readsBack_shortest hy tie
  have hle := not_lt_of_readsBack hprecision y.aligned x.aligned hreads' hreads h.symm
  have hge := not_lt_of_readsBack hprecision x.aligned y.aligned hreads hreads' h
  omega

/-- The decimal of a number: zero, or the shortest one that reads back. -/
def decimal (tie : TieRule) (x : Binary format) : Decimal :=
  if x.units = 0 then ⟨0, 0⟩ else x.shortest tie

/-- The decimal of a number is zero only for zero. -/
theorem decimal_value_eq_zero_iff (tie : TieRule) (x : Binary format) :
    (x.decimal tie).value = 0 ↔ x.units = 0 := by
  unfold decimal
  split
  · rename_i hzero
    simp [Decimal.value, hzero]
  · rename_i hunits
    have hpos := shortest_pos hunits tie
    have hpower : (10 : ℚ) ^ (x.shortest tie).exponent ≠ 0 := zpow_ne_zero _ (by norm_num)
    simp only [Decimal.value, mul_eq_zero, Nat.cast_eq_zero, hpower, or_false, hunits, iff_false]
    omega

/-- Numbers whose decimals have the same value have the same magnitude. -/
theorem units_eq_of_decimal {x y : Binary format} (hprecision : 0 < format.precision)
    (h : (x.decimal tie).value = (y.decimal tie).value) : x.units = y.units := by
  have hzero : x.units = 0 ↔ y.units = 0 := by
    rw [← decimal_value_eq_zero_iff tie x, ← decimal_value_eq_zero_iff tie y, h]
  by_cases hx : x.units = 0
  · rw [hx, hzero.mp hx]
  · have hy : y.units ≠ 0 := fun hy => hx (hzero.mpr hy)
    rw [decimal, decimal, if_neg hx, if_neg hy] at h
    exact units_eq_of_shortest hprecision hx hy h

end Binary

end PageSketch
