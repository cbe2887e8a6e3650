import Mathlib.Algebra.BigOperators.Group.List.Basic
import Mathlib.Algebra.Ring.Int.Defs
import Mathlib.Logic.Relation
import PageSketch.Proofs.Check.Located

/-!
# Totals of widths

A width is any whole number of 64 signed bits, and a total of widths may have more. Siblings are fewer
than there are numbers of 63 bits, so a total that is kept in 128 bits is exact on the way from each
width to the next one, however large widths of both signs come one after another. What is told about
the total is the total itself, or the limit of 64 bits on its side, and never the width of a row. It
depends on the widths alone and not on their order.
-/

namespace PageSketch

/-! ## Exact totals -/

/-- The widths that siblings have. -/
def widths (siblings : List Component) : List Int64 := siblings.filterMap (·.span)

/-- The sum of widths as a whole number. -/
def exactTotal (spans : List Int64) : Int := (spans.map Int64.toInt).sum

/-- One more width in front. -/
theorem exactTotal_cons (span : Int64) (spans : List Int64) :
    exactTotal (span :: spans) = span.toInt + exactTotal spans := by
  rw [exactTotal, List.map_cons, List.sum_cons]
  rfl

/-- The checker adds up exactly. -/
theorem spanTotal_eq (spans : List Int64) : spanTotal spans = exactTotal spans := by
  induction spans with
  | nil => rfl
  | cons span spans ih => rw [spanTotal, exactTotal_cons, ih]

/-- The order of widths does not matter for their sum. -/
theorem exactTotal_perm {spans spans' : List Int64} (h : spans.Perm spans') :
    exactTotal spans = exactTotal spans' := (h.map Int64.toInt).sum_eq

/-- A sum of widths is within as many times the limits of a width. -/
theorem exactTotal_bounds (spans : List Int64) :
    -(2 ^ 63 * spans.length) ≤ exactTotal spans ∧ exactTotal spans ≤ 2 ^ 63 * spans.length := by
  induction spans with
  | nil => exact ⟨Int.le_refl 0, Int.le_refl 0⟩
  | cons span spans ih =>
    have hlow := span.le_toInt
    have hhigh := span.toInt_lt
    rw [exactTotal_cons, List.length_cons]
    omega

/-! ## Totals of 128 bits -/

/-- Whether a whole number has 128 signed bits. -/
def IsWide (n : Int) : Prop := -2 ^ 127 ≤ n ∧ n < 2 ^ 127

/-- The sums on the way to that of fewer widths than there are numbers of 63 bits have 128 bits. -/
theorem isWide_exactTotal_take {spans : List Int64} (h : spans.length < 2 ^ 63) (count : Nat) :
    IsWide (exactTotal (spans.take count)) := by
  have hlength := List.length_take_le' count spans
  obtain ⟨hlow, hhigh⟩ := exactTotal_bounds (spans.take count)
  rw [IsWide]
  omega

/-- A width in 128 bits. -/
def wide (span : Int64) : BitVec 128 := span.toBitVec.signExtend 128

/-- A width is the same number in more bits. -/
theorem toInt_wide (span : Int64) : (wide span).toInt = span.toInt :=
  BitVec.toInt_signExtend_of_le (by decide)

/-- A total with one more width, if it still has 128 bits. -/
def addWidth? (total : BitVec 128) (span : Int64) : Option (BitVec 128) :=
  if total.saddOverflow (wide span) then none else some (total + wide span)

/-- A width is added without loss when the sum has 128 bits. -/
theorem exists_addWidth? {total : BitVec 128} {span : Int64}
    (h : IsWide (total.toInt + span.toInt)) :
    ∃ total', addWidth? total span = some total' ∧ total'.toInt = total.toInt + span.toInt := by
  have hfits : ¬total.saddOverflow (wide span) := by
    rw [IsWide] at h
    simp only [BitVec.saddOverflow, toInt_wide, Bool.or_eq_true, decide_eq_true_eq]
    omega
  refine ⟨total + wide span, if_neg hfits, ?_⟩
  rw [BitVec.toInt_add_of_not_saddOverflow hfits, toInt_wide]

/-- The total of widths, one after another; there is none if it has more than 128 bits on the way. -/
def wideTotal? (spans : List Int64) : Option (BitVec 128) := spans.foldlM addWidth? 0#128

/-- Widths are added up without loss when the sum has 128 bits all the way. -/
theorem exists_foldlM_addWidth? {total : BitVec 128} {spans : List Int64}
    (h : ∀ count, IsWide (total.toInt + exactTotal (spans.take count))) :
    ∃ total', spans.foldlM addWidth? total = some total' ∧
      total'.toInt = total.toInt + exactTotal spans := by
  -- The bound is on all sums on the way, so behind the first width it holds of the next total.
  induction spans generalizing total with
  | nil => exact ⟨total, rfl, (Int.add_zero _).symm⟩
  | cons span spans ih =>
    have hstep (count : Nat) :
        total.toInt + exactTotal ((span :: spans).take (count + 1)) =
          total.toInt + span.toInt + exactTotal (spans.take count) := by
      rw [List.take_succ_cons, exactTotal_cons, Int.add_assoc]
    have hfirst : IsWide (total.toInt + span.toInt) := by
      have hone := h 1
      have hnone : exactTotal (spans.take 0) = 0 := rfl
      rwa [hstep 0, hnone, Int.add_zero] at hone
    obtain ⟨next, hnext, hnextInt⟩ := exists_addWidth? hfirst
    have hrest : ∀ count, IsWide (next.toInt + exactTotal (spans.take count)) := by
      intro count
      rw [hnextInt, ← hstep count]
      exact h (count + 1)
    obtain ⟨last, hlast, hlastInt⟩ := ih hrest
    refine ⟨last, ?_, ?_⟩
    · rw [List.foldlM_cons, hnext]
      exact hlast
    · rw [hlastInt, hnextInt, exactTotal_cons, Int.add_assoc]

/-- Fewer widths than there are numbers of 63 bits are added up without loss. -/
theorem exists_wideTotal? {spans : List Int64} (h : spans.length < 2 ^ 63) :
    ∃ total, wideTotal? spans = some total ∧ total.toInt = exactTotal spans := by
  have hprefix : ∀ count, IsWide ((0#128).toInt + exactTotal (spans.take count)) := by
    intro count
    rw [BitVec.toInt_zero, Int.zero_add]
    exact isWide_exactTotal_take h count
  obtain ⟨total, htotal, hint⟩ := exists_foldlM_addWidth? hprefix
  refine ⟨total, htotal, ?_⟩
  rw [hint, BitVec.toInt_zero, Int.zero_add]

/-! ## What is told -/

/-- What is told for a total: the total itself if it has 64 bits, and otherwise the limit on its
side. -/
inductive Reported (total : Int) : Int64 → Prop
  | exact {n : Int64} (h : n.toInt = total) : Reported total n
  | above (h : Int64.maxValue.toInt < total) : Reported total Int64.maxValue
  | below (h : total < Int64.minValue.toInt) : Reported total Int64.minValue

/-- The nearest number of 64 bits is what is told. -/
theorem reported_clampInt64 (total : Int) : Reported total (clampInt64 total) := by
  rw [clampInt64]
  split
  · rename_i hbelow
    exact .below hbelow
  · rename_i hlow
    split
    · rename_i habove
      exact .above habove
    · rename_i hhigh
      have hmax := Int64.toInt_maxValue
      exact .exact (Int64.toInt_ofInt_of_le (Int.not_lt.mp hlow) (by omega))

/-- Nothing else is told for a total. -/
theorem Reported.eq_clampInt64 {total : Int} {n : Int64} (h : Reported total n) :
    n = clampInt64 total := by
  have hmin := Int64.toInt_minValue
  have hmax := Int64.toInt_maxValue
  cases h with
  | exact h => rw [← h, clampInt64_toInt]
  | above h => rw [clampInt64, if_neg (by omega), if_pos h]
  | below h => rw [clampInt64, if_pos h]

/-- A total that is not that of a row is not told as one. -/
theorem Reported.ne_gridColumns {total : Int} {n : Int64} (h : Reported total n)
    (htotal : total ≠ 24) : n ≠ 24 := by
  cases h with
  | exact h =>
    rintro rfl
    exact htotal h.symm
  | above => decide
  | below => decide

/-- The number of 64 bits for a total of 128 bits: the same number if it has 64 bits, and otherwise
the limit on the side of its sign. -/
def narrowed (total : BitVec 128) : Int64 :=
  (int64? total.toInt).getD (if 0 < total.toInt then Int64.maxValue else Int64.minValue)

/-- The number of 64 bits for a total is what is told for it. -/
theorem reported_narrowed (total : BitVec 128) : Reported total.toInt (narrowed total) := by
  have hmin := Int64.toInt_minValue
  have hmax := Int64.toInt_maxValue
  rw [narrowed, int64?]
  split
  · rename_i hfits
    exact .exact (Int64.toInt_ofInt_of_le hfits.1 (by omega))
  · rename_i hfits
    rw [Option.getD_none]
    split
    · exact .above (by omega)
    · exact .below (by omega)

/-- What is told about the widths of siblings on a grid page when their total is kept in 128 bits.
There is no answer if the total has more bits on the way. -/
def wideSumViolations? (path : String) (spans : List Int64) : Option (List Violation) :=
  if spans = [] then some []
  else (wideTotal? spans).map fun total =>
    if total.toInt = gridColumns then [] else [.spanSum path (narrowed total)]

/-- A total in 128 bits tells what an exact one does. -/
theorem wideSumViolations?_eq {spans : List Int64} (h : spans.length < 2 ^ 63) (path : String) :
    wideSumViolations? path spans = some (sumViolations path .grid spans) := by
  rw [wideSumViolations?, sumViolations, spanTotal_eq]
  by_cases hspans : spans = []
  · rw [if_pos hspans, if_neg (fun hall => hall.2.1 hspans)]
  · obtain ⟨total, htotal, hint⟩ := exists_wideTotal? h
    rw [if_neg hspans, htotal, Option.map_some, (reported_narrowed total).eq_clampInt64, hint]
    by_cases hrow : exactTotal spans = gridColumns
    · rw [if_pos hrow, if_neg (fun hall => hall.2.2 hrow)]
    · rw [if_neg hrow, if_pos ⟨rfl, hspans, hrow⟩]

/-! ## Siblings in another order -/

/-- A change to siblings that leaves them their widths: another order, or one more component without
a width. -/
inductive Rearranged : List Component → List Component → Prop
  | reordered {siblings siblings' : List Component} (h : siblings.Perm siblings') :
    Rearranged siblings siblings'
  | inserted {c : Component} (hc : c.span = none) (front back : List Component) :
    Rearranged (front ++ back) (front ++ c :: back)

/-- A change leaves the widths, in some order. -/
theorem Rearranged.widths_perm {siblings siblings' : List Component}
    (h : Rearranged siblings siblings') : (widths siblings).Perm (widths siblings') := by
  cases h with
  | reordered h => exact h.filterMap _
  | inserted hc front back =>
    rw [widths, widths, List.filterMap_append, List.filterMap_append, List.filterMap_cons_none hc]

/-- Any number of changes leaves the widths, in some order. -/
theorem widths_perm_of_rearranged {siblings siblings' : List Component}
    (h : Relation.ReflTransGen Rearranged siblings siblings') :
    (widths siblings).Perm (widths siblings') := by
  induction h with
  | refl => exact .refl _
  | tail _ hstep ih => exact ih.trans hstep.widths_perm

/-- The order of widths does not matter for what is told. -/
theorem sumViolations_perm {spans spans' : List Int64} (h : spans.Perm spans') (path : String)
    (layout : Layout) : sumViolations path layout spans' = sumViolations path layout spans := by
  have hnil : spans' ≠ [] ↔ spans ≠ [] := by
    rw [← List.length_pos_iff, ← List.length_pos_iff, h.length_eq]
  have htotal : spanTotal spans' = spanTotal spans := by
    rw [spanTotal_eq, spanTotal_eq, exactTotal_perm h]
  simp only [sumViolations, hnil, htotal]

/-! ## Exactness -/

/-- At most one thing is told about the widths of siblings. -/
theorem sumViolations_eq_singleton {path : String} {layout : Layout} {spans : List Int64}
    {v : Violation} (h : v ∈ sumViolations path layout spans) :
    sumViolations path layout spans = [v] := by
  unfold sumViolations at h ⊢
  split at h
  · rename_i htold
    rw [if_pos htold, List.mem_singleton.mp h]
  · exact absurd h List.not_mem_nil

/-- Something is told about siblings of a grid page exactly if one of them has a width and their
total is not that of a row. -/
theorem sumViolations_ne_nil_iff {path : String} {siblings : List Component} :
    sumViolations path .grid (widths siblings) ≠ [] ↔
      (∃ c ∈ siblings, c.span ≠ none) ∧ exactTotal (widths siblings) ≠ 24 := by
  rw [← spanTotal_eq]
  constructor
  · intro hne
    obtain ⟨v, hv⟩ := List.exists_mem_of_ne_nil _ hne
    obtain ⟨-, hspans, hrow, -⟩ := mem_sumViolations_iff.mp hv
    exact ⟨hspans, hrow⟩
  · rintro ⟨hspans, hrow⟩
    exact List.ne_nil_of_mem (mem_sumViolations_iff.mpr ⟨rfl, hspans, hrow, rfl⟩)

/-- On a grid page the total of the widths of siblings is exact. It has 128 bits all the way, and a
total that is kept in 128 bits tells the same. If some sibling has a width, it is told when it is not
that of a row, as itself or as the limit of 64 bits on its side. Other orders of the siblings and more
siblings without a width change nothing. -/
theorem width_totals_exact {siblings : List Component} (hcount : siblings.length < 2 ^ 63)
    (path : String) :
    (∀ count, IsWide (exactTotal ((widths siblings).take count))) ∧
    wideSumViolations? path (widths siblings) =
      some (sumViolations path .grid (widths siblings)) ∧
    (sumViolations path .grid (widths siblings) ≠ [] ↔
      (∃ c ∈ siblings, c.span ≠ none) ∧ exactTotal (widths siblings) ≠ 24) ∧
    (∀ v ∈ sumViolations path .grid (widths siblings),
      sumViolations path .grid (widths siblings) = [v] ∧
      ∃ told, v = .spanSum path told ∧ Reported (exactTotal (widths siblings)) told ∧ told ≠ 24) ∧
    ∀ siblings', Relation.ReflTransGen Rearranged siblings siblings' →
      sumViolations path .grid (widths siblings') = sumViolations path .grid (widths siblings) := by
  have hwidths : (widths siblings).length < 2 ^ 63 :=
    Nat.lt_of_le_of_lt (List.length_filterMap_le _ siblings) hcount
  refine ⟨fun count => ?_, wideSumViolations?_eq hwidths path, sumViolations_ne_nil_iff,
    fun v hv => ⟨sumViolations_eq_singleton hv, ?_⟩, fun siblings' hchanged => ?_⟩
  · exact isWide_exactTotal_take hwidths count
  · obtain ⟨-, -, hrow, rfl⟩ := mem_sumViolations_iff.mp hv
    have hreported := reported_clampInt64 (spanTotal (widths siblings))
    rw [← spanTotal_eq]
    exact ⟨_, rfl, hreported, hreported.ne_gridColumns hrow⟩
  · exact sumViolations_perm (widths_perm_of_rearranged hchanged) path .grid

/-- Columns of a grid with widths. -/
def columns (spans : List Int64) : List Component := spans.map (Component.named "d-col").withSpan

/-- Two of the greatest widths are told to have the greatest total, also around a row without a width.
With two of the least ones and a width of 26 behind them they fill a row. -/
theorem width_totals_exact_limits :
    (columns [Int64.maxValue, Int64.maxValue]).length < 2 ^ 63 ∧
    wideSumViolations? "components" (widths (columns [Int64.maxValue, Int64.maxValue])) =
      some [.spanSum "components" Int64.maxValue] ∧
    sumViolations "components" .grid
      (widths (columns [Int64.maxValue] ++ .named "d-row" :: columns [Int64.maxValue])) =
      [.spanSum "components" Int64.maxValue] ∧
    sumViolations "components" .grid (widths (columns
      [Int64.maxValue, Int64.maxValue, Int64.minValue, Int64.minValue, 26])) = [] := by
  have hcount : (columns [Int64.maxValue, Int64.maxValue]).length < 2 ^ 63 := by decide
  obtain ⟨-, hwide, htold, hone, hchanged⟩ := width_totals_exact hcount "components"
  have hviolations : sumViolations "components" .grid
      (widths (columns [Int64.maxValue, Int64.maxValue])) =
      [.spanSum "components" Int64.maxValue] := by
    have hne := htold.mpr ⟨⟨_, List.mem_cons_self, by decide⟩, by decide⟩
    obtain ⟨v, hv⟩ := List.exists_mem_of_ne_nil _ hne
    obtain ⟨hsingle, told, rfl, hreported, -⟩ := hone v hv
    rw [hsingle, hreported.eq_clampInt64]
    rfl
  refine ⟨hcount, ?_, ?_, ?_⟩
  · rw [hwide, hviolations]
  · have hinserted : Rearranged (columns [Int64.maxValue, Int64.maxValue])
        (columns [Int64.maxValue] ++ .named "d-row" :: columns [Int64.maxValue]) :=
      .inserted rfl (columns [Int64.maxValue]) (columns [Int64.maxValue])
    rw [hchanged _ (.single hinserted), hviolations]
  · have hmany : (columns [Int64.maxValue, Int64.maxValue, Int64.minValue, Int64.minValue,
        26]).length < 2 ^ 63 := by decide
    obtain ⟨-, -, htold', -, -⟩ := width_totals_exact hmany "components"
    by_contra hne
    exact (htold'.mp hne).2 (by decide)

end PageSketch
