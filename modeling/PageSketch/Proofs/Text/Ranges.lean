import PageSketch.Text.Property

/-!
# Comparing tables of ranges

Two tables of ranges are compared by walking through both of them once. Taking one table out of
another one tells what it does not cover. Ascending tables are apart when no range of one of them
meets a range of the other.
-/

namespace PageSketch.Text

variable {c : Char} {ranges others rest : List (Nat × Nat)} {low high first last : Nat}

/-- A code point is in ranges when it is in the first one or in one of the others. -/
theorem inRanges_cons :
    inRanges ((low, high) :: rest) c = true ↔
      (low ≤ c.toNat ∧ c.toNat ≤ high) ∨ inRanges rest c = true := by
  simp [inRanges]

/-! ## Taking ranges out -/

/-- What is left of ranges when others are taken out of them, in at most so many steps. Both tables
are meant to ascend. Some of the ranges that are left may be empty. -/
def without : Nat → List (Nat × Nat) → List (Nat × Nat) → List (Nat × Nat)
  | 0, ranges, _ => ranges
  | _ + 1, [], _ => []
  | _ + 1, ranges, [] => ranges
  | steps + 1, (low, high) :: rest, (first, last) :: others =>
    if last < low then without steps ((low, high) :: rest) others
    else if high < first then (low, high) :: without steps rest ((first, last) :: others)
    else if last < high then
      (low, first - 1) :: without steps ((last + 1, high) :: rest) others
    else (low, first - 1) :: without steps rest ((first, last) :: others)

/-- Whether all ranges are empty. -/
def areEmpty (ranges : List (Nat × Nat)) : Bool := ranges.all fun range => range.2 < range.1

/-- What is in ranges and not in others is left when the others are taken out. -/
theorem inRanges_without (steps : Nat) (h : inRanges ranges c = true)
    (hothers : inRanges others c = false) : inRanges (without steps ranges others) c = true := by
  induction steps generalizing ranges others with
  | zero => exact h
  | succ steps ih =>
    match ranges, others with
    | [], _ => exact h
    | range :: rest, [] => exact h
    | (low, high) :: rest, (first, last) :: others =>
      obtain ⟨hrange, hrest⟩ : ¬(first ≤ c.toNat ∧ c.toNat ≤ last) ∧ inRanges others c = false := by
        rwa [← Bool.not_eq_true, inRanges_cons, not_or, Bool.not_eq_true] at hothers
      rw [without]
      split
      · exact ih h hrest
      rw [inRanges_cons] at h
      split
      · exact inRanges_cons.mpr (h.imp_right fun hin => ih hin hothers)
      split
      · -- The range goes on behind the one that is taken out.
        rcases Nat.lt_or_ge c.toNat first with hbefore | hbehind
        · rcases h with hhere | hin
          · exact inRanges_cons.mpr (.inl (by omega))
          · exact inRanges_cons.mpr (.inr (ih (inRanges_cons.mpr (.inr hin)) hrest))
        · refine inRanges_cons.mpr (.inr (ih (inRanges_cons.mpr (h.imp_left fun hhere => ?_)) hrest))
          omega
      · rcases h with hhere | hin
        · exact inRanges_cons.mpr (.inl (by omega))
        · exact inRanges_cons.mpr (.inr (ih hin hothers))

/-- Nothing is in empty ranges. -/
theorem inRanges_of_areEmpty (h : areEmpty ranges = true) : inRanges ranges c = false := by
  rw [← Bool.not_eq_true, inRanges_iff]
  rintro ⟨range, hrange, hlow, hhigh⟩
  have hempty := List.all_eq_true.mp h range hrange
  simp only [decide_eq_true_eq] at hempty
  omega

/-- Others cover ranges when nothing is left without them. -/
theorem inRanges_of_without {steps : Nat} (hnothing : areEmpty (without steps ranges others) = true)
    (h : inRanges ranges c = true) : inRanges others c = true := by
  cases hothers : inRanges others c with
  | true => rfl
  | false =>
    have hleft := inRanges_without steps h hothers
    rw [inRanges_of_areEmpty hnothing] at hleft
    cases hleft

/-! ## Ranges apart -/

/-- Whether ranges ascend from a code point on. -/
def ascendFrom : Nat → List (Nat × Nat) → Bool
  | _, [] => true
  | start, (low, high) :: rest => start ≤ low && low ≤ high && ascendFrom (high + 1) rest

/-- Ranges ascend when the first one is behind the start and the others ascend behind it. -/
theorem ascendFrom_cons {start : Nat} :
    ascendFrom start ((low, high) :: rest) = true ↔
      start ≤ low ∧ low ≤ high ∧ ascendFrom (high + 1) rest = true := by
  simp [ascendFrom, and_assoc]

/-- Ascending ranges hold nothing before their start. -/
theorem le_of_ascendFrom {start : Nat} (h : ascendFrom start ranges = true)
    (hin : inRanges ranges c = true) : start ≤ c.toNat := by
  induction ranges generalizing start with
  | nil => simp [inRanges] at hin
  | cons range rest ih =>
    obtain ⟨hstart, hfilled, hrest⟩ := ascendFrom_cons.mp h
    rcases inRanges_cons.mp hin with hhere | hlater
    · omega
    · have hbehind := ih hrest hlater
      omega

/-- Whether no range of a table meets one of another table, seen in at most so many steps. -/
def apart : Nat → List (Nat × Nat) → List (Nat × Nat) → Bool
  | 0, _, _ => false
  | _ + 1, [], _ => true
  | _ + 1, _, [] => true
  | steps + 1, (low, high) :: rest, (first, last) :: others =>
    if last < low then apart steps ((low, high) :: rest) others
    else if high < first then apart steps rest ((first, last) :: others)
    else false

/-- Ascending tables that are apart have no code point in common. -/
theorem not_inRanges_of_apart {steps start start' : Nat} (h : apart steps ranges others = true)
    (hranges : ascendFrom start ranges = true) (hothers : ascendFrom start' others = true)
    (hin : inRanges ranges c = true) : inRanges others c = false := by
  induction steps generalizing ranges others start start' with
  | zero => simp [apart] at h
  | succ steps ih =>
    match ranges, others with
    | [], _ => simp [inRanges] at hin
    | range :: rest, [] => rfl
    | (low, high) :: rest, (first, last) :: others =>
      obtain ⟨-, hfilled, hrest⟩ := ascendFrom_cons.mp hranges
      obtain ⟨-, hfilled', hrest'⟩ := ascendFrom_cons.mp hothers
      rw [apart] at h
      split at h
      · -- The first of the others ends before all of the ranges.
        have hlow : low ≤ c.toNat :=
          le_of_ascendFrom (ascendFrom_cons.mpr ⟨Nat.le_refl low, hfilled, hrest⟩) hin
        have hlater : inRanges others c = false := ih h hranges hrest' hin
        rw [← Bool.not_eq_true, inRanges_cons, not_or, Bool.not_eq_true]
        exact ⟨by omega, hlater⟩
      split at h
      · rcases inRanges_cons.mp hin with hhere | hlater
        · -- The first of the ranges ends before all of the others.
          cases hmeets : inRanges ((first, last) :: others) c with
          | false => rfl
          | true =>
            have hfirst : first ≤ c.toNat :=
              le_of_ascendFrom (ascendFrom_cons.mpr ⟨Nat.le_refl first, hfilled', hrest'⟩) hmeets
            omega
        · exact ih h hrest hothers hlater
      · cases h

end PageSketch.Text
