import PageSketch.Text.Uppercase

/-!
# Characters without case

The uppercase of a character is looked up in tables. Most characters that are no letters stand in
neither table, and nothing is moved to them: such a character is the uppercase of itself, and it is in
the uppercase of no other character. Whether a character is one of them is read off the tables.
-/

namespace PageSketch.Text

/-! ## Characters that nothing is moved to -/

/-- A character has the code point that it was made of, or it is the null character, which stands for
what is no code point. -/
theorem toNat_ofNat_eq_or (code : Nat) :
    (Char.ofNat code).toNat = code ∨ (Char.ofNat code).toNat = 0 := by
  by_cases hvalid : code.isValidChar
  · left
    rw [Char.ofNat, dif_pos hvalid]
    rfl
  · right
    rw [Char.ofNat, dif_neg hvalid]
    rfl

/-- Whether the run moves a code point to this one. -/
def CaseRun.reaches (run : CaseRun) (code : Nat) : Bool := run.covers ((code : Int) - run.shift).toNat

/-- Whether a character stands in none of the tables, neither as what is moved nor as a target. -/
def isCaseless (b : Char) : Bool :=
  b.toNat != 0 &&
    multipleUppercase.all (fun entry => entry.1 != b.toNat && !(entry.2.map Char.ofNat).contains b) &&
    caseRuns.all fun run => !run.covers b.toNat && !run.reaches b.toNat

/-- What a character without case is not: moved or a target in one of the tables. -/
theorem isCaseless_iff {b : Char} :
    isCaseless b = true ↔ b.toNat ≠ 0 ∧
      (∀ entry ∈ multipleUppercase, entry.1 ≠ b.toNat ∧ b ∉ entry.2.map Char.ofNat) ∧
      ∀ run ∈ caseRuns, run.covers b.toNat = false ∧ run.reaches b.toNat = false := by
  simp [isCaseless, and_assoc]

/-- A code point that is moved to a character other than the null character is reached from below or
above by the shift of the run. -/
theorem CaseRun.reaches_of_covers {run : CaseRun} {code : Nat} {b : Char} (hb : b.toNat ≠ 0)
    (hcovers : run.covers code = true) (htarget : b = Char.ofNat (code + run.shift).toNat) :
    run.reaches b.toNat = true := by
  have hcode : b.toNat = ((code : Int) + run.shift).toNat := by
    subst htarget
    exact (toNat_ofNat_eq_or _).resolve_right hb
  have hsource : ((b.toNat : Int) - run.shift).toNat = code := by omega
  rw [CaseRun.reaches, hsource]
  exact hcovers

/-! ## Their uppercase -/

/-- The entry that a code point has in a table is in the table. -/
theorem mem_of_lookup_eq_some {table : List (Nat × List Nat)} {code : Nat} {codes : List Nat}
    (h : table.lookup code = some codes) : (code, codes) ∈ table := by
  obtain ⟨before, behind, rfl, -⟩ := List.lookup_eq_some_iff.mp h
  exact List.mem_append_right before List.mem_cons_self

/-- An uppercase is in one of the tables, or the character is its own. -/
theorem uppercase_cases (c : Char) :
    (∃ codes, (c.toNat, codes) ∈ multipleUppercase ∧ uppercase c = codes.map Char.ofNat) ∨
    (∃ run ∈ caseRuns, run.covers c.toNat = true ∧
      uppercase c = [Char.ofNat (c.toNat + run.shift).toNat]) ∨
    uppercase c = [c] := by
  unfold uppercase
  split
  · rename_i codes hfound
    exact .inl ⟨codes, mem_of_lookup_eq_some hfound, rfl⟩
  · split
    · rename_i run hfound
      have hcovers := List.find?_some hfound
      exact .inr (.inl ⟨run, List.mem_of_find?_eq_some hfound, hcovers, rfl⟩)
    · exact .inr (.inr rfl)

/-- A character in none of the tables is its own uppercase. -/
theorem uppercase_eq_self {c : Char} (hmultiple : ∀ entry ∈ multipleUppercase, entry.1 ≠ c.toNat)
    (hruns : ∀ run ∈ caseRuns, run.covers c.toNat = false) : uppercase c = [c] := by
  rcases uppercase_cases c with ⟨codes, hentry, -⟩ | ⟨run, hrun, hcovers, -⟩ | hself
  · exact absurd rfl (hmultiple _ hentry)
  · rw [hruns run hrun] at hcovers
    exact nomatch hcovers
  · exact hself

/-- A character without case is its own uppercase. -/
theorem uppercase_of_isCaseless {b : Char} (h : isCaseless b = true) : uppercase b = [b] := by
  obtain ⟨-, hmultiple, hruns⟩ := isCaseless_iff.mp h
  exact uppercase_eq_self (fun entry hentry => (hmultiple entry hentry).1)
    fun run hrun => (hruns run hrun).1

/-- A character without case is in the uppercase of no other character. -/
theorem eq_of_mem_uppercase {b c : Char} (h : isCaseless b = true) (hmem : b ∈ uppercase c) :
    c = b := by
  obtain ⟨hzero, hmultiple, hruns⟩ := isCaseless_iff.mp h
  rcases uppercase_cases c with ⟨codes, hentry, heq⟩ | ⟨run, hrun, hcovers, heq⟩ | heq
  · rw [heq] at hmem
    exact absurd hmem (hmultiple _ hentry).2
  · rw [heq] at hmem
    have hreaches := CaseRun.reaches_of_covers hzero hcovers (List.mem_singleton.mp hmem)
    rw [(hruns run hrun).2] at hreaches
    exact nomatch hreaches
  · rw [heq] at hmem
    exact (List.mem_singleton.mp hmem).symm

/-- Every character has an uppercase of at least one character. -/
theorem uppercase_ne_nil (c : Char) : uppercase c ≠ [] := by
  rcases uppercase_cases c with ⟨codes, hentry, heq⟩ | ⟨run, -, -, heq⟩ | heq
  · rw [heq]
    have hfilled : ∀ entry ∈ multipleUppercase, entry.2.map Char.ofNat ≠ [] := by decide
    exact hfilled _ hentry
  · rw [heq]
    exact List.cons_ne_nil _ []
  · rw [heq]
    exact List.cons_ne_nil c []

end PageSketch.Text
