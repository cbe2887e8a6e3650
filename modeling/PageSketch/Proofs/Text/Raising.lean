import PageSketch.Proofs.Text.Uppercase

/-!
# Raising twice

The characters of an uppercase are not raised any further: raising them again changes nothing. The
tables say so by their code points, for what they move others to is nothing that they move on. Both
sets have more than a thousand code points, so each is kept as the bits of one number, and one
comparison of bits tells that they are apart.
-/

namespace PageSketch.Text

/-! ## Sets of numbers -/

/-- A set of numbers as the bits of one number. -/
def bits (codes : List Nat) : Nat := codes.foldr (fun code others => 1 <<< code ||| others) 0

/-- The bits that are set are those of the numbers in the set. -/
theorem testBit_bits {codes : List Nat} {code : Nat} :
    (bits codes).testBit code = true ↔ code ∈ codes := by
  induction codes with
  | nil => simp [bits]
  | cons first rest ih =>
    have hbits : bits (first :: rest) = 1 <<< first ||| bits rest := rfl
    rw [hbits, Nat.testBit_or, Nat.one_shiftLeft, Nat.testBit_two_pow, Bool.or_eq_true, decide_eq_true_eq, ih,
      List.mem_cons, eq_comm]

/-- Sets without a common bit have no common number. -/
theorem not_mem_of_bits_and_eq_zero {codes others : List Nat} (h : bits codes &&& bits others = 0)
    {code : Nat} (hcode : code ∈ codes) : code ∉ others := by
  intro hother
  have hbit : (bits codes &&& bits others).testBit code = true := by
    rw [Nat.testBit_and, testBit_bits.mpr hcode, testBit_bits.mpr hother]
    rfl
  rw [h, Nat.zero_testBit] at hbit
  exact nomatch hbit

/-! ## What the tables move, and where to -/

/-- The code points that a run moves. -/
def CaseRun.codes (run : CaseRun) : List Nat :=
  List.range' run.first ((run.last - run.first) / run.stride + 1) run.stride

/-- The code points that a run moves others to. -/
def CaseRun.targets (run : CaseRun) : List Nat :=
  run.codes.map fun code : Nat => (code + run.shift).toNat

/-- The code points that the tables move. -/
def movedCodes : List Nat := caseRuns.flatMap CaseRun.codes ++ multipleUppercase.map Prod.fst

/-- The code points that the tables move others to, and the null character, which stands for what is
no code point. -/
def raisedCodes : List Nat :=
  0 :: (caseRuns.flatMap CaseRun.targets ++ multipleUppercase.flatMap Prod.snd)

/-- What a run covers is among the code points that it moves. -/
theorem CaseRun.mem_codes_of_covers {run : CaseRun} {code : Nat} (h : run.covers code = true) :
    code ∈ run.codes := by
  simp only [covers, Bool.and_eq_true, decide_eq_true_eq, beq_iff_eq] at h
  obtain ⟨⟨hfirst, hlast⟩, hstride⟩ := h
  rw [codes, List.mem_range']
  refine ⟨(code - run.first) / run.stride, ?_, ?_⟩
  · exact Nat.lt_succ_of_le (Nat.div_le_div_right (Nat.sub_le_sub_right hlast run.first))
  · rw [Nat.mul_div_cancel' (Nat.dvd_of_mod_eq_zero hstride)]
    omega

/-- The tables move nothing to a code point that they move on. -/
theorem not_mem_movedCodes {code : Nat} (h : code ∈ raisedCodes) : code ∉ movedCodes := by
  have hapart : bits raisedCodes &&& bits movedCodes = 0 := by decide +kernel
  exact not_mem_of_bits_and_eq_zero hapart h

/-! ## The uppercase of an uppercase -/

/-- A character that the tables do not move is its own uppercase. -/
theorem uppercase_of_not_mem_movedCodes {c : Char} (h : c.toNat ∉ movedCodes) :
    uppercase c = [c] := by
  obtain ⟨hruns, hmultiple⟩ := not_or.mp (mt List.mem_append.mpr h)
  refine uppercase_eq_self (fun entry hentry heq => ?_) fun run hrun => ?_
  · exact hmultiple (heq ▸ List.mem_map_of_mem hentry)
  · rw [← Bool.not_eq_true]
    intro hcovers
    exact hruns (List.mem_flatMap.mpr ⟨run, hrun, CaseRun.mem_codes_of_covers hcovers⟩)

/-- A character that the tables move others to is found by its code point among what they move to. -/
theorem toNat_ofNat_mem_raisedCodes {code : Nat} (h : code ∈ raisedCodes) :
    (Char.ofNat code).toNat ∈ raisedCodes := by
  rcases toNat_ofNat_eq_or code with hcode | hzero
  · rwa [hcode]
  · rw [hzero]
    exact List.mem_cons_self

/-- The tables move something to every character of an uppercase, unless this is the character that
is raised. -/
theorem toNat_mem_raisedCodes_or {c d : Char} (h : d ∈ uppercase c) :
    d.toNat ∈ raisedCodes ∨ uppercase c = [c] := by
  rcases uppercase_cases c with ⟨codes, hentry, heq⟩ | ⟨run, hrun, hcovers, heq⟩ | hself
  · rw [heq] at h
    obtain ⟨code, hcode, rfl⟩ := List.mem_map.mp h
    have hmultiple : code ∈ multipleUppercase.flatMap Prod.snd :=
      List.mem_flatMap.mpr ⟨_, hentry, hcode⟩
    left
    exact toNat_ofNat_mem_raisedCodes (List.mem_cons_of_mem 0 (List.mem_append_right _ hmultiple))
  · rw [heq] at h
    obtain rfl := List.mem_singleton.mp h
    have htarget : (c.toNat + run.shift).toNat ∈ caseRuns.flatMap CaseRun.targets :=
      List.mem_flatMap.mpr
        ⟨run, hrun, List.mem_map_of_mem (CaseRun.mem_codes_of_covers hcovers)⟩
    left
    exact toNat_ofNat_mem_raisedCodes (List.mem_cons_of_mem 0 (List.mem_append_left _ htarget))
  · right
    exact hself

/-- The characters of an uppercase are their own uppercase. -/
theorem uppercase_of_mem_uppercase {c d : Char} (h : d ∈ uppercase c) : uppercase d = [d] := by
  rcases toNat_mem_raisedCodes_or h with hraised | hself
  · exact uppercase_of_not_mem_movedCodes (not_mem_movedCodes hraised)
  · rw [hself] at h
    obtain rfl := List.mem_singleton.mp h
    exact hself

end PageSketch.Text
