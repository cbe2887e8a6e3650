import PageSketch.Text.Search

/-!
# Marks that occur in a text

A text falls into occurrences of a mark and characters at which none begins; removing the mark drops
the former and keeps the latter. What is removed from a part of a text may depend on what follows it:
`Removes` singles out the parts of which it does not.
-/

namespace PageSketch.Text

/-- A mark occurs when the text has it somewhere in one piece. -/
theorem occursIn_iff {mark cs : List Char} : occursIn mark cs = true ↔ mark <:+: cs := by
  induction cs with
  | nil => simp [occursIn]
  | cons c rest ih => simp [occursIn, ih, List.infix_cons_iff]

/-- Where a mark does not occur, no longer one that begins with it does. -/
theorem occursIn_of_isPrefix {mark longer cs : List Char} (hbegins : mark <+: longer)
    (h : occursIn mark cs = false) : occursIn longer cs = false := by
  rw [← Bool.not_eq_true, occursIn_iff] at h ⊢
  intro hlonger
  exact h (hbegins.isInfix.trans hlonger)

/-! ## Removing a mark -/

/-- The characters that are still to be dropped are dropped. -/
theorem removeFrom_length_append (mark dropped rest : List Char) :
    removeFrom mark dropped.length (dropped ++ rest) = removeAll mark rest := by
  induction dropped with
  | nil => rfl
  | cons c dropped ih => exact ih

/-- An occurrence of the mark is dropped. -/
theorem removeAll_append {mark : List Char} (hmark : mark ≠ []) (rest : List Char) :
    removeAll mark (mark ++ rest) = removeAll mark rest := by
  cases mark with
  | nil => exact absurd rfl hmark
  | cons first others =>
    have hbegins : (first :: others).isPrefixOf (first :: (others ++ rest)) = true := by simp
    rw [removeAll, List.cons_append, removeFrom, if_pos hbegins]
    exact removeFrom_length_append (first :: others) others rest

/-- A character at which the mark does not begin is kept. -/
theorem removeAll_cons {mark rest : List Char} {c : Char} (h : ¬mark <+: c :: rest) :
    removeAll mark (c :: rest) = c :: removeAll mark rest := by
  rw [removeAll, removeFrom, if_neg (by simpa using h), removeAll]

/-- Induction along the removal of a mark: the text begins with it, or with a character to keep. -/
@[elab_as_elim]
theorem removal_induction {mark : List Char} (hmark : mark ≠ []) {P : List Char → Prop} (nil : P [])
    (dropped : ∀ rest, P rest → P (mark ++ rest))
    (kept : ∀ c rest, ¬mark <+: c :: rest → P rest → P (c :: rest)) (cs : List Char) : P cs := by
  match cs with
  | [] => exact nil
  | c :: rest =>
    by_cases h : mark <+: c :: rest
    · obtain ⟨behind, hbehind⟩ := h
      -- The mark is not empty, so what is behind it is shorter.
      have hlength : behind.length < (c :: rest).length := by
        rw [← hbehind, List.length_append]
        have hpos := List.length_pos_iff.mpr hmark
        omega
      rw [← hbehind]
      exact dropped behind (removal_induction hmark nil dropped kept behind)
    · exact kept c rest h (removal_induction hmark nil dropped kept rest)
termination_by cs.length
decreasing_by
  · exact hlength
  · exact Nat.lt_succ_self rest.length

/-! ## Parts of a text -/

/-- Whether removing a mark turns a part of a text into another one, whatever follows it. -/
def Removes (mark before after : List Char) : Prop :=
  ∀ rest, removeAll mark (before ++ rest) = after ++ removeAll mark rest

variable {mark : List Char}

/-- Of two parts one after the other the mark is removed in each. -/
theorem Removes.append {before after before' after' : List Char} (h : Removes mark before after)
    (h' : Removes mark before' after') : Removes mark (before ++ before') (after ++ after') := by
  intro rest
  rw [List.append_assoc, h, h', List.append_assoc]

/-- The whole of a text is such a part. -/
theorem Removes.removeAll_eq {before after : List Char} (h : Removes mark before after) :
    removeAll mark before = after := by
  have hnil := h []
  rwa [List.append_nil, show removeAll mark [] = [] from rfl, List.append_nil] at hnil

/-- The mark itself is removed. -/
theorem removes_self (hmark : mark ≠ []) : Removes mark mark [] :=
  fun rest => removeAll_append hmark rest

/-- A part without the first character of the mark is kept. -/
theorem removes_of_not_mem {first : Char} {others cs : List Char} (h : first ∉ cs) :
    Removes (first :: others) cs cs := by
  intro rest
  induction cs with
  | nil => rfl
  | cons c cs ih =>
    rw [List.mem_cons, not_or] at h
    have hbegins : ¬first :: others <+: c :: (cs ++ rest) := by
      intro hbegins
      exact h.1 (List.cons_prefix_cons.mp hbegins).1
    rw [List.cons_append, removeAll_cons hbegins, ih h.2, List.cons_append]

end PageSketch.Text
