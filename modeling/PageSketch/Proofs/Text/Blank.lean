import PageSketch.Proofs.Json.Tokens
import PageSketch.Text.Property

/-!
# Blanks around a text

Trimming takes blanks off both ends and nothing else, and what is left is the one part without blanks
at its ends that has only blanks around it. Every blank of a JSON text is a blank, but not the other
way round.
-/

namespace PageSketch.Text

/-- What trimming takes off are blanks at both ends. -/
theorem exists_trimChars (cs : List Char) :
    ∃ lead trail, (∀ c ∈ lead, isBlank c = true) ∧ (∀ c ∈ trail, isBlank c = true) ∧
      cs = lead ++ (trimChars cs ++ trail) := by
  let middle := cs.dropWhile isBlank
  refine ⟨cs.takeWhile isBlank, (middle.reverse.takeWhile isBlank).reverse, ?_, ?_, ?_⟩
  · exact List.all_eq_true.mp List.all_takeWhile
  · intro c hc
    exact List.all_eq_true.mp List.all_takeWhile c (List.mem_reverse.mp hc)
  · rw [trimChars, ← List.reverse_append, List.takeWhile_append_dropWhile, List.reverse_reverse,
      List.takeWhile_append_dropWhile]

/-- What is left is a piece of the characters. -/
theorem trimChars_isInfix (cs : List Char) : trimChars cs <:+: cs := by
  obtain ⟨lead, trail, -, -, hcs⟩ := exists_trimChars cs
  exact ⟨lead, trail, by rw [List.append_assoc, ← hcs]⟩

/-- A text is blank when each of its characters is. -/
theorem isBlankText_iff {text : String} :
    isBlankText text = true ↔ ∀ c ∈ text.toList, isBlank c = true := by
  rw [isBlankText, trim, String.isEmpty_iff, String.ofList_eq_empty_iff]
  constructor
  · intro hnil c hc
    obtain ⟨lead, trail, hlead, htrail, hcs⟩ := exists_trimChars text.toList
    rw [hcs, hnil, List.nil_append, List.mem_append] at hc
    exact hc.elim (hlead c) (htrail c)
  · exact trimChars_eq_nil_of_blank

/-- Whether neither end of the characters is a blank. -/
structure Trimmed (cs : List Char) : Prop where
  first : ∀ c ∈ cs.head?, isBlank c = false
  last : ∀ c ∈ cs.getLast?, isBlank c = false

/-- Characters without blanks are trimmed. -/
theorem trimmed_of_forall {cs : List Char} (h : ∀ c ∈ cs, isBlank c = false) : Trimmed cs where
  first c hc := h c (List.mem_of_head? hc)
  last c hc := h c (List.mem_of_getLast? hc)

/-- In front of characters that do not begin with a blank, exactly the blanks are dropped. -/
theorem dropWhile_blanks_append {blanks cs : List Char} (h : ∀ c ∈ blanks, isBlank c = true)
    (hcs : ∀ c ∈ cs.head?, isBlank c = false) : (blanks ++ cs).dropWhile isBlank = cs := by
  rw [List.dropWhile_append_of_pos h]
  cases cs with
  | nil => rfl
  | cons c rest => exact List.dropWhile_cons_of_neg (by simp [hcs c rfl])

/-- Characters that are trimmed are what is left of them between blanks. -/
theorem Trimmed.trimChars_append {lead cs trail : List Char} (h : Trimmed cs)
    (hlead : ∀ c ∈ lead, isBlank c = true) (htrail : ∀ c ∈ trail, isBlank c = true) :
    trimChars (lead ++ (cs ++ trail)) = cs := by
  cases cs with
  | nil =>
    refine trimChars_eq_nil_of_blank fun c hc => ?_
    exact (List.mem_append.mp hc).elim (hlead c) (htrail c)
  | cons c rest =>
    have hfront : (lead ++ (c :: rest ++ trail)).dropWhile isBlank = c :: rest ++ trail :=
      dropWhile_blanks_append hlead h.first
    have hback : (trail.reverse ++ (c :: rest).reverse).dropWhile isBlank = (c :: rest).reverse :=
      dropWhile_blanks_append (fun d hd => htrail d (List.mem_reverse.mp hd))
        (by rw [List.head?_reverse]; exact h.last)
    rw [trimChars, hfront, List.reverse_append, hback, List.reverse_reverse]

/-- Characters that are trimmed are left as they are. -/
theorem Trimmed.trimChars_eq {cs : List Char} (h : Trimmed cs) : trimChars cs = cs := by
  have hnone : ∀ c ∈ ([] : List Char), isBlank c = true := nofun
  simpa using h.trimChars_append hnone hnone

/-- What is left is trimmed. -/
theorem trimmed_trimChars (cs : List Char) : Trimmed (trimChars cs) := by
  have hhead : ∀ ds : List Char, ∀ c ∈ (ds.dropWhile isBlank).head?, isBlank c = false := by
    intro ds c hc
    have hnot := List.head?_dropWhile_not isBlank ds
    rwa [Option.mem_def.mp hc] at hnot
  constructor
  · intro c hc
    -- What is left is a beginning of what is left in front.
    obtain ⟨behind, hfront⟩ : trimChars cs <+: cs.dropWhile isBlank := by
      rw [← List.reverse_suffix, trimChars, List.reverse_reverse]
      exact List.dropWhile_suffix isBlank
    exact hhead cs c (by rw [← hfront, List.head?_append, Option.mem_def.mp hc]; rfl)
  · intro c hc
    rw [trimChars, List.getLast?_reverse] at hc
    exact hhead _ c hc

/-- Trimming twice is trimming once. -/
@[simp] theorem trimChars_trimChars (cs : List Char) : trimChars (trimChars cs) = trimChars cs :=
  (trimmed_trimChars cs).trimChars_eq

/-- Blanks around a text do not count. -/
theorem trimChars_append_of_blank {lead trail : List Char} (hlead : ∀ c ∈ lead, isBlank c = true)
    (htrail : ∀ c ∈ trail, isBlank c = true) (cs : List Char) :
    trimChars (lead ++ (cs ++ trail)) = trimChars cs := by
  obtain ⟨inner, outer, hinner, houter, hcs⟩ := exists_trimChars cs
  have hmiddle := trimmed_trimChars cs
  generalize trimChars cs = middle at hmiddle hcs ⊢
  have hsplit : lead ++ (cs ++ trail) = lead ++ inner ++ (middle ++ (outer ++ trail)) := by
    simp [hcs]
  rw [hsplit]
  refine hmiddle.trimChars_append (fun c hc => ?_) fun c hc => ?_
  · exact (List.mem_append.mp hc).elim (hlead c) (hinner c)
  · exact (List.mem_append.mp hc).elim (houter c) (htrail c)

/-- Between two characters that are no blanks nothing is taken off. -/
theorem trimChars_of_ends {first last : Char} (hfirst : isBlank first = false)
    (hlast : isBlank last = false) (middle : List Char) :
    trimChars (first :: (middle ++ [last])) = first :: (middle ++ [last]) := by
  have htrimmed : Trimmed (first :: (middle ++ [last])) := by
    refine ⟨by simpa using hfirst, ?_⟩
    rw [← List.cons_append, List.getLast?_concat]
    simpa using hlast
  exact htrimmed.trimChars_eq

/-- A blank is none of the characters that show in ASCII. -/
theorem ne_of_isBlank {c d : Char} (h : isBlank c = true) (hlow : 0x20 < d.toNat)
    (hhigh : d.toNat < 0x80) : c ≠ d := by
  rintro rfl
  obtain ⟨range, hrange, hfirst, hlast⟩ := inRanges_iff.mp h
  simp only [blankRanges, List.mem_cons, List.not_mem_nil, or_false] at hrange
  rcases hrange with rfl | rfl | rfl | rfl | rfl | rfl | rfl | rfl | rfl | rfl <;>
    simp only at hfirst hlast <;> omega

/-- A blank is no digit. -/
theorem isDigit_of_isBlank {c : Char} (h : isBlank c = true) : isDigit c = false := by
  cases hdigit : isDigit c with
  | false => rfl
  | true =>
    obtain ⟨hlow, hhigh⟩ := Json.isDigit_iff.mp hdigit
    exact absurd rfl (ne_of_isBlank h (by omega) (by omega))

/-- Blanks do not continue a numeral. -/
theorem endsNumeral_append {blanks rest : List Char} (h : ∀ c ∈ blanks, isBlank c = true)
    (hrest : Json.EndsNumeral rest) : Json.EndsNumeral (blanks ++ rest) := by
  cases blanks with
  | nil => exact hrest
  | cons b bs =>
    intro c hc
    obtain rfl : b = c := by simpa using hc
    have hblank : isBlank b = true := h b List.mem_cons_self
    exact ⟨isDigit_of_isBlank hblank, ne_of_isBlank hblank (by decide) (by decide),
      ne_of_isBlank hblank (by decide) (by decide), ne_of_isBlank hblank (by decide) (by decide)⟩

/-- A blank of a JSON text is a blank. -/
theorem isBlank_of_isJsonBlank {c : Char} (h : Json.isJsonBlank c = true) : isBlank c = true := by
  simp only [Json.isJsonBlank, Bool.or_eq_true, decide_eq_true_eq] at h
  rcases h with ((rfl | rfl) | rfl) | rfl <;> decide

end PageSketch.Text
