import PageSketch.Text.Search

/-!
# Pieces of composed texts

Every mark ends a piece, so the pieces of a text with a mark in it are those before the mark and
those behind it. Lines that have no line break come back from the text in which each has one behind it.
-/

namespace PageSketch.Text

/-- At least one piece comes first. -/
theorem exists_piecesBy_eq_cons (isMark : Char → Bool) (cs : List Char) :
    ∃ piece others, piecesBy isMark cs = piece :: others :=
  List.exists_cons_of_ne_nil (piecesBy_ne_nil isMark cs)

variable {isMark : Char → Bool}

/-- A mark ends a piece. -/
theorem piecesBy_cons_of_pos {c : Char} (hc : isMark c = true) (rest : List Char) :
    piecesBy isMark (c :: rest) = [] :: piecesBy isMark rest := by
  obtain ⟨piece, others, h⟩ := exists_piecesBy_eq_cons isMark rest
  rw [piecesBy, h]
  simp [hc]

/-- Any other character begins the first piece. -/
theorem piecesBy_cons_of_neg {c : Char} (hc : isMark c = false) {rest piece : List Char}
    {others : List (List Char)} (h : piecesBy isMark rest = piece :: others) :
    piecesBy isMark (c :: rest) = (c :: piece) :: others := by
  rw [piecesBy, h]
  simp [hc]

/-- The pieces around a mark are those before it and those behind it. -/
theorem piecesBy_append_cons {c : Char} (hc : isMark c = true) (before behind : List Char) :
    piecesBy isMark (before ++ c :: behind) = piecesBy isMark before ++ piecesBy isMark behind := by
  induction before with
  | nil => exact piecesBy_cons_of_pos hc behind
  | cons d before ih =>
    obtain ⟨piece, others, h⟩ := exists_piecesBy_eq_cons isMark before
    rw [h, List.cons_append] at ih
    cases hd : isMark d with
    | true => rw [List.cons_append, piecesBy_cons_of_pos hd, piecesBy_cons_of_pos hd, ih, h]; rfl
    | false => rw [List.cons_append, piecesBy_cons_of_neg hd ih, piecesBy_cons_of_neg hd h]; rfl

/-- A text without marks is one piece. -/
theorem piecesBy_of_forall {cs : List Char} (h : ∀ c ∈ cs, isMark c = false) :
    piecesBy isMark cs = [cs] := by
  induction cs with
  | nil => rfl
  | cons c rest ih =>
    obtain ⟨hc, hrest⟩ := List.forall_mem_cons.mp h
    exact piecesBy_cons_of_neg hc (ih hrest)

/-- Characters in front of a text that are no marks stand in front of its first piece. -/
theorem piecesBy_append_left {front : List Char} (hfront : ∀ c ∈ front, isMark c = false)
    {cs piece : List Char} {others : List (List Char)} (h : piecesBy isMark cs = piece :: others) :
    piecesBy isMark (front ++ cs) = (front ++ piece) :: others := by
  induction front with
  | nil => exact h
  | cons c front ih =>
    obtain ⟨hc, hrest⟩ := List.forall_mem_cons.mp hfront
    exact piecesBy_cons_of_neg hc (ih hrest)

/-- Characters behind a text that are no marks stand behind its last piece. -/
theorem exists_piecesBy_append {back : List Char} (hback : ∀ c ∈ back, isMark c = false)
    (cs : List Char) :
    ∃ others piece, piecesBy isMark cs = others ++ [piece] ∧
      piecesBy isMark (cs ++ back) = others ++ [piece ++ back] := by
  induction cs with
  | nil => exact ⟨[], [], rfl, piecesBy_of_forall hback⟩
  | cons c cs ih =>
    obtain ⟨others, piece, hcs, happend⟩ := ih
    cases hc : isMark c with
    | true =>
      refine ⟨[] :: others, piece, ?_, ?_⟩
      · rw [piecesBy_cons_of_pos hc, hcs, List.cons_append]
      · rw [List.cons_append, piecesBy_cons_of_pos hc, happend, List.cons_append]
    | false =>
      -- The character goes to the first piece, which may be the last one as well.
      cases others with
      | nil =>
        exact ⟨[], c :: piece, piecesBy_cons_of_neg hc hcs, piecesBy_cons_of_neg hc happend⟩
      | cons first others =>
        exact ⟨(c :: first) :: others, piece, piecesBy_cons_of_neg hc hcs,
          piecesBy_cons_of_neg hc happend⟩

/-- Lines with a line break behind each of them. -/
def ended (lines : List (List Char)) : List Char := lines.flatMap (· ++ ['\n'])

/-- One line with its line break. -/
theorem ended_cons (line : List Char) (lines : List (List Char)) :
    ended (line :: lines) = line ++ '\n' :: ended lines := by
  rw [ended, List.flatMap_cons, List.append_assoc]
  rfl

/-- Lines behind lines. -/
theorem ended_append (lines lines' : List (List Char)) :
    ended (lines ++ lines') = ended lines ++ ended lines' := List.flatMap_append

/-- The pieces of lines with their line breaks are the lines, and nothing behind the last one. -/
theorem pieces_ended {lines : List (List Char)} (h : ∀ line ∈ lines, '\n' ∉ line) :
    pieces '\n' (ended lines) = lines ++ [[]] := by
  induction lines with
  | nil => rfl
  | cons line lines ih =>
    obtain ⟨hline, hlines⟩ := List.forall_mem_cons.mp h
    have hplain : ∀ c ∈ line, (c == '\n') = false := by
      intro c hc
      exact beq_eq_false_iff_ne.mpr fun heq => hline (heq ▸ hc)
    calc pieces '\n' (ended (line :: lines))
      _ = piecesBy (· == '\n') line ++ pieces '\n' (ended lines) := by
        rw [ended_cons]
        exact piecesBy_append_cons rfl line (ended lines)
      _ = line :: lines ++ [[]] := by
        rw [piecesBy_of_forall hplain, ih hlines, List.singleton_append, List.cons_append]

/-- A text whose lines have no line break within them falls into its lines. -/
theorem pieces_of_ended {text : List Char} {lines : List (List Char)}
    (htext : text ++ ['\n'] = ended lines) (h : ∀ line ∈ lines, '\n' ∉ line) :
    pieces '\n' text = lines := by
  have hpieces : pieces '\n' (text ++ ['\n']) = pieces '\n' text ++ [[]] :=
    piecesBy_append_cons rfl text []
  rw [htext, pieces_ended h] at hpieces
  exact (List.append_cancel_right hpieces).symm

end PageSketch.Text
