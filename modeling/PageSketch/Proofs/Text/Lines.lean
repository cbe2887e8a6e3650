import PageSketch.Proofs.Text.Pieces

/-!
# Lines

Which characters end a line depends on the reader. A line feed does for all of them, and for the
reader of a script three more characters end a line, and with it a comment. What is said about lines
here holds for every choice in between.
-/

namespace PageSketch.Text

/-- The characters that end a line of a script: the line feed, the carriage return, and the separators
of lines and of paragraphs. -/
def scriptLineEnds : List Char := ['\n', '\r', '\u2028', '\u2029']

/-- A choice of the characters that end a line: the line feed, and others of those that end a line of
a script. -/
structure LineEnds where
  isEnd : Char → Bool
  lineFeed : isEnd '\n' = true
  among : ∀ c, isEnd c = true → c ∈ scriptLineEnds

namespace LineEnds

/-- Line feeds only. -/
def feeds : LineEnds where
  isEnd c := c == '\n'
  lineFeed := rfl
  among c hc := by
    rw [beq_iff_eq.mp hc]
    exact List.mem_cons_self

/-- All that end a line of a script. -/
def script : LineEnds where
  isEnd c := scriptLineEnds.contains c
  lineFeed := rfl
  among _ hc := List.contains_iff_mem.mp hc

variable (ends : LineEnds)

/-- Whether no character ends a line. -/
def Within (text : List Char) : Prop := ∀ c ∈ text, ends.isEnd c = false

/-- The lines of a text. -/
def lines (text : List Char) : List (List Char) := piecesBy ends.isEnd text

variable {ends}

/-- What holds for all characters that end a line of a script holds for those that end a line. -/
theorem of_isEnd {p : Char → Bool} (h : scriptLineEnds.all p = true) {c : Char}
    (hend : ends.isEnd c = true) : p c = true :=
  List.all_eq_true.mp h c (ends.among c hend)

/-- A text in which no character ends a line is one line. -/
theorem lines_of_within {text : List Char} (h : ends.Within text) : ends.lines text = [text] :=
  piecesBy_of_forall h

/-- A text without any of the characters that end a line of a script is within one. -/
theorem within_of_all {text : List Char}
    (h : text.all (fun c => !scriptLineEnds.contains c) = true) : ends.Within text := by
  intro c hc
  have hno : scriptLineEnds.contains c = false := by simpa using List.all_eq_true.mp h c hc
  rw [← Bool.not_eq_true]
  intro hend
  exact Bool.false_ne_true (hno.symm.trans (List.contains_iff_mem.mpr (ends.among c hend)))

/-- Two texts, each within a line, are within one when they stand side by side. -/
theorem Within.append {text text' : List Char} (h : ends.Within text) (h' : ends.Within text') :
    ends.Within (text ++ text') := by
  intro c hc
  rcases List.mem_append.mp hc with hc | hc
  · exact h c hc
  · exact h' c hc

/-- The lines of texts with line feeds between them are those of each text. -/
theorem lines_intercalate (text : String) (texts : List String) :
    ends.lines ("\n".intercalate (text :: texts)).toList =
      (text :: texts).flatMap fun text => ends.lines text.toList := by
  induction texts generalizing text with
  | nil =>
    rw [String.intercalate_singleton, List.flatMap_singleton]
  | cons next texts ih =>
    have hsplit : ("\n".intercalate (text :: next :: texts)).toList =
        text.toList ++ '\n' :: ("\n".intercalate (next :: texts)).toList := by
      rw [String.intercalate_cons_cons, String.toList_append, String.toList_append,
        List.append_assoc]
      rfl
    calc ends.lines ("\n".intercalate (text :: next :: texts)).toList
      _ = ends.lines text.toList ++ ends.lines ("\n".intercalate (next :: texts)).toList := by
        rw [hsplit]
        exact piecesBy_append_cons ends.lineFeed _ _
      _ = (text :: next :: texts).flatMap fun text => ends.lines text.toList := by
        simp only [ih, List.flatMap_cons]

/-- Texts that are within a line each are the lines. -/
theorem flatMap_lines_of_within {texts : List String} (h : ∀ text ∈ texts, ends.Within text.toList) :
    (texts.flatMap fun text => ends.lines text.toList) = texts.map String.toList := by
  induction texts with
  | nil => rfl
  | cons text texts ih =>
    obtain ⟨htext, htexts⟩ := List.forall_mem_cons.mp h
    rw [List.flatMap_cons, lines_of_within htext, ih htexts, List.map_cons, List.singleton_append]

/-- A mark that begins the text in front begins every line exactly if it begins every line of the text
behind but the first, where the characters at the very end neither end a line nor help the mark. -/
theorem forall_lines_append_iff {front back mark : List Char} (hfront : ends.Within front)
    (hback : ends.Within back) (hmark : mark <+: front)
    (hends : ∀ line, mark <+: line ++ back ↔ mark <+: line) (text : List Char) :
    (∀ line ∈ ends.lines (front ++ (text ++ back)), mark <+: line) ↔
      ∀ line ∈ (ends.lines text).tail, mark <+: line := by
  obtain ⟨others, last, htext, happend⟩ := exists_piecesBy_append hback text
  rw [lines, lines, htext]
  cases others with
  | nil =>
    rw [piecesBy_append_left hfront happend]
    have hfirst : mark <+: front ++ (last ++ back) := hmark.trans (List.prefix_append front _)
    simp [hfirst]
  | cons first others =>
    rw [piecesBy_append_left hfront happend]
    have hfirst : mark <+: front ++ first := hmark.trans (List.prefix_append front first)
    simp [hfirst, or_imp, forall_and, hends last]

end LineEnds

end PageSketch.Text
