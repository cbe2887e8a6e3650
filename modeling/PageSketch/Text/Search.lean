/-!
# Marks in a text

Finding a mark, removing all its occurrences from left to right without overlaps, and taking a text
apart at them. A text falls into one piece more than it has occurrences, and putting the mark back
between the pieces gives the text again.
-/

namespace PageSketch.Text

/-! ## Occurrences -/

/-- Whether `mark` occurs in the characters. -/
def occursIn (mark : List Char) : List Char → Bool
  | [] => mark.isEmpty
  | c :: rest => mark.isPrefixOf (c :: rest) || occursIn mark rest

/-- Copies the characters without the occurrences of `mark`; `skip` counts the characters of the
current occurrence that are still to be dropped. -/
def removeFrom (mark : List Char) : Nat → List Char → List Char
  | _, [] => []
  | skip + 1, _ :: rest => removeFrom mark skip rest
  | 0, c :: rest =>
    if mark.isPrefixOf (c :: rest) then removeFrom mark (mark.length - 1) rest
    else c :: removeFrom mark 0 rest

/-- The characters without the occurrences of a nonempty `mark`. -/
def removeAll (mark : List Char) (cs : List Char) : List Char := removeFrom mark 0 cs

/-- Whether `mark` occurs in the text. -/
def contains (text mark : String) : Bool := occursIn mark.toList text.toList

/-- A text in which the mark does not occur is left as it is. -/
theorem removeAll_of_not_occursIn {mark cs : List Char} (h : occursIn mark cs = false) :
    removeAll mark cs = cs := by
  induction cs with
  | nil => rfl
  | cons c rest ih =>
    simp only [occursIn, Bool.or_eq_false_iff] at h
    simp only [removeAll, removeFrom, h.1]
    simpa [removeAll] using ih h.2

/-! ## Pieces -/

/-- The pieces between the characters that are marks. -/
def piecesBy (isMark : Char → Bool) : List Char → List (List Char)
  | [] => [[]]
  | c :: rest =>
    match piecesBy isMark rest with
    | [] => [[c]]
    | piece :: others => if isMark c then [] :: piece :: others else (c :: piece) :: others

/-- The pieces between the occurrences of a mark. -/
def pieces (mark : Char) (cs : List Char) : List (List Char) := piecesBy (· == mark) cs

/-- There is always a piece. -/
theorem piecesBy_ne_nil (isMark : Char → Bool) (cs : List Char) : piecesBy isMark cs ≠ [] := by
  cases cs with
  | nil => simp [piecesBy]
  | cons c rest =>
    unfold piecesBy
    split
    · simp
    · split <;> simp

/-- The mark between the pieces gives the text again. -/
theorem intercalate_pieces (mark : Char) (cs : List Char) :
    [mark].intercalate (pieces mark cs) = cs := by
  unfold pieces
  induction cs with
  | nil => simp [piecesBy, List.intercalate]
  | cons c rest ih =>
    have hne := piecesBy_ne_nil (· == mark) rest
    unfold piecesBy
    revert ih hne
    cases piecesBy (· == mark) rest with
    | nil => intro _ hne; exact absurd rfl hne
    | cons piece others =>
      intro ih _
      by_cases hc : c = mark
      · simp [hc, List.intercalate] at ih ⊢
        exact ih
      · cases others <;> simp [hc, List.intercalate] at ih ⊢ <;> simp [ih]

end PageSketch.Text
