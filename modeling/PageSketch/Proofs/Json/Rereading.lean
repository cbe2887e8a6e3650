import PageSketch.Proofs.Json.Document
import PageSketch.Proofs.Json.Doubles

/-!
# Numbers and their texts

Every number is written as a numeral, but that numeral need not have the number as its value. The
text of a double has the digits from which rounding once to the nearest double gives the number back,
while numerals are read with more than one rounding. A value rereads as the value with every number
replaced by the one that its text is read as.
-/

namespace PageSketch.Json

/-! ## Numbers -/

/-- A numeral as a whole text. -/
theorem wholeNumber?_of_numeralText {text : List Char} {numeral : Numeral}
    (h : NumeralText text numeral) : wholeNumber? text = numeral.value? := by
  have hnil : EndsNumeral [] := by simp [EndsNumeral]
  obtain ⟨stop, hread⟩ := readNumeral_of_numeralText h hnil 0
  rw [List.append_nil] at hread
  rw [wholeNumber?, hread]

/-- A number is the whole of a text when the text is a numeral with that value. -/
theorem wholeNumber?_eq_some_iff {text : List Char} {n : Number} :
    wholeNumber? text = some n ↔ ∃ numeral, NumeralText text numeral ∧ numeral.value? = some n := by
  constructor
  · intro h
    rw [wholeNumber?] at h
    split at h
    · rename_i numeral stop hread
      obtain ⟨passed, htext, hsplit⟩ := numeralText_of_readNumeral hread
      rw [List.append_nil] at hsplit
      exact ⟨numeral, hsplit ▸ htext, h⟩
    · cases h
  · rintro ⟨numeral, htext, hvalue⟩
    rw [wholeNumber?_of_numeralText htext, hvalue]

/-- The number that the text of a number is read as. -/
def Number.reread? (n : Number) : Option Number := wholeNumber? n.text.toList

/-- Whether the text of a number is read as the number. -/
def Number.Rereads (n : Number) : Prop := n.reread? = some n

/-- Whether a number is whole. -/
def Number.IsInteger : Number → Prop
  | .integer _ _ _ => True
  | .float _ => False

/-- Whole numbers reread. -/
theorem Number.IsInteger.rereads {n : Number} (h : n.IsInteger) : n.Rereads := by
  cases n with
  | integer value lower upper =>
    show wholeNumber? (toString value).toList = _
    rw [wholeNumber?_of_numeralText (numeralText_ofInt value), value?_ofInt lower upper]
  | float value => cases h

/-! ## Values -/

namespace Value

mutual

/-- The value that the text of a value is read as, if all its numbers are in range. -/
def reread? : Value → Option Value
  | .null => some .null
  | .bool b => some (.bool b)
  | .number n => n.reread?.map .number
  | .string s => some (.string s)
  | .array items => (rereadItems? items).map .array
  | .object members => (rereadMembers? members).map .object

/-- `reread?` on every item. -/
def rereadItems? : List Value → Option (List Value)
  | [] => some []
  | item :: rest => (reread? item).bind fun v => (rereadItems? rest).map (v :: ·)

/-- `reread?` on the value of every member. -/
def rereadMembers? : List (String × Value) → Option (List (String × Value))
  | [] => some []
  | (key, value) :: rest =>
    (reread? value).bind fun v => (rereadMembers? rest).map ((key, v) :: ·)

end

mutual

/-- A value rereads as itself exactly when its numbers do. -/
theorem reread?_eq_self_iff (v : Value) : v.reread? = some v ↔ v.Numbers Number.Rereads := by
  match v with
  | .null | .bool _ | .string _ => simp [reread?, Numbers, Everywhere, IfNumber]
  | .number n => simp [reread?, Numbers, Everywhere, IfNumber, Number.Rereads]
  | .array items =>
    have hitems := rereadItems?_eq_self_iff items
    simp [reread?, Numbers, everywhere_array, IfNumber, hitems]
  | .object members =>
    have hmembers := rereadMembers?_eq_self_iff members
    simp [reread?, Numbers, everywhere_object, IfNumber, hmembers]

/-- Items reread as themselves exactly when their numbers do. -/
theorem rereadItems?_eq_self_iff (items : List Value) :
    rereadItems? items = some items ↔ ∀ item ∈ items, item.Numbers Number.Rereads := by
  match items with
  | [] => simp [rereadItems?]
  | item :: rest =>
    rw [rereadItems?, List.forall_mem_cons, ← reread?_eq_self_iff item,
      ← rereadItems?_eq_self_iff rest]
    simp [Option.bind_eq_some_iff]

/-- Members reread as themselves exactly when their numbers do. -/
theorem rereadMembers?_eq_self_iff (members : List (String × Value)) :
    rereadMembers? members = some members ↔
      ∀ member ∈ members, member.2.Numbers Number.Rereads := by
  match members with
  | [] => simp [rereadMembers?]
  | (key, value) :: rest =>
    rw [rereadMembers?, List.forall_mem_cons, ← reread?_eq_self_iff value,
      ← rereadMembers?_eq_self_iff rest]
    simp [Option.bind_eq_some_iff]

end

end Value

end PageSketch.Json
