import PageSketch.Markup.Element
import PageSketch.Proofs.Json.Doubles

/-!
# Attributes stand on one line

A line break inside an expression literal is written as an escape, and nothing that stands between
strings has one. So the attributes of a component stand on one line unless a key or a text that is
a prop itself has a line break.
-/

namespace PageSketch.Markup

open Json (Value)

/-! ## Literals -/

/-- Whether a character breaks a line of a script. -/
def IsBreak (c : Char) : Prop := c = '\n' ∨ c = '\r'

section

variable {b : Char}

/-- A line break does not stand for itself inside single quotes. -/
theorem break_not_mem_literalChar (hb : IsBreak b) (c : Char) : b ∉ literalChar c := by
  rcases hb with rfl | rfl <;>
  · unfold literalChar
    split
    · decide
    split
    · decide
    split
    · decide
    split
    · decide
    · rw [List.mem_singleton]
      exact Ne.symm ‹_›

/-- A text in single quotes is on one line. -/
theorem break_not_mem_quotedLiteral (hb : IsBreak b) (text : String) :
    b ∉ (quotedLiteral text).toList := by
  have hquote : b ≠ '\'' := by
    rcases hb with rfl | rfl <;> decide
  simp [quotedLiteral, hquote, break_not_mem_literalChar hb]

/-- No line break is in a name. -/
theorem break_not_mem_of_isName (hb : IsBreak b) {key : String} (h : isName key = true) :
    b ∉ key.toList := by
  have hplain : beginsName b = false ∧ continuesName b = false := by
    rcases hb with rfl | rfl <;> decide +kernel
  unfold isName at h
  intro hmem
  split at h
  · rename_i hnil
    exact absurd (hnil ▸ hmem) List.not_mem_nil
  · rename_i c rest hcons
    rw [Bool.and_eq_true, List.all_eq_true] at h
    rcases List.mem_cons.mp (hcons ▸ hmem) with rfl | hrest
    · exact Bool.false_ne_true (hplain.1.symm.trans h.1)
    · exact Bool.false_ne_true (hplain.2.symm.trans (h.2 _ hrest))

/-- A key of an object literal is on one line. -/
theorem break_not_mem_literalKey (hb : IsBreak b) (key : String) :
    b ∉ (literalKey key).toList := by
  unfold literalKey
  split
  · rename_i h
    exact break_not_mem_of_isName hb h
  · exact break_not_mem_quotedLiteral hb key

/-- The text of a number is on one line. -/
theorem break_not_mem_numberText (hb : IsBreak b) (n : Json.Number) : b ∉ n.text.toList := by
  obtain ⟨numeral, htext⟩ := n.exists_numeralText
  intro hmem
  have hnumeral := htext.isDigit_or_mem hmem
  rcases hb with rfl | rfl <;> exact absurd hnumeral (by decide)

mutual

/-- An expression literal is on one line. -/
theorem break_not_mem_literal (hb : IsBreak b) (v : Value) : b ∉ (literal v).toList := by
  have hwords : b ∉ "null".toList ∧ b ∉ "true".toList ∧ b ∉ "false".toList := by
    rcases hb with rfl | rfl <;> decide
  have hbrackets : b ≠ '[' ∧ b ≠ ']' ∧ b ≠ '\x7b' ∧ b ≠ '\x7d' ∧ b ≠ ' ' := by
    rcases hb with rfl | rfl <;> decide
  match v with
  | .null => rw [literal]; exact hwords.1
  | .bool true => rw [literal]; exact hwords.2.1
  | .bool false => rw [literal]; exact hwords.2.2
  | .number n =>
    rw [literal]
    exact break_not_mem_numberText hb n
  | .string text =>
    rw [literal]
    exact break_not_mem_quotedLiteral hb text
  | .array items =>
    rw [literal]
    simp [hbrackets, break_not_mem_literalItems hb items]
  | .object [] =>
    rw [literal]
    simp [hbrackets]
  | .object (member :: rest) =>
    rw [literal]
    simp [hbrackets, break_not_mem_literalMembers hb (member :: rest)]

/-- The items of an array literal are on one line. -/
theorem break_not_mem_literalItems (hb : IsBreak b) (items : List Value) :
    b ∉ (literalItems items).toList := by
  have hcomma : b ≠ ',' ∧ b ≠ ' ' := by
    rcases hb with rfl | rfl <;> decide
  match items with
  | [] => simp [literalItems]
  | [item] =>
    rw [literalItems]
    exact break_not_mem_literal hb item
  | item :: next :: rest =>
    rw [literalItems]
    · simp [hcomma, break_not_mem_literal hb item, break_not_mem_literalItems hb (next :: rest)]
    · simp

/-- The members of an object literal are on one line. -/
theorem break_not_mem_literalMembers (hb : IsBreak b) (members : List (String × Value)) :
    b ∉ (literalMembers members).toList := by
  have hmarks : b ≠ ':' ∧ b ≠ ',' ∧ b ≠ ' ' := by
    rcases hb with rfl | rfl <;> decide
  match members with
  | [] => simp [literalMembers]
  | [(key, value)] =>
    rw [literalMembers]
    simp [hmarks, break_not_mem_literalKey hb key, break_not_mem_literal hb value]
  | (key, value) :: next :: rest =>
    rw [literalMembers]
    · simp [hmarks, break_not_mem_literalKey hb key, break_not_mem_literal hb value,
        break_not_mem_literalMembers hb (next :: rest)]
    · simp

end

end

/-! ## Attributes -/

/-- Escaping a value for its quotes breaks no line. -/
theorem newline_not_mem_escapeAttribute {text : String} (h : '\n' ∉ text.toList) :
    '\n' ∉ (escapeAttribute text).toList := by
  simp only [escapeAttribute, String.toList_ofList, List.mem_flatMap, not_exists, not_and]
  intro c hc
  unfold attributeChar
  split
  · decide
  · rw [List.mem_singleton]
    rintro rfl
    exact h hc

/-- Whether a prop breaks no line. -/
def KeepsLine (key : String) (value : Value) : Prop :=
  '\n' ∉ key.toList ∧ ∀ text, value = .string text → '\n' ∉ text.toList

/-- The attribute of such a prop is on one line. -/
theorem newline_not_mem_attributeText {key : String} {value : Value} (h : KeepsLine key value) :
    '\n' ∉ (attributeText key value).toList := by
  obtain ⟨hkey, htext⟩ := h
  have hname : '\n' ∉ (attributeName key value).toList := by
    unfold attributeName
    split
    · exact hkey
    · simp [hkey]
  have hvalue : '\n' ∉ (attributeValue value).toList := by
    unfold attributeValue
    split
    · exact htext _ rfl
    · exact break_not_mem_literal (.inl rfl) value
  simp [attributeText, hname, newline_not_mem_escapeAttribute hvalue]

/-- One prop is one attribute. -/
theorem toList_attributesText_singleton (prop : String × Value) :
    (attributesText [prop]).toList = (attributeText prop.1 prop.2).toList := by
  rw [attributesText, String.toList_intercalate]
  exact List.intercalate_singleton

/-- A space stands between an attribute and those behind it. -/
theorem toList_attributesText_cons_cons (prop next : String × Value) (rest : Props) :
    (attributesText (prop :: next :: rest)).toList =
      (attributeText prop.1 prop.2).toList ++ ' ' :: (attributesText (next :: rest)).toList := by
  rw [attributesText, attributesText, String.toList_intercalate, String.toList_intercalate]
  simp only [List.map_cons, List.intercalate_cons_cons, List.append_assoc]
  rfl

/-- What holds of nothing, of the attribute of each prop and of parts with a space between them
holds of the attributes. -/
theorem attributesText_induction {P : List Char → Prop} {props : Props} (hnil : P [])
    (hone : ∀ prop ∈ props, P (attributeText prop.1 prop.2).toList)
    (hspace : ∀ cs cs', P cs → P cs' → P (cs ++ ' ' :: cs')) : P (attributesText props).toList := by
  match props with
  | [] => exact hnil
  | [prop] =>
    rw [toList_attributesText_singleton]
    exact hone prop List.mem_cons_self
  | prop :: next :: rest =>
    obtain ⟨hprop, hrest⟩ := List.forall_mem_cons.mp hone
    rw [toList_attributesText_cons_cons]
    exact hspace _ _ hprop (attributesText_induction hnil hrest hspace)

/-- Attributes of such props are on one line. -/
theorem newline_not_mem_attributesText {props : Props}
    (h : ∀ prop ∈ props, KeepsLine prop.1 prop.2) : '\n' ∉ (attributesText props).toList := by
  refine attributesText_induction (P := fun cs => '\n' ∉ cs) List.not_mem_nil ?_ ?_
  · exact fun prop hprop => newline_not_mem_attributeText (h prop hprop)
  · intro cs cs' hcs hcs'
    simp [hcs, hcs']

end PageSketch.Markup
