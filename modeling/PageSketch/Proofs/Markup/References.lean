import PageSketch.Proofs.Markup.Attributes
import PageSketch.Proofs.Markup.Expression
import PageSketch.Proofs.Text.Search

/-!
# Character references in attributes

A double quote in an attribute is written as a character reference, and whoever reads the attribute
puts the quote back. A value that has such a reference of its own is not told apart from one with a
quote in its place: a value is read back exactly if it has none, and props have the same attributes
exactly if their attributes have the same names and are read the same.
-/

namespace PageSketch

namespace Markup

open Json (Value)

/-- The reference that stands for a double quote. -/
def quoteReference : List Char := ['&', 'q', 'u', 'o', 't', ';']

/-- It is not empty. -/
theorem quoteReference_ne_nil : quoteReference ≠ [] := List.cons_ne_nil _ _

/-- Puts a double quote for each reference to one, from left to right. -/
def readReferences : List Char → List Char
  | '&' :: 'q' :: 'u' :: 'o' :: 't' :: ';' :: rest => '"' :: readReferences rest
  | c :: rest => c :: readReferences rest
  | [] => []

/-! ## Escaping and reading -/

/-- Escaped characters. -/
def escapeChars (cs : List Char) : List Char := cs.flatMap attributeChar

/-- A reference is read as a quote. -/
theorem readReferences_reference (rest : List Char) :
    readReferences (quoteReference ++ rest) = '"' :: readReferences rest := rfl

/-- A character at which no reference begins is read as itself. -/
theorem readReferences_cons {c : Char} {rest : List Char} (h : ¬quoteReference <+: c :: rest) :
    readReferences (c :: rest) = c :: readReferences rest := by
  rw [readReferences]
  rintro behind rfl rfl
  exact h ⟨behind, rfl⟩

/-- A reference has no quote, so it stays as it is. -/
theorem escapeChars_reference (rest : List Char) :
    escapeChars (quoteReference ++ rest) = quoteReference ++ escapeChars rest := by
  rw [escapeChars, List.flatMap_append]
  rfl

/-- A quote becomes a reference. -/
theorem escapeChars_quote (rest : List Char) :
    escapeChars ('"' :: rest) = quoteReference ++ escapeChars rest := rfl

/-- Any other character stays as it is. -/
theorem escapeChars_cons {c : Char} (h : c ≠ '"') (rest : List Char) :
    escapeChars (c :: rest) = c :: escapeChars rest := by
  rw [escapeChars, List.flatMap_cons, attributeChar, if_neg h]
  rfl

/-- Escaping adds nothing but what begins with `&`, so a mark without it at the beginning was there
before. -/
theorem isPrefix_of_escapeChars {mark cs : List Char} (hmark : '&' ∉ mark)
    (h : mark <+: escapeChars cs) : mark <+: cs := by
  induction mark generalizing cs with
  | nil => exact List.nil_prefix
  | cons m mark ih =>
    obtain ⟨hm, hrest⟩ := List.ne_and_not_mem_of_not_mem_cons hmark
    cases cs with
    | nil => exact h
    | cons c cs =>
      by_cases hc : c = '"'
      · rw [hc, escapeChars_quote] at h
        exact absurd (List.cons_prefix_cons.mp h).1 hm.symm
      · rw [escapeChars_cons hc, List.cons_prefix_cons] at h
        rw [List.cons_prefix_cons]
        exact ⟨h.1, ih hrest h.2⟩

/-- No reference begins at a character in the escaped text if none did before. -/
theorem not_isPrefix_escapeChars {c : Char} {rest : List Char}
    (h : ¬quoteReference <+: c :: rest) : ¬quoteReference <+: c :: escapeChars rest := by
  intro hbegins
  obtain ⟨hc, hbehind⟩ := List.cons_prefix_cons.mp hbegins
  have hplain : ['q', 'u', 'o', 't', ';'] <+: rest := isPrefix_of_escapeChars (by decide) hbehind
  exact h (List.cons_prefix_cons.mpr ⟨hc, hplain⟩)

/-- An escaped text is read like the text. -/
theorem readReferences_escapeChars (cs : List Char) :
    readReferences (escapeChars cs) = readReferences cs := by
  induction cs using Text.removal_induction quoteReference_ne_nil with
  | nil => rfl
  | dropped rest ih =>
    rw [escapeChars_reference, readReferences_reference, readReferences_reference, ih]
  | kept c rest h ih =>
    by_cases hc : c = '"'
    · -- The quote goes into a reference and comes out of it again.
      rw [readReferences_cons h, hc, escapeChars_quote, readReferences_reference, ih]
    · rw [escapeChars_cons hc, readReferences_cons (not_isPrefix_escapeChars h),
        readReferences_cons h, ih]

/-- Text that is read is escaped like the text before. -/
theorem escapeChars_readReferences (cs : List Char) :
    escapeChars (readReferences cs) = escapeChars cs := by
  induction cs using Text.removal_induction quoteReference_ne_nil with
  | nil => rfl
  | dropped rest ih =>
    rw [readReferences_reference, escapeChars_quote, escapeChars_reference, ih]
  | kept c rest h ih =>
    rw [readReferences_cons h, escapeChars, escapeChars, List.flatMap_cons, List.flatMap_cons]
    exact congrArg _ ih

/-- A text is read as itself exactly if it has no reference. -/
theorem readReferences_eq_self_iff (cs : List Char) :
    readReferences cs = cs ↔ Text.occursIn quoteReference cs = false := by
  induction cs using Text.removal_induction quoteReference_ne_nil with
  | nil => decide
  | dropped rest ih =>
    have hoccurs : Text.occursIn quoteReference (quoteReference ++ rest) = true :=
      Text.occursIn_iff.mpr (List.prefix_append quoteReference rest).isInfix
    rw [readReferences_reference, hoccurs]
    -- Reading puts a quote where the text has an ampersand.
    refine iff_of_false (fun hread => ?_) Bool.noConfusion
    exact absurd (List.cons.inj hread).1 (by decide)
  | kept c rest h ih =>
    have hbegins : quoteReference.isPrefixOf (c :: rest) = false := by
      rw [← Bool.not_eq_true, List.isPrefixOf_iff_prefix]
      exact h
    rw [readReferences_cons h, Text.occursIn, hbegins, Bool.false_or, ← ih]
    exact ⟨fun hread => (List.cons.inj hread).2, fun hread => by rw [hread]⟩

/-! ## Attributes -/

/-- An attribute as it is read: a quote for each reference in its value. -/
def Attribute.read (a : Attribute) : Attribute :=
  ⟨a.name, String.ofList (readReferences a.value.toList)⟩

/-- The attributes that a text has when it is read. -/
def readAttributes? (text : String) : Option (List Attribute) :=
  (scanAttributes? text).map (·.map Attribute.read)

/-- The characters of an escaped value. -/
theorem toList_escapeAttribute (text : String) :
    (escapeAttribute text).toList = escapeChars text.toList := by
  rw [escapeAttribute, String.toList_ofList, escapeChars]

/-- An escaped attribute is read like the attribute. -/
theorem Attribute.read_escaped (a : Attribute) : a.escaped.read = a.read := by
  rw [Attribute.read, Attribute.escaped, toList_escapeAttribute, readReferences_escapeChars]
  rfl

/-- An attribute that is read is escaped like the attribute before. -/
theorem Attribute.escaped_read (a : Attribute) : a.read.escaped = a.escaped := by
  simp only [Attribute.read, Attribute.escaped, escapeAttribute, String.toList_ofList]
  exact congrArg (fun cs => Attribute.mk a.name (String.ofList cs))
    (escapeChars_readReferences a.value.toList)

/-- An attribute is read as itself exactly if its value has no reference. -/
theorem Attribute.read_eq_self_iff (a : Attribute) :
    a.read = a ↔ Text.contains a.value "&quot;" = false := by
  rw [Text.contains, show "&quot;".toList = quoteReference by decide, ← readReferences_eq_self_iff]
  constructor
  · intro h
    have hvalue := congrArg (fun b => b.value.toList) h
    simpa [Attribute.read] using hvalue
  · intro h
    rw [Attribute.read, h, String.ofList_toList]

/-- Escaped attributes are read like the attributes. -/
theorem map_read_map_escaped (as : List Attribute) :
    (as.map Attribute.escaped).map Attribute.read = as.map Attribute.read := by
  rw [List.map_map]
  exact List.map_congr_left fun a _ => a.read_escaped

/-- Attributes that are read are escaped like the attributes before. -/
theorem map_escaped_map_read (as : List Attribute) :
    (as.map Attribute.read).map Attribute.escaped = as.map Attribute.escaped := by
  rw [List.map_map]
  exact List.map_congr_left fun a _ => a.escaped_read

/-- Attributes are read as themselves exactly if no value has a reference. -/
theorem map_read_eq_self_iff (as : List Attribute) :
    as.map Attribute.read = as ↔ ∀ a ∈ as, Text.contains a.value "&quot;" = false := by
  calc as.map Attribute.read = as
    _ ↔ as.map Attribute.read = as.map id := by rw [List.map_id]
    _ ↔ ∀ a ∈ as, a.read = id a := List.map_inj_left
    _ ↔ ∀ a ∈ as, Text.contains a.value "&quot;" = false :=
      forall₂_congr fun a _ => a.read_eq_self_iff

/-! ## Props -/

/-- Whether names of attributes tell keys apart: a key has no marks, and no colon at the beginning. -/
def PlainKey (key : String) : Prop := FreeOf ['"', '='] key ∧ key.toList.head? ≠ some ':'

instance (key : String) : Decidable (PlainKey key) := inferInstanceAs (Decidable (_ ∧ _))

/-- A value is a text, or stands in its attribute as an expression behind a colon. -/
theorem text_or_bound (value : Value) :
    (∃ text, value = .string text) ∨
      ∀ key, Attribute.ofProp key value = ⟨":" ++ key, literal value⟩ := by
  cases value with
  | string text => exact .inl ⟨text, rfl⟩
  | _ => exact .inr fun key => rfl

/-- A name behind a colon is no plain key. -/
theorem PlainKey.ne_bound {key : String} (h : PlainKey key) (other : String) :
    key ≠ ":" ++ other := by
  rintro rfl
  exact h.2 (by simp)

/-- The attribute of a prop says its key and its value. -/
theorem eq_of_ofProp_eq {key key' : String} {value value' : Value} (hkey : PlainKey key)
    (hkey' : PlainKey key') (h : Attribute.ofProp key value = Attribute.ofProp key' value') :
    key = key' ∧ value = value' := by
  rcases text_or_bound value with ⟨text, rfl⟩ | hbound
  · rcases text_or_bound value' with ⟨text', rfl⟩ | hbound'
    · obtain ⟨hname, htext⟩ := Attribute.mk.inj h
      exact ⟨hname, congrArg Value.string htext⟩
    · rw [hbound'] at h
      exact absurd (Attribute.mk.inj h).1 (hkey.ne_bound key')
  · rw [hbound] at h
    rcases text_or_bound value' with ⟨text', rfl⟩ | hbound'
    · exact absurd (Attribute.mk.inj h).1.symm (hkey'.ne_bound key)
    · rw [hbound'] at h
      obtain ⟨hname, hliteral⟩ := Attribute.mk.inj h
      exact ⟨String.append_right_inj ":" |>.mp hname, literal_injective hliteral⟩

/-- Props whose attributes say the same are the same. -/
theorem eq_of_ofProps_eq {props others : Props} (h : ∀ prop ∈ props, PlainKey prop.1)
    (h' : ∀ prop ∈ others, PlainKey prop.1)
    (hsame : Attribute.ofProps props = Attribute.ofProps others) : props = others := by
  induction props generalizing others with
  | nil => exact (List.map_eq_nil_iff.mp hsame.symm).symm
  | cons prop props ih =>
    cases others with
    | nil => exact absurd hsame (List.cons_ne_nil _ _)
    | cons other others =>
      obtain ⟨hprop, hprops⟩ := List.forall_mem_cons.mp h
      obtain ⟨hother, hothers⟩ := List.forall_mem_cons.mp h'
      obtain ⟨hhead, htail⟩ := List.cons.inj hsame
      obtain ⟨hkey, hvalue⟩ := eq_of_ofProp_eq hprop hother hhead
      rw [Prod.ext hkey hvalue, ih hprops hothers htail]

section

variable {props others : Props}

/-- Plain keys have no `=`. -/
theorem equals_not_mem_of_plainKey (h : ∀ prop ∈ props, PlainKey prop.1) :
    ∀ prop ∈ props, '=' ∉ prop.1.toList :=
  equals_not_mem_of_freeOf fun prop hprop => (h prop hprop).1

/-- The attributes of props with plain keys, read. -/
theorem readAttributes?_attributesText (h : ∀ prop ∈ props, PlainKey prop.1) :
    readAttributes? (attributesText props) =
      some ((Attribute.ofProps props).map Attribute.read) := by
  rw [readAttributes?, scanAttributes?_attributesText (equals_not_mem_of_plainKey h),
    Option.map_some, map_read_map_escaped]

/-- Such props have the same attributes exactly if these are read the same. -/
theorem attributesText_eq_iff (h : ∀ prop ∈ props, PlainKey prop.1)
    (h' : ∀ prop ∈ others, PlainKey prop.1) :
    attributesText props = attributesText others ↔
      (Attribute.ofProps props).map Attribute.read =
        (Attribute.ofProps others).map Attribute.read := by
  constructor
  · intro htext
    have hread := readAttributes?_attributesText h
    rw [htext, readAttributes?_attributesText h'] at hread
    exact (Option.some.inj hread).symm
  · intro hread
    rw [attributesText_eq, attributesText_eq, ← map_escaped_map_read (Attribute.ofProps props),
      hread, map_escaped_map_read]

/-- Attributes are read back exactly if no value has a reference of its own. Two lists of props have
the same attributes exactly if these are read the same; so they are the same props where no value has
a reference. -/
theorem attributes_read_back_iff (h : ∀ prop ∈ props, PlainKey prop.1)
    (h' : ∀ prop ∈ others, PlainKey prop.1) :
    (readAttributes? (attributesText props) = some (Attribute.ofProps props) ↔
        ∀ a ∈ Attribute.ofProps props, Text.contains a.value "&quot;" = false) ∧
      (attributesText props = attributesText others ↔
        (Attribute.ofProps props).map Attribute.read =
          (Attribute.ofProps others).map Attribute.read) ∧
      ((∀ a ∈ Attribute.ofProps props, Text.contains a.value "&quot;" = false) →
        (∀ a ∈ Attribute.ofProps others, Text.contains a.value "&quot;" = false) →
          (attributesText props = attributesText others ↔ props = others)) := by
  refine ⟨?_, attributesText_eq_iff h h', fun hplain hplain' => ?_⟩
  · rw [readAttributes?_attributesText h, Option.some_inj]
    exact map_read_eq_self_iff (Attribute.ofProps props)
  · constructor
    · intro htext
      have hread := (attributesText_eq_iff h h').mp htext
      rw [(map_read_eq_self_iff _).mpr hplain, (map_read_eq_self_iff _).mpr hplain'] at hread
      exact eq_of_ofProps_eq h h' hread
    · intro hsame
      rw [hsame]

end

/-- Props with quotes and ampersands, in a text and in a nested one. -/
def quotedProps (text : String) : Props := [("a", .string "\"&amp;\""), ("b", .array [.string text])]

/-- They are read back, and another nested text gives other attributes. -/
theorem attributes_read_back_iff_quoted :
    (∀ prop ∈ quotedProps "\"", PlainKey prop.1) ∧
      readAttributes? (attributesText (quotedProps "\"")) =
        some [⟨"a", "\"&amp;\""⟩, ⟨":b", "['\"']"⟩] ∧
      attributesText (quotedProps "\"") ≠ attributesText (quotedProps "&quot") := by
  have hkeys : ∀ text, ∀ prop ∈ quotedProps text, PlainKey prop.1 := by
    intro text
    refine List.forall_mem_cons.mpr ⟨?_, List.forall_mem_singleton.mpr ?_⟩
    · exact (by decide : PlainKey "a")
    · exact (by decide : PlainKey "b")
  obtain ⟨hread, -, hsame⟩ := attributes_read_back_iff (hkeys "\"") (hkeys "&quot")
  have hplain : ∀ a ∈ Attribute.ofProps (quotedProps "\""), Text.contains a.value "&quot;" = false := by
    decide +kernel
  have hplain' : ∀ a ∈ Attribute.ofProps (quotedProps "&quot"),
      Text.contains a.value "&quot;" = false := by
    decide +kernel
  refine ⟨hkeys "\"", (hread.mpr hplain).trans (by decide +kernel), fun htext => ?_⟩
  have hprops := (hsame hplain hplain').mp htext
  simp [quotedProps] at hprops

/-- A text that has a reference is read as the text with the quote, and both have the same
attribute. -/
theorem reference_read_as_quote :
    PlainKey "a" ∧
      readAttributes? (attributesText [("a", .string "&quot;")]) = some [⟨"a", "\""⟩] ∧
      readAttributes? (attributesText [("a", .string "&quot;")]) ≠
        some (Attribute.ofProps [("a", .string "&quot;")]) ∧
      attributesText [("a", .string "&quot;")] = attributesText [("a", .string "\"")] ∧
      ([("a", .string "&quot;")] : Props) ≠ [("a", .string "\"")] := by
  refine ⟨by decide, by decide +kernel, by decide +kernel, by decide +kernel, ?_⟩
  simp

end Markup

end PageSketch
