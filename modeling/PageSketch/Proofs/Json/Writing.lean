import PageSketch.Json.Writer
import PageSketch.Proofs.Json.Rereading

/-!
# What is written obeys the grammar

An outline whose atoms are texts of the grammar is written as a text of the grammar, on one line and
with one entry a line, and the literal is the same. Every value is such an outline, and its literal
is worth what the value rereads as.
-/

namespace PageSketch.Json

/-! ## Strings -/

/-- A character is written so that it is read as itself. -/
theorem StringText.escapeChar_append (c : Char) {text cs : List Char} (h : StringText text cs) :
    StringText (escapeChar c ++ text) (c :: cs) := by
  unfold escapeChar
  -- The short escapes, then control characters by their code, then characters as they stand.
  iterate 7
    split
    · rename_i hc
      subst hc
      exact .escape (by decide) h
  split
  · rename_i hcontrol
    have hzero : Text.hexValue? '0' = some 0 := by decide
    have hcode : hexCode? '0' '0' (Text.hexDigit (c.toNat / 16)) (Text.hexDigit c.toNat) =
        some c.toNat := by
      simp only [hexCode?, hzero, Text.hexValue?_hexDigit, Option.some.injEq]
      omega
    have high : isHighSurrogate c.toNat = false := by
      simp [isHighSurrogate]
      omega
    have low : isLowSurrogate c.toNat = false := by
      simp [isLowSurrogate]
      omega
    have hread := StringText.code hcode high low h
    rwa [Char.ofNat_toNat] at hread
  · rename_i quote backslash _ _ _ _ _ control
    exact .plain quote backslash (Nat.not_lt.mp control) h

/-- The characters of a string are written so that they are read as themselves. -/
theorem stringText_escape (cs : List Char) : StringText (cs.flatMap escapeChar) cs := by
  induction cs with
  | nil => exact .nil
  | cons c cs ih => exact ih.escapeChar_append c

/-- The characters of a written string. -/
theorem toList_writeString (text : String) :
    (writeString text).toList = '"' :: (text.toList.flatMap escapeChar ++ ['"']) := by
  simp [writeString]

/-- A string is written as it is read. -/
theorem valueText_writeString (text : String) :
    ValueText (writeString text).toList (.string text) := by
  have hvalue := ValueText.string (stringText_escape text.toList)
  rwa [← toList_writeString, String.ofList_toList] at hvalue

/-! ## Outlines -/

mutual

/-- Whether the atoms of an outline are texts of the grammar, and the literal that it stands for. -/
inductive Outline.Writes : Outline → Literal → Prop
  | atom {text : String} {literal : Literal} (valueText : ValueText text.toList literal) :
      Outline.Writes (.atom text) literal
  | list {items : List Outline} {literals : List Literal}
      (each : Outline.WritesItems items literals) : Outline.Writes (.list items) (.array literals)
  | record {entries : List (String × Outline)} {members : List (String × Literal)}
      (each : Outline.WritesEntries entries members) :
      Outline.Writes (.record entries) (.object members)

/-- The same for items. -/
inductive Outline.WritesItems : List Outline → List Literal → Prop
  | nil : Outline.WritesItems [] []
  | cons {item : Outline} {literal : Literal} {items : List Outline} {literals : List Literal}
      (first : Outline.Writes item literal) (rest : Outline.WritesItems items literals) :
      Outline.WritesItems (item :: items) (literal :: literals)

/-- The same for entries. -/
inductive Outline.WritesEntries : List (String × Outline) → List (String × Literal) → Prop
  | nil : Outline.WritesEntries [] []
  | cons {key : String} {value : Outline} {literal : Literal} {entries : List (String × Outline)}
      {members : List (String × Literal)} (first : Outline.Writes value literal)
      (rest : Outline.WritesEntries entries members) :
      Outline.WritesEntries ((key, value) :: entries) ((key, literal) :: members)

end

namespace Outline

/-- An element without blanks before it. -/
theorem elementText {text : List Char} {literal : Literal} (h : ValueText text literal) :
    ElementText text literal :=
  .mk areBlanks_nil h

/-- A member with blanks before its key and before its value. -/
theorem memberText (key : String) {blanks inner text : List Char} {literal : Literal}
    (hblanks : AreBlanks blanks) (hinner : AreBlanks inner) (h : ValueText text literal) :
    MemberText (blanks ++ ((writeString key).toList ++ ':' :: (inner ++ text))) (key, literal) := by
  have hmember :=
    MemberText.mk hblanks (stringText_escape key.toList) areBlanks_nil (.mk hinner h)
  rw [String.ofList_toList] at hmember
  rw [toList_writeString]
  simpa using hmember

/-- The items behind the first one, each behind a comma. -/
theorem toList_compactItems (item : Outline) (items : List Outline) :
    (compactItems (item :: items)).toList =
      item.compact.toList ++ items.flatMap fun other => ',' :: other.compact.toList := by
  induction items generalizing item with
  | nil => simp [compactItems]
  | cons other others ih => simp [compactItems, ih]

/-- The entries behind the first one, each behind a comma. -/
theorem toList_compactEntries (entry : String × Outline) (entries : List (String × Outline)) :
    (compactEntries (entry :: entries)).toList =
      (writeString entry.1).toList ++ ':' :: (entry.2.compact.toList ++
        entries.flatMap fun other =>
          ',' :: ((writeString other.1).toList ++ ':' :: other.2.compact.toList)) := by
  induction entries generalizing entry with
  | nil => simp [compactEntries]
  | cons other others ih =>
    obtain ⟨key, value⟩ := entry
    simp [compactEntries, ih]

mutual

/-- An outline on one line is a text of the grammar. -/
theorem Writes.compact {outline : Outline} {literal : Literal} (h : outline.Writes literal) :
    ValueText outline.compact.toList literal := by
  match h with
  | .atom valueText => exact valueText
  | .list .nil => exact .emptyArray areBlanks_nil
  | .list (.cons first rest) =>
    have htext := ValueText.array (elementText first.compact) rest.compact
    rw [Outline.compact]
    simpa [toList_compactItems] using htext
  | .record .nil => exact .emptyObject areBlanks_nil
  | .record (@WritesEntries.cons key _ _ _ _ first rest) =>
    have htext := ValueText.object (memberText key areBlanks_nil areBlanks_nil first.compact)
      rest.compact
    rw [Outline.compact]
    simpa [toList_compactEntries] using htext

/-- The items behind the first one on one line, and the bracket, are the rest of an array. -/
theorem WritesItems.compact {items : List Outline} {literals : List Literal}
    (h : WritesItems items literals) :
    ItemsText ((items.flatMap fun other => ',' :: other.compact.toList) ++ [']']) literals := by
  match h with
  | .nil => exact .close areBlanks_nil
  | .cons first rest =>
    have htext := ItemsText.item areBlanks_nil (elementText first.compact) rest.compact
    simpa using htext

/-- The entries behind the first one on one line, and the brace, are the rest of an object. -/
theorem WritesEntries.compact {entries : List (String × Outline)}
    {members : List (String × Literal)} (h : WritesEntries entries members) :
    MembersText ((entries.flatMap fun other =>
      ',' :: ((writeString other.1).toList ++ ':' :: other.2.compact.toList)) ++ ['\x7d'])
      members := by
  match h with
  | .nil => exact .close areBlanks_nil
  | @WritesEntries.cons key _ _ _ _ first rest =>
    have htext := MembersText.member areBlanks_nil
      (memberText key areBlanks_nil areBlanks_nil first.compact) rest.compact
    simpa using htext

end

/-- A space is a blank. -/
theorem areBlanks_space : AreBlanks [' '] := by
  simp [AreBlanks, isJsonBlank]

/-- A line break and its indentation are blanks. -/
theorem areBlanks_newLine (level : Nat) : AreBlanks (newLine level).toList := by
  intro c hc
  rw [newLine, String.toList_append, List.mem_append] at hc
  rcases hc with hc | hc
  · obtain rfl : c = '\n' := by simpa using hc
    decide
  · rw [String.toList_ofList] at hc
    obtain rfl := List.eq_of_mem_replicate hc
    decide

mutual

/-- An outline with one entry a line is a text of the grammar. -/
theorem Writes.pretty {outline : Outline} {literal : Literal} (h : outline.Writes literal)
    (level : Nat) : ValueText (outline.pretty level).toList literal := by
  match h with
  | .atom valueText => exact valueText
  | .list .nil => simpa [Outline.pretty] using ValueText.emptyArray areBlanks_nil
  | .list (.cons first rest) =>
    have htext := ValueText.array (.mk (areBlanks_newLine (level + 1)) (first.pretty (level + 1)))
      (rest.pretty (level + 1) (areBlanks_newLine level))
    rw [Outline.pretty]
    simpa using htext
  | .record .nil => simpa [Outline.pretty] using ValueText.emptyObject areBlanks_nil
  | .record (@WritesEntries.cons key _ _ _ _ first rest) =>
    have htext := ValueText.object
      (memberText key (areBlanks_newLine (level + 1)) areBlanks_space (first.pretty (level + 1)))
      (rest.pretty (level + 1) (areBlanks_newLine level))
    rw [Outline.pretty]
    simpa using htext

/-- The items behind the first one, each on its line, and the bracket are the rest of an array. -/
theorem WritesItems.pretty {items : List Outline} {literals : List Literal}
    (h : WritesItems items literals) (level : Nat) {blanks : List Char}
    (hblanks : AreBlanks blanks) :
    ItemsText ((prettyItems level items).toList ++ (blanks ++ [']'])) literals := by
  match h with
  | .nil => simpa [prettyItems] using ItemsText.close hblanks
  | .cons first rest =>
    have htext := ItemsText.item areBlanks_nil (.mk (areBlanks_newLine level) (first.pretty level))
      (rest.pretty level hblanks)
    simpa [prettyItems] using htext

/-- The entries behind the first one, each on its line, and the brace are the rest of an object. -/
theorem WritesEntries.pretty {entries : List (String × Outline)}
    {members : List (String × Literal)} (h : WritesEntries entries members) (level : Nat)
    {blanks : List Char} (hblanks : AreBlanks blanks) :
    MembersText ((prettyEntries level entries).toList ++ (blanks ++ ['\x7d'])) members := by
  match h with
  | .nil => simpa [prettyEntries] using MembersText.close hblanks
  | @WritesEntries.cons key _ _ _ _ first rest =>
    have htext := MembersText.member areBlanks_nil
      (memberText key (areBlanks_newLine level) areBlanks_space (first.pretty level))
      (rest.pretty level hblanks)
    simpa [prettyEntries] using htext

end

end Outline

/-! ## Values -/

namespace Value

mutual

/-- A value is written as a literal that is worth what the value rereads as. -/
theorem exists_writes (v : Value) :
    ∃ literal, v.outline.Writes literal ∧ literal.value? = v.reread? := by
  match v with
  | .null => exact ⟨.null, .atom .nullWord, rfl⟩
  | .bool true => exact ⟨.bool true, .atom .trueWord, rfl⟩
  | .bool false => exact ⟨.bool false, .atom .falseWord, rfl⟩
  | .number n =>
    obtain ⟨numeral, htext⟩ := n.exists_numeralText
    refine ⟨.number numeral, .atom (.number htext), ?_⟩
    rw [Literal.value?, reread?, Number.reread?, wholeNumber?_of_numeralText htext]
  | .string s => exact ⟨.string s, .atom (valueText_writeString s), rfl⟩
  | .array items =>
    obtain ⟨literals, hwrites, hvalues⟩ := exists_writesItems items
    exact ⟨.array literals, .list hwrites, by rw [Literal.value?, reread?, hvalues]⟩
  | .object members =>
    obtain ⟨literals, hwrites, hvalues⟩ := exists_writesMembers members
    exact ⟨.object literals, .record hwrites, by rw [Literal.value?, reread?, hvalues]⟩

/-- Items are written as literals that are worth what the items reread as. -/
theorem exists_writesItems (items : List Value) :
    ∃ literals, Outline.WritesItems (outlineItems items) literals ∧
      Literal.itemValues? literals = rereadItems? items := by
  match items with
  | [] => exact ⟨[], .nil, rfl⟩
  | item :: rest =>
    obtain ⟨literal, hwrites, hvalue⟩ := exists_writes item
    obtain ⟨literals, hrest, hvalues⟩ := exists_writesItems rest
    refine ⟨literal :: literals, .cons hwrites hrest, ?_⟩
    rw [Literal.itemValues?, rereadItems?, hvalue, hvalues]

/-- Members are written as literals that are worth what the members reread as. -/
theorem exists_writesMembers (members : List (String × Value)) :
    ∃ literals, Outline.WritesEntries (outlineMembers members) literals ∧
      Literal.memberValues? literals = rereadMembers? members := by
  match members with
  | [] => exact ⟨[], .nil, rfl⟩
  | (key, value) :: rest =>
    obtain ⟨literal, hwrites, hvalue⟩ := exists_writes value
    obtain ⟨literals, hrest, hvalues⟩ := exists_writesMembers rest
    refine ⟨(key, literal) :: literals, .cons hwrites hrest, ?_⟩
    rw [Literal.memberValues?, rereadMembers?, hvalue, hvalues]

end

/-- A text of the grammar spells what its literal is worth. -/
theorem spellsValue_iff_of_valueText {text : List Char} {literal : Literal}
    (htext : ValueText text literal) {v : Value} :
    SpellsValue text v ↔ v.nesting < maxDepth ∧ literal.value? = some v := by
  have hdocument : DocumentText text literal := by
    simpa using DocumentText.mk (.mk areBlanks_nil htext) areBlanks_nil
  constructor
  · intro h
    exact ⟨h.nesting_lt, h.value?_eq hdocument⟩
  · rintro ⟨hnesting, hvalue⟩
    rw [Literal.nesting_of_value? literal hvalue] at hnesting
    exact ⟨literal, hdocument, hnesting, hvalue⟩

/-- The text of a value on one line spells what the value rereads as, if that is not nested too
deeply. -/
theorem spellsValue_compact_iff {v w : Value} :
    SpellsValue v.compact.toList w ↔ w.nesting < maxDepth ∧ v.reread? = some w := by
  obtain ⟨literal, hwrites, hvalue⟩ := exists_writes v
  rw [← hvalue]
  exact spellsValue_iff_of_valueText hwrites.compact

/-- The text of a value with one entry a line spells the same. -/
theorem spellsValue_pretty_iff {v w : Value} :
    SpellsValue v.pretty.toList w ↔ w.nesting < maxDepth ∧ v.reread? = some w := by
  obtain ⟨literal, hwrites, hvalue⟩ := exists_writes v
  rw [← hvalue]
  exact spellsValue_iff_of_valueText (hwrites.pretty 0)

end Value

end PageSketch.Json
