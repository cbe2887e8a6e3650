import PageSketch.Proofs.Json.Completeness
import PageSketch.Proofs.Json.Value

/-!
# Whole texts

A text has a value exactly when it is a document of the grammar that is not nested too deeply and
whose numerals are all in range; and the value is that of the literal which the text spells.
-/

namespace PageSketch.Json

/-- A document has a value when its root has one and nothing stands behind it. -/
theorem Document.value_eq_ok_iff {document : Document} {v : Value} :
    document.value = .ok v ↔ document.root.value maxDepth = .ok v ∧ document.extra = none := by
  rw [Document.value, Document.extraFault?]
  cases document.root.value maxDepth with
  | error e => simp
  | ok w => cases document.extra <;> simp

/-- The document that has a value behind which some characters stand. -/
def Document.before (root : Tree) (stop : Nat) (rest : List Char) : Document :=
  match skipBlanks stop rest with
  | ⟨_, []⟩ => ⟨root, none⟩
  | ⟨offset, _ :: _⟩ => ⟨root, some (offset + 1)⟩

/-- Nothing stands behind the value when only blanks do. -/
theorem Document.extra_before_eq_none_iff {root : Tree} {stop : Nat} {rest : List Char} :
    (Document.before root stop rest).extra = none ↔ AreBlanks rest := by
  constructor
  · intro h
    obtain ⟨blanks, hblanks, hrest⟩ := exists_skipBlanks stop rest
    rcases hskip : skipBlanks stop rest with ⟨offset, left⟩
    rw [Document.before, hskip] at h
    cases left with
    | nil =>
      rw [hrest, hskip]
      simpa using hblanks
    | cons c cs => simp at h
  · intro h
    have hskip : skipBlanks stop rest = ⟨stop + rest.length, []⟩ := by
      simpa [skipBlanks] using skipBlanks_append h stop []
    rw [Document.before, hskip]

/-- The value of a document does not depend on what stands behind it. -/
@[simp] theorem Document.root_before (root : Tree) (stop : Nat) (rest : List Char) :
    (Document.before root stop rest).root = root := by
  rw [Document.before]
  split <;> rfl

/-- A value of the grammar is read from the beginning of a text. -/
theorem ElementText.read {text rest : List Char} {literal : Literal} (h : ElementText text literal)
    (hrest : EndsNumeral rest) : ∃ tree stop, tree.Spells literal ∧
      Document.read (text ++ rest) = .before tree stop rest := by
  have hfuel : 3 * text.length < 3 * (text ++ rest).length + 3 := by
    rw [List.length_append]
    omega
  obtain ⟨tree, stop, hread, hspells⟩ := h.readsValue hfuel hrest 0
  exact ⟨tree, stop, hspells, by rw [Document.read, hread]; rfl⟩

/-- A document of the grammar is read as a tree that is worth its literal, with nothing behind. -/
theorem DocumentText.read {text : List Char} {literal : Literal} (h : DocumentText text literal) :
    (Document.read text).root.Spells literal ∧ (Document.read text).extra = none := by
  obtain @⟨text, blanks, literal, elementText, areBlanks⟩ := h
  have hends : EndsNumeral blanks := by
    have hnil : EndsNumeral [] := by simp [EndsNumeral]
    simpa using hnil.append areBlanks
  obtain ⟨tree, stop, hspells, hread⟩ := elementText.read hends
  rw [hread, Document.root_before, Document.extra_before_eq_none_iff]
  exact ⟨hspells, areBlanks⟩

/-- Whether a text is a JSON document within the limits of the reader, and its value: the members
of an object are those of the text. -/
def SpellsValue (text : List Char) (v : Value) : Prop :=
  ∃ literal, DocumentText text literal ∧ literal.nesting < maxDepth ∧ literal.value? = some v

/-- A text whose tree has a value, with nothing behind it, is a document of the grammar. -/
theorem spellsValue_of_read {text : List Char} {v : Value}
    (h : (Document.read text).value = .ok v) : SpellsValue text v := by
  obtain ⟨hroot, hextra⟩ := Document.value_eq_ok_iff.mp h
  rw [Document.read] at hroot hextra
  rcases hread : readValue (3 * text.length + 3) ⟨0, text⟩ with ⟨tree, after⟩
  rw [hread] at hroot hextra
  cases after with
  | none =>
    -- A root with a value has a place behind it.
    obtain ⟨passed, literal, stop, rest, -, -, hafter, -⟩ := (soundAt _).value hread hroot
    simp at hafter
  | some behind =>
    have hblanks : AreBlanks behind.rest := Document.extra_before_eq_none_iff.mp hextra
    replace hroot : tree.value maxDepth = .ok v := by
      rwa [← Document.root_before tree behind.offset behind.rest]
    obtain ⟨passed, literal, stop, rest, helement, hplace, hafter, hnesting, hvalue⟩ :=
      (soundAt _).value hread hroot
    obtain rfl := Option.some.inj hafter
    have htext : text = passed ++ rest := hplace
    refine ⟨literal, ?_, ?_, hvalue⟩
    · rw [htext]
      exact .mk helement hblanks
    · rw [maxDepth] at hnesting ⊢
      omega

/-- A text is read to the value that it spells. -/
theorem read_value_eq_ok_iff {text : List Char} {v : Value} :
    (Document.read text).value = .ok v ↔ SpellsValue text v := by
  constructor
  · exact spellsValue_of_read
  · rintro ⟨literal, hdocument, hnesting, hvalue⟩
    obtain ⟨hspells, hextra⟩ := hdocument.read
    refine Document.value_eq_ok_iff.mpr ⟨(hspells _ _).mpr ⟨?_, hvalue⟩, hextra⟩
    omega

/-- A text spells one value at most. -/
theorem SpellsValue.unique {text : List Char} {v w : Value} (hv : SpellsValue text v)
    (hw : SpellsValue text w) : v = w := by
  have hread := read_value_eq_ok_iff.mpr hv
  rw [read_value_eq_ok_iff.mpr hw] at hread
  exact (Except.ok.inj hread).symm

/-- What a text spells is what its literal is worth. -/
theorem SpellsValue.value?_eq {text : List Char} {v : Value} {literal : Literal}
    (h : SpellsValue text v) (hdocument : DocumentText text literal) : literal.value? = some v := by
  obtain ⟨hroot, -⟩ := Document.value_eq_ok_iff.mp (read_value_eq_ok_iff.mpr h)
  exact ((hdocument.read.1 _ _).mp hroot).2

/-- A text is parsed to the value that it spells, with the keys of every object ascending. -/
theorem parse_eq_ok_iff {text : String} {v : Value} :
    parse text = .ok v ↔ ∃ w, SpellsValue text.toList w ∧ w.sorted = v := by
  rw [parse]
  constructor
  · intro h
    cases hread : (Document.read text.toList).value with
    | error e => simp [hread] at h
    | ok w =>
      rw [hread, Except.ok.injEq] at h
      exact ⟨w, spellsValue_of_read hread, h⟩
  · rintro ⟨w, hspells, rfl⟩
    rw [read_value_eq_ok_iff.mpr hspells]

/-! ## Nesting -/

mutual

/-- The value of a literal is nested as deeply as the literal. -/
theorem Literal.nesting_of_value? {v : Value} (literal : Literal) (h : literal.value? = some v) :
    v.nesting = literal.nesting := by
  match literal with
  | .null =>
    obtain rfl : Value.null = v := by simpa [Literal.value?] using h
    rfl
  | .bool b =>
    obtain rfl : Value.bool b = v := by simpa [Literal.value?] using h
    rfl
  | .string s =>
    obtain rfl : Value.string s = v := by simpa [Literal.value?] using h
    rfl
  | .number numeral =>
    rw [Literal.value?, Option.map_eq_some_iff] at h
    obtain ⟨n, -, rfl⟩ := h
    rfl
  | .array items =>
    rw [Literal.value?, Option.map_eq_some_iff] at h
    obtain ⟨vs, hvs, rfl⟩ := h
    rw [Value.nesting, Literal.nesting, Literal.itemNesting_of_itemValues? items hvs]
  | .object members =>
    rw [Literal.value?, Option.map_eq_some_iff] at h
    obtain ⟨vs, hvs, rfl⟩ := h
    rw [Value.nesting, Literal.nesting, Literal.memberNesting_of_memberValues? members hvs]

/-- The values of items are nested as deeply as the items. -/
theorem Literal.itemNesting_of_itemValues? {vs : List Value} (items : List Literal)
    (h : Literal.itemValues? items = some vs) :
    Value.itemNesting vs = Literal.itemNesting items := by
  match items with
  | [] =>
    obtain rfl : [] = vs := by simpa [Literal.itemValues?] using h
    rfl
  | item :: rest =>
    obtain ⟨v, hv, hmap⟩ := Option.bind_eq_some_iff.mp h
    obtain ⟨ws, hws, rfl⟩ := Option.map_eq_some_iff.mp hmap
    rw [Value.itemNesting, Literal.itemNesting, Literal.nesting_of_value? item hv,
      Literal.itemNesting_of_itemValues? rest hws]

/-- The values of members are nested as deeply as the members. -/
theorem Literal.memberNesting_of_memberValues? {vs : List (String × Value)}
    (members : List (String × Literal)) (h : Literal.memberValues? members = some vs) :
    Value.memberNesting vs = Literal.memberNesting members := by
  match members with
  | [] =>
    obtain rfl : [] = vs := by simpa [Literal.memberValues?] using h
    rfl
  | (key, value) :: rest =>
    obtain ⟨v, hv, hmap⟩ := Option.bind_eq_some_iff.mp h
    obtain ⟨ws, hws, rfl⟩ := Option.map_eq_some_iff.mp hmap
    rw [Value.memberNesting, Literal.memberNesting, Literal.nesting_of_value? value hv,
      Literal.memberNesting_of_memberValues? rest hws]

end

/-- The value that a text spells is nested within the depth of the reader. -/
theorem SpellsValue.nesting_lt {text : List Char} {v : Value} (h : SpellsValue text v) :
    v.nesting < maxDepth := by
  obtain ⟨literal, -, hnesting, hvalue⟩ := h
  rwa [Literal.nesting_of_value? literal hvalue]

end PageSketch.Json
