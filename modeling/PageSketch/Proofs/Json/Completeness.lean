import PageSketch.Proofs.Json.Soundness
import PageSketch.Proofs.Text.Blank

/-!
# What obeys the grammar is read

On a text of the grammar the readers end behind it, whatever stands there, as long as it does not
continue a numeral; and the tree that they build has a value exactly when the literal has one and
the reader may go as deep as the literal is nested. Three units of fuel for each character suffice.
-/

namespace PageSketch.Json

/-- Whether a tree is worth what a literal is, for readers of every depth. -/
def Tree.Spells (tree : Tree) (literal : Literal) : Prop :=
  ∀ depth v, tree.value depth = .ok v ↔ literal.nesting ≤ depth - 1 ∧ literal.value? = some v

/-- Whether items are worth what literals are. -/
def Items.Spell (items : Items) (literals : List Literal) : Prop :=
  ∀ depth vs, items.values depth = .ok vs ↔
    Literal.itemNesting literals ≤ depth - 1 ∧ Literal.itemValues? literals = some vs

/-- Whether members are worth what literals under keys are. -/
def Members.Spell (members : Members) (literals : List (String × Literal)) : Prop :=
  ∀ depth vs, members.values depth = .ok vs ↔
    Literal.memberNesting literals ≤ depth - 1 ∧ Literal.memberValues? literals = some vs

/-! ## What trees are worth -/

/-- An array is worth what its items are. -/
theorem Items.Spell.array {items : Items} {literals : List Literal} (h : items.Spell literals)
    (start : Nat) : (Tree.array start items).Spells (.array literals) := by
  intro depth v
  rw [Tree.value_array_eq_ok_iff, Literal.nesting, Literal.value?, Option.map_eq_some_iff]
  constructor
  · rintro ⟨hdepth, vs, hvs, rfl⟩
    obtain ⟨hnesting, hvalues⟩ := (h _ _).mp hvs
    exact ⟨by omega, vs, hvalues, rfl⟩
  · rintro ⟨hnesting, vs, hvalues, rfl⟩
    exact ⟨by omega, vs, (h _ _).mpr ⟨by omega, hvalues⟩, rfl⟩

/-- An object is worth what its members are. -/
theorem Members.Spell.object {members : Members} {literals : List (String × Literal)}
    (h : members.Spell literals) (start : Nat) :
    (Tree.object start members).Spells (.object literals) := by
  intro depth v
  rw [Tree.value_object_eq_ok_iff, Literal.nesting, Literal.value?, Option.map_eq_some_iff]
  constructor
  · rintro ⟨hdepth, vs, hvs, rfl⟩
    obtain ⟨hnesting, hvalues⟩ := (h _ _).mp hvs
    exact ⟨by omega, vs, hvalues, rfl⟩
  · rintro ⟨hnesting, vs, hvalues, rfl⟩
    exact ⟨by omega, vs, (h _ _).mpr ⟨by omega, hvalues⟩, rfl⟩

/-- No items are worth nothing. -/
theorem Items.spell_closed (stop : Nat) : (Items.closed stop).Spell [] := by
  intro depth vs
  simp [Items.values, Literal.itemNesting, Literal.itemValues?]

/-- No members are worth nothing. -/
theorem Members.spell_closed (stop : Nat) : (Members.closed stop).Spell [] := by
  intro depth vs
  simp [Members.values, Literal.memberNesting, Literal.memberValues?]

/-- Items are worth what the first one and the rest are. -/
theorem Tree.Spells.item {tree : Tree} {items : Items} {literal : Literal}
    {literals : List Literal} (hfirst : tree.Spells literal) (hrest : items.Spell literals) :
    (Items.item tree items).Spell (literal :: literals) := by
  intro depth vs
  rw [Items.values_item_eq_ok_iff, Literal.itemNesting, Literal.itemValues?]
  constructor
  · rintro ⟨v, ws, hv, hws, rfl⟩
    obtain ⟨hnesting, hvalue⟩ := (hfirst _ _).mp hv
    obtain ⟨hnesting', hvalues⟩ := (hrest _ _).mp hws
    exact ⟨by omega, by simp [hvalue, hvalues]⟩
  · rintro ⟨hnesting, hvalues⟩
    obtain ⟨v, hvalue, hmap⟩ := Option.bind_eq_some_iff.mp hvalues
    obtain ⟨ws, hws, rfl⟩ := Option.map_eq_some_iff.mp hmap
    exact ⟨v, ws, (hfirst _ _).mpr ⟨by omega, hvalue⟩, (hrest _ _).mpr ⟨by omega, hws⟩, rfl⟩

/-- Members are worth what the first one and the rest are. -/
theorem Tree.Spells.member {key : StringToken} {tree : Tree} {members : Members} {k : String}
    {literal : Literal} {literals : List (String × Literal)} (hkey : key.text = .ok k)
    (hfirst : tree.Spells literal) (hrest : members.Spell literals) :
    (Members.member key tree members).Spell ((k, literal) :: literals) := by
  intro depth vs
  rw [Members.values_member_eq_ok_iff, Literal.memberNesting, Literal.memberValues?]
  constructor
  · rintro ⟨k', v, ws, hk, hv, hws, rfl⟩
    obtain rfl : k = k' := Except.ok.inj (hkey.symm.trans hk)
    obtain ⟨hnesting, hvalue⟩ := (hfirst _ _).mp hv
    obtain ⟨hnesting', hvalues⟩ := (hrest _ _).mp hws
    exact ⟨by omega, by simp [hvalue, hvalues]⟩
  · rintro ⟨hnesting, hvalues⟩
    obtain ⟨v, hvalue, hmap⟩ := Option.bind_eq_some_iff.mp hvalues
    obtain ⟨ws, hws, rfl⟩ := Option.map_eq_some_iff.mp hmap
    exact ⟨k, v, ws, hkey, (hfirst _ _).mpr ⟨by omega, hvalue⟩,
      (hrest _ _).mpr ⟨by omega, hws⟩, rfl⟩

/-! ## Beginnings of texts -/

/-- Blanks do not continue a numeral. -/
theorem EndsNumeral.append {blanks rest : List Char} (hrest : EndsNumeral rest)
    (hblanks : AreBlanks blanks) : EndsNumeral (blanks ++ rest) :=
  Text.endsNumeral_append (fun c hc => Text.isBlank_of_isJsonBlank (hblanks c hc)) hrest

/-- The rest of an array does not continue a numeral. -/
theorem ItemsText.endsNumeral {text : List Char} {literals : List Literal}
    (h : ItemsText text literals) (rest : List Char) : EndsNumeral (text ++ rest) := by
  cases h with
  | close areBlanks =>
    rw [List.append_assoc]
    refine EndsNumeral.append ?_ areBlanks
    simp [EndsNumeral, isDigit]
  | item areBlanks itemText itemsText =>
    rw [List.append_assoc]
    refine EndsNumeral.append ?_ areBlanks
    simp [EndsNumeral, isDigit]

/-- The rest of an object does not continue a numeral. -/
theorem MembersText.endsNumeral {text : List Char} {literals : List (String × Literal)}
    (h : MembersText text literals) (rest : List Char) : EndsNumeral (text ++ rest) := by
  cases h with
  | close areBlanks =>
    rw [List.append_assoc]
    refine EndsNumeral.append ?_ areBlanks
    simp [EndsNumeral, isDigit]
  | member areBlanks memberText membersText =>
    rw [List.append_assoc]
    refine EndsNumeral.append ?_ areBlanks
    simp [EndsNumeral, isDigit]

/-- A numeral begins with its sign or with a digit. -/
theorem NumeralText.exists_cons {text : List Char} {numeral : Numeral}
    (h : NumeralText text numeral) : ∃ c cs, text = c :: cs ∧ (c = '-' ∨ isDigit c = true) := by
  obtain @⟨negative, whole, fraction, digits, exponent, power, wholeText, -, -⟩ := h
  cases negative with
  | true => exact ⟨'-', _, rfl, .inl rfl⟩
  | false =>
    obtain ⟨d, ds, rfl, hdigit⟩ := wholeText.exists_cons
    exact ⟨d, _, rfl, .inr hdigit⟩

/-- A value begins with a character that is no blank and closes nothing. -/
theorem ValueText.exists_cons {text : List Char} {literal : Literal} (h : ValueText text literal) :
    ∃ c cs, text = c :: cs ∧ isJsonBlank c = false ∧ c ≠ ']' := by
  cases h with
  | number numeralText =>
    obtain ⟨c, cs, rfl, hc⟩ := numeralText.exists_cons
    refine ⟨c, cs, rfl, ?_⟩
    rcases hc with rfl | hdigit
    · decide
    · have hne : ∀ d, isDigit d = false → c ≠ d := fun d hd => ne_of_isDigit hdigit hd
      simp [isJsonBlank, hne ' ' (by decide), hne '\n' (by decide), hne '\t' (by decide),
        hne '\r' (by decide), hne ']' (by decide)]
  | _ => exact ⟨_, _, rfl, by decide, by decide⟩

/-! ## Readers that end well -/

/-- Whether a value is read from some characters up to the rest of them. -/
def ReadsValue (fuel : Nat) (cs rest : List Char) (literal : Literal) : Prop :=
  ∀ offset, ∃ tree stop, readValue fuel ⟨offset, cs⟩ = (tree, some ⟨stop, rest⟩) ∧
    tree.Spells literal

/-- Whether an item and those behind it are read. -/
def ReadsItem (fuel : Nat) (cs rest : List Char) (literals : List Literal) : Prop :=
  ∀ offset, ∃ items stop, readItem fuel ⟨offset, cs⟩ = (items, some ⟨stop, rest⟩) ∧
    items.Spell literals

/-- Whether the items behind one are read. -/
def ReadsItems (fuel : Nat) (cs rest : List Char) (literals : List Literal) : Prop :=
  ∀ offset, ∃ items stop, readItems fuel false ⟨offset, cs⟩ = (items, some ⟨stop, rest⟩) ∧
    items.Spell literals

/-- Whether a member and those behind it are read from behind the first quote. -/
def ReadsMember (fuel : Nat) (cs rest : List Char) (literals : List (String × Literal)) : Prop :=
  ∀ offset, ∃ members stop, readMember fuel ⟨offset, cs⟩ = (members, some ⟨stop, rest⟩) ∧
    members.Spell literals

/-- Whether the members behind one are read. -/
def ReadsMembers (fuel : Nat) (cs rest : List Char) (literals : List (String × Literal)) : Prop :=
  ∀ offset, ∃ members stop, readMembers fuel false ⟨offset, cs⟩ =
    (members, some ⟨stop, rest⟩) ∧ members.Spell literals

variable {fuel : Nat} {blanks cs behind rest : List Char}

/-- Blanks before a value are passed over. -/
theorem ReadsValue.append {literal : Literal} (h : ReadsValue (fuel + 1) cs rest literal)
    (hblanks : AreBlanks blanks) : ReadsValue (fuel + 1) (blanks ++ cs) rest literal := by
  intro offset
  obtain ⟨tree, stop, hread, hspells⟩ := h (offset + blanks.length)
  refine ⟨tree, stop, ?_, hspells⟩
  rw [readValue] at hread ⊢
  simpa only [skipBlanks_append hblanks] using hread

/-- An item is read, and then those behind it. -/
theorem ReadsValue.item {literal : Literal} {literals : List Literal}
    (hvalue : ReadsValue fuel cs behind literal) (hitems : ReadsItems fuel behind rest literals) :
    ReadsItem (fuel + 1) cs rest (literal :: literals) := by
  intro offset
  obtain ⟨tree, stop, hread, hspells⟩ := hvalue offset
  obtain ⟨items, stop', hread', hspell⟩ := hitems stop
  exact ⟨.item tree items, stop', by simp [readItem, hread, hread'], hspells.item hspell⟩

/-- An array is read that closes at once. -/
theorem readsValue_emptyArray (hblanks : AreBlanks blanks) :
    ReadsValue (fuel + 2) ('[' :: (blanks ++ ']' :: rest)) rest (.array []) := by
  intro offset
  have hskip : skipBlanks (offset + 1) (blanks ++ ']' :: rest) =
      ⟨offset + 1 + blanks.length, ']' :: rest⟩ := by
    rw [skipBlanks_append hblanks, skipBlanks_cons (by decide)]
  refine ⟨.array offset (.closed (offset + 1 + blanks.length + 1)), offset + 1 + blanks.length + 1,
    ?_, (Items.spell_closed _).array offset⟩
  simp [readValue, readItems, skipBlanks_cons (show isJsonBlank '[' = false by decide), hskip]

/-- An array is read from its first item on. -/
theorem ReadsItem.array {c : Char} {literals : List Literal}
    (h : ReadsItem fuel (c :: cs) rest literals) (hblanks : AreBlanks blanks)
    (hc : isJsonBlank c = false) (hclose : c ≠ ']') :
    ReadsValue (fuel + 2) ('[' :: (blanks ++ c :: cs)) rest (.array literals) := by
  intro offset
  have hskip : skipBlanks (offset + 1) (blanks ++ c :: cs) =
      ⟨offset + 1 + blanks.length, c :: cs⟩ := by
    rw [skipBlanks_append hblanks, skipBlanks_cons hc]
  obtain ⟨items, stop, hread, hspell⟩ := h (offset + 1 + blanks.length)
  refine ⟨.array offset items, stop, ?_, hspell.array offset⟩
  simp [readValue, readItems, skipBlanks_cons (show isJsonBlank '[' = false by decide), hskip,
    hclose, hread]

/-- The items behind one are read when the bracket follows. -/
theorem readsItems_close (hblanks : AreBlanks blanks) :
    ReadsItems (fuel + 1) (blanks ++ ']' :: rest) rest [] := by
  intro offset
  have hskip : skipBlanks offset (blanks ++ ']' :: rest) =
      ⟨offset + blanks.length, ']' :: rest⟩ := by
    rw [skipBlanks_append hblanks, skipBlanks_cons (by decide)]
  exact ⟨.closed (offset + blanks.length + 1), offset + blanks.length + 1,
    by simp [readItems, hskip], Items.spell_closed _⟩

/-- The items behind one are read when a comma and an item follow. -/
theorem ReadsItem.comma {c : Char} {inner : List Char} {literals : List Literal}
    (h : ReadsItem fuel (c :: cs) rest literals) (hblanks : AreBlanks blanks)
    (hinner : AreBlanks inner) (hc : isJsonBlank c = false) (hclose : c ≠ ']') :
    ReadsItems (fuel + 1) (blanks ++ ',' :: (inner ++ c :: cs)) rest literals := by
  intro offset
  have hskip : skipBlanks offset (blanks ++ ',' :: (inner ++ c :: cs)) =
      ⟨offset + blanks.length, ',' :: (inner ++ c :: cs)⟩ := by
    rw [skipBlanks_append hblanks, skipBlanks_cons (by decide)]
  have hskip' : skipBlanks (offset + blanks.length + 1) (inner ++ c :: cs) =
      ⟨offset + blanks.length + 1 + inner.length, c :: cs⟩ := by
    rw [skipBlanks_append hinner, skipBlanks_cons hc]
  obtain ⟨items, stop, hread, hspell⟩ := h (offset + blanks.length + 1 + inner.length)
  exact ⟨items, stop, by simp [readItems, hskip, hskip', hclose, hread], hspell⟩

/-- A member is read from behind its first quote, and then those behind it. -/
theorem ReadsValue.member {key colon cs' : List Char} {literal : Literal}
    {literals : List (String × Literal)} (hkey : StringText key cs')
    (hvalue : ReadsValue fuel cs behind literal) (hcolon : AreBlanks colon)
    (hmembers : ReadsMembers fuel behind rest literals) :
    ReadsMember (fuel + 1) (key ++ '"' :: (colon ++ ':' :: cs)) rest
      ((String.ofList cs', literal) :: literals) := by
  intro offset
  obtain ⟨units, atColon, hread, hunits⟩ :=
    readString_of_stringText hkey offset (colon ++ ':' :: cs)
  have htext : StringToken.text ⟨units, .closed atColon⟩ = .ok (String.ofList cs') := by
    simp [StringToken.text, hunits]
  have hskip : skipBlanks atColon (colon ++ ':' :: cs) = ⟨atColon + colon.length, ':' :: cs⟩ := by
    rw [skipBlanks_append hcolon, skipBlanks_cons (by decide)]
  obtain ⟨tree, atMembers, hread', hspells⟩ := hvalue (atColon + colon.length + 1)
  obtain ⟨members, stop, hread'', hspell⟩ := hmembers atMembers
  refine ⟨.member ⟨units, .closed atColon⟩ tree members, stop, ?_, hspells.member htext hspell⟩
  simp [readMember, hread, StringToken.behind, hskip, hread', hread'']

/-- An object is read that closes at once. -/
theorem readsValue_emptyObject (hblanks : AreBlanks blanks) :
    ReadsValue (fuel + 2) ('\x7b' :: (blanks ++ '\x7d' :: rest)) rest (.object []) := by
  intro offset
  have hskip : skipBlanks (offset + 1) (blanks ++ '\x7d' :: rest) =
      ⟨offset + 1 + blanks.length, '\x7d' :: rest⟩ := by
    rw [skipBlanks_append hblanks, skipBlanks_cons (by decide)]
  refine ⟨.object offset (.closed (offset + 1 + blanks.length + 1)),
    offset + 1 + blanks.length + 1, ?_, (Members.spell_closed _).object offset⟩
  simp [readValue, readMembers, skipBlanks_cons (show isJsonBlank '\x7b' = false by decide), hskip]

/-- An object is read from its first member on. -/
theorem ReadsMember.object {literals : List (String × Literal)}
    (h : ReadsMember fuel cs rest literals) (hblanks : AreBlanks blanks) :
    ReadsValue (fuel + 2) ('\x7b' :: (blanks ++ '"' :: cs)) rest (.object literals) := by
  intro offset
  have hskip : skipBlanks (offset + 1) (blanks ++ '"' :: cs) =
      ⟨offset + 1 + blanks.length, '"' :: cs⟩ := by
    rw [skipBlanks_append hblanks, skipBlanks_cons (by decide)]
  obtain ⟨members, stop, hread, hspell⟩ := h (offset + 1 + blanks.length + 1)
  refine ⟨.object offset members, stop, ?_, hspell.object offset⟩
  simp [readValue, readMembers, skipBlanks_cons (show isJsonBlank '\x7b' = false by decide), hskip,
    hread]

/-- The members behind one are read when the brace follows. -/
theorem readsMembers_close (hblanks : AreBlanks blanks) :
    ReadsMembers (fuel + 1) (blanks ++ '\x7d' :: rest) rest [] := by
  intro offset
  have hskip : skipBlanks offset (blanks ++ '\x7d' :: rest) =
      ⟨offset + blanks.length, '\x7d' :: rest⟩ := by
    rw [skipBlanks_append hblanks, skipBlanks_cons (by decide)]
  exact ⟨.closed (offset + blanks.length + 1), offset + blanks.length + 1,
    by simp [readMembers, hskip], Members.spell_closed _⟩

/-- The members behind one are read when a comma and a member follow. -/
theorem ReadsMember.comma {inner : List Char} {literals : List (String × Literal)}
    (h : ReadsMember fuel cs rest literals) (hblanks : AreBlanks blanks)
    (hinner : AreBlanks inner) :
    ReadsMembers (fuel + 1) (blanks ++ ',' :: (inner ++ '"' :: cs)) rest literals := by
  intro offset
  have hskip : skipBlanks offset (blanks ++ ',' :: (inner ++ '"' :: cs)) =
      ⟨offset + blanks.length, ',' :: (inner ++ '"' :: cs)⟩ := by
    rw [skipBlanks_append hblanks, skipBlanks_cons (by decide)]
  have hskip' : skipBlanks (offset + blanks.length + 1) (inner ++ '"' :: cs) =
      ⟨offset + blanks.length + 1 + inner.length, '"' :: cs⟩ := by
    rw [skipBlanks_append hinner, skipBlanks_cons (by decide)]
  obtain ⟨members, stop, hread, hspell⟩ := h (offset + blanks.length + 1 + inner.length + 1)
  exact ⟨members, stop, by simp [readMembers, hskip, hskip', hread], hspell⟩

/-! ## Scalars are read -/

/-- A word is read. -/
theorem readsValue_word {c : Char} {word : List Char} {tree : Nat → Tree} {literal : Literal}
    (hread : ∀ offset, readValue (fuel + 1) ⟨offset, c :: (word ++ rest)⟩ =
      wordTree tree (readWord (offset + 1) word (word ++ rest)))
    (hspells : ∀ stop, (tree stop).Spells literal) :
    ReadsValue (fuel + 1) (c :: (word ++ rest)) rest literal := by
  intro offset
  have hword : readWord (offset + 1) word (word ++ rest) = .ok ⟨offset + 1 + word.length, rest⟩ :=
    readWord_eq_ok_iff.mpr ⟨rfl, rfl⟩
  exact ⟨tree (offset + 1 + word.length), offset + 1 + word.length,
    by rw [hread, hword, wordTree], hspells _⟩

/-- The word for null is read. -/
theorem readsValue_null : ReadsValue (fuel + 1) (['n', 'u', 'l', 'l'] ++ rest) rest .null := by
  refine @readsValue_word fuel rest 'n' ['u', 'l', 'l'] .null .null ?_ ?_
  · intro offset
    simp [readValue, skipBlanks_cons (show isJsonBlank 'n' = false by decide)]
  · intro stop depth v
    simp [Tree.value, Literal.nesting, Literal.value?]

/-- The word for truth is read. -/
theorem readsValue_true :
    ReadsValue (fuel + 1) (['t', 'r', 'u', 'e'] ++ rest) rest (.bool true) := by
  refine @readsValue_word fuel rest 't' ['r', 'u', 'e'] (.bool true) (.bool true) ?_ ?_
  · intro offset
    simp [readValue, skipBlanks_cons (show isJsonBlank 't' = false by decide)]
  · intro stop depth v
    simp [Tree.value, Literal.nesting, Literal.value?]

/-- The word for falsehood is read. -/
theorem readsValue_false :
    ReadsValue (fuel + 1) (['f', 'a', 'l', 's', 'e'] ++ rest) rest (.bool false) := by
  refine @readsValue_word fuel rest 'f' ['a', 'l', 's', 'e'] (.bool false) (.bool false) ?_ ?_
  · intro offset
    simp [readValue, skipBlanks_cons (show isJsonBlank 'f' = false by decide)]
  · intro stop depth v
    simp [Tree.value, Literal.nesting, Literal.value?]

/-- A numeral is read when nothing behind it continues it. -/
theorem NumeralText.readsValue {text : List Char} {numeral : Numeral}
    (h : NumeralText text numeral) (hrest : EndsNumeral rest) :
    ReadsValue (fuel + 1) (text ++ rest) rest (.number numeral) := by
  intro offset
  obtain ⟨stop, hread⟩ := readNumeral_of_numeralText h hrest offset
  obtain ⟨c, cs, rfl, hc⟩ := h.exists_cons
  refine ⟨.number numeral stop, stop, ?_, ?_⟩
  · have hne : ∀ d, d ≠ '-' → isDigit d = false → c ≠ d := by
      intro d hminus hdigit
      rcases hc with rfl | hc
      · exact hminus.symm
      · exact ne_of_isDigit hc hdigit
    have hblank : isJsonBlank c = false := by
      simp [isJsonBlank, hne ' ', hne '\n', hne '\t', hne '\r', isDigit]
    rw [List.cons_append] at hread ⊢
    have hnumeral : (decide (c = '-') || isDigit c) = true := by simpa using hc
    simp only [readValue, skipBlanks_cons hblank, hnumeral, hread, numeralTree, if_true,
      hne '"' (by decide) (by decide), hne '[' (by decide) (by decide),
      hne '\x7b' (by decide) (by decide), hne 'n' (by decide) (by decide),
      hne 't' (by decide) (by decide), hne 'f' (by decide) (by decide), if_false]
  · intro depth v
    rw [Tree.value_number_eq_ok_iff, Literal.nesting, Literal.value?]
    simp

/-- A string is read. -/
theorem StringText.readsValue {text cs : List Char} (h : StringText text cs) :
    ReadsValue (fuel + 1) ('"' :: (text ++ '"' :: rest)) rest (.string (String.ofList cs)) := by
  intro offset
  obtain ⟨units, stop, hread, hunits⟩ := readString_of_stringText h (offset + 1) rest
  refine ⟨.string ⟨units, .closed stop⟩, stop, ?_, ?_⟩
  · simp [readValue, skipBlanks_cons (show isJsonBlank '"' = false by decide), hread,
      StringToken.behind]
  · intro depth v
    simp [Tree.value, StringToken.text, hunits, Literal.nesting, Literal.value?, Except.map]

/-! ## Texts of the grammar are read -/

mutual

/-- A value is read. -/
theorem ValueText.readsValue {text : List Char} {literal : Literal} (h : ValueText text literal)
    {fuel : Nat} {rest : List Char} (hfuel : 3 * text.length ≤ fuel) (hrest : EndsNumeral rest) :
    ReadsValue fuel (text ++ rest) rest literal := by
  match h with
  | .nullWord =>
    obtain ⟨fuel, rfl⟩ := Nat.exists_eq_add_of_le' (show 1 ≤ fuel by simp at hfuel; omega)
    exact readsValue_null
  | .trueWord =>
    obtain ⟨fuel, rfl⟩ := Nat.exists_eq_add_of_le' (show 1 ≤ fuel by simp at hfuel; omega)
    exact readsValue_true
  | .falseWord =>
    obtain ⟨fuel, rfl⟩ := Nat.exists_eq_add_of_le' (show 1 ≤ fuel by simp at hfuel; omega)
    exact readsValue_false
  | .number numeralText =>
    have hlength : 0 < text.length := by
      obtain ⟨c, cs, rfl, -⟩ := numeralText.exists_cons
      simp
    obtain ⟨fuel, rfl⟩ := Nat.exists_eq_add_of_le' (show 1 ≤ fuel by omega)
    exact numeralText.readsValue hrest
  | .string stringText =>
    obtain ⟨fuel, rfl⟩ := Nat.exists_eq_add_of_le' (show 1 ≤ fuel by simp at hfuel; omega)
    simpa using stringText.readsValue
  | .emptyArray areBlanks =>
    obtain ⟨fuel, rfl⟩ := Nat.exists_eq_add_of_le' (show 2 ≤ fuel by simp at hfuel; omega)
    simpa using readsValue_emptyArray areBlanks
  | .array (.mk areBlanks valueText) itemsText =>
    simp only [List.length_cons, List.length_append] at hfuel
    -- The bracket pays for the readers of the value, of its items and of the first item.
    obtain ⟨fuel, rfl⟩ := Nat.exists_eq_add_of_le' (show 3 ≤ fuel by omega)
    have hitems : ReadsItems fuel _ rest _ := itemsText.readsItems (by omega) hrest
    have hitem := (valueText.readsValue (by omega) (itemsText.endsNumeral rest)).item hitems
    obtain ⟨c, cs, rfl, hblank, hclose⟩ := valueText.exists_cons
    simpa using hitem.array areBlanks hblank hclose
  | .emptyObject areBlanks =>
    obtain ⟨fuel, rfl⟩ := Nat.exists_eq_add_of_le' (show 2 ≤ fuel by simp at hfuel; omega)
    simpa using readsValue_emptyObject areBlanks
  | .object (.mk areBlanks keyText colonBlanks (.mk inner valueText)) membersText =>
    simp only [List.length_cons, List.length_append] at hfuel
    -- The brace and the quote pay for those of the value, of its members and of the first member,
    -- and for passing over the blanks before the value of that.
    obtain ⟨fuel, rfl⟩ := Nat.exists_eq_add_of_le' (show 4 ≤ fuel by omega)
    have hvalue : ReadsValue (fuel + 1) _ _ _ :=
      valueText.readsValue (by omega) (membersText.endsNumeral rest)
    have hmembers : ReadsMembers (fuel + 1) _ rest _ :=
      membersText.readsMembers (by omega) hrest
    have hmember := (hvalue.append inner).member keyText colonBlanks hmembers
    simpa using hmember.object areBlanks

/-- The items behind one are read. -/
theorem ItemsText.readsItems {text : List Char} {literals : List Literal}
    (h : ItemsText text literals) {fuel : Nat} {rest : List Char}
    (hfuel : 3 * text.length ≤ fuel) (hrest : EndsNumeral rest) :
    ReadsItems fuel (text ++ rest) rest literals := by
  match h with
  | .close areBlanks =>
    obtain ⟨fuel, rfl⟩ := Nat.exists_eq_add_of_le' (show 1 ≤ fuel by simp at hfuel; omega)
    simpa using readsItems_close areBlanks
  | .item areBlanks (.mk inner valueText) itemsText =>
    simp only [List.length_cons, List.length_append] at hfuel
    obtain ⟨fuel, rfl⟩ := Nat.exists_eq_add_of_le' (show 2 ≤ fuel by omega)
    have hitems : ReadsItems fuel _ rest _ := itemsText.readsItems (by omega) hrest
    have hitem := (valueText.readsValue (by omega) (itemsText.endsNumeral rest)).item hitems
    obtain ⟨c, cs, rfl, hblank, hclose⟩ := valueText.exists_cons
    simpa using hitem.comma areBlanks inner hblank hclose

/-- The members behind one are read. -/
theorem MembersText.readsMembers {text : List Char} {literals : List (String × Literal)}
    (h : MembersText text literals) {fuel : Nat} {rest : List Char}
    (hfuel : 3 * text.length ≤ fuel) (hrest : EndsNumeral rest) :
    ReadsMembers fuel (text ++ rest) rest literals := by
  match h with
  | .close areBlanks =>
    obtain ⟨fuel, rfl⟩ := Nat.exists_eq_add_of_le' (show 1 ≤ fuel by simp at hfuel; omega)
    simpa using readsMembers_close areBlanks
  | .member areBlanks (.mk memberBlanks keyText colonBlanks (.mk inner valueText)) membersText =>
    simp only [List.length_cons, List.length_append] at hfuel
    obtain ⟨fuel, rfl⟩ := Nat.exists_eq_add_of_le' (show 3 ≤ fuel by omega)
    have hvalue : ReadsValue (fuel + 1) _ _ _ :=
      valueText.readsValue (by omega) (membersText.endsNumeral rest)
    have hmembers : ReadsMembers (fuel + 1) _ rest _ :=
      membersText.readsMembers (by omega) hrest
    have hmember := (hvalue.append inner).member keyText colonBlanks hmembers
    simpa using hmember.comma areBlanks memberBlanks

end

/-- A value behind blanks is read. -/
theorem ElementText.readsValue {text : List Char} {literal : Literal}
    (h : ElementText text literal) {fuel : Nat} {rest : List Char}
    (hfuel : 3 * text.length < fuel) (hrest : EndsNumeral rest) :
    ReadsValue fuel (text ++ rest) rest literal := by
  obtain @⟨blanks, text, literal, areBlanks, valueText⟩ := h
  rw [List.length_append] at hfuel
  obtain ⟨fuel, rfl⟩ := Nat.exists_eq_add_of_le' (show 1 ≤ fuel by omega)
  rw [List.append_assoc]
  exact (valueText.readsValue (by omega) hrest).append areBlanks

end PageSketch.Json
