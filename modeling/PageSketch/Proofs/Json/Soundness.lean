import PageSketch.Proofs.Json.Tokens

/-!
# What is read obeys the grammar

A reader that ends with a value has passed over a text of the grammar, stands behind it, and the
literal of that text has the value and is nested no deeper than the reader goes. The readers call
each other with less and less fuel, so all of them are shown sound at once, by induction on it.
-/

namespace PageSketch.Json

/-! ## The values of trees -/

/-- A reader enters an array when it may go one level deeper. -/
theorem Tree.value_array_eq_ok_iff {depth start : Nat} {items : Items} {v : Value} :
    (Tree.array start items).value depth = .ok v ↔
      2 ≤ depth ∧ ∃ vs, items.values (depth - 1) = .ok vs ∧ Value.array vs = v := by
  rw [Tree.value]
  split
  · rename_i hdepth
    simp [show ¬2 ≤ depth by omega]
  · rename_i hdepth
    simp [show 2 ≤ depth by omega]

/-- A reader enters an object when it may go one level deeper. -/
theorem Tree.value_object_eq_ok_iff {depth start : Nat} {members : Members} {v : Value} :
    (Tree.object start members).value depth = .ok v ↔
      2 ≤ depth ∧ ∃ vs, members.values (depth - 1) = .ok vs ∧ Value.object vs = v := by
  rw [Tree.value]
  split
  · rename_i hdepth
    simp [show ¬2 ≤ depth by omega]
  · rename_i hdepth
    simp [show 2 ≤ depth by omega]

/-- The value of a numeral. -/
theorem Tree.value_number_eq_ok_iff {depth stop : Nat} {numeral : Numeral} {v : Value} :
    (Tree.number numeral stop).value depth = .ok v ↔ (numeral.value?).map Value.number = some v := by
  rw [Tree.value, Numeral.read]
  cases numeral.value? <;> simp [Except.map]

/-- The values of the items are those of the first one and of the rest. -/
theorem Items.values_item_eq_ok_iff {depth : Nat} {value : Tree} {rest : Items}
    {vs : List Value} :
    (Items.item value rest).values depth = .ok vs ↔
      ∃ v ws, value.value depth = .ok v ∧ rest.values depth = .ok ws ∧ v :: ws = vs := by
  rw [Items.values]
  cases value.value depth <;> simp

/-- The values of the members are those of the first one and of the rest. -/
theorem Members.values_member_eq_ok_iff {depth : Nat} {key : StringToken} {value : Tree}
    {rest : Members} {vs : List (String × Value)} :
    (Members.member key value rest).values depth = .ok vs ↔
      ∃ k v ws, key.text = .ok k ∧ value.value depth = .ok v ∧ rest.values depth = .ok ws ∧
        (k, v) :: ws = vs := by
  rw [Members.values]
  cases key.text with
  | error => simp
  | ok k => cases value.value depth <;> simp

/-- A broken tree has no value. -/
theorem Tree.value_ne_of_broken {fault : Fault} {offset depth : Nat} {tree : Tree}
    {after : Option Cursor} {v : Value} (h : (Tree.broken fault offset, none) = (tree, after)) :
    tree.value depth ≠ .ok v := by
  obtain ⟨rfl, -⟩ := Prod.mk.inj h
  simp [Tree.value]

/-- Broken items have no values. -/
theorem Items.values_ne_of_broken {fault : Fault} {offset depth : Nat} {items : Items}
    {after : Option Cursor} {vs : List Value}
    (h : (Items.broken fault offset, none) = (items, after)) : items.values depth ≠ .ok vs := by
  obtain ⟨rfl, -⟩ := Prod.mk.inj h
  simp [Items.values]

/-- Broken members have no values. -/
theorem Members.values_ne_of_broken {fault : Fault} {offset depth : Nat} {members : Members}
    {after : Option Cursor} {vs : List (String × Value)}
    (h : (Members.broken fault offset, none) = (members, after)) :
    members.values depth ≠ .ok vs := by
  obtain ⟨rfl, -⟩ := Prod.mk.inj h
  simp [Members.values]

/-! ## Readers and the grammar -/

/-- Blanks before an element belong to it. -/
theorem ElementText.append {blanks text : List Char} {value : Literal} (hblanks : AreBlanks blanks)
    (h : ElementText text value) : ElementText (blanks ++ text) value := by
  obtain @⟨inner, text, value, hinner, htext⟩ := h
  rw [← List.append_assoc]
  exact .mk (hblanks.append hinner) htext

/-- Whether a reader that began at a place and ended at another one has passed over a text with the
given value; `Text` says which texts and `value?` and `nesting` what they are worth. -/
def ReadsText {σ ν : Type} (Text : List Char → σ → Prop) (value? : σ → Option ν)
    (nesting : σ → Nat) (depth : Nat) (place : Cursor) (after : Option Cursor) (v : ν) : Prop :=
  ∃ text s stop rest, Text text s ∧ place.rest = text ++ rest ∧ after = some ⟨stop, rest⟩ ∧
    nesting s ≤ depth - 1 ∧ value? s = some v

/-- The texts of an array without its opening bracket. -/
def ArrayBody (text : List Char) (items : List Literal) : Prop :=
  ValueText ('[' :: text) (.array items)

/-- The texts of an object without its opening brace. -/
def ObjectBody (text : List Char) (members : List (String × Literal)) : Prop :=
  ValueText ('\x7b' :: text) (.object members)

/-- The texts of an item and those behind it. -/
def ItemBody (text : List Char) (items : List Literal) : Prop :=
  ∃ first rest item others, ElementText first item ∧ ItemsText rest others ∧
    text = first ++ rest ∧ items = item :: others

/-- The texts of a member and those behind it, without the first quote. -/
def MemberBody (text : List Char) (members : List (String × Literal)) : Prop :=
  ∃ first rest member others, MemberText ('"' :: first) member ∧ MembersText rest others ∧
    text = first ++ rest ∧ members = member :: others

/-- Whether the readers with the given fuel read nothing but texts of the grammar. -/
structure SoundAt (fuel : Nat) : Prop where
  value {place : Cursor} {tree : Tree} {after : Option Cursor} {depth : Nat} {v : Value} :
    readValue fuel place = (tree, after) → tree.value depth = .ok v →
      ReadsText ElementText Literal.value? Literal.nesting depth place after v
  firstItems {place : Cursor} {items : Items} {after : Option Cursor} {depth : Nat}
    {vs : List Value} : readItems fuel true place = (items, after) → items.values depth = .ok vs →
      ReadsText ArrayBody Literal.itemValues? Literal.itemNesting depth place after vs
  items {place : Cursor} {items : Items} {after : Option Cursor} {depth : Nat}
    {vs : List Value} : readItems fuel false place = (items, after) → items.values depth = .ok vs →
      ReadsText ItemsText Literal.itemValues? Literal.itemNesting depth place after vs
  item {place : Cursor} {items : Items} {after : Option Cursor} {depth : Nat} {vs : List Value} :
    readItem fuel place = (items, after) → items.values depth = .ok vs →
      ReadsText ItemBody Literal.itemValues? Literal.itemNesting depth place after vs
  firstMembers {place : Cursor} {members : Members} {after : Option Cursor} {depth : Nat}
    {vs : List (String × Value)} : readMembers fuel true place = (members, after) →
      members.values depth = .ok vs →
      ReadsText ObjectBody Literal.memberValues? Literal.memberNesting depth place after vs
  members {place : Cursor} {members : Members} {after : Option Cursor} {depth : Nat}
    {vs : List (String × Value)} : readMembers fuel false place = (members, after) →
      members.values depth = .ok vs →
      ReadsText MembersText Literal.memberValues? Literal.memberNesting depth place after vs
  member {place : Cursor} {members : Members} {after : Option Cursor} {depth : Nat}
    {vs : List (String × Value)} : readMember fuel place = (members, after) →
      members.values depth = .ok vs →
      ReadsText MemberBody Literal.memberValues? Literal.memberNesting depth place after vs

/-- Without fuel nothing is read. -/
theorem soundAt_zero : SoundAt 0 where
  value h hv := by
    rw [readValue] at h
    exact absurd hv (Tree.value_ne_of_broken h)
  firstItems h hvs := by
    rw [readItems] at h
    exact absurd hvs (Items.values_ne_of_broken h)
  items h hvs := by
    rw [readItems] at h
    exact absurd hvs (Items.values_ne_of_broken h)
  item h hvs := by
    rw [readItem] at h
    exact absurd hvs (Items.values_ne_of_broken h)
  firstMembers h hvs := by
    rw [readMembers] at h
    exact absurd hvs (Members.values_ne_of_broken h)
  members h hvs := by
    rw [readMembers] at h
    exact absurd hvs (Members.values_ne_of_broken h)
  member h hvs := by
    rw [readMember] at h
    exact absurd hvs (Members.values_ne_of_broken h)

variable {fuel : Nat} {place : Cursor} {after : Option Cursor} {depth : Nat}

/-- A word that is read is a value. -/
theorem readsText_word {blanks word cs : List Char} {offset : Nat} {tree : Nat → Tree}
    {literal : Literal} {t : Tree} {v : Value} (hblanks : AreBlanks blanks) {c : Char}
    (hplace : place.rest = blanks ++ c :: cs) (htext : ValueText (c :: word) literal)
    (h : wordTree tree (readWord offset word cs) = (t, after)) (hv : t.value depth = .ok v)
    (hvalue : ∀ stop, (tree stop).value depth = .ok v → literal.value? = some v)
    (hnesting : literal.nesting = 0) :
    ReadsText ElementText Literal.value? Literal.nesting depth place after v := by
  cases hread : readWord offset word cs with
  | error e =>
    rw [hread, wordTree] at h
    exact absurd hv (Tree.value_ne_of_broken h)
  | ok behind =>
    rw [hread, wordTree] at h
    obtain ⟨rfl, rfl⟩ := Prod.mk.inj h
    obtain ⟨hcs, -⟩ := readWord_eq_ok_iff.mp hread
    refine ⟨blanks ++ c :: word, literal, behind.offset, behind.rest, .mk hblanks htext, ?_, rfl,
      by omega, hvalue _ hv⟩
    rw [hplace, hcs]
    simp

/-- A string that is read is a value. -/
theorem readsText_string {blanks cs rest : List Char} {offset : Nat} {token : StringToken}
    {v : Value} (hblanks : AreBlanks blanks) (hplace : place.rest = blanks ++ '"' :: cs)
    (hread : readString offset cs = (token, rest)) (hv : (Tree.string token).value depth = .ok v) :
    ReadsText ElementText Literal.value? Literal.nesting depth place (token.behind rest) v := by
  rw [Tree.value, map_eq_ok_iff] at hv
  obtain ⟨text, htext, rfl⟩ := hv
  obtain ⟨spelled, stop, hspelled, hcs, hbehind⟩ := stringText_of_readString hread htext
  refine ⟨blanks ++ '"' :: (spelled ++ ['"']), .string (String.ofList text.toList), stop, rest,
    .mk hblanks (.string hspelled), ?_, hbehind, Nat.zero_le _, by simp [Literal.value?]⟩
  rw [hplace, hcs]
  simp

/-- A number that is read is a value. -/
theorem readsText_numeral {blanks cs : List Char} {offset : Nat} {t : Tree} {v : Value}
    (hblanks : AreBlanks blanks) (hplace : place.rest = blanks ++ cs)
    (h : numeralTree (readNumeral offset cs) = (t, after)) (hv : t.value depth = .ok v) :
    ReadsText ElementText Literal.value? Literal.nesting depth place after v := by
  cases hread : readNumeral offset cs with
  | error e =>
    rw [hread, numeralTree] at h
    exact absurd hv (Tree.value_ne_of_broken h)
  | ok read =>
    obtain ⟨numeral, behind⟩ := read
    rw [hread, numeralTree] at h
    obtain ⟨rfl, rfl⟩ := Prod.mk.inj h
    obtain ⟨text, htext, hcs⟩ := numeralText_of_readNumeral hread
    refine ⟨blanks ++ text, .number numeral, behind.offset, behind.rest,
      .mk hblanks (.number htext), ?_, rfl, Nat.zero_le _, Tree.value_number_eq_ok_iff.mp hv⟩
    rw [hplace, hcs]
    simp

/-- An array that is read is a value. -/
theorem SoundAt.readsText_array (ih : SoundAt fuel) {blanks cs : List Char} {offset start : Nat}
    {v : Value} (hblanks : AreBlanks blanks) (hplace : place.rest = blanks ++ '[' :: cs)
    (hv : (Tree.array start (readItems fuel true ⟨offset, cs⟩).1).value depth = .ok v) :
    ReadsText ElementText Literal.value? Literal.nesting depth place
      (readItems fuel true ⟨offset, cs⟩).2 v := by
  obtain ⟨hdepth, vs, hvs, rfl⟩ := Tree.value_array_eq_ok_iff.mp hv
  obtain ⟨text, items, stop, rest, htext, hrest, hafter, hnesting, hvalue⟩ := ih.firstItems rfl hvs
  refine ⟨blanks ++ '[' :: text, .array items, stop, rest, .mk hblanks htext, ?_, hafter, ?_,
    by simp [Literal.value?, hvalue]⟩
  · rw [hplace, show cs = text ++ rest from hrest]
    simp
  · rw [Literal.nesting]
    omega

/-- An object that is read is a value. -/
theorem SoundAt.readsText_object (ih : SoundAt fuel) {blanks cs : List Char} {offset start : Nat}
    {v : Value} (hblanks : AreBlanks blanks) (hplace : place.rest = blanks ++ '\x7b' :: cs)
    (hv : (Tree.object start (readMembers fuel true ⟨offset, cs⟩).1).value depth = .ok v) :
    ReadsText ElementText Literal.value? Literal.nesting depth place
      (readMembers fuel true ⟨offset, cs⟩).2 v := by
  obtain ⟨hdepth, vs, hvs, rfl⟩ := Tree.value_object_eq_ok_iff.mp hv
  obtain ⟨text, members, stop, rest, htext, hrest, hafter, hnesting, hvalue⟩ :=
    ih.firstMembers rfl hvs
  refine ⟨blanks ++ '\x7b' :: text, .object members, stop, rest, .mk hblanks htext, ?_, hafter, ?_,
    by simp [Literal.value?, hvalue]⟩
  · rw [hplace, show cs = text ++ rest from hrest]
    simp
  · rw [Literal.nesting]
    omega

/-- One step of the reader of values. -/
theorem SoundAt.value_succ (ih : SoundAt fuel) {tree : Tree} {v : Value}
    (h : readValue (fuel + 1) place = (tree, after)) (hv : tree.value depth = .ok v) :
    ReadsText ElementText Literal.value? Literal.nesting depth place after v := by
  obtain ⟨blanks, hblanks, hplace⟩ := exists_skipBlanks place.offset place.rest
  rw [readValue] at h
  split at h
  · exact absurd hv (Tree.value_ne_of_broken h)
  · rename_i offset c cs hskip
    rw [hskip] at hplace
    simp only at hplace
    -- The reader goes by the first character behind the blanks.
    split at h
    · rename_i hc
      subst hc
      obtain ⟨rfl, rfl⟩ := Prod.mk.inj h
      exact readsText_string hblanks hplace rfl hv
    split at h
    · rename_i hc
      subst hc
      obtain ⟨rfl, rfl⟩ := Prod.mk.inj h
      exact ih.readsText_array hblanks hplace hv
    split at h
    · rename_i hc
      subst hc
      obtain ⟨rfl, rfl⟩ := Prod.mk.inj h
      exact ih.readsText_object hblanks hplace hv
    split at h
    · rename_i hc
      subst hc
      refine readsText_word hblanks hplace .nullWord h hv ?_ rfl
      intro stop hstop
      simpa [Tree.value, Literal.value?] using hstop
    split at h
    · rename_i hc
      subst hc
      refine readsText_word hblanks hplace .trueWord h hv ?_ rfl
      intro stop hstop
      simpa [Tree.value, Literal.value?] using hstop
    split at h
    · rename_i hc
      subst hc
      refine readsText_word hblanks hplace .falseWord h hv ?_ rfl
      intro stop hstop
      simpa [Tree.value, Literal.value?] using hstop
    split at h
    · exact readsText_numeral hblanks hplace h hv
    · exact absurd hv (Tree.value_ne_of_broken h)

/-- One step of the reader of an item and those behind it. -/
theorem SoundAt.item_succ (ih : SoundAt fuel) {items : Items} {vs : List Value}
    (h : readItem (fuel + 1) place = (items, after)) (hvs : items.values depth = .ok vs) :
    ReadsText ItemBody Literal.itemValues? Literal.itemNesting depth place after vs := by
  rw [readItem] at h
  split at h
  · -- Something is behind a tree with a value, so this one has none.
    rename_i value hread
    obtain ⟨rfl, -⟩ := Prod.mk.inj h
    obtain ⟨v, ws, hv, -, -⟩ := Items.values_item_eq_ok_iff.mp hvs
    obtain ⟨text, item, stop, rest, -, -, hafter, -⟩ := ih.value hread hv
    simp at hafter
  · rename_i value behind hread
    obtain ⟨rfl, rfl⟩ := Prod.mk.inj h
    obtain ⟨v, ws, hv, hws, rfl⟩ := Items.values_item_eq_ok_iff.mp hvs
    obtain ⟨first, item, stop, rest, hfirst, hplace, hafter, hnesting, hvalue⟩ := ih.value hread hv
    obtain rfl := Option.some.inj hafter
    obtain ⟨others, items, stop', rest', hothers, hrest, hafter', hnesting', hvalues⟩ :=
      ih.items rfl hws
    refine ⟨first ++ others, item :: items, stop', rest', ⟨first, others, item, items, hfirst,
      hothers, rfl, rfl⟩, ?_, hafter', ?_, by simp [Literal.itemValues?, hvalue, hvalues]⟩
    · rw [hplace, show rest = others ++ rest' from hrest]
      simp
    · rw [Literal.itemNesting]
      omega

/-- One step of the reader of items at the opening bracket. -/
theorem SoundAt.firstItems_succ (ih : SoundAt fuel) {items : Items} {vs : List Value}
    (h : readItems (fuel + 1) true place = (items, after)) (hvs : items.values depth = .ok vs) :
    ReadsText ArrayBody Literal.itemValues? Literal.itemNesting depth place after vs := by
  obtain ⟨blanks, hblanks, hplace⟩ := exists_skipBlanks place.offset place.rest
  rw [readItems] at h
  split at h
  · exact absurd hvs (Items.values_ne_of_broken h)
  · rename_i offset c cs hskip
    rw [hskip] at hplace
    split at h
    · rename_i hc
      obtain ⟨rfl, rfl⟩ := Prod.mk.inj h
      simp only [Items.values, Except.ok.injEq] at hvs
      subst hvs
      refine ⟨blanks ++ [']'], [], offset + 1, cs, .emptyArray hblanks, ?_, rfl, Nat.zero_le _, rfl⟩
      rw [hplace, hc]
      simp
    · obtain ⟨text, items, stop, rest, ⟨first, others, item, items, hfirst, hothers, rfl, rfl⟩,
        hrest, hafter, hnesting, hvalues⟩ := ih.item h hvs
      refine ⟨blanks ++ first ++ others, item :: items, stop, rest,
        .array (hfirst.append hblanks) hothers, ?_, hafter, hnesting, hvalues⟩
      rw [hplace, show c :: cs = first ++ others ++ rest from hrest]
      simp

/-- One step of the reader of items behind an item. -/
theorem SoundAt.items_succ (ih : SoundAt fuel) {items : Items} {vs : List Value}
    (h : readItems (fuel + 1) false place = (items, after)) (hvs : items.values depth = .ok vs) :
    ReadsText ItemsText Literal.itemValues? Literal.itemNesting depth place after vs := by
  obtain ⟨blanks, hblanks, hplace⟩ := exists_skipBlanks place.offset place.rest
  rw [readItems] at h
  split at h
  · exact absurd hvs (Items.values_ne_of_broken h)
  · rename_i offset c cs hskip
    rw [hskip] at hplace
    split at h
    · rename_i hc
      obtain ⟨rfl, rfl⟩ := Prod.mk.inj h
      simp only [Items.values, Except.ok.injEq] at hvs
      subst hvs
      refine ⟨blanks ++ [']'], [], offset + 1, cs, .close hblanks, ?_, rfl, Nat.zero_le _, rfl⟩
      rw [hplace, hc]
      simp
    rw [if_neg Bool.false_ne_true] at h
    split at h
    · -- a comma, and then an item
      rename_i hc
      obtain ⟨inner, hinner, hcs⟩ := exists_skipBlanks (offset + 1) cs
      split at h
      · exact absurd hvs (Items.values_ne_of_broken h)
      · rename_i next d ds hskip'
        rw [hskip'] at hcs
        split at h
        · exact absurd hvs (Items.values_ne_of_broken h)
        · obtain ⟨text, items, stop, rest, ⟨first, others, item, items, hfirst, hothers, rfl, rfl⟩,
            hrest, hafter, hnesting, hvalues⟩ := ih.item h hvs
          refine ⟨blanks ++ ',' :: (inner ++ first ++ others), item :: items, stop, rest,
            .item hblanks (hfirst.append hinner) hothers, ?_, hafter, hnesting, hvalues⟩
          rw [hplace, hc, hcs, show d :: ds = first ++ others ++ rest from hrest]
          simp
    · exact absurd hvs (Items.values_ne_of_broken h)

/-- One step of the reader of a member and those behind it. -/
theorem SoundAt.member_succ (ih : SoundAt fuel) {members : Members} {vs : List (String × Value)}
    (h : readMember (fuel + 1) place = (members, after)) (hvs : members.values depth = .ok vs) :
    ReadsText MemberBody Literal.memberValues? Literal.memberNesting depth place after vs := by
  rw [readMember] at h
  rcases hkey : readString place.offset place.rest with ⟨key, behindKey⟩
  simp only [hkey] at h
  split at h
  · obtain ⟨rfl, -⟩ := Prod.mk.inj h
    obtain ⟨k, v, ws, -, hv, -, -⟩ := Members.values_member_eq_ok_iff.mp hvs
    simp [Tree.value] at hv
  · rename_i atColon hatColon
    obtain ⟨blanks, hblanks, hcolon⟩ := exists_skipBlanks atColon.offset atColon.rest
    split at h
    · obtain ⟨rfl, -⟩ := Prod.mk.inj h
      obtain ⟨k, v, ws, -, hv, -, -⟩ := Members.values_member_eq_ok_iff.mp hvs
      simp [Tree.value] at hv
    · rename_i offset c cs hskip
      rw [hskip] at hcolon
      split at h
      · rename_i hc
        split at h
        · rename_i value hread
          obtain ⟨rfl, -⟩ := Prod.mk.inj h
          -- As with items, there is something behind a value.
          obtain ⟨k, v, ws, -, hv, -, -⟩ := Members.values_member_eq_ok_iff.mp hvs
          obtain ⟨text, item, stop, rest, -, -, hafter, -⟩ := ih.value hread hv
          simp at hafter
        · rename_i value behind hread
          obtain ⟨rfl, rfl⟩ := Prod.mk.inj h
          obtain ⟨k, v, ws, hk, hv, hws, rfl⟩ := Members.values_member_eq_ok_iff.mp hvs
          obtain ⟨spelled, stopKey, hspelled, hplace, hbehind⟩ := stringText_of_readString hkey hk
          obtain ⟨text, value, stop, rest, htext, hcs, hafter, hnesting, hvalue⟩ :=
            ih.value hread hv
          obtain rfl := Option.some.inj hafter
          obtain ⟨others, members, stop', rest', hothers, hrest, hafter', hnesting', hvalues⟩ :=
            ih.members rfl hws
          -- The key has a text, so the colon stands right behind its quote.
          obtain rfl : atColon = ⟨stopKey, behindKey⟩ :=
            Option.some.inj (hatColon.symm.trans hbehind)
          refine ⟨spelled ++ '"' :: (blanks ++ ':' :: text) ++ others,
            (String.ofList k.toList, value) :: members, stop', rest',
            ⟨_, others, _, members, .mk areBlanks_nil hspelled hblanks htext, hothers, rfl, rfl⟩,
            ?_, hafter', ?_, by simp [Literal.memberValues?, hvalue, hvalues]⟩
          · rw [hplace, show behindKey = blanks ++ c :: cs from hcolon, hc,
              show cs = text ++ rest from hcs, show rest = others ++ rest' from hrest]
            simp
          · rw [Literal.memberNesting]
            omega
      · obtain ⟨rfl, -⟩ := Prod.mk.inj h
        obtain ⟨k, v, ws, -, hv, -, -⟩ := Members.values_member_eq_ok_iff.mp hvs
        simp [Tree.value] at hv

/-- Blanks before a member belong to it. -/
theorem MemberText.append {blanks text : List Char} {member : String × Literal}
    (hblanks : AreBlanks blanks) (h : MemberText text member) :
    MemberText (blanks ++ text) member := by
  obtain @⟨inner, key, cs, colon, text, value, hinner, hkey, hcolon, htext⟩ := h
  rw [← List.append_assoc]
  exact .mk (hblanks.append hinner) hkey hcolon htext

/-- One step of the reader of members at the opening brace. -/
theorem SoundAt.firstMembers_succ (ih : SoundAt fuel) {members : Members}
    {vs : List (String × Value)} (h : readMembers (fuel + 1) true place = (members, after))
    (hvs : members.values depth = .ok vs) :
    ReadsText ObjectBody Literal.memberValues? Literal.memberNesting depth place after vs := by
  obtain ⟨blanks, hblanks, hplace⟩ := exists_skipBlanks place.offset place.rest
  rw [readMembers] at h
  split at h
  · exact absurd hvs (Members.values_ne_of_broken h)
  · rename_i offset c cs hskip
    rw [hskip] at hplace
    split at h
    · rename_i hc
      obtain ⟨rfl, rfl⟩ := Prod.mk.inj h
      simp only [Members.values, Except.ok.injEq] at hvs
      subst hvs
      refine ⟨blanks ++ ['\x7d'], [], offset + 1, cs, .emptyObject hblanks, ?_, rfl, Nat.zero_le _,
        rfl⟩
      rw [hplace, hc]
      simp
    rw [if_pos rfl] at h
    split at h
    · rename_i hc
      obtain ⟨text, members, stop, rest, ⟨first, others, member, members, hfirst, hothers, rfl,
        rfl⟩, hrest, hafter, hnesting, hvalues⟩ := ih.member h hvs
      refine ⟨blanks ++ '"' :: first ++ others, member :: members, stop, rest,
        .object (hfirst.append hblanks) hothers, ?_, hafter, hnesting, hvalues⟩
      rw [hplace, hc, show cs = first ++ others ++ rest from hrest]
      simp
    · exact absurd hvs (Members.values_ne_of_broken h)

/-- One step of the reader of members behind a member. -/
theorem SoundAt.members_succ (ih : SoundAt fuel) {members : Members} {vs : List (String × Value)}
    (h : readMembers (fuel + 1) false place = (members, after))
    (hvs : members.values depth = .ok vs) :
    ReadsText MembersText Literal.memberValues? Literal.memberNesting depth place after vs := by
  obtain ⟨blanks, hblanks, hplace⟩ := exists_skipBlanks place.offset place.rest
  rw [readMembers] at h
  split at h
  · exact absurd hvs (Members.values_ne_of_broken h)
  · rename_i offset c cs hskip
    rw [hskip] at hplace
    split at h
    · rename_i hc
      obtain ⟨rfl, rfl⟩ := Prod.mk.inj h
      simp only [Members.values, Except.ok.injEq] at hvs
      subst hvs
      refine ⟨blanks ++ ['\x7d'], [], offset + 1, cs, .close hblanks, ?_, rfl, Nat.zero_le _, rfl⟩
      rw [hplace, hc]
      simp
    rw [if_neg Bool.false_ne_true] at h
    split at h
    · -- a comma, and then the quote of a key
      rename_i hc
      obtain ⟨inner, hinner, hcs⟩ := exists_skipBlanks (offset + 1) cs
      split at h
      · exact absurd hvs (Members.values_ne_of_broken h)
      · rename_i next d ds hskip'
        rw [hskip'] at hcs
        split at h
        · rename_i hd
          obtain ⟨text, members, stop, rest, ⟨first, others, member, members, hfirst, hothers, rfl,
            rfl⟩, hrest, hafter, hnesting, hvalues⟩ := ih.member h hvs
          refine ⟨blanks ++ ',' :: (inner ++ '"' :: first ++ others), member :: members, stop,
            rest, .member hblanks (hfirst.append hinner) hothers, ?_, hafter, hnesting, hvalues⟩
          rw [hplace, hc, hcs, hd, show ds = first ++ others ++ rest from hrest]
          simp
        · split at h <;>
          · exact absurd hvs (Members.values_ne_of_broken h)
    · exact absurd hvs (Members.values_ne_of_broken h)

/-- The readers are sound with any fuel. -/
theorem soundAt (fuel : Nat) : SoundAt fuel := by
  induction fuel with
  | zero => exact soundAt_zero
  | succ fuel ih =>
    exact ⟨ih.value_succ, ih.firstItems_succ, ih.items_succ, ih.item_succ, ih.firstMembers_succ,
      ih.members_succ, ih.member_succ⟩

end PageSketch.Json
