import PageSketch.Proofs.Json.Value
import PageSketch.Proofs.Markup.Expression
import PageSketch.Proofs.Text.IdentifierNames

/-!
# Keys without quotes

A key that has the form of a name is written without quotes. What a script reads there is an
identifier name, and the two forms differ: a key may begin with a mark or hold a stray letter or
number. Without such keys a literal is an expression of the script.
-/

namespace PageSketch.Markup

open Json (Value)
open Text

variable {c : Char} {key : String}

/-! ## Keys with the form of a name -/

/-- Whether a text begins with a mark: a character that may continue an identifier and may not begin
one. -/
def BeginsWithMark (text : String) : Prop :=
  ∃ c ∈ text.toList.head?, c ≠ '_' ∧ isIdContinueOnly c = true

/-- Whether a text holds a stray letter or number. -/
def HoldsStray (text : String) : Prop := ∃ c ∈ text.toList, isStray c = true

/-- The two marks of names are no letters and not stray, and one of them continues identifiers. -/
theorem name_marks : isIdContinue '_' = true ∧ isIdContinueOnly '$' = false ∧
    isStray '_' = false ∧ isStray '$' = false := by
  decide +kernel

/-- What continues a name continues an identifier unless it is stray. -/
theorem continues_iff (h : continuesName c = true) :
    (c = '$' ∨ isIdContinue c = true) ↔ isStray c = false := by
  obtain ⟨hunderscore, -, hstray, hstray'⟩ := name_marks
  simp only [continuesName, Bool.or_eq_true, decide_eq_true_eq] at h
  rcases h with (hletter | rfl) | rfl
  · constructor
    · rintro (rfl | hcontinue)
      · exact hstray'
      · exact (isIdContinue_iff hletter).mp hcontinue
    · exact fun hnot => .inr ((isIdContinue_iff hletter).mpr hnot)
  · exact iff_of_true (.inr hunderscore) hstray
  · exact iff_of_true (.inl rfl) hstray'

/-- What begins a name begins an identifier unless it is stray or a mark. -/
theorem begins_iff (h : beginsName c = true) :
    (c = '$' ∨ c = '_' ∨ isIdStart c = true) ↔
      isStray c = false ∧ ¬(c ≠ '_' ∧ isIdContinueOnly c = true) := by
  obtain ⟨-, hmark, hstray, hstray'⟩ := name_marks
  simp only [beginsName, Bool.or_eq_true, decide_eq_true_eq] at h
  rcases h with (hletter | rfl) | rfl
  · constructor
    · rintro (rfl | rfl | hstart)
      · exact ⟨hstray', fun hnot => by rw [hmark] at hnot; cases hnot.2⟩
      · exact ⟨hstray, fun hnot => hnot.1 rfl⟩
      · obtain ⟨hsound, hbegins⟩ := (isIdStart_iff hletter).mp hstart
        exact ⟨hsound, fun hnot => by rw [hbegins] at hnot; cases hnot.2⟩
    · rintro ⟨hsound, hbegins⟩
      by_cases hunderscore : c = '_'
      · exact .inr (.inl hunderscore)
      · have hno : isIdContinueOnly c = false :=
          Bool.eq_false_iff.mpr fun honly => hbegins ⟨hunderscore, honly⟩
        exact .inr (.inr ((isIdStart_iff hletter).mpr ⟨hsound, hno⟩))
  · exact iff_of_true (.inr (.inl rfl)) ⟨hstray, fun hnot => hnot.1 rfl⟩
  · exact iff_of_true (.inl rfl) ⟨hstray', fun hnot => by rw [hmark] at hnot; cases hnot.2⟩

/-- A key with the form of a name is an identifier name unless it begins with a mark or holds a stray
letter or number. -/
theorem isIdentifierName_iff (h : isName key = true) :
    IsIdentifierName key ↔ ¬BeginsWithMark key ∧ ¬HoldsStray key := by
  unfold isName at h
  cases hkey : key.toList with
  | nil => simp [hkey] at h
  | cons c rest =>
    simp only [hkey, Bool.and_eq_true, List.all_eq_true] at h
    obtain ⟨hbegin, hcontinue⟩ := h
    have hname : IsIdentifierName key ↔ (c = '$' ∨ c = '_' ∨ isIdStart c = true) ∧
        ∀ d ∈ rest, d = '$' ∨ isIdContinue d = true := by
      simp [IsIdentifierName, hkey]
    have hmark : BeginsWithMark key ↔ c ≠ '_' ∧ isIdContinueOnly c = true := by
      simp [BeginsWithMark, hkey]
    have hstray : ¬HoldsStray key ↔ isStray c = false ∧ ∀ d ∈ rest, isStray d = false := by
      simp [HoldsStray, hkey]
    have hrest : (∀ d ∈ rest, d = '$' ∨ isIdContinue d = true) ↔ ∀ d ∈ rest, isStray d = false :=
      forall₂_congr fun d hd => continues_iff (hcontinue d hd)
    rw [hname, hmark, hstray, hrest, begins_iff hbegin]
    tauto

/-- A text in quotes is longer than the text. -/
theorem quotedLiteral_ne (text : String) : quotedLiteral text ≠ text := by
  intro heq
  have hlonger : ∀ cs : List Char, cs.length ≤ (cs.flatMap literalChar).length := by
    intro cs
    induction cs with
    | nil => exact le_rfl
    | cons c rest ih =>
      have hchar : 0 < (literalChar c).length := by
        unfold literalChar
        split_ifs <;> simp
      rw [List.flatMap_cons, List.length_append, List.length_cons]
      omega
  have hlength := congrArg (fun text => text.toList.length) heq
  simp only [toList_quotedLiteral, List.length_cons, List.length_append] at hlength
  have := hlonger text.toList
  omega

/-- A key is written without quotes when it has the form of a name. -/
theorem literalKey_eq_self_iff : literalKey key = key ↔ isName key = true := by
  unfold literalKey
  split
  · rename_i hname
    exact iff_of_true rfl hname
  · rename_i hname
    exact iff_of_false (quotedLiteral_ne key) hname

/-! ## Expressions -/

/-- What may stand for a character between single quotes: the character itself or an escape. -/
inductive IsQuotedPart : List Char → Prop
  | plain {c : Char} (h : c ∉ ['\'', '\\', '\n', '\r']) : IsQuotedPart [c]
  | escape {c : Char} (h : c ∈ ['\'', '\\', 'n', 'r']) : IsQuotedPart ['\\', c]

/-- Whether a text is a text in single quotes. -/
def IsQuotedText (text : String) : Prop :=
  ∃ parts : List (List Char), (∀ part ∈ parts, IsQuotedPart part) ∧
    text.toList = '\'' :: (parts.flatten ++ ['\''])

/-- The expressions of a script that literals are made of: words, numbers, texts in quotes, arrays, and
objects whose keys are texts in quotes or identifier names. -/
inductive IsExpression : String → Prop
  | word {text : String} (h : text ∈ ["null", "true", "false"]) : IsExpression text
  | number {text : String} {numeral : Json.Numeral}
      (h : Json.NumeralText text.toList numeral) : IsExpression text
  | quoted {text : String} (h : IsQuotedText text) : IsExpression text
  | array {items : List String} (h : ∀ item ∈ items, IsExpression item) :
      IsExpression ("[" ++ ", ".intercalate items ++ "]")
  | emptyObject : IsExpression "\x7b\x7d"
  | object {members : List (String × String)}
      (keys : ∀ member ∈ members, IsQuotedText member.1 ∨ IsIdentifierName member.1)
      (values : ∀ member ∈ members, IsExpression member.2) :
      IsExpression ("\x7b " ++
        ", ".intercalate (members.map fun member => member.1 ++ ": " ++ member.2) ++ " \x7d")

/-- What is written for a character may stand for it. -/
theorem isQuotedPart_literalChar (c : Char) : IsQuotedPart (literalChar c) := by
  unfold literalChar
  split
  · exact .escape (by simp)
  split
  · exact .escape (by simp)
  split
  · exact .escape (by simp)
  split
  · exact .escape (by simp)
  · rename_i hbackslash hquote hnewline hreturn
    exact .plain (by simp [hbackslash, hquote, hnewline, hreturn])

/-- A text is put into quotes as such. -/
theorem isQuotedText_quotedLiteral (text : String) : IsQuotedText (quotedLiteral text) := by
  refine ⟨text.toList.map literalChar, ?_, ?_⟩
  · intro part hpart
    obtain ⟨c, -, rfl⟩ := List.mem_map.mp hpart
    exact isQuotedPart_literalChar c
  · rw [toList_quotedLiteral, List.flatMap_def]

/-- Whether a property holds of the keys of an object. -/
def EveryKey (p : String → Prop) : Value → Prop
  | .object members => ∀ member ∈ members, p member.1
  | .null | .bool _ | .number _ | .string _ | .array _ => True

/-- A property of all texts holds of every key. -/
theorem everyKey_of_forall {p : String → Prop} (h : ∀ key, p key) (v : Value) : EveryKey p v := by
  cases v with
  | object members => exact fun member _ => h member.1
  | null | bool | number | string | array => trivial

/-- A property that is implied holds of every key of which the other one does. -/
theorem EveryKey.imp {p q : String → Prop} (h : ∀ key, p key → q key) {v : Value}
    (hp : EveryKey p v) : EveryKey q v := by
  cases v with
  | object members => exact fun member hmember => h member.1 (hp member hmember)
  | null | bool | number | string | array => trivial

/-- The literal of a value is an expression when its keys without quotes are identifier names. -/
theorem isExpression_literal {v : Value}
    (h : v.Everywhere (EveryKey fun key => isName key = true → IsIdentifierName key)) :
    IsExpression (literal v) := by
  induction v using Value.induction with
  | null => exact .word (by simp [literal])
  | bool b => exact .word (by cases b <;> simp [literal])
  | number n =>
    obtain ⟨numeral, htext⟩ := n.exists_numeralText
    rw [literal]
    exact .number htext
  | string s =>
    rw [literal]
    exact .quoted (isQuotedText_quotedLiteral s)
  | array items ih =>
    rw [literal, literalItems_eq_intercalate]
    refine .array fun text htext => ?_
    obtain ⟨item, hitem, rfl⟩ := List.mem_map.mp htext
    exact ih item hitem (h.item hitem)
  | object members ih =>
    cases members with
    | nil =>
      rw [literal]
      exact .emptyObject
    | cons member rest =>
      rw [literal, literalMembers_eq_intercalate]
      have hmembers : ((member :: rest).map fun member =>
          literalKey member.1 ++ ": " ++ literal member.2) =
          ((member :: rest).map fun member => (literalKey member.1, literal member.2)).map
            fun member => member.1 ++ ": " ++ member.2 := by
        rw [List.map_map]
        rfl
      rw [hmembers]
      refine .object (fun pair hpair => ?_) fun pair hpair => ?_
      · obtain ⟨member, hmember, rfl⟩ := List.mem_map.mp hpair
        show IsQuotedText (literalKey member.1) ∨ IsIdentifierName (literalKey member.1)
        unfold literalKey
        split
        · rename_i hname
          exact .inr (h.top member hmember hname)
        · exact .inl (isQuotedText_quotedLiteral member.1)
      · obtain ⟨member, hmember, rfl⟩ := List.mem_map.mp hpair
        exact ih member hmember (h.member hmember)

/-- Keys without quotes are identifier names but for two kinds: those that begin with a mark, and those
that hold a stray letter or number. When no key without quotes in a value is of these kinds, the literal
of the value is an expression. -/
theorem bare_keys_identifier_names_iff (v : Value) :
    v.Everywhere (EveryKey fun key => literalKey key = key →
      (IsIdentifierName key ↔ ¬BeginsWithMark key ∧ ¬HoldsStray key)) ∧
    (v.Everywhere (EveryKey fun key => literalKey key = key →
      ¬BeginsWithMark key ∧ ¬HoldsStray key) → IsExpression (literal v)) := by
  have hkey : ∀ key : String, literalKey key = key →
      (IsIdentifierName key ↔ ¬BeginsWithMark key ∧ ¬HoldsStray key) :=
    fun key hbare => isIdentifierName_iff (literalKey_eq_self_iff.mp hbare)
  refine ⟨Value.everywhere_of_forall (fun w => ?_) v, fun h => isExpression_literal ?_⟩
  · exact everyKey_of_forall hkey w
  · refine h.imp fun w => EveryKey.imp fun key hsound hname => ?_
    have hbare := literalKey_eq_self_iff.mpr hname
    exact (hkey key hbare).mpr (hsound hbare)

/-- A key with a hyphen stands in quotes, and the literal is an expression. -/
theorem bare_keys_identifier_names_iff_style :
    IsExpression "\x7b color: 'red', 'font-size': '12px' \x7d" := by
  have hliteral : literal (.object [("color", .string "red"), ("font-size", .string "12px")]) =
      "\x7b color: 'red', 'font-size': '12px' \x7d" := by decide +kernel
  have hletters : ['o', 'l', 'o', 'r'].all isIdContinue = true := by decide
  have hcolor : IsIdentifierName "color" :=
    ⟨'c', ['o', 'l', 'o', 'r'], rfl, .inr (.inr (by decide)),
      fun d hd => .inr (List.all_eq_true.mp hletters d hd)⟩
  have hsize : isName "font-size" = false := by decide +kernel
  rw [← hliteral]
  apply (bare_keys_identifier_names_iff _).2
  refine Value.everywhere_object.mpr ⟨fun member hmember hbare => ?_, fun member hmember => ?_⟩
  · have hname := literalKey_eq_self_iff.mp hbare
    rcases List.mem_cons.mp hmember with rfl | hmember
    · exact (isIdentifierName_iff hname).mp hcolor
    · obtain rfl := List.mem_singleton.mp hmember
      rw [hsize] at hname
      cases hname
  · rcases List.mem_cons.mp hmember with rfl | hmember
    · trivial
    · obtain rfl := List.mem_singleton.mp hmember
      trivial

/-- The members of an object begin with a text in quotes or an identifier name, and a colon behind it. -/
theorem exists_first_key {members : List (String × String)} (hne : members ≠ [])
    (keys : ∀ member ∈ members, IsQuotedText member.1 ∨ IsIdentifierName member.1) :
    ∃ key rest, (IsQuotedText key ∨ IsIdentifierName key) ∧
      (", ".intercalate (members.map fun member => member.1 ++ ": " ++ member.2)).toList =
        key.toList ++ ':' :: rest := by
  obtain ⟨⟨key, value⟩, others, rfl⟩ := List.exists_cons_of_ne_nil hne
  have hkey := keys (key, value) List.mem_cons_self
  cases others with
  | nil =>
    refine ⟨key, ' ' :: value.toList, hkey, ?_⟩
    simp [String.intercalate_singleton]
  | cons second others =>
    rw [List.map_cons, List.map_cons, String.intercalate_cons_cons]
    simp only [String.toList_append, List.append_assoc]
    exact ⟨key, _, hkey, rfl⟩

/-- Behind a brace and a blank an expression goes on with a key, or with another blank. -/
theorem IsExpression.exists_key {text : String} (h : IsExpression text) {rest : List Char}
    (htext : text.toList = '\x7b' :: ' ' :: rest) :
    rest.head? = some ' ' ∨ ∃ key behind, (IsQuotedText key ∨ IsIdentifierName key) ∧
      rest = key.toList ++ ':' :: behind := by
  cases h with
  | word h =>
    simp only [List.mem_cons, List.not_mem_nil, or_false] at h
    rcases h with rfl | rfl | rfl <;> cases htext
  | number h =>
    obtain ⟨c, cs, hcons, hc⟩ := h.exists_cons
    rw [htext] at hcons
    obtain ⟨rfl, -⟩ := List.cons.inj hcons
    exact absurd hc (by decide)
  | quoted h =>
    obtain ⟨parts, -, hparts⟩ := h
    rw [htext] at hparts
    cases hparts
  | array h =>
    rw [String.toList_append, String.toList_append] at htext
    cases htext
  | emptyObject => cases htext
  | @object members keys values =>
    cases members with
    | nil =>
      cases htext
      exact .inl rfl
    | cons member others =>
      obtain ⟨key, behind, hkey, hmembers⟩ := exists_first_key (List.cons_ne_nil member others) keys
      rw [String.toList_append, String.toList_append, hmembers, List.append_assoc,
        List.append_assoc] at htext
      obtain ⟨-, htext⟩ := List.cons.inj htext
      obtain ⟨-, htext⟩ := List.cons.inj htext
      exact .inr ⟨key, _, hkey, htext.symm⟩

/-- A key with a superscript is written without quotes and is no identifier name, and what is written
with it is no expression. -/
theorem superscript_key_not_identifierName :
    literal (.object [("a²", .number (.ofInt64 1))]) = "\x7b a²: 1 \x7d" ∧
      literalKey "a²" = "a²" ∧ ¬IsIdentifierName "a²" ∧
      ¬IsExpression "\x7b a²: 1 \x7d" := by
  have hname : isName "a²" = true := by decide +kernel
  have hstray : isStray '²' = true := by decide
  refine ⟨by decide +kernel, literalKey_eq_self_iff.mpr hname, fun h => ?_, fun h => ?_⟩
  · exact ((isIdentifierName_iff hname).mp h).2 ⟨'²', by decide, hstray⟩
  · have hchars : "\x7b a²: 1 \x7d".toList =
        ['\x7b', ' ', 'a', '²', ':', ' ', '1', ' ', '\x7d'] := by decide
    rcases h.exists_key hchars with hblank | ⟨key, behind, ⟨parts, -, hkey⟩ | hkey, htext⟩
    · cases hblank
    · rw [hkey] at htext
      cases htext
    · obtain ⟨c, rest, hcons, -, hrest⟩ := hkey
      rw [hcons] at htext
      obtain ⟨-, htext⟩ := List.cons.inj htext
      -- The colon does not stand behind the first character, and the second one is the superscript.
      cases rest with
      | nil => cases htext
      | cons d rest =>
        obtain ⟨rfl, -⟩ := List.cons.inj htext
        rcases hrest '²' List.mem_cons_self with hmark | hcontinue
        · exact absurd hmark (by decide)
        · rw [isIdContinue_of_isStray hstray] at hcontinue
          cases hcontinue

end PageSketch.Markup
