import PageSketch.Proofs.Json.Completeness
import PageSketch.Proofs.Json.NumberTexts
import PageSketch.Proofs.Markup.Breaks

/-!
# Reading expression literals back

A reader for the literals that props are bound to: words, number tokens, texts in single quotes with
their escapes, arrays, and objects whose keys are quoted or stand alone. It knows nothing of how
literals are written. The literal of a value is read to its end as the value itself, its members in
their order and each number as its printed text; so values share a literal only if they are the same
tree.
-/

namespace PageSketch

namespace Markup

open Json (Value EndsNumeral)

/-- What an expression literal says. A number is the token that stands for it. -/
inductive Expression where
  | null
  | bool (value : Bool)
  | number (token : String)
  | string (text : String)
  | array (items : List Expression)
  | object (members : List (String × Expression))

/-! ## The reader -/

/-- The character that is meant behind a backslash. -/
def literalEscape? (c : Char) : Option Char :=
  if c = '\\' then some '\\'
  else if c = '\'' then some '\''
  else if c = 'n' then some '\n'
  else if c = 'r' then some '\r'
  else none

/-- Reads a text behind its opening quote; also gives what stands behind the closing one. A line
break ends the text too early. -/
def readQuoted : List Char → Option (List Char × List Char)
  | [] => none
  | '\'' :: rest => some ([], rest)
  | '\\' :: e :: rest =>
    (literalEscape? e).bind fun c => (readQuoted rest).map fun read => (c :: read.1, read.2)
  | c :: rest =>
    if c = '\\' ∨ c = '\n' ∨ c = '\r' then none
    else (readQuoted rest).map fun read => (c :: read.1, read.2)

/-- Reads a word behind its first character. -/
def readRest (word : String) (e : Expression) (cs : List Char) : Option (Expression × List Char) :=
  (word.toList.isPrefixOf? cs).map fun rest => (e, rest)

/-- Reads a number token, the longest numeral at the beginning. -/
def readNumber (cs : List Char) : Option (Expression × List Char) :=
  match Json.readNumeral 0 cs with
  | .ok (_, behind) =>
    some (.number (String.ofList (cs.take (cs.length - behind.rest.length))), behind.rest)
  | .error _ => none

/-- Reads the key of a member: a text in quotes, or all characters up to one that is in no name. -/
def readKey : List Char → Option (String × List Char)
  | '\'' :: rest => (readQuoted rest).map fun read => (String.ofList read.1, read.2)
  | cs =>
    if (cs.takeWhile continuesName).isEmpty then none
    else some (String.ofList (cs.takeWhile continuesName), cs.dropWhile continuesName)

mutual

/-- Reads a literal; also gives what stands behind it. The first number bounds the work: every step
takes at least one character. -/
def readLiteral : Nat → List Char → Option (Expression × List Char)
  | 0, _ => none
  | _ + 1, [] => none
  | fuel + 1, c :: cs =>
    if c = 't' then readRest "rue" (.bool true) cs
    else if c = 'f' then readRest "alse" (.bool false) cs
    else if c = 'n' then readRest "ull" .null cs
    else if c = '\'' then
      (readQuoted cs).map fun read => (.string (String.ofList read.1), read.2)
    else if c = '[' then
      if cs.head? = some ']' then some (.array [], cs.tail)
      else (readItems fuel cs).map fun read => (.array read.1, read.2)
    else if c = '\x7b' then
      if cs.head? = some '\x7d' then some (.object [], cs.tail)
      else if cs.head? = some ' ' then
        (readMembers fuel cs.tail).map fun read => (.object read.1, read.2)
      else none
    else readNumber (c :: cs)

/-- Reads the items of an array from one on, up to the closing bracket. -/
def readItems : Nat → List Char → Option (List Expression × List Char)
  | 0, _ => none
  | fuel + 1, cs =>
    (readLiteral fuel cs).bind fun item =>
      match item.2 with
      | ']' :: rest => some ([item.1], rest)
      | ',' :: ' ' :: rest => (readItems fuel rest).map fun read => (item.1 :: read.1, read.2)
      | _ => none

/-- Reads the members of an object from one on, up to the closing brace. -/
def readMembers : Nat → List Char → Option (List (String × Expression) × List Char)
  | 0, _ => none
  | fuel + 1, cs =>
    (readKey cs).bind fun key =>
      match key.2 with
      | ':' :: ' ' :: behind =>
        (readLiteral fuel behind).bind fun value =>
          match value.2 with
          | ' ' :: '\x7d' :: rest => some ([(key.1, value.1)], rest)
          | ',' :: ' ' :: rest =>
            (readMembers fuel rest).map fun read => ((key.1, value.1) :: read.1, read.2)
          | _ => none
      | _ => none

end

/-- Reads a text that is one literal and nothing else. -/
def readExpression? (text : String) : Option Expression :=
  match readLiteral text.toList.length text.toList with
  | some (e, []) => some e
  | _ => none

end Markup

namespace Json.Value

open Markup

mutual

/-- A value as an expression: each number becomes its printed text. -/
def expression : Value → Expression
  | .null => .null
  | .bool b => .bool b
  | .number n => .number n.text
  | .string s => .string s
  | .array items => .array (expressions items)
  | .object members => .object (memberExpressions members)

/-- `expression` on every item. -/
def expressions : List Value → List Expression
  | [] => []
  | item :: rest => expression item :: expressions rest

/-- `expression` on the value of every member. -/
def memberExpressions : List (String × Value) → List (String × Expression)
  | [] => []
  | (key, value) :: rest => (key, expression value) :: memberExpressions rest

end

end Json.Value

namespace Markup

open Json (Value EndsNumeral)

/-! ## Items and members -/

/-- The items of a literal stand between commas. -/
theorem literalItems_eq_intercalate (items : List Value) :
    literalItems items = ", ".intercalate (items.map literal) := by
  induction items with
  | nil => rfl
  | cons item rest ih =>
    cases rest with
    | nil =>
      rw [literalItems]
      exact (String.intercalate_singleton).symm
    | cons next rest =>
      rw [literalItems, ih]
      · simp only [List.map_cons, String.intercalate_cons_cons]
      · simp

/-- The members of a literal stand between commas. -/
theorem literalMembers_eq_intercalate (members : List (String × Value)) :
    literalMembers members =
      ", ".intercalate (members.map fun member => literalKey member.1 ++ ": " ++ literal member.2) := by
  induction members with
  | nil => rfl
  | cons member rest ih =>
    cases rest with
    | nil =>
      rw [literalMembers]
      exact (String.intercalate_singleton).symm
    | cons next rest =>
      rw [literalMembers, ih]
      · simp only [List.map_cons, String.intercalate_cons_cons]
      · simp

/-! ## Tokens -/

/-- A character that needs no escape is read as itself. -/
theorem readQuoted_plain {c : Char} (hquote : c ≠ '\'')
    (hother : ¬(c = '\\' ∨ c = '\n' ∨ c = '\r')) (rest : List Char) :
    readQuoted (c :: rest) = (readQuoted rest).map fun read => (c :: read.1, read.2) := by
  rw [readQuoted]
  · exact if_neg hother
  · exact hquote
  · intro e rest' h
    exact absurd (.inl h) hother

/-- An escape is read as the character that it means. -/
theorem readQuoted_escape {e c : Char} (he : literalEscape? e = some c) (rest : List Char) :
    readQuoted ('\\' :: e :: rest) = (readQuoted rest).map fun read => (c :: read.1, read.2) := by
  rw [readQuoted, he, Option.bind_some]

/-- A character is read from what is written for it. -/
theorem readQuoted_literalChar (c : Char) (rest : List Char) :
    readQuoted (literalChar c ++ rest) = (readQuoted rest).map fun read => (c :: read.1, read.2) := by
  unfold literalChar
  split
  · rename_i hc
    rw [hc]
    exact readQuoted_escape (by decide) rest
  split
  · rename_i hc
    rw [hc]
    exact readQuoted_escape (by decide) rest
  split
  · rename_i hc
    rw [hc]
    exact readQuoted_escape (by decide) rest
  split
  · rename_i hc
    rw [hc]
    exact readQuoted_escape (by decide) rest
  · rename_i hbackslash hquote hnewline hreturn
    refine readQuoted_plain hquote ?_ rest
    rintro (h | h | h)
    · exact hbackslash h
    · exact hnewline h
    · exact hreturn h

/-- A text is read back from what is written for it up to the closing quote, whatever follows. -/
theorem readQuoted_quotedLiteral (text rest : List Char) :
    readQuoted (text.flatMap literalChar ++ '\'' :: rest) = some (text, rest) := by
  induction text with
  | nil => rfl
  | cons c text ih => rw [List.flatMap_cons, List.append_assoc, readQuoted_literalChar, ih]; rfl

/-- The characters of a text in single quotes. -/
theorem toList_quotedLiteral (text : String) :
    (quotedLiteral text).toList = '\'' :: (text.toList.flatMap literalChar ++ ['\'']) := by
  simp [quotedLiteral]

/-- The characters of a name continue a name. -/
theorem continuesName_of_isName {key : String} (h : isName key = true) :
    key.toList ≠ [] ∧ ∀ c ∈ key.toList, continuesName c = true := by
  unfold isName at h
  split at h
  · exact absurd h Bool.false_ne_true
  · rename_i c rest hcons
    rw [Bool.and_eq_true, List.all_eq_true] at h
    rw [hcons]
    refine ⟨List.cons_ne_nil c rest, List.forall_mem_cons.mpr ⟨?_, h.2⟩⟩
    have hbegin := h.1
    simp only [beginsName, continuesName, Text.isAlphanumeric, Bool.or_eq_true] at hbegin ⊢
    tauto

/-- A key is read back up to what is in no name. -/
theorem readKey_literalKey (key : String) {c : Char} (hc : continuesName c = false)
    (rest : List Char) :
    readKey ((literalKey key).toList ++ c :: rest) = some (key, c :: rest) := by
  unfold literalKey
  split
  · rename_i hname
    obtain ⟨hne, hall⟩ := continuesName_of_isName hname
    have htake : (key.toList ++ c :: rest).takeWhile continuesName = key.toList := by
      rw [List.takeWhile_append_of_pos hall, List.takeWhile_cons_of_neg (by simp [hc]),
        List.append_nil]
    have hdrop : (key.toList ++ c :: rest).dropWhile continuesName = c :: rest := by
      rw [List.dropWhile_append_of_pos hall, List.dropWhile_cons_of_neg (by simp [hc])]
    obtain ⟨first, others, hcons⟩ := List.exists_cons_of_ne_nil hne
    have hfirst : first ≠ '\'' := by
      rintro rfl
      have hquote : continuesName '\'' = true := hall _ (by rw [hcons]; exact List.mem_cons_self)
      exact absurd hquote (by decide +kernel)
    rw [readKey]
    · rw [htake, hdrop, if_neg (by simpa using hne), String.ofList_toList]
    · intro rest' hrest'
      rw [hcons, List.cons_append] at hrest'
      exact hfirst (List.cons.inj hrest').1
  · rw [toList_quotedLiteral, List.cons_append, List.append_assoc, readKey,
      List.singleton_append, readQuoted_quotedLiteral, Option.map_some, String.ofList_toList]

/-! ## Literals -/

/-- Whether characters are read as an expression, whatever stands behind them, as long as it does not
continue a number. -/
def Reads (text : List Char) (e : Expression) : Prop :=
  ∀ fuel rest, text.length ≤ fuel → EndsNumeral rest →
    readLiteral fuel (text ++ rest) = some (e, rest)

/-- A text in quotes is read. -/
theorem reads_quotedLiteral (text : String) : Reads (quotedLiteral text).toList (.string text) := by
  intro fuel rest hfuel _
  rw [toList_quotedLiteral] at hfuel ⊢
  cases fuel with
  | zero => exact absurd hfuel (by simp)
  | succ fuel => simp [readLiteral, readQuoted_quotedLiteral]

/-- A number is read. -/
theorem reads_number (n : Json.Number) : Reads n.text.toList (.number n.text) := by
  intro fuel rest hfuel hrest
  obtain ⟨numeral, htext⟩ := n.exists_numeralText
  obtain ⟨c, cs, hcons, hc⟩ := htext.exists_cons
  obtain ⟨stop, hread⟩ := Json.readNumeral_of_numeralText htext hrest 0
  have hnumber : readNumber (n.text.toList ++ rest) = some (.number n.text, rest) := by
    simp [readNumber, hread]
  have hmarks : ∀ mark ∈ ['t', 'f', 'n', '\'', '[', '\x7b'], c ≠ mark := by
    intro mark hmark
    rintro rfl
    rcases hc with rfl | hdigit
    · exact absurd hmark (by decide)
    · simp only [List.mem_cons, List.not_mem_nil, or_false] at hmark
      rcases hmark with rfl | rfl | rfl | rfl | rfl | rfl <;> exact absurd hdigit (by decide)
  rw [hcons] at hfuel hnumber ⊢
  cases fuel with
  | zero => exact absurd hfuel (by simp)
  | succ fuel =>
    rw [List.cons_append] at hnumber ⊢
    rw [readLiteral, if_neg (hmarks _ (by simp)), if_neg (hmarks _ (by simp)),
      if_neg (hmarks _ (by simp)), if_neg (hmarks _ (by simp)), if_neg (hmarks _ (by simp)),
      if_neg (hmarks _ (by simp)), hnumber]

/-- Items are read up to their closing bracket. -/
def ReadItems (text : List Char) (items : List Expression) : Prop :=
  ∀ fuel rest, text.length < fuel → readItems fuel (text ++ ']' :: rest) = some (items, rest)

/-- Members are read up to their closing brace. -/
def ReadMembers (text : List Char) (members : List (String × Expression)) : Prop :=
  ∀ fuel rest, text.length < fuel →
    readMembers fuel (text ++ ' ' :: '\x7d' :: rest) = some (members, rest)

section

variable {text text' : List Char} {e : Expression} {items : List Expression}
  {members : List (String × Expression)}

/-- A last item. -/
theorem Reads.last (h : Reads text e) : ReadItems text [e] := by
  intro fuel rest hfuel
  have hends : EndsNumeral (']' :: rest) := by simp [EndsNumeral, isDigit]
  cases fuel with
  | zero => exact absurd hfuel (Nat.not_lt_zero _)
  | succ fuel =>
    rw [readItems, h fuel _ (Nat.lt_succ_iff.mp hfuel) hends]
    rfl

/-- An item before others. -/
theorem Reads.comma (h : Reads text e) (h' : ReadItems text' items) :
    ReadItems (text ++ ',' :: ' ' :: text') (e :: items) := by
  intro fuel rest hfuel
  have hends : EndsNumeral (',' :: ' ' :: (text' ++ ']' :: rest)) := by simp [EndsNumeral, isDigit]
  rw [List.length_append, List.length_cons, List.length_cons] at hfuel
  cases fuel with
  | zero => exact absurd hfuel (Nat.not_lt_zero _)
  | succ fuel =>
    rw [List.append_assoc, List.cons_append, List.cons_append, readItems,
      h fuel _ (by omega) hends, Option.bind_some]
    simp only
    rw [h' fuel rest (by omega)]
    rfl

/-- Items in brackets. -/
theorem ReadItems.array (h : ReadItems text items) {c : Char} (hhead : text.head? = some c)
    (hc : c ≠ ']') : Reads ('[' :: (text ++ [']'])) (.array items) := by
  intro fuel rest hfuel _
  simp only [List.length_append, List.length_cons] at hfuel
  cases fuel with
  | zero => exact absurd hfuel (by omega)
  | succ fuel => simp [readLiteral, hhead, hc, h fuel rest (by omega)]

/-- A last member. -/
theorem Reads.lastMember (key : String) (h : Reads text e) :
    ReadMembers ((literalKey key).toList ++ ':' :: ' ' :: text) [(key, e)] := by
  intro fuel rest hfuel
  have hends : EndsNumeral (' ' :: '\x7d' :: rest) := by simp [EndsNumeral, isDigit]
  rw [List.length_append, List.length_cons, List.length_cons] at hfuel
  cases fuel with
  | zero => exact absurd hfuel (Nat.not_lt_zero _)
  | succ fuel =>
    rw [List.append_assoc, List.cons_append, List.cons_append, readMembers,
      readKey_literalKey key (by decide +kernel), Option.bind_some]
    simp only
    rw [h fuel _ (by omega) hends]
    rfl

/-- A member before others. -/
theorem Reads.commaMember (key : String) (h : Reads text e) (h' : ReadMembers text' members) :
    ReadMembers ((literalKey key).toList ++ ':' :: ' ' :: (text ++ ',' :: ' ' :: text'))
      ((key, e) :: members) := by
  intro fuel rest hfuel
  have hends : EndsNumeral (',' :: ' ' :: (text' ++ ' ' :: '\x7d' :: rest)) := by
    simp [EndsNumeral, isDigit]
  simp only [List.length_append, List.length_cons] at hfuel
  cases fuel with
  | zero => exact absurd hfuel (Nat.not_lt_zero _)
  | succ fuel =>
    rw [List.append_assoc, List.cons_append, List.cons_append, List.append_assoc,
      List.cons_append, List.cons_append, readMembers,
      readKey_literalKey key (by decide +kernel), Option.bind_some]
    simp only
    rw [h fuel _ (by omega) hends, Option.bind_some]
    simp only
    rw [h' fuel rest (by omega)]
    rfl

/-- Members in braces. -/
theorem ReadMembers.object (h : ReadMembers text members) :
    Reads ('\x7b' :: ' ' :: (text ++ [' ', '\x7d'])) (.object members) := by
  intro fuel rest hfuel _
  simp only [List.length_append, List.length_cons] at hfuel
  cases fuel with
  | zero => exact absurd hfuel (by omega)
  | succ fuel =>
    simp [readLiteral, h fuel rest (by omega)]

end

/-- A literal begins with a character that closes no array. -/
theorem head_literal (v : Value) : ∃ c, (literal v).toList.head? = some c ∧ c ≠ ']' := by
  match v with
  | .null | .bool true | .bool false | .object [] =>
    rw [literal]
    exact ⟨_, rfl, by decide⟩
  | .number n =>
    obtain ⟨numeral, htext⟩ := n.exists_numeralText
    obtain ⟨c, cs, hcons, hc⟩ := htext.exists_cons
    rw [literal, hcons]
    refine ⟨c, rfl, ?_⟩
    rintro rfl
    exact absurd hc (by decide)
  | .string text =>
    rw [literal, toList_quotedLiteral]
    exact ⟨_, rfl, by decide⟩
  | .array items =>
    rw [literal]
    exact ⟨'[', by simp, by decide⟩
  | .object (member :: rest) =>
    rw [literal]
    exact ⟨'\x7b', by simp, by decide⟩

/-- So do items. -/
theorem head_literalItems (item : Value) (rest : List Value) :
    ∃ c, (literalItems (item :: rest)).toList.head? = some c ∧ c ≠ ']' := by
  obtain ⟨c, hhead, hc⟩ := head_literal item
  refine ⟨c, ?_, hc⟩
  cases rest with
  | nil => rwa [literalItems]
  | cons next rest =>
    rw [literalItems]
    · simp [hhead]
    · simp

mutual

/-- The literal of a value is read as the value. -/
theorem reads_literal (v : Value) : Reads (literal v).toList v.expression := by
  match v with
  | .null | .bool true | .bool false | .object [] =>
    intro fuel rest hfuel _
    rw [literal] at hfuel ⊢
    cases fuel with
    | zero => exact absurd hfuel (by decide)
    | succ fuel => rfl
  | .number n =>
    rw [literal, Value.expression]
    exact reads_number n
  | .string text =>
    rw [literal, Value.expression]
    exact reads_quotedLiteral text
  | .array [] =>
    intro fuel rest hfuel _
    cases fuel with
    | zero => exact absurd hfuel (by decide)
    | succ fuel => rfl
  | .array (item :: rest) =>
    obtain ⟨c, hhead, hc⟩ := head_literalItems item rest
    rw [literal, Value.expression]
    simpa using (readItems_literalItems (item :: rest) (List.cons_ne_nil item rest)).array hhead hc
  | .object (member :: rest) =>
    rw [literal, Value.expression]
    simpa using
      (readMembers_literalMembers (member :: rest) (List.cons_ne_nil member rest)).object

/-- Items are read as the items. -/
theorem readItems_literalItems (items : List Value) (hne : items ≠ []) :
    ReadItems (literalItems items).toList (Value.expressions items) := by
  match items with
  | [] => exact absurd rfl hne
  | [item] =>
    rw [literalItems, Value.expressions, Value.expressions]
    exact (reads_literal item).last
  | item :: next :: rest =>
    have hrest := readItems_literalItems (next :: rest) (List.cons_ne_nil next rest)
    rw [literalItems, Value.expressions]
    · simpa using (reads_literal item).comma hrest
    · simp

/-- Members are read as the members. -/
theorem readMembers_literalMembers (members : List (String × Value)) (hne : members ≠ []) :
    ReadMembers (literalMembers members).toList (Value.memberExpressions members) := by
  match members with
  | [] => exact absurd rfl hne
  | [(key, value)] =>
    rw [literalMembers, Value.memberExpressions, Value.memberExpressions]
    simpa using (reads_literal value).lastMember key
  | (key, value) :: next :: rest =>
    have hrest := readMembers_literalMembers (next :: rest) (List.cons_ne_nil next rest)
    rw [literalMembers, Value.memberExpressions]
    · simpa using (reads_literal value).commaMember key hrest
    · simp

end

/-- The literal of a value is read to its end as the value. -/
theorem readExpression?_literal (v : Value) : readExpression? (literal v) = some v.expression := by
  have hnil : EndsNumeral [] := by simp [EndsNumeral]
  have hread := reads_literal v (literal v).toList.length [] le_rfl hnil
  rw [List.append_nil] at hread
  rw [readExpression?, hread]

/-! ## Values that share a literal -/

mutual

/-- The expression of a value is that of no other value. -/
theorem expression_injective (v w : Value) (h : v.expression = w.expression) : v = w := by
  -- Different constructors have different expressions; what is left are pairs of one constructor.
  cases v <;> cases w <;> simp only [Value.expression, reduceCtorEq] at h
  case null.null => rfl
  case bool.bool b c =>
    rw [Expression.bool.inj h]
  case number.number n m =>
    rw [Json.Number.text_injective (Expression.number.inj h)]
  case string.string s t =>
    rw [Expression.string.inj h]
  case array.array items others =>
    rw [expressions_injective items others (Expression.array.inj h)]
  case object.object members others =>
    rw [memberExpressions_injective members others (Expression.object.inj h)]

/-- The same of items. -/
theorem expressions_injective (items others : List Value)
    (h : Value.expressions items = Value.expressions others) : items = others := by
  match items, others with
  | [], [] => rfl
  | [], _ :: _ | _ :: _, [] => exact absurd h (by simp [Value.expressions])
  | item :: rest, other :: rest' =>
    rw [Value.expressions, Value.expressions] at h
    obtain ⟨hitem, hrest⟩ := List.cons.inj h
    rw [expression_injective item other hitem, expressions_injective rest rest' hrest]

/-- The same of members. -/
theorem memberExpressions_injective (members others : List (String × Value))
    (h : Value.memberExpressions members = Value.memberExpressions others) : members = others := by
  match members, others with
  | [], [] => rfl
  | [], _ :: _ | _ :: _, [] => exact absurd h (by simp [Value.memberExpressions])
  | (key, value) :: rest, (key', value') :: rest' =>
    rw [Value.memberExpressions, Value.memberExpressions] at h
    obtain ⟨hmember, hrest⟩ := List.cons.inj h
    obtain ⟨hkey, hvalue⟩ := Prod.mk.inj hmember
    rw [hkey, expression_injective value value' hvalue,
      memberExpressions_injective rest rest' hrest]

end

/-- Values share a literal only if their expressions are the same. -/
theorem expression_eq_of_literal_eq {v w : Value} (h : literal v = literal w) :
    v.expression = w.expression := by
  have hread := readExpression?_literal v
  rw [h, readExpression?_literal w] at hread
  exact (Option.some.inj hread).symm

/-- No two values share a literal. -/
theorem literal_injective : Function.Injective literal :=
  fun v w h => expression_injective v w (expression_eq_of_literal_eq h)

/-- The literal means the value: it is read to its end as the value, its members in their order and
each number as its printed text. Values share a literal exactly if they are the same tree, no text
ends its quotes early, and no literal breaks its line. -/
theorem literal_means_value :
    (∀ v, readExpression? (literal v) = some v.expression) ∧
    (∀ v w, literal v = literal w ↔ v.expression = w.expression) ∧
    (∀ text rest : List Char,
      readQuoted (text.flatMap literalChar ++ '\'' :: rest) = some (text, rest)) ∧
    ∀ v, '\n' ∉ (literal v).toList ∧ '\r' ∉ (literal v).toList := by
  refine ⟨readExpression?_literal, ?_, readQuoted_quotedLiteral, ?_⟩
  · intro v w
    constructor
    · exact expression_eq_of_literal_eq
    · intro h
      rw [expression_injective v w h]
  · intro v
    exact ⟨break_not_mem_literal (.inl rfl) v, break_not_mem_literal (.inr rfl) v⟩

end Markup

end PageSketch
