import PageSketch.Json.Reader

/-!
# The grammar of JSON texts

A JSON text spells a literal: a value whose numbers are still numerals and whose objects keep the
order of the text and every repeated key. `DocumentText` says which characters spell which literal.
A literal has a value when all its numerals are in range. The grammar says nothing of offsets, of
faults or of how far a reader looks ahead.
-/

namespace PageSketch.Json

/-! ## Literals -/

/-- A JSON value as it is written: its numbers are numerals. -/
inductive Literal where
  | null
  | bool (value : Bool)
  | number (numeral : Numeral)
  | string (value : String)
  | array (items : List Literal)
  | object (members : List (String × Literal))

namespace Literal

mutual

/-- The value of a literal; none when a numeral is out of range. -/
def value? : Literal → Option Value
  | .null => some .null
  | .bool b => some (.bool b)
  | .number numeral => numeral.value?.map .number
  | .string s => some (.string s)
  | .array items => (itemValues? items).map .array
  | .object members => (memberValues? members).map .object

/-- The values of the items. -/
def itemValues? : List Literal → Option (List Value)
  | [] => some []
  | item :: rest => (value? item).bind fun v => (itemValues? rest).map (v :: ·)

/-- The keys and values of the members. -/
def memberValues? : List (String × Literal) → Option (List (String × Value))
  | [] => some []
  | (key, value) :: rest =>
    (value? value).bind fun v => (memberValues? rest).map ((key, v) :: ·)

end

mutual

/-- How many arrays and objects of a literal stand within each other. -/
def nesting : Literal → Nat
  | .array items => itemNesting items + 1
  | .object members => memberNesting members + 1
  | .null => 0
  | .bool _ => 0
  | .number _ => 0
  | .string _ => 0

/-- The greatest nesting of the items. -/
def itemNesting : List Literal → Nat
  | [] => 0
  | item :: rest => max (nesting item) (itemNesting rest)

/-- The greatest nesting of the members. -/
def memberNesting : List (String × Literal) → Nat
  | [] => 0
  | (_, value) :: rest => max (nesting value) (memberNesting rest)

end

end Literal

/-! ## Tokens -/

/-- Whether the characters are blanks that may stand between tokens. -/
def AreBlanks (cs : List Char) : Prop := ∀ c ∈ cs, isJsonBlank c = true

/-- Nothing at all is blanks. -/
theorem areBlanks_nil : AreBlanks [] := by simp [AreBlanks]

/-- Blanks behind blanks are blanks. -/
theorem AreBlanks.append {cs cs' : List Char} (h : AreBlanks cs) (h' : AreBlanks cs') :
    AreBlanks (cs ++ cs') := by
  intro c hc
  rcases List.mem_append.mp hc with hc | hc
  · exact h c hc
  · exact h' c hc

/-- Whether the characters are digits. -/
def AreDigits (ds : List Char) : Prop := ∀ d ∈ ds, isDigit d = true

/-- Digits behind digits are digits. -/
theorem AreDigits.append {ds ds' : List Char} (h : AreDigits ds) (h' : AreDigits ds') :
    AreDigits (ds ++ ds') := by
  intro d hd
  rcases List.mem_append.mp hd with hd | hd
  · exact h d hd
  · exact h' d hd

/-- The digits before the point: a zero alone, or digits of which the first is another one. -/
inductive WholeText : List Char → Prop
  | zero : WholeText ['0']
  | digits {d : Char} {ds : List Char} (digit : isDigit d = true) (ne : d ≠ '0')
      (rest : AreDigits ds) : WholeText (d :: ds)

/-- The fraction of a numeral: nothing, or a point and at least one digit. -/
inductive FractionText : List Char → List Char → Prop
  | absent : FractionText [] []
  | digits {ds : List Char} (ne : ds ≠ []) (digits : AreDigits ds) : FractionText ('.' :: ds) ds

/-- The exponent of a numeral: nothing, or a mark, an optional sign and at least one digit. -/
inductive ExponentText : List Char → Option Exponent → Prop
  | absent : ExponentText [] none
  | bare {e : Char} {ds : List Char} (mark : e = 'e' ∨ e = 'E') (ne : ds ≠ [])
      (digits : AreDigits ds) : ExponentText (e :: ds) (some ⟨false, ds⟩)
  | plus {e : Char} {ds : List Char} (mark : e = 'e' ∨ e = 'E') (ne : ds ≠ [])
      (digits : AreDigits ds) : ExponentText (e :: '+' :: ds) (some ⟨false, ds⟩)
  | minus {e : Char} {ds : List Char} (mark : e = 'e' ∨ e = 'E') (ne : ds ≠ [])
      (digits : AreDigits ds) : ExponentText (e :: '-' :: ds) (some ⟨true, ds⟩)

/-- The sign of a numeral. -/
def signText (negative : Bool) : List Char := if negative then ['-'] else []

/-- A numeral: an optional minus, the digits before the point, the fraction and the exponent. -/
inductive NumeralText : List Char → Numeral → Prop
  | mk {negative : Bool} {whole fraction digits exponent : List Char} {power : Option Exponent}
      (wholeText : WholeText whole) (fractionText : FractionText fraction digits)
      (exponentText : ExponentText exponent power) :
      NumeralText (signText negative ++ (whole ++ (fraction ++ exponent)))
        ⟨negative, whole, digits, power⟩

/-- A numeral is written with digits, signs, a point and the marks of an exponent. -/
theorem NumeralText.isDigit_or_mem {text : List Char} {numeral : Numeral}
    (h : NumeralText text numeral) {c : Char} (hc : c ∈ text) :
    isDigit c = true ∨ c ∈ ['-', '+', '.', 'e', 'E'] := by
  obtain @⟨negative, whole, fraction, digits, exponent, power, wholeText, fractionText,
    exponentText⟩ := h
  simp only [List.mem_append] at hc
  rcases hc with hc | hc | hc | hc
  · cases negative with
    | false => exact nomatch hc
    | true => exact .inr (by rw [List.mem_singleton.mp hc]; decide)
  · cases wholeText with
    | zero => exact .inl (by rw [List.mem_singleton.mp hc]; decide)
    | digits digit ne rest =>
      rcases List.mem_cons.mp hc with rfl | hc
      · exact .inl digit
      · exact .inl (rest c hc)
  · cases fractionText with
    | absent => exact nomatch hc
    | digits ne digits =>
      rcases List.mem_cons.mp hc with rfl | hc
      · exact .inr (by decide)
      · exact .inl (digits c hc)
  · cases exponentText with
    | absent => exact nomatch hc
    | bare mark ne digits =>
      rcases List.mem_cons.mp hc with rfl | hc
      · rcases mark with rfl | rfl <;> exact .inr (by decide)
      · exact .inl (digits c hc)
    | plus mark ne digits | minus mark ne digits =>
      rcases List.mem_cons.mp hc with rfl | hc
      · rcases mark with rfl | rfl <;> exact .inr (by decide)
      · rcases List.mem_cons.mp hc with rfl | hc
        · exact .inr (by decide)
        · exact .inl (digits c hc)

/-- What stands between the quotes of a string, and its characters. A character stands for itself
unless it is a quote, a backslash or a control character; an escape stands for one character, and
so do two escapes of a pair of surrogates. -/
inductive StringText : List Char → List Char → Prop
  | nil : StringText [] []
  | plain {c : Char} {text cs : List Char} (quote : c ≠ '"') (backslash : c ≠ '\\')
      (control : 0x20 ≤ c.toNat) (rest : StringText text cs) : StringText (c :: text) (c :: cs)
  | escape {e c : Char} {text cs : List Char} (escape : shortEscape? e = some c)
      (rest : StringText text cs) : StringText ('\\' :: e :: text) (c :: cs)
  | code {a b c d : Char} {n : Nat} {text cs : List Char} (code : hexCode? a b c d = some n)
      (high : isHighSurrogate n = false) (low : isLowSurrogate n = false)
      (rest : StringText text cs) :
      StringText ('\\' :: 'u' :: a :: b :: c :: d :: text) (Char.ofNat n :: cs)
  | pair {a b c d a' b' c' d' : Char} {m n : Nat} {text cs : List Char}
      (highCode : hexCode? a b c d = some m) (lowCode : hexCode? a' b' c' d' = some n)
      (high : isHighSurrogate m = true) (low : isLowSurrogate n = true)
      (rest : StringText text cs) :
      StringText
        ('\\' :: 'u' :: a :: b :: c :: d :: '\\' :: 'u' :: a' :: b' :: c' :: d' :: text)
        (joinSurrogates m n :: cs)

/-! ## Values -/

mutual

/-- A value, without blanks around it. -/
inductive ValueText : List Char → Literal → Prop
  | nullWord : ValueText ['n', 'u', 'l', 'l'] .null
  | trueWord : ValueText ['t', 'r', 'u', 'e'] (.bool true)
  | falseWord : ValueText ['f', 'a', 'l', 's', 'e'] (.bool false)
  | number {text : List Char} {numeral : Numeral} (numeralText : NumeralText text numeral) :
      ValueText text (.number numeral)
  | string {text cs : List Char} (stringText : StringText text cs) :
      ValueText ('"' :: (text ++ ['"'])) (.string (String.ofList cs))
  | emptyArray {blanks : List Char} (areBlanks : AreBlanks blanks) :
      ValueText ('[' :: (blanks ++ [']'])) (.array [])
  | array {first rest : List Char} {item : Literal} {items : List Literal}
      (itemText : ElementText first item) (itemsText : ItemsText rest items) :
      ValueText ('[' :: (first ++ rest)) (.array (item :: items))
  | emptyObject {blanks : List Char} (areBlanks : AreBlanks blanks) :
      ValueText ('\x7b' :: (blanks ++ ['\x7d'])) (.object [])
  | object {first rest : List Char} {member : String × Literal}
      {members : List (String × Literal)} (memberText : MemberText first member)
      (membersText : MembersText rest members) :
      ValueText ('\x7b' :: (first ++ rest)) (.object (member :: members))

/-- A value behind blanks. -/
inductive ElementText : List Char → Literal → Prop
  | mk {blanks text : List Char} {value : Literal} (areBlanks : AreBlanks blanks)
      (valueText : ValueText text value) : ElementText (blanks ++ text) value

/-- The rest of an array behind an item. -/
inductive ItemsText : List Char → List Literal → Prop
  | close {blanks : List Char} (areBlanks : AreBlanks blanks) : ItemsText (blanks ++ [']']) []
  | item {blanks text rest : List Char} {item : Literal} {items : List Literal}
      (areBlanks : AreBlanks blanks) (itemText : ElementText text item)
      (itemsText : ItemsText rest items) :
      ItemsText (blanks ++ ',' :: (text ++ rest)) (item :: items)

/-- A member of an object behind blanks. -/
inductive MemberText : List Char → String × Literal → Prop
  | mk {blanks key cs colon text : List Char} {value : Literal} (areBlanks : AreBlanks blanks)
      (keyText : StringText key cs) (colonBlanks : AreBlanks colon)
      (valueText : ElementText text value) :
      MemberText (blanks ++ '"' :: (key ++ '"' :: (colon ++ ':' :: text)))
        (String.ofList cs, value)

/-- The rest of an object behind a member. -/
inductive MembersText : List Char → List (String × Literal) → Prop
  | close {blanks : List Char} (areBlanks : AreBlanks blanks) :
      MembersText (blanks ++ ['\x7d']) []
  | member {blanks text rest : List Char} {member : String × Literal}
      {members : List (String × Literal)} (areBlanks : AreBlanks blanks)
      (memberText : MemberText text member) (membersText : MembersText rest members) :
      MembersText (blanks ++ ',' :: (text ++ rest)) (member :: members)

end

/-- A whole text: a value with blanks around it. -/
inductive DocumentText : List Char → Literal → Prop
  | mk {text blanks : List Char} {value : Literal} (valueText : ElementText text value)
      (areBlanks : AreBlanks blanks) : DocumentText (text ++ blanks) value

end PageSketch.Json
