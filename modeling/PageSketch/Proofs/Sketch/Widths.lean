import PageSketch.Proofs.Json.Quantities
import PageSketch.Proofs.Json.Rereading
import PageSketch.Proofs.Sketch.Reading
import PageSketch.Proofs.Text.Blank

/-!
# Widths are exact

A number stands for a width exactly when the quantity that it is, taken as a rational number, is a
whole number of 64 signed bits: nothing is rounded, wrapped or cut off. A text that spells a number
stands for the width of that number, although a text is tried as a whole number first. And whatever
stands in the place of a width, the component is accepted.
-/

namespace PageSketch

open Json

/-! ## Widths of texts -/

/-- A number stands for the width that is equal to the quantity. -/
theorem spanOfNumber_eq_some_iff {number : Number} {width : Int64} :
    spanOfNumber number = some width ↔ number.quantity = width.toInt := by
  simp only [spanOfNumber, Option.bind_eq_some_iff, Number.toInt?_eq_some_iff, int64?_eq_some_iff]
  constructor
  · rintro ⟨n, hn, rfl⟩
    exact hn
  · intro h
    exact ⟨_, h, rfl⟩

/-- A numeral has no blanks. -/
theorem Json.NumeralText.isBlank {text : List Char} {numeral : Numeral}
    (h : NumeralText text numeral) {c : Char} (hc : c ∈ text) : Text.isBlank c = false := by
  cases hblank : Text.isBlank c with
  | false => rfl
  | true =>
    rcases h.isDigit_or_mem hc with hdigit | hmark
    · rw [Text.isDigit_of_isBlank hblank] at hdigit
      cases hdigit
    · have hmarks : ['-', '+', '.', 'e', 'E'].all (fun d => !Text.isBlank d) = true := by decide
      simpa [hblank] using List.all_eq_true.mp hmarks c hmark

/-- A numeral between blanks stands for the width of its value. -/
theorem spanOfText_of_numeral {lead text trail : List Char} {numeral : Numeral} {number : Number}
    (htext : NumeralText text numeral) (hvalue : numeral.value? = some number)
    (hlead : ∀ c ∈ lead, Text.isBlank c = true) (htrail : ∀ c ∈ trail, Text.isBlank c = true) :
    spanOfText (String.ofList (lead ++ (text ++ trail))) = spanOfNumber number := by
  have htrimmed : Text.Trimmed text := Text.trimmed_of_forall fun c hc => htext.isBlank hc
  have hwhole : wholeNumber? text = some number := wholeNumber?_eq_some_iff.mpr ⟨_, htext, hvalue⟩
  rw [spanOfText, String.toList_ofList, htrimmed.trimChars_append hlead htrail, hwhole,
    Option.bind_some]
  cases hread : readInt64? text with
  | none => rfl
  | some width =>
    -- The text is also a whole number, so it has nothing but digits and a sign.
    obtain ⟨n, hn, hwidth⟩ := Option.bind_eq_some_iff.mp hread
    rw [int64?_eq_some_iff] at hwidth
    obtain ⟨hnumeral, hsigned⟩ := htext.of_readInt? hn
    rw [hnumeral] at hvalue
    have hquantity := toInt?_of_value? hvalue (hwidth.trans hsigned)
    exact (spanOfNumber_eq_some_iff.mpr (Number.toInt?_eq_some_iff.mp hquantity)).symm

/-- A text that is parsed to a number is a numeral between blanks. -/
theorem exists_numeral_of_parse {literal : String} {number : Number}
    (h : parse literal = .ok (.number number)) :
    ∃ lead text trail numeral, literal.toList = lead ++ (text ++ trail) ∧
      NumeralText text numeral ∧ numeral.value? = some number ∧
      (∀ c ∈ lead, Text.isBlank c = true) ∧ ∀ c ∈ trail, Text.isBlank c = true := by
  obtain ⟨w, ⟨spelled, hdocument, -, hvalue⟩, hsorted⟩ := parse_eq_ok_iff.mp h
  obtain rfl : w = .number number := by cases w <;> simp_all [Value.sorted]
  obtain ⟨numeral, rfl, hnumeral⟩ :
      ∃ numeral, spelled = .number numeral ∧ numeral.value? = some number := by
    cases spelled <;> simp_all [Literal.value?]
  generalize literal.toList = cs at hdocument ⊢
  obtain @⟨_, trail, _, elementText, htrail⟩ := hdocument
  obtain @⟨lead, text, _, hlead, valueText⟩ := elementText
  cases valueText with
  | number numeralText =>
    exact ⟨lead, text, trail, numeral, List.append_assoc .., numeralText, hnumeral,
      fun c hc => Text.isBlank_of_isJsonBlank (hlead c hc),
      fun c hc => Text.isBlank_of_isJsonBlank (htrail c hc)⟩

/-- A text that is parsed to a number stands for the width of that number, whatever blanks are
around it. -/
theorem spanOfText_of_parse {literal lead trail : String} {number : Number}
    (h : parse literal = .ok (.number number)) (hlead : Text.isBlankText lead = true)
    (htrail : Text.isBlankText trail = true) :
    spanOfText (lead ++ literal ++ trail) = spanOfNumber number := by
  obtain ⟨inner, text, outer, numeral, hliteral, htext, hvalue, hinner, houter⟩ :=
    exists_numeral_of_parse h
  rw [Text.isBlankText_iff] at hlead htrail
  have hsplit : lead ++ literal ++ trail = String.ofList
      (lead.toList ++ inner ++ (text ++ (outer ++ trail.toList))) := by
    rw [← String.toList_inj]
    simp [hliteral]
  rw [hsplit]
  refine spanOfText_of_numeral htext hvalue (fun c hc => ?_) fun c hc => ?_
  · exact (List.mem_append.mp hc).elim (hlead c) (hinner c)
  · exact (List.mem_append.mp hc).elim (houter c) (htrail c)

/-! ## Components with another width -/

/-- Whether a value stands in the place of the width of a component, and the rest is that of another
value, which has something else in that place or nothing. -/
inductive Component.WithWidth (width : Value) : Value → Value → Prop
  | added {before after : List (String × Value)}
      (absent : "span" ∉ (before ++ after).map Prod.fst) :
      WithWidth width (.object (before ++ after)) (.object (before ++ ("span", width) :: after))
  | changed {old : Value} {before after : List (String × Value)} :
      WithWidth width (.object (before ++ ("span", old) :: after))
        (.object (before ++ ("span", width) :: after))
  | appended {name props : Value} :
      WithWidth width (.array [name, props]) (.array [name, props, width])
  | item {name props old : Value} {rest : List Value} :
      WithWidth width (.array (name :: props :: old :: rest))
        (.array (name :: props :: width :: rest))

/-- A member for the width says what the width is, and nothing else. -/
theorem Component.ofValue_object_span_iff {before after : List (String × Value)} {width : Value}
    {c : Component} (habsent : "span" ∉ (before ++ after).map Prod.fst) :
    Component.ofValue (.object (before ++ ("span", width) :: after)) = .ok c ↔
      Component.ofValue (.object (before ++ after)) = .ok { c with span := none } ∧
        spanOfValue width = c.span := by
  have hnone : valueAt? "span" (before ++ after) = none := valueAt?_eq_none_iff.mpr habsent
  have hbefore : "span" ∉ before.map Prod.fst ∧ "span" ∉ after.map Prod.fst := by
    rwa [List.map_append, List.mem_append, not_or] at habsent
  have honce : ∀ name, AtMostOnce name (before ++ ("span", width) :: after) ↔
      AtMostOnce name (before ++ after) := by
    intro name
    rw [atMostOnce_append_cons_iff, and_iff_right_iff_imp]
    rintro - rfl
    exact hbefore
  have hother : ∀ {name}, "span" ≠ name →
      valueAt? name (before ++ ("span", width) :: after) = valueAt? name (before ++ after) :=
    fun h => valueAt?_append_cons_of_ne h ..
  rw [ofValue_object_eq_ok_iff, ofValue_object_eq_ok_iff, refuseRepeated_eq_ok_iff,
    refuseRepeated_eq_ok_iff, valueAt?_append_cons_self hbefore.1, hnone, hother (by decide),
    hother (by decide), hother (by decide)]
  simp only [honce, Option.bind_some, Option.bind_none]
  constructor
  · rintro ⟨hrepeated, hname, hprops, hspan, hchildren⟩
    exact ⟨⟨hrepeated, hname, hprops, trivial, hchildren⟩, hspan⟩
  · rintro ⟨⟨hrepeated, hname, hprops, -, hchildren⟩, hspan⟩
    exact ⟨hrepeated, hname, hprops, hspan, hchildren⟩

/-- With another width a component is accepted, and nothing but the width is another. -/
theorem Component.WithWidth.ofValue {width value changed : Value} {c : Component}
    (h : WithWidth width value changed) (hc : Component.ofValue value = .ok c) :
    Component.ofValue changed = .ok { c with span := spanOfValue width } := by
  cases h with
  | @added before after absent =>
    obtain ⟨name, props, span, children⟩ := c
    obtain rfl : none = span := by
      simpa [valueAt?_eq_none_iff.mpr absent] using (ofValue_object_eq_ok_iff.mp hc).2.2.2.1
    exact (ofValue_object_span_iff absent).mpr ⟨hc, rfl⟩
  | @changed old before after =>
    have honce := refuseRepeated_eq_ok_iff.mp (ofValue_object_eq_ok_iff.mp hc).1 "span" (by decide)
    obtain ⟨hbefore, hafter⟩ := (atMostOnce_append_cons_iff.mp honce).1 rfl
    have absent : "span" ∉ (before ++ after).map Prod.fst := by
      rw [List.map_append, List.mem_append, not_or]
      exact ⟨hbefore, hafter⟩
    exact (ofValue_object_span_iff absent).mpr ⟨((ofValue_object_span_iff absent).mp hc).1, rfl⟩
  | appended =>
    rw [ofValue_array_eq_ok_iff] at hc ⊢
    obtain ⟨-, hname, hprops, -, hchildren⟩ := hc
    exact ⟨by simp, hname, hprops, rfl, hchildren⟩
  | item =>
    rw [ofValue_array_eq_ok_iff] at hc ⊢
    obtain ⟨hlength, hname, hprops, -, hchildren⟩ := hc
    exact ⟨hlength, hname, hprops, rfl, hchildren⟩

/-- A number and the texts that spell it, with any blanks around them, stand for the width that is
equal to the quantity of the number, and for none if there is no such width. And whatever stands in
the place of a width, the component is accepted, from a value and from a text. -/
theorem widths_exact :
    (∀ (number : Number) (k : Int),
      (spanOfValue (.number number)).map Int64.toInt = some k ↔
        number.quantity = k ∧ -9223372036854775808 ≤ k ∧ k < 9223372036854775808) ∧
    (∀ (literal lead trail : String) (number : Number), parse literal = .ok (.number number) →
      Text.isBlankText lead = true → Text.isBlankText trail = true →
      spanOfValue (.string (lead ++ literal ++ trail)) = spanOfValue (.number number)) ∧
    (∀ (width value changed : Value) (c : Component), Component.WithWidth width value changed →
      Component.ofValue value = .ok c →
      Component.ofValue changed = .ok { c with span := spanOfValue width } ∧
        ∀ (depth : Nat) (tree : Tree), tree.value depth = .ok changed →
          Component.reader.read depth tree = .ok { c with span := spanOfValue width }) := by
  refine ⟨fun number k => ?_, fun literal lead trail number h hlead htrail => ?_,
    fun width value changed c h hc => ⟨h.ofValue hc, fun depth tree htree => ?_⟩⟩
  · rw [spanOfValue, Option.map_eq_some_iff]
    constructor
    · rintro ⟨width, hwidth, rfl⟩
      exact ⟨spanOfNumber_eq_some_iff.mp hwidth, width.le_toInt, width.toInt_lt⟩
    · rintro ⟨hquantity, hlow, hhigh⟩
      have hk : (Int64.ofInt k).toInt = k := Int64.toInt_ofInt_of_le hlow hhigh
      exact ⟨Int64.ofInt k, spanOfNumber_eq_some_iff.mpr (by rw [hk, hquantity]), hk⟩
  · rw [spanOfValue, spanOfValue]
    exact spanOfText_of_parse h hlead htrail
  · exact (Component.follows_ofValue depth tree changed htree _).mpr (h.ofValue hc)

/-- A hundred with an exponent, as a number, as a text and as the width of a component. -/
theorem widths_exact_hundred :
    ∃ (numeral : Numeral) (number : Number), numeral.value? = some number ∧
      number.quantity = 100 ∧ spanOfValue (.string "\u00a01e2\n") = some 100 ∧
      Component.ofValue (.array [.null, .null, .number number]) = .ok ⟨"", [], some 100, []⟩ ∧
      Component.reader.read 2 (.array 0 (.item (.null 5) (.item (.null 10) (.item
        (.number numeral 14) (.closed 15))))) = .ok ⟨"", [], some 100, []⟩ := by
  obtain ⟨number, hnumber⟩ : ∃ number, wholeNumber? "1e2".toList = some number :=
    Option.isSome_iff_exists.mp (by decide +kernel)
  have hspan : spanOfValue (.number number) = some 100 := by
    have hwidth : (wholeNumber? "1e2".toList).bind spanOfNumber = some 100 := by decide +kernel
    rwa [hnumber] at hwidth
  obtain ⟨numeral, htext, hvalue⟩ := wholeNumber?_eq_some_iff.mp hnumber
  have hparse : parse "1e2" = .ok (.number number) := by
    have hdocument : DocumentText "1e2".toList (.number numeral) :=
      @DocumentText.mk _ [] _ (@ElementText.mk [] _ _ areBlanks_nil (.number htext)) areBlanks_nil
    have hspells : SpellsValue "1e2".toList (.number number) :=
      ⟨_, hdocument, by rw [Literal.nesting]; decide, by rw [Literal.value?, hvalue]; rfl⟩
    exact parse_eq_ok_iff.mpr ⟨_, hspells, rfl⟩
  have hnamed : Component.ofValue (.array [.null, .null]) = .ok (.named "") :=
    Component.ofValue_array_eq_ok_iff.mpr ⟨by decide, rfl, rfl, rfl, rfl⟩
  obtain ⟨hnumbers, htexts, hcomponents⟩ := widths_exact
  obtain ⟨hcomponent, hread⟩ := hcomponents (.number number) _ _ _ .appended hnamed
  rw [hspan] at hcomponent hread
  refine ⟨numeral, number, hvalue, ?_, ?_, hcomponent, hread _ _ ?_⟩
  · have hquantity := (hnumbers number 100).mp (by rw [hspan]; rfl)
    exact_mod_cast hquantity.1
  · have hblanks := htexts "1e2" "\u00a0" "\n" number hparse (by decide) (by decide)
    rwa [hspan] at hblanks
  · simp [Tree.value, Items.values, Numeral.read, hvalue, Except.map]

end PageSketch
