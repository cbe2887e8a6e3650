import PageSketch.Proofs.Json.Grammar
import PageSketch.Proofs.Outcome

/-!
# Reading tokens

Blanks, words, numerals and strings are read as the grammar has them: what is read obeys the
grammar, and what obeys the grammar is read. A numeral is read as far as it goes, so the second
half needs to know that nothing behind the numeral continues it.
-/

namespace PageSketch.Json

/-! ## Blanks and words -/

/-- What is skipped are blanks. -/
theorem exists_skipBlanks (offset : Nat) (cs : List Char) :
    ∃ blanks, AreBlanks blanks ∧ cs = blanks ++ (skipBlanks offset cs).rest := by
  induction cs generalizing offset with
  | nil => exact ⟨[], areBlanks_nil, rfl⟩
  | cons c rest ih =>
    by_cases hc : isJsonBlank c = true
    · obtain ⟨blanks, hblanks, hrest⟩ := ih (offset + 1)
      refine ⟨c :: blanks, ?_, ?_⟩
      · simpa [AreBlanks, hc] using hblanks
      · rw [skipBlanks, if_pos hc, List.cons_append, ← hrest]
    · refine ⟨[], areBlanks_nil, ?_⟩
      rw [skipBlanks, if_neg hc, List.nil_append]

/-- Blanks are skipped. -/
theorem skipBlanks_append {blanks : List Char} (h : AreBlanks blanks) (offset : Nat)
    (cs : List Char) : skipBlanks offset (blanks ++ cs) = skipBlanks (offset + blanks.length) cs := by
  induction blanks generalizing offset with
  | nil => rfl
  | cons c rest ih =>
    have hc : isJsonBlank c = true := h c List.mem_cons_self
    have hrest : AreBlanks rest := fun d hd => h d (List.mem_cons_of_mem _ hd)
    rw [List.cons_append, skipBlanks, if_pos hc, ih hrest, List.length_cons]
    congr 1
    omega

/-- Nothing is skipped before another character. -/
theorem skipBlanks_cons {c : Char} (h : isJsonBlank c = false) (offset : Nat) (cs : List Char) :
    skipBlanks offset (c :: cs) = ⟨offset, c :: cs⟩ := by
  simp [skipBlanks, h]

/-- A word is read from the text that begins with it. -/
theorem readWord_eq_ok_iff {offset : Nat} {word cs : List Char} {behind : Cursor} :
    readWord offset word cs = .ok behind ↔
      cs = word ++ behind.rest ∧ behind.offset = offset + word.length := by
  induction word generalizing offset cs with
  | nil =>
    obtain ⟨o, rest⟩ := behind
    simp [readWord, and_comm, eq_comm]
  | cons w word ih =>
    cases cs with
    | nil => simp [readWord]
    | cons c cs =>
      by_cases hc : c = w
      · simp [readWord, hc, ih, Nat.add_assoc, Nat.add_comm 1]
      · simp [readWord, hc]

/-! ## Numerals -/

/-- Whether nothing at the beginning of the characters continues digits. -/
def EndsDigits (cs : List Char) : Prop := ∀ c ∈ cs.head?, isDigit c = false

/-- Whether nothing at the beginning of the characters continues a numeral. -/
def EndsNumeral (cs : List Char) : Prop :=
  ∀ c ∈ cs.head?, isDigit c = false ∧ c ≠ '.' ∧ c ≠ 'e' ∧ c ≠ 'E'

/-- What does not continue a numeral does not continue digits. -/
theorem EndsNumeral.endsDigits {cs : List Char} (h : EndsNumeral cs) : EndsDigits cs :=
  fun c hc => (h c hc).1

/-- The digits by their codes. -/
theorem isDigit_iff {c : Char} : isDigit c = true ↔ 48 ≤ c.toNat ∧ c.toNat ≤ 57 := by
  have hzero : ('0' : Char).val.toNat = 48 := rfl
  have hnine : ('9' : Char).val.toNat = 57 := rfl
  rw [isDigit, Bool.and_eq_true, decide_eq_true_eq, decide_eq_true_eq, Char.le_def, Char.le_def,
    UInt32.le_iff_toNat_le, UInt32.le_iff_toNat_le, hzero, hnine]
  rfl

/-- A digit is no other character. -/
theorem ne_of_isDigit {c d : Char} (hc : isDigit c = true) (hd : isDigit d = false) : c ≠ d := by
  rintro rfl
  rw [hc] at hd
  cases hd

/-- The digits at the beginning are digits. -/
theorem areDigits_takeWhile (cs : List Char) : AreDigits (cs.takeWhile isDigit) :=
  List.all_eq_true.mp List.all_takeWhile

/-- Digits are taken up to what does not continue them. -/
theorem takeWhile_digits {ds rest : List Char} (hds : AreDigits ds) (hrest : EndsDigits rest) :
    (ds ++ rest).takeWhile isDigit = ds := by
  rw [List.takeWhile_append_of_pos hds]
  cases rest with
  | nil => simp
  | cons c cs => simp [hrest c rfl]

/-- What does not continue digits is left. -/
theorem dropWhile_digits {ds rest : List Char} (hds : AreDigits ds) (hrest : EndsDigits rest) :
    (ds ++ rest).dropWhile isDigit = rest := by
  rw [List.dropWhile_append_of_pos hds]
  cases rest with
  | nil => simp
  | cons c cs => simp [hrest c rfl]

/-- The digits before the point that are read are some. -/
theorem wholeText_of_readWhole {offset : Nat} {cs whole : List Char} {behind : Cursor}
    (h : readWhole offset cs = .ok (whole, behind)) :
    WholeText whole ∧ cs = whole ++ behind.rest := by
  cases cs with
  | nil => simp [readWhole] at h
  | cons c cs =>
    rw [readWhole] at h
    split at h
    · rename_i hc
      split at h
      · simp only [Except.ok.injEq, Prod.mk.injEq] at h
        obtain ⟨rfl, rfl⟩ := h
        exact ⟨.zero, by simp [hc]⟩
      · simp at h
    · split at h
      · rename_i hne hdigit
        simp only [Except.ok.injEq, Prod.mk.injEq] at h
        obtain ⟨rfl, rfl⟩ := h
        refine ⟨.digits hdigit hne (areDigits_takeWhile cs), ?_⟩
        simp [List.takeWhile_append_dropWhile]
      · simp at h

/-- The digits before the point are read. -/
theorem readWhole_of_wholeText {whole rest : List Char} (h : WholeText whole)
    (hrest : EndsDigits rest) (offset : Nat) :
    ∃ stop, readWhole offset (whole ++ rest) = .ok (whole, ⟨stop, rest⟩) := by
  cases h with
  | zero =>
    have hnil : AreDigits [] := by simp [AreDigits]
    have hnone : rest.takeWhile isDigit = [] := takeWhile_digits hnil hrest
    exact ⟨offset + 1, by simp [readWhole, hnone]⟩
  | @digits d ds digit ne digits =>
    refine ⟨offset + 1 + ds.length, ?_⟩
    simp [readWhole, ne, digit, takeWhile_digits digits hrest, dropWhile_digits digits hrest]

/-- The fraction that is read is one. -/
theorem fractionText_of_readFraction {offset : Nat} {cs digits : List Char} {behind : Cursor}
    (h : readFraction offset cs = .ok (digits, behind)) :
    ∃ fraction, FractionText fraction digits ∧ cs = fraction ++ behind.rest := by
  unfold readFraction at h
  split at h
  · rename_i cs
    have hall : AreDigits (cs.takeWhile isDigit) := areDigits_takeWhile cs
    have hcs : cs.takeWhile isDigit ++ cs.dropWhile isDigit = cs := List.takeWhile_append_dropWhile
    cases hdigits : cs.takeWhile isDigit with
    | nil => cases cs <;> simp [hdigits] at h
    | cons d ds =>
      simp only [hdigits, Except.ok.injEq, Prod.mk.injEq] at h
      obtain ⟨rfl, rfl⟩ := h
      rw [hdigits] at hall hcs
      exact ⟨'.' :: d :: ds, .digits (List.cons_ne_nil d ds) hall, congrArg ('.' :: ·) hcs.symm⟩
  · simp only [Except.ok.injEq, Prod.mk.injEq] at h
    obtain ⟨rfl, rfl⟩ := h
    exact ⟨[], .absent, rfl⟩

/-- A fraction is read. -/
theorem readFraction_of_fractionText {fraction digits rest : List Char}
    (h : FractionText fraction digits) (hdigits : EndsDigits rest)
    (hpoint : ∀ c ∈ rest.head?, c ≠ '.') (offset : Nat) :
    ∃ stop, readFraction offset (fraction ++ rest) = .ok (digits, ⟨stop, rest⟩) := by
  cases h with
  | absent =>
    refine ⟨offset, ?_⟩
    cases rest with
    | nil => rfl
    | cons c cs =>
      have hc : c ≠ '.' := hpoint c rfl
      simp [readFraction, hc]
  | digits ne areDigits =>
    refine ⟨offset + 1 + digits.length, ?_⟩
    cases digits with
    | nil => exact absurd rfl ne
    | cons d ds =>
      have htake := takeWhile_digits areDigits hdigits
      have hdrop := dropWhile_digits areDigits hdigits
      simp only [List.cons_append] at htake hdrop ⊢
      simp [readFraction, htake, hdrop]

/-- The digits of an exponent that are read are some. -/
theorem digits_of_readExponentDigits {negative : Bool} {offset : Nat} {cs : List Char}
    {power : Option Exponent} {behind : Cursor}
    (h : readExponentDigits negative offset cs = .ok (power, behind)) :
    ∃ ds, ds ≠ [] ∧ AreDigits ds ∧ power = some ⟨negative, ds⟩ ∧ cs = ds ++ behind.rest := by
  have hall : AreDigits (cs.takeWhile isDigit) := areDigits_takeWhile cs
  have hcs : cs.takeWhile isDigit ++ cs.dropWhile isDigit = cs := List.takeWhile_append_dropWhile
  unfold readExponentDigits at h
  cases hdigits : cs.takeWhile isDigit with
  | nil => cases cs <;> simp [hdigits] at h
  | cons d ds =>
    simp only [hdigits, Except.ok.injEq, Prod.mk.injEq] at h
    obtain ⟨rfl, rfl⟩ := h
    rw [hdigits] at hall hcs
    exact ⟨d :: ds, List.cons_ne_nil d ds, hall, rfl, hcs.symm⟩

/-- The digits of an exponent are read. -/
theorem readExponentDigits_append {ds rest : List Char} (ne : ds ≠ []) (hds : AreDigits ds)
    (hrest : EndsDigits rest) (negative : Bool) (offset : Nat) :
    ∃ stop, readExponentDigits negative offset (ds ++ rest) =
      .ok (some ⟨negative, ds⟩, ⟨stop, rest⟩) := by
  have htake := takeWhile_digits hds hrest
  have hdrop := dropWhile_digits hds hrest
  cases ds with
  | nil => exact absurd rfl ne
  | cons d ds =>
    simp only [List.cons_append] at htake hdrop ⊢
    exact ⟨offset + (d :: ds).length, by simp [readExponentDigits, htake, hdrop]⟩

/-- The exponent that is read is one. -/
theorem exponentText_of_readExponent {offset : Nat} {cs : List Char} {power : Option Exponent}
    {behind : Cursor} (h : readExponent offset cs = .ok (power, behind)) :
    ∃ exponent, ExponentText exponent power ∧ cs = exponent ++ behind.rest := by
  cases cs with
  | nil =>
    simp only [readExponent, Except.ok.injEq, Prod.mk.injEq] at h
    obtain ⟨rfl, rfl⟩ := h
    exact ⟨[], .absent, rfl⟩
  | cons e cs =>
    unfold readExponent at h
    simp only at h
    split at h
    · rename_i hmark
      have mark : e = 'e' ∨ e = 'E' := by simpa using hmark
      split at h
      · obtain ⟨ds, ne, hds, rfl, rfl⟩ := digits_of_readExponentDigits h
        exact ⟨e :: '-' :: ds, .minus mark ne hds, rfl⟩
      · obtain ⟨ds, ne, hds, rfl, rfl⟩ := digits_of_readExponentDigits h
        exact ⟨e :: '+' :: ds, .plus mark ne hds, rfl⟩
      · obtain ⟨ds, ne, hds, rfl, rfl⟩ := digits_of_readExponentDigits h
        exact ⟨e :: ds, .bare mark ne hds, rfl⟩
    · simp only [Except.ok.injEq, Prod.mk.injEq] at h
      obtain ⟨rfl, rfl⟩ := h
      exact ⟨[], .absent, rfl⟩

/-- An exponent is read. -/
theorem readExponent_of_exponentText {exponent rest : List Char} {power : Option Exponent}
    (h : ExponentText exponent power) (hrest : EndsNumeral rest) (offset : Nat) :
    ∃ stop, readExponent offset (exponent ++ rest) = .ok (power, ⟨stop, rest⟩) := by
  cases h with
  | absent =>
    refine ⟨offset, ?_⟩
    cases rest with
    | nil => rfl
    | cons c cs =>
      obtain ⟨-, -, hlower, hupper⟩ := hrest c rfl
      simp [readExponent, hlower, hupper]
  | @bare e ds mark ne digits =>
    obtain ⟨stop, hread⟩ := readExponentDigits_append ne digits hrest.endsDigits false (offset + 1)
    refine ⟨stop, ?_⟩
    cases ds with
    | nil => exact absurd rfl ne
    | cons d ds =>
      have hdigit : isDigit d = true := digits d List.mem_cons_self
      have hminus : d ≠ '-' := ne_of_isDigit hdigit (by decide)
      have hplus : d ≠ '+' := ne_of_isDigit hdigit (by decide)
      simp only [List.cons_append] at hread
      simp [readExponent, mark, hminus, hplus, hread]
  | plus mark ne digits =>
    obtain ⟨stop, hread⟩ := readExponentDigits_append ne digits hrest.endsDigits false (offset + 2)
    exact ⟨stop, by simp [readExponent, mark, hread]⟩
  | minus mark ne digits =>
    obtain ⟨stop, hread⟩ := readExponentDigits_append ne digits hrest.endsDigits true (offset + 2)
    exact ⟨stop, by simp [readExponent, mark, hread]⟩

/-- An exponent begins with its mark, so what it stands before is not continued by it. -/
theorem ExponentText.endsFraction {exponent rest : List Char} {power : Option Exponent}
    (h : ExponentText exponent power) (hrest : EndsNumeral rest) :
    EndsDigits (exponent ++ rest) ∧ ∀ c ∈ (exponent ++ rest).head?, c ≠ '.' := by
  cases h with
  | absent => exact ⟨hrest.endsDigits, fun c hc => (hrest c hc).2.1⟩
  | bare mark | plus mark | minus mark =>
    constructor <;>
    · intro c hc
      simp only [List.cons_append, List.head?_cons, Option.mem_def, Option.some.injEq] at hc
      subst hc
      rcases mark with rfl | rfl <;> decide

/-- A fraction begins with its point, so the digits before it are not continued by it. -/
theorem FractionText.endsDigits {fraction digits rest : List Char}
    (h : FractionText fraction digits) (hrest : EndsDigits rest) :
    EndsDigits (fraction ++ rest) := by
  cases h with
  | absent => exact hrest
  | digits ne areDigits =>
    intro c hc
    simp only [List.cons_append, List.head?_cons, Option.mem_def, Option.some.injEq] at hc
    subst hc
    decide

/-- The parts of a numeral that are read behind its sign are the parts of one. -/
theorem numeralText_of_readUnsigned {negative : Bool} {offset : Nat} {cs : List Char}
    {numeral : Numeral} {behind : Cursor}
    (h : readUnsigned negative offset cs = .ok (numeral, behind)) :
    ∃ text, NumeralText (signText negative ++ text) numeral ∧ cs = text ++ behind.rest := by
  unfold readUnsigned at h
  split at h
  · simp at h
  · rename_i whole atFraction hwhole
    split at h
    · simp at h
    · rename_i digits atExponent hfraction
      split at h
      · simp at h
      · rename_i power atEnd hexponent
        simp only [Except.ok.injEq, Prod.mk.injEq] at h
        obtain ⟨rfl, rfl⟩ := h
        obtain ⟨wholeText, hcs⟩ := wholeText_of_readWhole hwhole
        obtain ⟨fraction, fractionText, hatFraction⟩ := fractionText_of_readFraction hfraction
        obtain ⟨exponent, exponentText, hatExponent⟩ := exponentText_of_readExponent hexponent
        refine ⟨whole ++ (fraction ++ exponent), .mk wholeText fractionText exponentText, ?_⟩
        rw [hcs, hatFraction, hatExponent]
        simp

/-- A numeral that is read is one. -/
theorem numeralText_of_readNumeral {offset : Nat} {cs : List Char} {numeral : Numeral}
    {behind : Cursor} (h : readNumeral offset cs = .ok (numeral, behind)) :
    ∃ text, NumeralText text numeral ∧ cs = text ++ behind.rest := by
  unfold readNumeral at h
  split at h
  · obtain ⟨text, hnumeral, rfl⟩ := numeralText_of_readUnsigned h
    exact ⟨'-' :: text, hnumeral, rfl⟩
  · exact numeralText_of_readUnsigned h

/-- The parts of a numeral are read behind its sign. -/
theorem readUnsigned_of_parts {negative : Bool} {whole fraction digits exponent rest : List Char}
    {power : Option Exponent} (wholeText : WholeText whole)
    (fractionText : FractionText fraction digits) (exponentText : ExponentText exponent power)
    (hrest : EndsNumeral rest) (offset : Nat) :
    ∃ stop, readUnsigned negative offset (whole ++ (fraction ++ (exponent ++ rest))) =
      .ok (⟨negative, whole, digits, power⟩, ⟨stop, rest⟩) := by
  obtain ⟨hdigits, hpoint⟩ := exponentText.endsFraction hrest
  obtain ⟨atFraction, hwhole⟩ :=
    readWhole_of_wholeText wholeText (fractionText.endsDigits hdigits) offset
  obtain ⟨atExponent, hfraction⟩ :=
    readFraction_of_fractionText fractionText hdigits hpoint atFraction
  obtain ⟨stop, hexponent⟩ := readExponent_of_exponentText exponentText hrest atExponent
  exact ⟨stop, by simp [readUnsigned, hwhole, hfraction, hexponent]⟩

/-- The digits before the point begin with a digit. -/
theorem WholeText.exists_cons {whole : List Char} (h : WholeText whole) :
    ∃ d ds, whole = d :: ds ∧ isDigit d = true := by
  cases h with
  | zero => exact ⟨'0', [], rfl, by decide⟩
  | @digits d ds digit ne rest => exact ⟨d, ds, rfl, digit⟩

/-- A numeral is read. -/
theorem readNumeral_of_numeralText {text rest : List Char} {numeral : Numeral}
    (h : NumeralText text numeral) (hrest : EndsNumeral rest) (offset : Nat) :
    ∃ stop, readNumeral offset (text ++ rest) = .ok (numeral, ⟨stop, rest⟩) := by
  obtain @⟨negative, whole, fraction, digits, exponent, power, wholeText, fractionText,
    exponentText⟩ := h
  cases negative with
  | true =>
    obtain ⟨stop, hread⟩ :=
      readUnsigned_of_parts wholeText fractionText exponentText hrest (offset + 1)
    exact ⟨stop, by simpa [signText, readNumeral] using hread⟩
  | false =>
    obtain ⟨stop, hread⟩ := readUnsigned_of_parts wholeText fractionText exponentText hrest offset
    obtain ⟨d, ds, rfl, hdigit⟩ := wholeText.exists_cons
    have hminus : d ≠ '-' := ne_of_isDigit hdigit (by decide)
    exact ⟨stop, by simpa [signText, readNumeral, hminus] using hread⟩

/-! ## Strings -/

/-- A string that breaks off at a `u` escape has no characters. -/
theorem decodeUnits_brokenHex (offset : Nat) (cs out : List Char) :
    decodeUnits (brokenHex offset cs) [] ≠ .ok out := by
  unfold brokenHex
  split <;> simp [decodeUnits]

/-- A high surrogate is not a low one. -/
theorem isLowSurrogate_of_isHighSurrogate {n : Nat} (h : isHighSurrogate n = true) :
    isLowSurrogate n = false := by
  simp only [isHighSurrogate, isLowSurrogate, Bool.and_eq_true, decide_eq_true_eq] at h ⊢
  rw [Bool.and_eq_false_iff, decide_eq_false_iff_not]
  omega

/-- A `u` escape decodes alone when it is no surrogate, and with the next one when they are a pair. -/
theorem decodeUnits_code_eq_ok_iff {ending : TextEnd} {n stop : Nat} {units : List TextUnit}
    {out : List Char} :
    decodeUnits ending (.code n stop :: units) = .ok out ↔
      (isHighSurrogate n = false ∧ isLowSurrogate n = false ∧
        ∃ cs, decodeUnits ending units = .ok cs ∧ Char.ofNat n :: cs = out) ∨
      (isHighSurrogate n = true ∧ ∃ m stop' units', units = .code m stop' :: units' ∧
        isLowSurrogate m = true ∧
        ∃ cs, decodeUnits ending units' = .ok cs ∧ joinSurrogates n m :: cs = out) := by
  rw [decodeUnits.eq_def]
  cases hhigh : isHighSurrogate n with
  | false => cases hlow : isLowSurrogate n <;> simp [hhigh, hlow, map_eq_ok_iff]
  | true =>
    have hnotLow := isLowSurrogate_of_isHighSurrogate hhigh
    cases units with
    | nil => simp [hhigh, hnotLow]
    | cons unit units =>
      cases unit with
      | char c giveUp => simp [hhigh, hnotLow]
      | code m stop' =>
        simp only [hnotLow, hhigh, if_true, Bool.false_eq_true, if_false, reduceCtorEq, false_and,
          false_or, true_and, List.cons.injEq, TextUnit.code.injEq]
        constructor
        · intro h
          split at h
          · rename_i hlow
            exact ⟨m, stop', units, ⟨⟨rfl, rfl⟩, rfl⟩, hlow, map_eq_ok_iff.mp h⟩
          · cases h
        · rintro ⟨_, _, _, ⟨⟨rfl, rfl⟩, rfl⟩, hlow, hcs⟩
          rw [if_pos hlow]
          exact map_eq_ok_iff.mpr hcs

/-- What is read of a string without a fault spells its characters, up to the closing quote. The
second half is what an escape of a high surrogate needs to know of the rest: if that begins with
an escape, the text does. -/
theorem stringText_of_decodeUnits (offset : Nat) (cs : List Char) :
    (∀ out, decodeUnits (readString offset cs).1.ending (readString offset cs).1.units = .ok out →
      ∃ text stop, StringText text out ∧ cs = text ++ '"' :: (readString offset cs).2 ∧
        (readString offset cs).1.ending = .closed stop) ∧
    (∀ n here units, (readString offset cs).1.units = .code n here :: units →
      ∀ out, decodeUnits (readString offset cs).1.ending units = .ok out →
      ∃ a b c d text stop, hexCode? a b c d = some n ∧ StringText text out ∧
        cs = '\\' :: 'u' :: a :: b :: c :: d :: (text ++ '"' :: (readString offset cs).2) ∧
        (readString offset cs).1.ending = .closed stop) := by
  fun_induction readString offset cs with
  -- Where the string breaks off it has no characters.
  | case1 | case3 | case8 | case9 => simp [decodeUnits]
  | case5 | case6 => exact ⟨fun out hout => absurd hout (decodeUnits_brokenHex _ _ _), by simp⟩
  -- The closing quote.
  | case2 offset cs =>
    refine ⟨?_, by simp⟩
    intro out hout
    simp only [decodeUnits, Except.ok.injEq] at hout
    subst hout
    exact ⟨[], offset + 1, .nil, rfl, rfl⟩
  -- A `u` escape with its four digits.
  | case4 offset a b c d cs code hcode read ih =>
    obtain ⟨ih, ihcode⟩ := ih
    constructor
    · intro out hout
      rcases decodeUnits_code_eq_ok_iff.mp hout with ⟨high, low, out', hout', rfl⟩ |
        ⟨high, m, here, units, hunits, low, out', hout', rfl⟩
      · obtain ⟨text, stop, htext, hcs, hend⟩ := ih out' hout'
        exact ⟨_, stop, .code hcode high low htext, by rw [hcs]; rfl, hend⟩
      · -- A high surrogate takes the next escape with it.
        obtain ⟨a', b', c', d', text, stop, hcode', htext, hcs, hend⟩ :=
          ihcode m here units hunits out' hout'
        exact ⟨_, stop, .pair hcode hcode' high low htext, by rw [hcs]; rfl, hend⟩
    · intro n here units hunits out hout
      simp only [StringToken.cons, List.cons.injEq, TextUnit.code.injEq] at hunits
      obtain ⟨⟨rfl, -⟩, rfl⟩ := hunits
      obtain ⟨text, stop, htext, hcs, hend⟩ := ih out hout
      exact ⟨a, b, c, d, text, stop, hcode, htext, by rw [hcs], hend⟩
  -- A short escape.
  | case7 offset e cs hu hu' c hc read ih =>
    refine ⟨?_, by simp [StringToken.cons]⟩
    intro out hout
    simp only [StringToken.cons, decodeUnits] at hout
    obtain ⟨out', hout', rfl⟩ := map_eq_ok_iff.mp hout
    obtain ⟨text, stop, htext, hcs, hend⟩ := ih.1 out' hout'
    exact ⟨_, stop, .escape hc htext, by rw [hcs]; rfl, hend⟩
  -- A character that stands for itself.
  | case10 offset c cs quote hnil _ _ hescape hcontrol read ih =>
    have backslash : c ≠ '\\' := by
      intro hc
      cases cs with
      | nil => exact hnil hc rfl
      | cons e cs => exact hescape e cs hc rfl
    refine ⟨?_, by simp [StringToken.cons]⟩
    intro out hout
    simp only [StringToken.cons, decodeUnits] at hout
    obtain ⟨out', hout', rfl⟩ := map_eq_ok_iff.mp hout
    obtain ⟨text, stop, htext, hcs, hend⟩ := ih.1 out' hout'
    exact ⟨_, stop, .plain quote backslash (Nat.not_lt.mp hcontrol) htext, by rw [hcs]; rfl, hend⟩

/-- A string that is read without a fault is one, and the reader stands behind its quote. -/
theorem stringText_of_readString {offset : Nat} {cs rest : List Char} {token : StringToken}
    {text : String} (hread : readString offset cs = (token, rest)) (h : token.text = .ok text) :
    ∃ spelled stop, StringText spelled text.toList ∧ cs = spelled ++ '"' :: rest ∧
      token.behind rest = some ⟨stop, rest⟩ := by
  obtain ⟨out, hout, rfl⟩ := map_eq_ok_iff.mp h
  have hsound := (stringText_of_decodeUnits offset cs).1
  rw [hread] at hsound
  obtain ⟨spelled, stop, hspelled, hcs, hend⟩ := hsound out hout
  refine ⟨spelled, stop, by simpa using hspelled, hcs, ?_⟩
  rw [StringToken.behind, hend]

/-- A character that stands for itself is read as such. -/
theorem readString_plain {c : Char} (quote : c ≠ '"') (backslash : c ≠ '\\')
    (control : 0x20 ≤ c.toNat) (offset : Nat) (cs : List Char) :
    readString offset (c :: cs) =
      ((readString (offset + c.utf8Size) cs).1.cons (.char c (offset + 1)),
        (readString (offset + c.utf8Size) cs).2) := by
  rw [readString]
  · rw [if_neg (Nat.not_lt.mpr control)]
  all_goals simp_all

/-- A short escape is read as its character. -/
theorem readString_escape {e c : Char} (h : shortEscape? e = some c) (offset : Nat)
    (cs : List Char) :
    readString offset ('\\' :: e :: cs) =
      ((readString (offset + 2) cs).1.cons (.char c (offset + 2)),
        (readString (offset + 2) cs).2) := by
  have hu : e ≠ 'u' := by rintro rfl; simp [shortEscape?] at h
  rw [readString]
  · simp [h]
  all_goals simp_all

/-- The units that are read of a string decode to its characters. -/
theorem readString_of_stringText {text cs : List Char} (h : StringText text cs) (offset : Nat)
    (rest : List Char) :
    ∃ units stop, readString offset (text ++ '"' :: rest) = (⟨units, .closed stop⟩, rest) ∧
      decodeUnits (.closed stop) units = .ok cs := by
  induction h generalizing offset with
  | nil => exact ⟨[], offset + 1, by simp [readString], by simp [decodeUnits]⟩
  | @plain c text cs quote backslash control _ ih =>
    obtain ⟨units, stop, hread, hunits⟩ := ih (offset + c.utf8Size)
    refine ⟨.char c (offset + 1) :: units, stop, ?_, by simp [decodeUnits, hunits]⟩
    rw [List.cons_append, readString_plain quote backslash control, hread]
    rfl
  | @escape e c text cs escape _ ih =>
    obtain ⟨units, stop, hread, hunits⟩ := ih (offset + 2)
    refine ⟨.char c (offset + 2) :: units, stop, ?_, by simp [decodeUnits, hunits]⟩
    rw [List.cons_append, List.cons_append, readString_escape escape, hread]
    rfl
  | @code a b c d n text cs hcode high low _ ih =>
    obtain ⟨units, stop, hread, hunits⟩ := ih (offset + 6)
    refine ⟨.code n (offset + 6) :: units, stop, ?_, ?_⟩
    · simp [readString, hcode, hread, StringToken.cons]
    · exact decodeUnits_code_eq_ok_iff.mpr (.inl ⟨high, low, cs, hunits, rfl⟩)
  | @pair a b c d a' b' c' d' m n text cs highCode lowCode high low _ ih =>
    obtain ⟨units, stop, hread, hunits⟩ := ih (offset + 6 + 6)
    refine ⟨.code m (offset + 6) :: .code n (offset + 6 + 6) :: units, stop, ?_, ?_⟩
    · simp [readString, highCode, lowCode, hread, StringToken.cons]
    · exact decodeUnits_code_eq_ok_iff.mpr
        (.inr ⟨high, n, _, units, rfl, low, cs, hunits, rfl⟩)

end PageSketch.Json
