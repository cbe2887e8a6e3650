import PageSketch.Proofs.Json.Doubles

/-!
# Texts of numbers

The text of a number belongs to that number alone. A text spells one numeral; a whole number is the
value of its numeral, and a double has the only magnitude of its format for which the decimal of the
numeral is the shortest one. No double is written like a whole number.
-/

namespace PageSketch.Json

/-- A text spells one numeral. -/
theorem NumeralText.unique {text : List Char} {numeral numeral' : Numeral}
    (h : NumeralText text numeral) (h' : NumeralText text numeral') : numeral = numeral' := by
  have hnil : EndsNumeral [] := by simp [EndsNumeral]
  obtain ⟨stop, hread⟩ := readNumeral_of_numeralText h hnil 0
  obtain ⟨stop', hread'⟩ := readNumeral_of_numeralText h' hnil 0
  rw [hread] at hread'
  exact (Prod.mk.inj (Except.ok.inj hread')).1

/-- A numeral shows decimals of one value. -/
theorem Numeral.Shows.value_eq {numeral : Numeral} {negative negative' : Bool} {d d' : Decimal}
    (h : numeral.Shows negative d) (h' : numeral.Shows negative' d') : d.value = d'.value := by
  have hvalue : ∀ {negative : Bool} {d : Decimal}, numeral.Shows negative d →
      d.value = Nat.ofDigitChars 10 (numeral.whole ++ numeral.fraction) 0 *
        (10 : ℚ) ^ numeral.power := by
    intro _ d h
    obtain ⟨n, hdigits, hpower⟩ := h.digits
    rw [Decimal.value, hdigits, ← hpower, zpow_add₀ (by norm_num), zpow_natCast]
    push_cast
    rw [cast_tenTo]
    ring
  rw [hvalue h, hvalue h']

/-- A double is written like no whole number. -/
theorem Number.text_float_ne (x : Binary .double) {value : Int} {lower upper} :
    (Number.float x).text ≠ (Number.integer value lower upper).text := by
  intro h
  obtain ⟨numeral, htext, hshows⟩ := exists_numeralText_float x
  rw [h] at htext
  obtain rfl := htext.unique (numeralText_ofInt value)
  exact hshows.notWhole.elim (fun hne => hne rfl) (fun hne => hne rfl)

/-- Doubles with the same text are the same. -/
theorem Number.eq_of_text_float {x y : Binary .double}
    (h : (Number.float x).text = (Number.float y).text) : x = y := by
  obtain ⟨numeral, htext, hshows⟩ := exists_numeralText_float x
  obtain ⟨numeral', htext', hshows'⟩ := exists_numeralText_float y
  rw [h] at htext
  obtain rfl := htext.unique htext'
  have hnegative : x.negative = y.negative := hshows.negative_eq.symm.trans hshows'.negative_eq
  have hunits : x.units = y.units := Binary.units_eq_of_decimal (by decide) (hshows.value_eq hshows')
  obtain ⟨negative, units, _, _⟩ := x
  obtain ⟨negative', units', _, _⟩ := y
  obtain rfl : negative = negative' := hnegative
  obtain rfl : units = units' := hunits
  rfl

/-- Numbers with the same text are the same. -/
theorem Number.text_injective : Function.Injective Number.text := by
  intro n m h
  cases n with
  | integer value lower upper =>
    cases m with
    | integer value' lower' upper' =>
      have htext := numeralText_ofInt value
      rw [show toString value = toString value' from h] at htext
      have hnumeral := htext.unique (numeralText_ofInt value')
      have hvalue := value?_ofInt lower upper
      rw [hnumeral, value?_ofInt lower' upper'] at hvalue
      exact (Option.some.inj hvalue).symm
    | float y => exact absurd h.symm (Number.text_float_ne y)
  | float x =>
    cases m with
    | integer value lower upper => exact absurd h (Number.text_float_ne x)
    | float y => rw [Number.eq_of_text_float h]

end PageSketch.Json
