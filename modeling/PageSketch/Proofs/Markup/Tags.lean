import PageSketch.Proofs.Markup.Breaks

/-!
# Tags and quotes

A tag ends at the first `>` that is not between double quotes. The attributes of a component have
double quotes around each value and none within, so a tag with them ends where it was ended when
it was written, whatever the values are.
-/

namespace PageSketch.Markup

open Json (Value)

/-! ## The end of a tag -/

/-- The characters up to the first `>` outside double quotes, and those behind it. -/
def splitTag (quoted : Bool) : List Char → Option (List Char × List Char)
  | [] => none
  | c :: rest =>
    if c = '>' ∧ quoted = false then some ([], rest)
    else (splitTag (quoted ^^ (c == '"')) rest).map fun (tag, behind) => (c :: tag, behind)

/-- Whether a tag does not end within some characters, which lead from outside or inside quotes to
outside or inside quotes. -/
def Passes (quoted quoted' : Bool) (cs : List Char) : Prop :=
  ∀ rest, splitTag quoted (cs ++ rest) =
    (splitTag quoted' rest).map fun (tag, behind) => (cs ++ tag, behind)

/-- No characters at all lead nowhere. -/
theorem passes_nil (quoted : Bool) : Passes quoted quoted [] := by
  intro rest
  simp

/-- A character that does not end a tag leads into quotes or out of them if it is a quote. -/
theorem Passes.cons {quoted quoted' : Bool} {c : Char} {cs : List Char}
    (hc : c ≠ '>' ∨ quoted = true) (h : Passes (quoted ^^ (c == '"')) quoted' cs) :
    Passes quoted quoted' (c :: cs) := by
  intro rest
  have hend : ¬(c = '>' ∧ quoted = false) := by
    rintro ⟨hend, hquoted⟩
    exact hc.elim (· hend) fun h => Bool.false_ne_true (hquoted.symm.trans h)
  rw [List.cons_append, splitTag, if_neg hend, h rest, Option.map_map]
  rfl

/-- Characters behind characters. -/
theorem Passes.append {q q' q'' : Bool} {cs cs' : List Char} (h : Passes q q' cs)
    (h' : Passes q' q'' cs') : Passes q q'' (cs ++ cs') := by
  intro rest
  rw [List.append_assoc, h, h', Option.map_map]
  simp [Function.comp_def]

/-- Outside quotes a tag does not end within characters that are neither `>` nor quotes. -/
theorem passes_of_plain {cs : List Char} (h : ∀ c ∈ cs, c ≠ '>' ∧ c ≠ '"') :
    Passes false false cs := by
  induction cs with
  | nil => exact passes_nil false
  | cons c cs ih =>
    obtain ⟨⟨hend, hquote⟩, hcs⟩ := List.forall_mem_cons.mp h
    refine .cons (.inl hend) ?_
    rw [beq_eq_false_iff_ne.mpr hquote]
    exact ih hcs

/-- Inside quotes it does not end within any characters but quotes. -/
theorem passes_of_quote_not_mem {cs : List Char} (h : '"' ∉ cs) : Passes true true cs := by
  induction cs with
  | nil => exact passes_nil true
  | cons c cs ih =>
    refine .cons (.inr rfl) ?_
    rw [beq_eq_false_iff_ne.mpr (List.ne_of_not_mem_cons h).symm]
    exact ih (List.not_mem_of_not_mem_cons h)

/-! ## Attributes -/

/-- A tag does not end within an attribute whose name has neither `>` nor quotes. -/
theorem passes_attributeText {key : String} {value : Value}
    (h : ∀ c ∈ key.toList, c ≠ '>' ∧ c ≠ '"') :
    Passes false false (attributeText key value).toList := by
  have hname : ∀ c ∈ (attributeName key value).toList, c ≠ '>' ∧ c ≠ '"' := by
    unfold attributeName
    split
    · exact h
    · rw [String.toList_append]
      exact List.forall_mem_append.mpr ⟨by simp, h⟩
  have hopen : Passes false true "=\"".toList :=
    .cons (.inl (by decide)) (.cons (.inl (by decide)) (passes_nil true))
  have hvalue : Passes true true (escapeAttribute (attributeValue value)).toList :=
    passes_of_quote_not_mem (quote_not_mem_escapeAttribute _)
  have hclose : Passes true false "\"".toList := .cons (.inr rfl) (passes_nil false)
  rw [attributeText, String.toList_append, String.toList_append, String.toList_append]
  exact (((passes_of_plain hname).append hopen).append hvalue).append hclose

/-- A tag does not end within attributes whose names have neither `>` nor quotes. -/
theorem passes_attributesText {props : Props}
    (h : ∀ prop ∈ props, ∀ c ∈ prop.1.toList, c ≠ '>' ∧ c ≠ '"') :
    Passes false false (attributesText props).toList := by
  refine attributesText_induction (passes_nil false) ?_ ?_
  · exact fun prop hprop => passes_attributeText (h prop hprop)
  · exact fun cs cs' hcs hcs' => hcs.append (.cons (.inl (by decide)) hcs')

end PageSketch.Markup
