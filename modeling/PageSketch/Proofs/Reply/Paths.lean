import Mathlib
import PageSketch.Proofs.Reply.Classification
import PageSketch.Proofs.Reply.Fences
import PageSketch.Proofs.Sketch.Reading
import PageSketch.Proofs.Sketch.Sorting

/-!
# Two ways to a sketch

A text can be read as a sketch in one pass, or taken as a reply: stripped, parsed to a sorted value
and decoded. Where both ways lead to a sketch, the second one is the first one with its props
sorted. The two ways do not see the same text: a reply loses the blanks at its ends, of which only
some are blanks of JSON.
-/

namespace PageSketch.Reply

open Json

/-! ## Blanks at the ends -/

/-- Characters are JSON blanks, or JSON blanks before a character that is none. -/
theorem areBlanks_or (cs : List Char) :
    AreBlanks cs ∨ ∃ blanks c rest, AreBlanks blanks ∧ isJsonBlank c = false ∧
      cs = blanks ++ c :: rest := by
  induction cs with
  | nil => exact .inl areBlanks_nil
  | cons c rest ih =>
    cases hc : isJsonBlank c with
    | false => exact .inr ⟨[], c, rest, areBlanks_nil, hc, rfl⟩
    | true =>
      rcases ih with hrest | ⟨blanks, d, others, hblanks, hd, rfl⟩
      · exact .inl (by simpa [AreBlanks, hc] using hrest)
      · exact .inr ⟨c :: blanks, d, others, by simpa [AreBlanks, hc] using hblanks, hd, rfl⟩

/-- At a blank that is none of JSON no value begins. -/
theorem readValue_of_isBlank {c : Char} (h : Text.isBlank c = true) (hc : isJsonBlank c = false)
    {blanks : List Char} (hblanks : AreBlanks blanks) (fuel offset : Nat) (rest : List Char) :
    readValue (fuel + 1) ⟨offset, blanks ++ c :: rest⟩ =
      (.broken .noValue (offset + blanks.length + 1), none) := by
  have hne : ∀ d : Char, 0x20 < d.toNat → d.toNat < 0x80 → c ≠ d := fun d hlow hhigh =>
    Text.ne_of_isBlank h hlow hhigh
  rw [readValue]
  simp [skipBlanks_append hblanks, skipBlanks_cons hc, Text.isDigit_of_isBlank h,
    hne '"' (by decide) (by decide), hne '[' (by decide) (by decide),
    hne '\x7b' (by decide) (by decide), hne 'n' (by decide) (by decide),
    hne 't' (by decide) (by decide), hne 'f' (by decide) (by decide),
    hne '-' (by decide) (by decide)]

/-- A text whose trimmed form is a document is one itself, if it is read as a value with nothing
behind it. -/
theorem documentText_of_trimChars {cs : List Char} {literal : Literal}
    (h : DocumentText (Text.trimChars cs) literal)
    (hroot : ∀ offset, (Document.read cs).root ≠ .broken .noValue offset)
    (hextra : (Document.read cs).extra = none) : DocumentText cs literal := by
  obtain ⟨lead, trail, hlead, htrail, hcs⟩ := Text.exists_trimChars cs
  -- At a blank in front that is none of JSON the root would be broken.
  have hblanks : AreBlanks lead := by
    rcases areBlanks_or lead with hblanks | ⟨blanks, c, rest, hblanks, hc, hleadEq⟩
    · exact hblanks
    · have hc' : Text.isBlank c = true := hlead c (by simp [hleadEq])
      refine absurd ?_ (hroot (0 + blanks.length + 1))
      rw [Document.read, hcs, hleadEq, List.append_assoc, List.cons_append,
        readValue_of_isBlank hc' hc hblanks]
  generalize Text.trimChars cs = middle at h hcs
  obtain @⟨element, inner, literal, elementText, innerBlanks⟩ := h
  -- Blanks of either kind behind the value end a numeral, so the same element is read.
  have hends : EndsNumeral (inner ++ trail) := by
    have hnil : EndsNumeral [] := by simp [EndsNumeral]
    have htrail' : EndsNumeral trail := by simpa using Text.endsNumeral_append htrail hnil
    exact htrail'.append innerBlanks
  have hsplit : cs = lead ++ element ++ (inner ++ trail) := by simp [hcs]
  obtain ⟨tree, stop, -, hread⟩ := (elementText.append hblanks).read hends
  rw [hsplit, hread, Document.extra_before_eq_none_iff] at hextra
  rw [hsplit]
  exact .mk (elementText.append hblanks) hextra

/-- A text that is read as a sketch, and whose trimmed form spells a value, spells that value. -/
theorem spellsValue_of_trimChars {text : String} {s : Sketch} {v : Value}
    (hread : Sketch.read text = .ok s) (h : SpellsValue (Text.trimChars text.toList) v) :
    SpellsValue text.toList v := by
  obtain ⟨hroot, hextra⟩ := Document.decode_eq_ok_iff.mp hread
  obtain ⟨literal, hdocument, hlimits⟩ := h
  refine ⟨literal, documentText_of_trimChars hdocument ?_ hextra, hlimits⟩
  intro offset hbroken
  simp [hbroken, RecordReader.read] at hroot

/-! ## The two ways -/

/-- A text without a fence that is read as a sketch, and that is a reply with a sketch, is the reply
of that sketch with the keys of all props ascending. -/
theorem sketch_eq_sorted_read {text : String} {s s' : Sketch}
    (hfence : Text.occursIn fence text.toList = false) (hread : Sketch.read text = .ok s)
    (hreply : sketch text = .ok s') : s' = s.sorted := by
  obtain ⟨v, hv, hdecoded⟩ := sketch_eq_ok_iff.mp hreply
  obtain ⟨members, rfl⟩ := Sketch.exists_members_of_ofValue_sorted hdecoded
  rw [stripFencesChars_of_not_occursIn hfence] at hv
  -- Both ways see one value: the reader decodes it as it stands, and the reply has it sorted.
  have hspells := spellsValue_of_trimChars hread hv
  obtain ⟨hrepeated, hvalue⟩ := (Sketch.read_eq_ok_iff hspells).mp hread
  have hsorted := Sketch.ofValue_sorted hrepeated hvalue
  exact Except.ok.inj (hdecoded.symm.trans hsorted)

/-- The props of a component in array form are sorted on one of the two ways. -/
theorem sketch_eq_sorted_read_props :
    (⟨.empty, [⟨"", [("a", .null), ("b", .bool true)], none, []⟩]⟩ : Sketch) =
      Sketch.sorted ⟨.empty, [⟨"", [("b", .bool true), ("a", .null)], none, []⟩]⟩ :=
  @sketch_eq_sorted_read "\x7b\"components\":[[\"\",\x7b\"b\":true,\"a\":null\x7d]]\x7d" _ _
    (by cbv) (by cbv) (by unfold sketch; cbv)

end PageSketch.Reply
