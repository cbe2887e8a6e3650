import Mathlib
import PageSketch.Proofs.Reply.Classification
import PageSketch.Proofs.Reply.Fences
import PageSketch.Proofs.Sketch.Numbers
import PageSketch.Proofs.Sketch.RoundTrip
import PageSketch.Proofs.Sketch.Within

/-!
# Saved sketches

The sketch of a reply can be saved as text, and the saved text can be taken as a reply. It is then
stripped like every reply, and its numbers are read again; nothing else can change on the way, since
the sketch of a reply is sorted and within the depth of the reader already.
-/

namespace PageSketch.Reply

open Json

/-! ## Sketches of replies -/

/-- The sketch of a reply has the keys of its props ascending. -/
theorem sorted_of_sketch {text : String} {s : Sketch} (h : sketch text = .ok s) :
    s.sorted = s := by
  obtain ⟨v, -, hvalue⟩ := sketch_eq_ok_iff.mp h
  exact Sketch.sorted_of_ofValue v.sorted_sorted hvalue

/-- The sketch of a reply is nested within the depth of the reader. -/
theorem nesting_lt_of_sketch {text : String} {s : Sketch} (h : sketch text = .ok s) :
    s.toValue.nesting < maxDepth := by
  obtain ⟨v, hv, hvalue⟩ := sketch_eq_ok_iff.mp h
  calc s.toValue.nesting
    _ ≤ v.sorted.nesting := Sketch.nesting_toValue_le hvalue
    _ ≤ v.nesting := v.nesting_sorted_le
    _ < maxDepth := hv.nesting_lt

/-! ## What is left of a saved sketch -/

/-- What is left of a saved sketch is the text of its JSON form without fences. -/
theorem stripFencesChars_saved (s : Sketch) :
    stripFencesChars s.toValue.pretty.toList = (withoutFences s.toValue).pretty.toList :=
  stripFencesChars_pretty _ _

/-- The words that every sketch is written with have no fence. -/
theorem unfenced_ownWords : ∀ word ∈ ownWords, Unfenced word := by
  decide

/-- A saved sketch that is taken again has no fence in its texts: the sketch that is taken has none,
because what it is decoded from was stripped. -/
theorem texts_of_taken {s : Sketch} (h : sketch s.toValue.pretty = .ok s) :
    s.toValue.Texts Unfenced := by
  obtain ⟨v, hv, hvalue⟩ := sketch_eq_ok_iff.mp h
  rw [stripFencesChars_saved] at hv
  obtain ⟨-, hreread⟩ := Value.spellsValue_pretty_iff.mp hv
  obtain rfl := Value.respell_of_reread? _ hreread
  have htexts := (texts_withoutFences s.toValue).respell (p := Unfenced) (fun _ h => h) Number.reread
  have hwithin : Value.Within Unfenced _ _ := ⟨Nat.le_refl _, htexts⟩
  exact (Sketch.within_toValue unfenced_ownWords hvalue hwithin.sorted).texts

/-- Rereading keeps widths. -/
theorem reread_ofInt64 (n : Int64) : (Number.ofInt64 n).reread = .ofInt64 n := by
  have hinteger : (Number.ofInt64 n).IsInteger := trivial
  have hrereads : (Number.ofInt64 n).reread? = some (.ofInt64 n) := hinteger.rereads
  rw [Number.reread, hrereads, Option.getD_some]

/-- A saved sketch without a fence is taken as the sketch with its numbers reread, if these are in
range. -/
theorem sketch_saved {s s' : Sketch} (hsorted : s.sorted = s) (htexts : s.toValue.Texts Unfenced)
    (h : sketch s.toValue.pretty = .ok s') :
    s' = s.mapNumbers Number.reread ∧ s.toValue.reread? = some s'.toValue := by
  obtain ⟨v, hv, hvalue⟩ := sketch_eq_ok_iff.mp h
  rw [stripFencesChars_saved, withoutFences_of_texts htexts] at hv
  obtain ⟨-, hreread⟩ := Value.spellsValue_pretty_iff.mp hv
  -- What the saved text spells is the JSON form of the sketch with its numbers reread.
  have hv' : (s.mapNumbers Number.reread).toValue = v := by
    rw [Sketch.toValue_mapNumbers reread_ofInt64, Value.respell_of_reread? _ hreread]
  rw [← hv', Sketch.ofValue_sorted_toValue (Sketch.sorted_mapNumbers hsorted)] at hvalue
  obtain rfl := Except.ok.inj hvalue
  exact ⟨rfl, hv' ▸ hreread⟩

/-- A saved sketch that is taken as it was has only numbers that reread. -/
theorem numbers_of_taken {text : String} {s : Sketch} (h : sketch text = .ok s)
    (htaken : sketch s.toValue.pretty = .ok s) : s.toValue.Numbers Number.Rereads := by
  have hreread := (sketch_saved (sorted_of_sketch h) (texts_of_taken htaken) htaken).2
  exact (Value.reread?_eq_self_iff _).mp hreread

/-! ## A reply with a number -/

/-- The text of a reply with a number as the only child of its only component. -/
def numberReply : String := "\x7b\"components\":[[\"\",null,null,[11e23]]]\x7d"

/-- The sketch of this reply, whatever the number is. -/
theorem sketch_numberReply {n : Number} (h : wholeNumber? "11e23".toList = some n) :
    sketch numberReply = .ok ⟨.empty, [⟨"", [], none, [.number n]⟩]⟩ := by
  obtain ⟨numeral, htext, hvalue⟩ := wholeNumber?_eq_some_iff.mp h
  -- The reply is the text of an outline, put together from its atoms.
  have hempty : Outline.Writes (.string "") (.string "") := .atom (valueText_writeString "")
  have hnull : Outline.Writes (.atom "null") .null := .atom .nullWord
  have hchildren : Outline.Writes (.list [.atom "11e23"]) (.array [.number numeral]) :=
    .list (.cons (.atom (.number htext)) .nil)
  have hcomponent : Outline.Writes
      (.list [.string "", .atom "null", .atom "null", .list [.atom "11e23"]])
      (.array [.string "", .null, .null, .array [.number numeral]]) :=
    .list (.cons hempty (.cons hnull (.cons hnull (.cons hchildren .nil))))
  have hreply : Outline.Writes (.record [("components", .list
      [.list [.string "", .atom "null", .atom "null", .list [.atom "11e23"]]])])
      (.object [("components", .array
        [.array [.string "", .null, .null, .array [.number numeral]]])]) :=
    .record (.cons (.list (.cons hcomponent .nil)) .nil)
  have hspells : SpellsValue numberReply.toList (.object [("components", .array
      [.array [.string "", .null, .null, .array [.number n]]])]) := by
    refine (Value.spellsValue_iff_of_valueText hreply.compact).mpr ⟨by cbv, ?_⟩
    simp [Literal.value?, Literal.itemValues?, Literal.memberValues?, hvalue]
  have hstrip : stripFencesChars numberReply.toList = numberReply.toList := by decide
  rw [← hstrip] at hspells
  exact sketch_eq_ok_iff.mpr ⟨_, hspells, by cbv⟩

/-! ## Saving and taking -/

/-- The sketch of a reply is saved and taken again as it was exactly when no fence occurs in the saved
text and each of its numbers is the one that its text is read as. -/
theorem sketch_pretty_iff {text : String} {s : Sketch} (h : sketch text = .ok s) :
    sketch s.toValue.pretty = .ok s ↔
      Text.occursIn fence s.toValue.pretty.toList = false ∧ s.toValue.Numbers Number.Rereads := by
  constructor
  · intro htaken
    exact ⟨unfenced_pretty (texts_of_taken htaken), numbers_of_taken h htaken⟩
  · rintro ⟨hfence, hnumbers⟩
    have hspells : SpellsValue (stripFencesChars s.toValue.pretty.toList) s.toValue := by
      rw [show stripFencesChars s.toValue.pretty.toList = s.toValue.pretty.toList from
        stripFencesChars_of_unfenced _ _ hfence, Value.spellsValue_pretty_iff]
      exact ⟨nesting_lt_of_sketch h, (Value.reread?_eq_self_iff _).mpr hnumbers⟩
    exact sketch_eq_ok_iff.mpr ⟨_, hspells, Sketch.ofValue_sorted_toValue (sorted_of_sketch h)⟩

/-- A component with a text and a whole number is taken as it was. -/
theorem sketch_pretty_props :
    sketch (Sketch.toValue
        ⟨.empty, [⟨"", [("a", .number (.ofInt64 1)), ("b", .string "x")], none, []⟩]⟩).pretty =
      .ok ⟨.empty, [⟨"", [("a", .number (.ofInt64 1)), ("b", .string "x")], none, []⟩]⟩ := by
  refine (@sketch_pretty_iff
    "\x7b\"components\":[[\"\",\x7b\"b\":\"x\",\"a\":1\x7d]]\x7d" _ ?_).mpr ⟨?_, ?_⟩
  · unfold sketch
    cbv
  · refine unfenced_pretty ?_
    simp only [Value.Texts, Sketch.toValue, Header.toValue, Header.empty, List.map_cons,
      Component.toValue, List.isEmpty_cons, Bool.false_eq_true, if_false, List.cons_append,
      List.nil_append, List.append_nil, List.map_nil, Value.Everywhere, Value.OwnTexts,
      List.mem_cons, List.not_mem_nil, or_false, forall_eq_or_imp, forall_eq,
      Value.everywhereMembers_iff, Value.everywhereItems_iff, true_and]
    decide
  · have hone : (Number.ofInt64 1).Rereads := Number.IsInteger.rereads trivial
    simp [Sketch.toValue, Header.toValue, Component.toValue, Value.Numbers, Value.Everywhere,
      Value.IfNumber, hone]

/-- A title with a fence and a number that does not reread are saved, and something else is taken. -/
theorem exists_sketch_pretty_ne :
    (∃ s, sketch "\x7b\"page\":[\"\\u0060\\u0060\\u0060\"],\"components\":[]\x7d" = .ok s ∧
      sketch s.toValue.pretty ≠ .ok s) ∧
    (∃ s, sketch "\x7b\"components\":[[\"\",null,null,[11e23]]]\x7d" = .ok s ∧
      sketch s.toValue.pretty ≠ .ok s) := by
  constructor
  · refine ⟨⟨⟨"\x60\x60\x60", .flow⟩, []⟩, ?_, fun htaken => ?_⟩
    · unfold sketch
      cbv
    · have htexts := texts_of_taken htaken
      have hheader := htexts.member List.mem_cons_self
      have htitle : Unfenced "\x60\x60\x60" := hheader.member List.mem_cons_self
      revert htitle
      decide
  · obtain ⟨n, hn⟩ : ∃ n, wholeNumber? "11e23".toList = some n :=
      Option.isSome_iff_exists.mp (by decide +kernel)
    refine ⟨_, sketch_numberReply hn, fun htaken => ?_⟩
    have hnumbers := numbers_of_taken (sketch_numberReply hn) htaken
    have hrereads : n.Rereads := by
      simpa [Sketch.toValue, Header.toValue, Component.toValue, Child.toValue, Child.toValues,
        Value.Numbers, Value.Everywhere, Value.IfNumber] using hnumbers
    have hchanged : (wholeNumber? "11e23".toList).bind Number.reread? ≠
        wholeNumber? "11e23".toList := by decide +kernel
    rw [hn] at hchanged
    exact hchanged hrereads

end PageSketch.Reply
