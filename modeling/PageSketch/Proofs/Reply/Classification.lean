import PageSketch.Generation.Reply
import PageSketch.Proofs.Json.Document
import PageSketch.Proofs.Sketch.Shape

/-!
# Which replies are accepted

A reply without its fences is malformed when it is no JSON document within the limits of the
reader, it is accepted when the value of the document has the shape of a sketch, and it is refused
for its shape otherwise.
-/

namespace PageSketch.Reply

open Json

/-- A value is accepted when it has the shape of a sketch. -/
theorem exists_sketchOfValue_iff {v : Value} (h : v.WellKeyed) :
    (∃ sketch, sketchOfValue v = .ok sketch) ↔ Sketch.Shape v := by
  rw [← Sketch.exists_ofValue_iff h, sketchOfValue]
  split
  · cases Sketch.ofValue v <;> simp
  · rename_i hcomponents
    constructor
    · rintro ⟨sketch, hsketch⟩
      simp at hsketch
    · intro hsketch
      -- A sketch has a list of components, so it cannot have failed the check for one.
      refine absurd ?_ hcomponents
      obtain @⟨members, items, hitems, -, -⟩ := (Sketch.exists_ofValue_iff h).mp hsketch
      rw [hasComponents, Value.member?, hitems]

/-- An accepted value is accepted as the sketch that it is decoded to. -/
theorem sketchOfValue_eq_ok_iff {v : Value} (h : v.WellKeyed) {sketch : Sketch} :
    sketchOfValue v = .ok sketch ↔ Sketch.ofValue v = .ok sketch := by
  have hsome : (∃ sketch, sketchOfValue v = .ok sketch) ↔ ∃ sketch, Sketch.ofValue v = .ok sketch := by
    rw [exists_sketchOfValue_iff h, Sketch.exists_ofValue_iff h]
  rw [sketchOfValue] at hsome ⊢
  split
  · cases Sketch.ofValue v <;> simp
  · rename_i hcomponents
    rw [if_neg hcomponents] at hsome
    simp only [reduceCtorEq, exists_false, false_iff, not_exists] at hsome ⊢
    exact hsome sketch

/-- A value that is not accepted is refused for its shape. -/
theorem sketchOfValue_cases (v : Value) :
    (∃ sketch, sketchOfValue v = .ok sketch) ∨
      ∃ reason, sketchOfValue v = .error (.invalidShape reason) := by
  rw [sketchOfValue]
  split
  · cases Sketch.ofValue v with
    | ok sketch => exact .inl ⟨sketch, rfl⟩
    | error e => exact .inr ⟨e.message, rfl⟩
  · exact .inr ⟨_, rfl⟩

/-- The sketch of a reply that is a document is the one in the sorted value. -/
theorem sketch_of_spellsValue {text : String} {v : Value}
    (h : SpellsValue (stripFencesChars text.toList) v) : sketch text = sketchOfValue v.sorted := by
  have hparse : parse (stripFences text) = .ok v.sorted :=
    parse_eq_ok_iff.mpr ⟨v, by rwa [stripFences, String.toList_ofList], rfl⟩
  unfold sketch
  simp only [hparse]

/-- A reply that is no document is malformed. -/
theorem sketch_of_not_spellsValue {text : String}
    (h : ¬∃ v, SpellsValue (stripFencesChars text.toList) v) :
    ∃ e, sketch text = .error (.malformedReply e) := by
  unfold sketch
  cases hparse : parse (stripFences text) with
  | error e => exact ⟨e, rfl⟩
  | ok v =>
    obtain ⟨w, hw, -⟩ := parse_eq_ok_iff.mp hparse
    exact absurd ⟨w, by rwa [stripFences, String.toList_ofList] at hw⟩ h

/-- A reply has a sketch when it is a document and the sketch is decoded of its sorted value. -/
theorem sketch_eq_ok_iff {text : String} {s : Sketch} :
    sketch text = .ok s ↔
      ∃ v, SpellsValue (stripFencesChars text.toList) v ∧ Sketch.ofValue v.sorted = .ok s := by
  constructor
  · intro h
    by_cases hdocument : ∃ v, SpellsValue (stripFencesChars text.toList) v
    · obtain ⟨v, hv⟩ := hdocument
      rw [sketch_of_spellsValue hv, sketchOfValue_eq_ok_iff v.sorted_sorted.wellKeyed] at h
      exact ⟨v, hv, h⟩
    · obtain ⟨e, he⟩ := sketch_of_not_spellsValue hdocument
      rw [he] at h
      cases h
  · rintro ⟨v, hv, h⟩
    rw [sketch_of_spellsValue hv, sketchOfValue_eq_ok_iff v.sorted_sorted.wellKeyed]
    exact h

/-- A reply is malformed when it is no document. -/
theorem exists_malformedReply_iff {text : String} :
    (∃ e, sketch text = .error (.malformedReply e)) ↔
      ¬∃ v, SpellsValue (stripFencesChars text.toList) v := by
  constructor
  · rintro ⟨e, he⟩ ⟨v, hv⟩
    rw [sketch_of_spellsValue hv] at he
    rcases sketchOfValue_cases v.sorted with ⟨s, hs⟩ | ⟨reason, hreason⟩
    · simp [hs] at he
    · simp [hreason] at he
  · exact sketch_of_not_spellsValue

/-- A reply is accepted when it is a document whose value has the shape of a sketch. -/
theorem exists_sketch_iff {text : String} :
    (∃ s, sketch text = .ok s) ↔
      ∃ v, SpellsValue (stripFencesChars text.toList) v ∧ Sketch.Shape v.sorted := by
  simp only [sketch_eq_ok_iff]
  rw [exists_comm]
  refine exists_congr fun v => ?_
  rw [exists_and_left, Sketch.exists_ofValue_iff v.sorted_sorted.wellKeyed]

/-- A reply is refused for its shape when it is a document whose value has no such shape. -/
theorem exists_invalidShape_iff {text : String} :
    (∃ reason, sketch text = .error (.invalidShape reason)) ↔
      ∃ v, SpellsValue (stripFencesChars text.toList) v ∧ ¬Sketch.Shape v.sorted := by
  constructor
  · rintro ⟨reason, hreason⟩
    by_cases hdocument : ∃ v, SpellsValue (stripFencesChars text.toList) v
    · obtain ⟨v, hv⟩ := hdocument
      rw [sketch_of_spellsValue hv] at hreason
      refine ⟨v, hv, fun hshape => ?_⟩
      obtain ⟨s, hs⟩ := (exists_sketchOfValue_iff v.sorted_sorted.wellKeyed).mpr hshape
      simp [hs] at hreason
    · obtain ⟨e, he⟩ := sketch_of_not_spellsValue hdocument
      simp [he] at hreason
  · rintro ⟨v, hv, hshape⟩
    rw [sketch_of_spellsValue hv]
    rcases sketchOfValue_cases v.sorted with hs | hreason
    · exact absurd ((exists_sketchOfValue_iff v.sorted_sorted.wellKeyed).mp hs) hshape
    · exact hreason

/-- A reply is malformed exactly when it is no JSON document within the limits of the reader; it is
accepted exactly when it is one whose value has the shape of a sketch, and refused for its shape
exactly when it is one whose value does not. -/
theorem sketch_classification (text : String) :
    ((∃ e, sketch text = .error (.malformedReply e)) ↔
      ¬∃ v, SpellsValue (stripFencesChars text.toList) v) ∧
    ((∃ s, sketch text = .ok s) ↔
      ∃ v, SpellsValue (stripFencesChars text.toList) v ∧ Sketch.Shape v.sorted) ∧
    ((∃ reason, sketch text = .error (.invalidShape reason)) ↔
      ∃ v, SpellsValue (stripFencesChars text.toList) v ∧ ¬Sketch.Shape v.sorted) :=
  ⟨exists_malformedReply_iff, exists_sketch_iff, exists_invalidShape_iff⟩

end PageSketch.Reply
