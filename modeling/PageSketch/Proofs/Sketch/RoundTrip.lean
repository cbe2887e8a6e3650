import PageSketch.Proofs.Json.Writing
import PageSketch.Proofs.Sketch.Reading
import PageSketch.Proofs.Sketch.Sorting
import PageSketch.Proofs.Sketch.Writing

/-!
# Sketches and their texts

A sketch is read from its text again: every component and child in its place, every prop with its
value, and the keys in their order.
-/

namespace PageSketch

open Json

/-- A sketch is read from any text that spells its JSON form. -/
theorem Sketch.read_of_spellsValue {text : String} {sketch : Sketch}
    (hkeys : sketch.toValue.WellKeyed) (h : SpellsValue text.toList sketch.toValue) :
    Sketch.read text = .ok sketch := by
  have hobject : sketch.toValue = .object sketch.members := rfl
  rw [hobject] at h
  exact (read_eq_ok_iff h).mpr
    ⟨sketch.keysOnce_members.refuseRepeated_eq_ok _, ofValue_toValue hkeys⟩

/-- A sketch with every key once, whole numbers only and at most 127 levels is read from its text on
one line, and from its text with one entry a line, as it was. -/
theorem Sketch.read_written (sketch : Sketch) (hkeys : sketch.toValue.WellKeyed)
    (hnumbers : sketch.toValue.Numbers Number.IsInteger)
    (hnesting : sketch.toValue.nesting ≤ 127) :
    Sketch.read sketch.toValue.compact = .ok sketch ∧
      Sketch.read sketch.toValue.pretty = .ok sketch := by
  have hreread : sketch.toValue.reread? = some sketch.toValue := by
    refine (Value.reread?_eq_self_iff _).mpr ?_
    refine Value.Everywhere.imp (fun value hvalue => ?_) hnumbers
    cases value with
    | number n => exact Number.IsInteger.rereads hvalue
    | _ => trivial
  have hdepth : sketch.toValue.nesting < maxDepth := by
    rw [maxDepth]
    omega
  constructor
  · exact read_of_spellsValue hkeys (Value.spellsValue_compact_iff.mpr ⟨hdepth, hreread⟩)
  · exact read_of_spellsValue hkeys (Value.spellsValue_pretty_iff.mpr ⟨hdepth, hreread⟩)

/-- A sketch with keys that do not ascend, a width, and a child within a child. -/
def Sketch.nested : Sketch where
  header := ⟨"say \"hi\" \\ \n", .grid⟩
  components := [⟨"Row", [("b", .array [.bool true, .null]), ("a", .number (.ofInt64 (-7)))], some 3,
    [.component (.named "Button"), .text "ok", .number (.ofInt64 12), .bool false]⟩]

/-- This sketch is read from its texts. -/
theorem Sketch.read_written_nested :
    Sketch.read Sketch.nested.toValue.compact = .ok Sketch.nested ∧
      Sketch.read Sketch.nested.toValue.pretty = .ok Sketch.nested := by
  refine Sketch.read_written Sketch.nested ?_ ?_ ?_
  · simp [Value.WellKeyed, nested, toValue, Header.toValue, Component.toValue,
      Child.toValue, Child.toValues, Component.named, Value.Everywhere, Value.ObjectKeysOnce, KeysOnce]
  · simp [Value.Numbers, nested, toValue, Header.toValue, Component.toValue,
      Child.toValue, Child.toValues, Component.named, Value.Everywhere, Value.IfNumber,
      Number.IsInteger, Number.ofInt64]
  · simp [nested, toValue, Header.toValue, Component.toValue,
      Child.toValue, Child.toValues, Component.named, Value.nesting, Value.itemNesting,
      Value.memberNesting]

/-! ## Sorted sketches -/

/-- The JSON form of a component has every key once when its props and its children do. -/
theorem Component.wellKeyed_toValue {c : Component} (hprops : (Value.object c.props).WellKeyed)
    (hchildren : ∀ v ∈ Child.toValues c.children, v.WellKeyed) : c.toValue.WellKeyed := by
  rw [toValue_eq_object]
  refine Value.everywhere_object.mpr ⟨c.keysOnce_members, fun member hmember => ?_⟩
  rcases mem_members hmember with rfl | ⟨-, rfl⟩ | ⟨n, rfl⟩ | ⟨-, rfl⟩
  · trivial
  · exact hprops
  · trivial
  · exact Value.everywhere_array.mpr ⟨trivial, hchildren⟩

mutual

/-- The JSON form of a sorted component has every key once. -/
theorem Component.wellKeyed_of_sorted (c : Component) (h : c.sorted = c) :
    c.toValue.WellKeyed := by
  match c with
  | ⟨name, props, span, children⟩ =>
    obtain ⟨hprops, hchildren⟩ := Component.sorted_parts h
    exact Component.wellKeyed_toValue hprops.wellKeyed (Child.wellKeyed_of_sortedAll children hchildren)

/-- The JSON form of a sorted child has every key once. -/
theorem Child.wellKeyed_of_sorted (child : Child) (h : child.sorted = child) :
    child.toValue.WellKeyed := by
  match child with
  | .component c =>
    rw [Child.sorted, Child.component.injEq] at h
    exact Component.wellKeyed_of_sorted c h
  | .text _ | .number _ | .bool _ => trivial

/-- The JSON forms of sorted children have every key once. -/
theorem Child.wellKeyed_of_sortedAll (children : List Child)
    (h : Child.sortedAll children = children) :
    ∀ v ∈ Child.toValues children, v.WellKeyed := by
  match children with
  | [] => simp [Child.toValues]
  | child :: rest =>
    rw [Child.sortedAll, List.cons.injEq] at h
    rw [Child.toValues, List.forall_mem_cons]
    exact ⟨Child.wellKeyed_of_sorted child h.1, Child.wellKeyed_of_sortedAll rest h.2⟩

end

/-- The JSON form of a sorted sketch has every key once. -/
theorem Sketch.wellKeyed_of_sorted {sketch : Sketch} (h : sketch.sorted = sketch) :
    sketch.toValue.WellKeyed := by
  refine Value.everywhere_object.mpr ⟨sketch.keysOnce_members, fun member hmember => ?_⟩
  simp only [List.mem_cons, List.not_mem_nil, or_false] at hmember
  rcases hmember with rfl | rfl
  · refine Value.everywhere_object.mpr ⟨by simp [Value.ObjectKeysOnce, KeysOnce], ?_⟩
    simp [Value.Everywhere, Value.ObjectKeysOnce]
  · refine Value.everywhere_array.mpr ⟨trivial, fun item hitem => ?_⟩
    obtain ⟨c, hc, rfl⟩ := List.mem_map.mp hitem
    exact Component.wellKeyed_of_sorted c (sorted_components h c hc)

/-- A sorted sketch is decoded of its JSON form, also when that has been sorted. -/
theorem Sketch.ofValue_sorted_toValue {sketch : Sketch} (h : sketch.sorted = sketch) :
    Sketch.ofValue sketch.toValue.sorted = .ok sketch := by
  have hvalue := ofValue_toValue (wellKeyed_of_sorted h)
  have hrepeated := sketch.keysOnce_members.refuseRepeated_eq_ok ["page", "components"]
  have hsorted := ofValue_sorted hrepeated hvalue
  rwa [h] at hsorted

end PageSketch
