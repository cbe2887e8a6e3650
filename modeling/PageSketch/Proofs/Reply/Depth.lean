import Mathlib
import PageSketch.Proofs.Reply.Saved
import PageSketch.Proofs.Sketch.Stack

/-!
# The depth of a reply

Nothing that is done with a sketch looks at its depth. It need not, for the reader of the reply does:
at most 127 arrays and objects stand within each other there, two of them around the components of
each level. So the components and the props of a sketch are at a bounded depth, and every pass over it
ends on a stack of fixed size.
-/

namespace PageSketch.Reply

open Json Markup

/-- The JSON form of the sketch of a reply has at most 127 levels. -/
theorem nesting_le_of_sketch {text : String} {s : Sketch} (h : sketch text = .ok s) :
    s.toValue.nesting ≤ 127 :=
  Nat.le_of_lt_succ (nesting_lt_of_sketch h)

/-- The components of a reply are at most 63 levels deep, the level and the nesting of a prop are
bounded together, and literals of props and all passes over the sketch end on a stack of fixed size. -/
theorem depth_bounded {text : String} {s : Sketch} (h : sketch text = .ok s) :
    (∀ place c, s.componentAt? place = some c → place.length ≤ 63 ∧
      ∀ prop ∈ c.props, 2 * place.length + 2 + prop.2.nesting ≤ 127 ∧
        literalOnStack? 124 prop.2 = some (literal prop.2)) ∧
    s.PassesFit 126 := by
  have hnesting := nesting_le_of_sketch h
  refine ⟨fun place c hc => ⟨?_, fun prop hprop => ?_⟩, Sketch.passesFit hnesting⟩
  · have hplace := Sketch.length_place_le hc
    omega
  · have hlevels := Sketch.length_place_add_nesting_prop_le hc hprop
    have hpos : 0 < place.length :=
      List.length_pos_of_ne_nil (Sketch.ne_nil_of_componentAt? hc)
    exact ⟨by omega, literalOnStack?_eq_some (by omega)⟩

/-- A card with an array within an array as a prop, and with a row in array form as its child. -/
theorem depth_bounded_card :
    let card : Component := ⟨"d-card", [("a", .array [.array [.null]])], none,
      [.component ⟨"d-row", [], some 7, []⟩]⟩
    sketch "\x7b\"components\":[[\"d-card\",\x7b\"a\":[[null]]\x7d,null,[[\"d-row\",null,\"7\"]]]]\x7d" =
        .ok ⟨.empty, [card]⟩ ∧
      2 * 1 + 2 + (Value.array [.array [.null]]).nesting ≤ 127 ∧
      renderComponentOnStack? 126 2 card = some (renderComponent 2 card) ∧
      collectComponentOnStack? 126 [] card = some (usedNames [card]) ∧
      card.violationsOnStack? .flow 126 "components[0]" =
        some (card.violations .flow "components[0]") := by
  intro card
  have hcard : sketch
      "\x7b\"components\":[[\"d-card\",\x7b\"a\":[[null]]\x7d,null,[[\"d-row\",null,\"7\"]]]]\x7d" =
        .ok ⟨.empty, [card]⟩ := by
    unfold sketch
    cbv
  obtain ⟨hplaces, hpasses⟩ := depth_bounded hcard
  refine ⟨hcard, ?_, hpasses.rendered 2 card List.mem_cons_self, ?_,
    hpasses.checked _ card List.mem_cons_self⟩
  · exact ((hplaces [0] card rfl).2 _ List.mem_cons_self).1
  · simpa using hpasses.collected

end PageSketch.Reply
