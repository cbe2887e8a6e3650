import Mathlib
import PageSketch.Proofs.Reply.Classification
import PageSketch.Proofs.Sketch.Pruning

/-!
# What may be left out of a reply

Pruning the value of a reply changes neither the sketch of the reply nor the reason for which it is
refused: one step changes neither of the two parts that the sketch is decoded of, and any number of
steps is one after another.
-/

namespace PageSketch.Reply

open Json

/-- The list of components in a value in object form. -/
def componentItems? (members : List (String × Value)) : Option (List Value) :=
  match valueAt? "components" members with
  | some (.array items) => some items
  | _ => none

/-- A value has components when it has a list of them. -/
theorem hasComponents_object (members : List (String × Value)) :
    hasComponents (.object members) = (componentItems? members).isSome := by
  rw [hasComponents, Value.member?, componentItems?]
  cases valueAt? "components" members with
  | none => rfl
  | some value => cases value <;> rfl

/-- A value with components is decoded of these and of the header or of null in its place. -/
theorem sketch_ofValue_object_eq {members : List (String × Value)} {items : List Value}
    (h : componentItems? members = some items) :
    Sketch.ofValue (.object members) = do
      let components ← Component.ofValues items
      let header ← Header.orEmpty (orNull "page" members)
      return ⟨header, components⟩ := by
  have hvalue : valueAt? "components" members = some (.array items) := by
    rw [componentItems?] at h
    split at h
    · rename_i found hfound
      obtain rfl := Option.some.inj h
      exact hfound
    · cases h
  rw [Sketch.ofValue, hvalue, ← fieldOr_eq_orNull Header.orEmpty rfl]
  rfl

/-- Values in object form have the same sketch, or are refused for the same reason, when their
components and their headers are decoded as the same. -/
theorem sketchOfValue_object_congr {members others : List (String × Value)}
    (hcomponents : (componentItems? others).map Component.ofValues =
      (componentItems? members).map Component.ofValues)
    (hheader : Header.orEmpty (orNull "page" others) = Header.orEmpty (orNull "page" members)) :
    sketchOfValue (.object others) = sketchOfValue (.object members) := by
  rw [sketchOfValue, sketchOfValue, hasComponents_object, hasComponents_object]
  cases hitems : componentItems? members with
  | none =>
    rw [hitems, Option.map_none, Option.map_eq_none_iff] at hcomponents
    rw [hcomponents]
    rfl
  | some items =>
    rw [hitems, Option.map_some, Option.map_eq_some_iff] at hcomponents
    obtain ⟨found, hfound, hdecoded⟩ := hcomponents
    rw [hfound, sketch_ofValue_object_eq hitems, sketch_ofValue_object_eq hfound, hdecoded, hheader]
    rfl

/-- A value has the same sketch after pruning, or is refused for the same reason. -/
theorem sketchOfValue_of_prunes {v w : Value} (h : Sketch.Prunes v w) (hv : v.WellKeyed) :
    sketchOfValue w = sketchOfValue v := by
  cases h with
  | leavesOut h =>
    obtain ⟨idle⟩ := h
    refine sketchOfValue_object_congr ?_ ?_
    · rw [componentItems?, componentItems?, idle.valueAt?_eq (by decide) (by decide)]
    · rw [idle.orNull_eq hv.top (by decide)]
  | @header before after v w header =>
    have hw := hv.replaced (LeavesOut.wellKeyed header hv.inner)
    refine sketchOfValue_object_congr ?_ ?_
    · rw [componentItems?, componentItems?, valueAt?_replaced (by decide)]
    · rw [orNull, orNull, hw.top.valueAt?_eq, hv.top.valueAt?_eq]
      exact header.orEmpty_eq hv.inner
  | @component before after first rest v w component =>
    have hcomponent : v.WellKeyed := hv.inner.inner_item
    have hw := hv.replaced (hv.inner.item_replaced (component.wellKeyed hcomponent))
    refine sketchOfValue_object_congr ?_ ?_
    · rw [componentItems?, componentItems?, hw.top.valueAt?_eq, hv.top.valueAt?_eq]
      simp [Component.ofValues_eq_mapM, component.ofValue_eq hcomponent]
    · rw [orNull, orNull, valueAt?_replaced (by decide)]

/-- After pruning again and again a value has the same sketch, or is refused for the same reason. -/
theorem sketchOfValue_of_pruned {v w : Value} (h : Relation.ReflTransGen Sketch.Prunes v w)
    (hv : v.WellKeyed) : w.WellKeyed ∧ sketchOfValue w = sketchOfValue v := by
  induction h with
  | refl => exact ⟨hv, rfl⟩
  | tail _ hstep ih =>
    obtain ⟨hkeyed, heq⟩ := ih
    exact ⟨hstep.wellKeyed hkeyed, (sketchOfValue_of_prunes hstep hkeyed).trans heq⟩

/-- A component has the same props after pruning it again and again. -/
theorem propsPart?_of_pruned {v w : Value} {props : Props}
    (h : Relation.ReflTransGen Component.Prunes v w) (hv : v.WellKeyed)
    (hpart : Component.propsPart? v = some (.object props)) :
    w.WellKeyed ∧ Component.propsPart? w = some (.object props) := by
  induction h with
  | refl => exact ⟨hv, hpart⟩
  | tail _ hstep ih => exact ⟨hstep.wellKeyed ih.1, hstep.propsPart?_eq ih.2⟩

/-- Leaving out any number of members that say nothing, one after another and wherever they stand,
changes neither the sketch of a value nor the reason for which it is refused, whether it is the value
of a reply or any other with every key once. The props of a component are kept, null or not. -/
theorem pruning_changes_nothing :
    (∀ v w : Value, v.WellKeyed → Relation.ReflTransGen Sketch.Prunes v w →
      sketchOfValue w = sketchOfValue v) ∧
    (∀ (text : String) (v w : Value), parse (stripFences text) = .ok v →
      Relation.ReflTransGen Sketch.Prunes v w → sketchOfValue w = sketch text) ∧
    (∀ (v w : Value) (props : Props), v.WellKeyed → Relation.ReflTransGen Component.Prunes v w →
      Component.propsPart? v = some (.object props) →
      Component.propsPart? w = some (.object props) ∧
        ∀ c : Component, Component.ofValue w = .ok c → c.props = props) := by
  refine ⟨fun v w hv h => (sketchOfValue_of_pruned h hv).2, fun text v w hparse h => ?_,
    fun v w props hv h hpart => ?_⟩
  · obtain ⟨spelled, -, rfl⟩ := parse_eq_ok_iff.mp hparse
    rw [(sketchOfValue_of_pruned h spelled.sorted_sorted.wellKeyed).2]
    unfold sketch
    rw [hparse]
  · obtain ⟨hw, hkept⟩ := propsPart?_of_pruned h hv hpart
    exact ⟨hkept, fun c hc => Component.props_of_propsPart? hw hkept hc⟩

/-- A component that is none, and a card with a note and without a width, on a page that is null. -/
theorem pruning_changes_nothing_card :
    sketchOfValue (.object [("components", .array [.bool true])]) =
      sketchOfValue (.object [("components", .array [.bool true]), ("page", .null)]) ∧
    sketchOfValue (.object [("components", .array [.object [("component", .string "d-card"),
        ("props", .object [("a", .null)])]])]) =
      sketch ("\x7b\"components\":[\x7b\"component\":\"d-card\",\"note\":true," ++
        "\"props\":\x7b\"a\":null\x7d,\"span\":null\x7d],\"page\":null\x7d") ∧
    ∀ c, Component.ofValue (.object [("component", .string "d-card"),
      ("props", .object [("a", .null)])]) = .ok c → c.props = [("a", .null)] := by
  have hnote : Component.Prunes
      (.object [("component", .string "d-card"), ("note", .bool true),
        ("props", .object [("a", .null)]), ("span", .null)])
      (.object [("component", .string "d-card"), ("props", .object [("a", .null)]),
        ("span", .null)]) :=
    .leavesOut (@LeavesOut.mk _ _ [("component", _)] _ "note" _ (.inl (by decide)))
  have hspan : Component.Prunes
      (.object [("component", .string "d-card"), ("props", .object [("a", .null)]),
        ("span", .null)])
      (.object [("component", .string "d-card"), ("props", .object [("a", .null)])]) :=
    .leavesOut (@LeavesOut.mk _ _ [("component", _), ("props", _)] [] "span" _
      (.inr ⟨by decide, rfl⟩))
  have hpage : ∀ components : Value, Sketch.Prunes
      (.object [("components", components), ("page", .null)])
      (.object [("components", components)]) := fun components =>
    .leavesOut (@LeavesOut.mk _ _ [("components", components)] [] "page" _ (.inr ⟨by decide, rfl⟩))
  have hcomponent : ∀ {card pruned : Value}, Component.Prunes card pruned → Sketch.Prunes
      (.object [("components", .array [card])]) (.object [("components", .array [pruned])]) :=
    fun h => @Sketch.Prunes.component [] [] [] [] _ _ h
  obtain ⟨hvalue, htext, hprops⟩ := pruning_changes_nothing
  refine ⟨hvalue _ _ ?_ (.single (hpage _)), ?_, ?_⟩
  · simp [Value.WellKeyed, Value.Everywhere, Value.ObjectKeysOnce, KeysOnce]
  · refine htext _ _ _ ?_ (((Relation.ReflTransGen.single (hpage _)).tail
      (hcomponent hnote)).tail (hcomponent hspan))
    cbv
  · refine (hprops _ _ _ ?_ ((Relation.ReflTransGen.single hnote).tail hspan) rfl).2
    simp [Value.WellKeyed, Value.Everywhere, Value.ObjectKeysOnce, KeysOnce]

end PageSketch.Reply
