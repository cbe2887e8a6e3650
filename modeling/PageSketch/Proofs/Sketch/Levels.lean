import PageSketch.Proofs.Sketch.Places
import PageSketch.Proofs.Sketch.Writing

/-!
# Levels of a sketch

In the JSON form of a sketch a component takes up one level, and the list of its children another
one. So a component whose place has `k` indices stands below `2 * k` levels, and the nesting of the
whole form bounds the places of all components and the nesting of their props.
-/

namespace PageSketch

open Json

/-- The JSON forms of children are those of each of them. -/
theorem Child.toValues_eq_map (children : List Child) :
    Child.toValues children = children.map Child.toValue := by
  induction children with
  | nil => rw [Child.toValues, List.map_nil]
  | cons child rest ih => rw [Child.toValues, List.map_cons, ih]

namespace Component

variable {c d : Component} {place : Place}

/-- The JSON form of a component is an object. -/
theorem nesting_toValue (c : Component) :
    c.toValue.nesting = Value.memberNesting c.members + 1 := by
  rw [toValue_eq_object, Value.nesting]

/-- What stands under a key of a component is nested less deeply than the component. -/
theorem nesting_member {key : String} {v : Value} (h : valueAt? key c.members = some v) :
    v.nesting + 1 ≤ c.toValue.nesting := by
  rw [nesting_toValue]
  exact Nat.succ_le_succ (Value.memberNesting_le_iff.mp (Nat.le_refl _) _ (mem_of_valueAt?_eq_some h))

/-- A prop stands two levels below its component. -/
theorem nesting_prop {prop : String × Value} (h : prop ∈ c.props) :
    prop.2.nesting + 2 ≤ c.toValue.nesting := by
  have hprops : valueAt? "props" c.members = some (.object c.props) := by
    rw [valueAt?_props, if_neg (by simpa using List.ne_nil_of_mem h)]
  have hobject := nesting_member hprops
  have hprop : prop.2.nesting ≤ Value.memberNesting c.props :=
    Value.memberNesting_le_iff.mp (Nat.le_refl _) prop h
  rw [Value.nesting] at hobject
  omega

/-- A child stands two levels below its component. -/
theorem nesting_child {child : Child} (h : child ∈ c.children) :
    child.toValue.nesting + 2 ≤ c.toValue.nesting := by
  have hchildren : valueAt? "children" c.members = some (.array (Child.toValues c.children)) := by
    rw [valueAt?_children, if_neg (by simpa using List.ne_nil_of_mem h)]
  have harray := nesting_member hchildren
  have hchild : child.toValue.nesting ≤ Value.itemNesting (Child.toValues c.children) := by
    refine Value.itemNesting_le_iff.mp (Nat.le_refl _) _ ?_
    rw [Child.toValues_eq_map]
    exact List.mem_map_of_mem h
  rw [Value.nesting] at harray
  omega

/-- A component below another one stands two levels deeper for each index of its place. -/
theorem nesting_at? (h : c.at? place = some d) :
    2 * place.length + d.toValue.nesting ≤ c.toValue.nesting := by
  induction place generalizing c with
  | nil =>
    obtain rfl : c = d := by simpa [at?] using h
    simp
  | cons i rest ih =>
    obtain ⟨e, hchild, hat⟩ := Option.bind_eq_some_iff.mp h
    obtain ⟨child, hget, hcomponent⟩ := Option.bind_eq_some_iff.mp hchild
    have hmem := nesting_child (List.mem_of_getElem? hget)
    have hbelow := ih hat
    cases child with
    | component e' =>
      obtain rfl : e' = e := by simpa [Child.component?] using hcomponent
      rw [Child.toValue] at hmem
      rw [List.length_cons]
      omega
    | text _ | number _ | bool _ => simp [Child.component?] at hcomponent

end Component

namespace Sketch

variable {s : Sketch} {place : Place} {c : Component}

/-- A top-level component stands two levels below its sketch. -/
theorem nesting_component (h : c ∈ s.components) :
    c.toValue.nesting + 2 ≤ s.toValue.nesting := by
  have hitems : c.toValue.nesting ≤ Value.itemNesting (s.components.map Component.toValue) :=
    Value.itemNesting_le_iff.mp (Nat.le_refl _) _ (List.mem_map_of_mem h)
  simp only [toValue, Value.nesting, Value.memberNesting]
  omega

/-- A component of a sketch stands two levels deeper for each index of its place. -/
theorem nesting_componentAt? (h : s.componentAt? place = some c) :
    2 * place.length + c.toValue.nesting ≤ s.toValue.nesting := by
  cases place with
  | nil => simp [componentAt?] at h
  | cons i rest =>
    obtain ⟨d, hget, hat⟩ := Option.bind_eq_some_iff.mp h
    have htop := nesting_component (List.mem_of_getElem? hget)
    have hbelow := Component.nesting_at? hat
    rw [List.length_cons]
    omega

/-- The nesting of the JSON form bounds the place of a component. -/
theorem length_place_le (h : s.componentAt? place = some c) :
    2 * place.length + 1 ≤ s.toValue.nesting := by
  have hcomponent := nesting_componentAt? h
  rw [Component.nesting_toValue] at hcomponent
  omega

/-- It bounds the place of a component together with the nesting of its props. -/
theorem length_place_add_nesting_prop_le (h : s.componentAt? place = some c)
    {prop : String × Value} (hprop : prop ∈ c.props) :
    2 * place.length + 2 + prop.2.nesting ≤ s.toValue.nesting := by
  have hcomponent := nesting_componentAt? h
  have hbelow := Component.nesting_prop hprop
  omega

end Sketch

end PageSketch
