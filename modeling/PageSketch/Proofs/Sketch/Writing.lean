import PageSketch.Proofs.Json.Value
import PageSketch.Proofs.Sketch.Decoding
import PageSketch.Sketch.Writer

/-!
# What is written is decoded

The JSON form of a sketch is decoded to the sketch again, as long as the props have every key once.
What is left out when it is empty comes back as the default.
-/

namespace PageSketch

open Json

/-! ## Components -/

/-- The members of the JSON form of a component. -/
def Component.members (c : Component) : List (String × Value) :=
  [("component", .string c.name)] ++
    (if c.props.isEmpty then [] else [("props", .object c.props)]) ++
    (c.span.toList.map fun n => ("span", .number (.ofInt64 n))) ++
    (if c.children.isEmpty then [] else [("children", .array (Child.toValues c.children))])

/-- The JSON form of a component is the object with these members. -/
theorem Component.toValue_eq_object (c : Component) : c.toValue = .object c.members := by
  obtain ⟨name, props, span, children⟩ := c
  rw [Component.toValue.eq_def]
  cases span <;> cases children <;> simp [Component.members, Child.toValues]

/-- The name is among the members. -/
theorem Component.valueAt?_name (c : Component) :
    valueAt? "component" c.members = some (.string c.name) := by
  simp [Component.members, valueAt?]

/-- The props are among the members unless there are none. -/
theorem Component.valueAt?_props (c : Component) : valueAt? "props" c.members =
    if c.props.isEmpty then none else some (.object c.props) := by
  obtain ⟨name, props, span, children⟩ := c
  cases props <;> cases span <;> cases children <;> simp [Component.members, valueAt?]

/-- The width is among the members if there is one. -/
theorem Component.valueAt?_span (c : Component) :
    valueAt? "span" c.members = c.span.map fun n => .number (.ofInt64 n) := by
  obtain ⟨name, props, span, children⟩ := c
  cases props <;> cases span <;> cases children <;> simp [Component.members, valueAt?]

/-- The children are among the members unless there are none. -/
theorem Component.valueAt?_children (c : Component) : valueAt? "children" c.members =
    if c.children.isEmpty then none else some (.array (Child.toValues c.children)) := by
  obtain ⟨name, props, span, children⟩ := c
  cases props <;> cases span <;> cases children <;> simp [Component.members, valueAt?]

/-- Every member stands once. -/
theorem Component.keysOnce_members (c : Component) : KeysOnce c.members := by
  obtain ⟨name, props, span, children⟩ := c
  cases props <;> cases span <;> cases children <;> simp [Component.members, KeysOnce]

/-- What is among the members: the name, and what is not left out. -/
theorem Component.mem_members {c : Component} {member : String × Value} (h : member ∈ c.members) :
    member = ("component", .string c.name) ∨
    c.props ≠ [] ∧ member = ("props", .object c.props) ∨
    (∃ n, member = ("span", .number (.ofInt64 n))) ∨
    c.children ≠ [] ∧ member = ("children", .array (Child.toValues c.children)) := by
  simp only [members, List.mem_append] at h
  rcases h with ((h | h) | h) | h
  · exact .inl (by simpa using h)
  · split at h
    · simp at h
    · rename_i hprops
      exact .inr (.inl ⟨by simpa using hprops, by simpa using h⟩)
  · obtain ⟨n, -, rfl⟩ := List.mem_map.mp h
    exact .inr (.inr (.inl ⟨n, rfl⟩))
  · split at h
    · simp at h
    · rename_i hchildren
      exact .inr (.inr (.inr ⟨by simpa using hchildren, by simpa using h⟩))

/-- A width is decoded as it is written. -/
theorem spanOfValue_ofInt64 (n : Int64) : spanOfValue (.number (.ofInt64 n)) = some n := by
  rw [spanOfValue, spanOfNumber, Number.ofInt64, Number.toInt?]
  exact int64?_toInt n

/-- Props with every key once are decoded as they are written. -/
theorem propsOfValue_object {props : Props} (h : (Value.object props).WellKeyed) :
    propsOfValue (.object props) = .ok props := by
  have hdedup := Value.dedup_of_wellKeyed h
  rw [Value.dedup, Value.object.injEq] at hdedup
  rw [propsOfValue, hdedup]

/-- Whether every object in the props of a component and of its children has every key once. -/
theorem Component.wellKeyed_props {c : Component} (h : c.toValue.WellKeyed) :
    (Value.object c.props).WellKeyed := by
  -- Empty props are not written, but have every key once anyway.
  by_cases hempty : c.props.isEmpty
  · rw [List.isEmpty_iff.mp hempty]
    exact Value.everywhere_object.mpr ⟨List.nodup_nil, by simp⟩
  · have hprops := c.valueAt?_props
    rw [if_neg hempty] at hprops
    rw [toValue_eq_object] at h
    exact h.member (mem_of_valueAt?_eq_some hprops)

/-- The children of a component have the properties that hold everywhere in its JSON form. -/
theorem Component.everywhere_children {p : Value → Prop} {c : Component}
    (h : c.toValue.Everywhere p) : ∀ v ∈ Child.toValues c.children, v.Everywhere p := by
  by_cases hempty : c.children.isEmpty
  · rw [List.isEmpty_iff.mp hempty]
    simp [Child.toValues]
  · have hchildren := c.valueAt?_children
    rw [if_neg hempty] at hchildren
    rw [toValue_eq_object] at h
    exact fun v hv => (h.member (mem_of_valueAt?_eq_some hchildren)).item hv

/-- A component is decoded from its JSON form when its children are. -/
theorem Component.ofValue_toValue_of_children {c : Component} (h : c.toValue.WellKeyed)
    (hchildren : Child.ofValues (Child.toValues c.children) = .ok c.children) :
    Component.ofValue c.toValue = .ok c := by
  rw [toValue_eq_object]
  refine ofValue_object_eq_ok_iff.mpr ⟨?_, ?_, ?_, ?_, ?_⟩
  · exact c.keysOnce_members.refuseRepeated_eq_ok _
  · rw [valueAt?_name]
    rfl
  · rw [valueAt?_props]
    split
    · rename_i hempty
      rw [List.isEmpty_iff.mp hempty]
      rfl
    · exact propsOfValue_object (wellKeyed_props h)
  · rw [valueAt?_span]
    cases c.span with
    | none => rfl
    | some n => exact spanOfValue_ofInt64 n
  · rw [valueAt?_children]
    split
    · rename_i hempty
      rw [List.isEmpty_iff.mp hempty]
      rfl
    · rw [partOr, Child.listOfValue, hchildren]

mutual

/-- A component is decoded from its JSON form. -/
theorem Component.ofValue_toValue (c : Component) (h : c.toValue.WellKeyed) :
    Component.ofValue c.toValue = .ok c := by
  match c with
  | ⟨name, props, span, children⟩ =>
    have hchildren := Child.ofValues_toValues children (Component.everywhere_children h)
    exact Component.ofValue_toValue_of_children h hchildren

/-- A child is decoded from its JSON form. -/
theorem Child.ofValue_toValue (child : Child) (h : child.toValue.WellKeyed) :
    Child.ofValue child.toValue = .ok child := by
  match child with
  | .component c =>
    have hvalue := Component.ofValue_toValue c h
    rw [Child.toValue]
    refine (Child.ofValue_eq_component_iff ?_ ?_ ?_).mpr ⟨c, hvalue, rfl⟩
    all_goals simp [Component.toValue_eq_object]
  | .text s => rw [Child.toValue, Child.ofValue]
  | .number n => rw [Child.toValue, Child.ofValue]
  | .bool b => rw [Child.toValue, Child.ofValue]

/-- Children are decoded from their JSON forms. -/
theorem Child.ofValues_toValues (children : List Child)
    (h : ∀ v ∈ Child.toValues children, v.WellKeyed) :
    Child.ofValues (Child.toValues children) = .ok children := by
  match children with
  | [] => rw [Child.toValues, Child.ofValues]
  | child :: rest =>
    rw [Child.toValues, List.forall_mem_cons] at h
    rw [Child.toValues, Child.ofValues, Child.ofValue_toValue child h.1,
      Child.ofValues_toValues rest h.2]
    rfl

end

/-! ## Sketches -/

/-- A header is decoded from its JSON form. -/
theorem Header.ofValue_toValue (header : Header) : Header.ofValue header.toValue = .ok header := by
  rw [Header.toValue, ofValue_object_eq_ok_iff, refuseRepeated_eq_ok_iff]
  refine ⟨?_, by simp [valueAt?, partOr, textOrEmpty], by simp [valueAt?, partOr, layoutOfValue]⟩
  have honce : KeysOnce [("title", Value.string header.title),
      ("layout", .string header.layout.name)] := by simp [KeysOnce]
  exact fun name _ => honce.atMostOnce name

/-- The members of the JSON form of a sketch. -/
def Sketch.members (sketch : Sketch) : List (String × Value) :=
  [("page", sketch.header.toValue),
    ("components", .array (sketch.components.map Component.toValue))]

/-- The members of the JSON form of a sketch stand once. -/
theorem Sketch.keysOnce_members (sketch : Sketch) : KeysOnce sketch.members := by
  simp [Sketch.members, KeysOnce]

/-- A sketch is decoded from its JSON form. -/
theorem Sketch.ofValue_toValue {sketch : Sketch} (h : sketch.toValue.WellKeyed) :
    Sketch.ofValue (.object sketch.members) = .ok sketch := by
  have hlist : ("components", Value.array (sketch.components.map Component.toValue)) ∈
      sketch.members := by simp [Sketch.members]
  have hitems : (Value.array (sketch.components.map Component.toValue)).WellKeyed := h.member hlist
  have hcomponents : valueAt? "components" sketch.members =
      some (.array (sketch.components.map Component.toValue)) := by
    simp [Sketch.members, valueAt?]
  refine ofValue_object_eq_ok_iff.mpr ⟨⟨_, hcomponents, ?_⟩, ?_⟩
  · refine Component.listOfValue_eq_ok_iff.mpr ⟨_, rfl, ?_⟩
    rw [List.map_map]
    refine List.map_congr_left fun c hc => ?_
    exact Component.ofValue_toValue c (hitems.item (List.mem_map_of_mem hc))
  · have hpage : valueAt? "page" sketch.members = some sketch.header.toValue := by
      simp [Sketch.members, valueAt?]
    rw [hpage]
    exact Header.ofValue_toValue sketch.header

end PageSketch
