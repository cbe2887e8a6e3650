import PageSketch.Proofs.Json.Value
import PageSketch.Proofs.Sketch.Decoding

/-!
# Sorting before decoding

Decoding a value whose objects have been sorted gives the sketch of the value as it stands, with the
keys of its props in ascending order everywhere and nothing else changed.
-/

namespace PageSketch

open Json

/-! ## Sorted sketches -/

mutual

/-- The component with the keys of all props ascending, in the props of its children too. -/
def Component.sorted : Component → Component
  | ⟨name, props, span, children⟩ =>
    ⟨name, Value.sortedMembers [] props, span, Child.sortedAll children⟩

/-- The child with the keys of all props ascending. -/
def Child.sorted : Child → Child
  | .component c => .component c.sorted
  | .text s => .text s
  | .number n => .number n
  | .bool b => .bool b

/-- `sorted` on every child. -/
def Child.sortedAll : List Child → List Child
  | [] => []
  | child :: rest => child.sorted :: Child.sortedAll rest

end

/-- The sketch with the keys of all props ascending. -/
def Sketch.sorted (sketch : Sketch) : Sketch :=
  { sketch with components := sketch.components.map Component.sorted }

/-- Sorting children sorts each of them. -/
theorem Child.sortedAll_eq_map (children : List Child) :
    Child.sortedAll children = children.map Child.sorted := by
  induction children with
  | nil => rfl
  | cons child rest ih => rw [Child.sortedAll, ih, List.map_cons]

/-- A sorted component has sorted props and sorted children. -/
theorem Component.sorted_parts {c : Component} (h : c.sorted = c) :
    (Value.object c.props).Sorted ∧ Child.sortedAll c.children = c.children := by
  obtain ⟨name, props, span, children⟩ := c
  rw [Component.sorted, Component.mk.injEq] at h
  obtain ⟨-, hprops, -, hchildren⟩ := h
  have hsorted := Value.sorted_sorted (.object props)
  rw [Value.sorted, hprops] at hsorted
  exact ⟨hsorted, hchildren⟩

/-! ## Parts of sorted records -/

/-- Under a key that does not stand twice, sorting an object leaves the sorted value. -/
theorem valueAt?_sorted {key : String} {members : List (String × Value)}
    (h : AtMostOnce key members) :
    valueAt? key (Value.sortedMembers [] members) = (valueAt? key members).map Value.sorted := by
  rw [Value.valueAt?_sortedMembers, h.lastAt?_eq]
  simp [valueAt?]

/-- A part of a sorted record is decoded as the part of the record, but for `sort`. -/
theorem partOr_map_sorted {α : Type} (sort : α → α) {fallback a : α}
    {decode : Value → Except DecodeError α} {part : Option Value} (hfallback : sort fallback = fallback)
    (hdecode : ∀ v ∈ part, decode v = .ok a → decode v.sorted = .ok (sort a))
    (h : partOr fallback decode part = .ok a) :
    partOr fallback decode (part.map Value.sorted) = .ok (sort a) := by
  cases part with
  | none =>
    obtain rfl : fallback = a := Except.ok.inj h
    rw [hfallback]
    rfl
  | some v => exact hdecode v rfl h

/-- A text is not changed by sorting. -/
theorem textOrEmpty_sorted {v : Value} {text : String} (h : textOrEmpty v = .ok text) :
    textOrEmpty v.sorted = .ok text := by
  cases v with
  | null | string => exact h
  | _ => simp [textOrEmpty] at h

/-- A layout is not changed by sorting. -/
theorem layoutOfValue_sorted {v : Value} {layout : Layout} (h : layoutOfValue v = .ok layout) :
    layoutOfValue v.sorted = .ok layout := by
  cases v with
  | null | string => exact h
  | _ => simp [layoutOfValue] at h

/-- A width is not changed by sorting. -/
theorem spanOfValue_comp_sorted : spanOfValue ∘ Value.sorted = spanOfValue := by
  funext v
  cases v <;> rfl

/-- Props are sorted. -/
theorem propsOfValue_sorted {v : Value} {props : Props} (h : propsOfValue v = .ok props) :
    propsOfValue v.sorted = .ok (Value.sortedMembers [] props) := by
  cases v with
  | null =>
    obtain rfl : [] = props := by simpa [propsOfValue] using h
    rfl
  | object members =>
    obtain rfl : Value.dedupMembers [] members = props := by simpa [propsOfValue] using h
    have hsorted := Value.sorted_dedup (.object members)
    -- Sorted members have every key once, so keeping each key once changes nothing after sorting.
    have hdedup := Value.dedup_of_wellKeyed (Value.sorted_sorted (.object members)).wellKeyed
    simp only [Value.dedup, Value.sorted, Value.object.injEq] at hsorted hdedup
    rw [Value.sorted, propsOfValue, hdedup, hsorted]
  | _ => simp [propsOfValue] at h

/-- Sorting an object leaves nothing to be refused as repeated. -/
theorem refuseRepeated_sorted (names : List String) (members : List (String × Value)) :
    refuseRepeated names (Value.sortedMembers [] members) = .ok () := by
  refine refuseRepeated_eq_ok_iff.mpr fun name _ => ?_
  exact (Value.ascending_sortedMembers .nil members).keysOnce.atMostOnce name

/-! ## Headers -/

/-- A header is not changed by sorting. -/
theorem Header.ofValue_sorted {v : Value} {header : Header} (h : Header.ofValue v = .ok header) :
    Header.ofValue v.sorted = .ok header := by
  cases v with
  | object members =>
    obtain ⟨hrepeated, htitle, hlayout⟩ := ofValue_object_eq_ok_iff.mp h
    have honce := refuseRepeated_eq_ok_iff.mp hrepeated
    refine ofValue_object_eq_ok_iff.mpr ⟨refuseRepeated_sorted _ _, ?_, ?_⟩
    · rw [valueAt?_sorted (honce "title" (by simp))]
      exact partOr_map_sorted id rfl (fun v _ => textOrEmpty_sorted) htitle
    · rw [valueAt?_sorted (honce "layout" (by simp))]
      exact partOr_map_sorted id rfl (fun v _ => layoutOfValue_sorted) hlayout
  | array items =>
    obtain ⟨hlength, htitle, hlayout⟩ := ofValue_array_eq_ok_iff.mp h
    rw [Value.sorted, Value.sortedItems_eq_map]
    refine ofValue_array_eq_ok_iff.mpr ⟨by simpa using hlength, ?_, ?_⟩
    · rw [List.getElem?_map]
      exact partOr_map_sorted id rfl (fun v _ => textOrEmpty_sorted) htitle
    · rw [List.getElem?_map]
      exact partOr_map_sorted id rfl (fun v _ => layoutOfValue_sorted) hlayout
  | _ => simp [Header.ofValue] at h

/-- A header, or null, is not changed by sorting. -/
theorem Header.orEmpty_sorted {v : Value} {header : Header} (h : Header.orEmpty v = .ok header) :
    Header.orEmpty v.sorted = .ok header := by
  cases v with
  | null => exact h
  | object members => exact Header.ofValue_sorted (v := .object members) h
  | array items => exact Header.ofValue_sorted (v := .array items) h
  | _ => simp [Header.orEmpty, Header.ofValue] at h

/-! ## Components and children -/

/-- Whether what is decoded of a value is decoded sorted of the sorted value. -/
structure DecodesSorted (v : Value) : Prop where
  component {c : Component} : Component.ofValue v = .ok c →
    Component.ofValue v.sorted = .ok c.sorted
  child {child : Child} : Child.ofValue v = .ok child → Child.ofValue v.sorted = .ok child.sorted
  list {children : List Child} : Child.listOfValue v = .ok children →
    Child.listOfValue v.sorted = .ok (Child.sortedAll children)

/-- A leaf is decoded sorted. -/
theorem DecodesLeaf.decodesSorted {v : Value} (h : DecodesLeaf v) : DecodesSorted v where
  component hc := absurd hc (h.component _)
  child {child} hchild := by
    have hleaf : child.sorted = child := by
      have hnone := (h.child hchild).1
      cases child with
      | component c => simp [Child.component?] at hnone
      | _ => rfl
    rw [h.sorted, hleaf, hchild]
  list hlist := by
    obtain rfl := h.list hlist
    rw [h.sorted, hlist]
    rfl

/-- An array is decoded sorted when its items are. -/
theorem decodesSorted_array {items : List Value} (h : ∀ item ∈ items, DecodesSorted item) :
    DecodesSorted (.array items) := by
  have hsorted : (Value.array items).sorted = .array (items.map Value.sorted) := by
    rw [Value.sorted, Value.sortedItems_eq_map]
  have hcomponent : ∀ c, Component.ofValue (.array items) = .ok c →
      Component.ofValue (Value.array items).sorted = .ok c.sorted := by
    rintro ⟨name, props, span, children⟩ hc
    obtain ⟨hlength, hname, hprops, hspan, hchildren⟩ :=
      Component.ofValue_array_eq_ok_iff.mp hc
    rw [hsorted]
    refine Component.ofValue_array_eq_ok_iff.mpr ⟨by simpa using hlength, ?_, ?_, ?_, ?_⟩
    · rw [List.getElem?_map]
      exact partOr_map_sorted id rfl (fun v _ => textOrEmpty_sorted) hname
    · rw [List.getElem?_map]
      exact partOr_map_sorted (Value.sortedMembers []) rfl (fun v _ => propsOfValue_sorted) hprops
    · rw [List.getElem?_map, Option.bind_map, spanOfValue_comp_sorted]
      exact hspan
    · rw [List.getElem?_map]
      exact partOr_map_sorted Child.sortedAll rfl
        (fun v hv => (h v (List.mem_of_getElem? hv)).list) hchildren
  refine ⟨hcomponent _, fun {child} hchild => ?_, fun {children} hchildren => ?_⟩
  · obtain ⟨c, hc, rfl⟩ := (Child.ofValue_eq_component_iff (by simp) (by simp) (by simp)).mp hchild
    refine (Child.ofValue_eq_component_iff ?_ ?_ ?_).mpr ⟨c.sorted, hcomponent c hc, rfl⟩
    all_goals simp [hsorted]
  · rw [Child.listOfValue, Child.ofValues_eq_ok_iff] at hchildren
    rw [hsorted, Child.listOfValue, Child.ofValues_eq_ok_iff, Child.sortedAll_eq_map, List.map_map]
    exact map_eq_map_ok_of_forall hchildren fun item hitem child hchild =>
      (h item hitem).child hchild

/-- An object is decoded sorted when its members are. -/
theorem decodesSorted_object {members : List (String × Value)}
    (h : ∀ member ∈ members, DecodesSorted member.2) : DecodesSorted (.object members) := by
  have hcomponent : ∀ c, Component.ofValue (.object members) = .ok c →
      Component.ofValue (Value.object members).sorted = .ok c.sorted := by
    rintro ⟨name, props, span, children⟩ hc
    obtain ⟨hrepeated, hname, hprops, hspan, hchildren⟩ :=
      Component.ofValue_object_eq_ok_iff.mp hc
    have honce := refuseRepeated_eq_ok_iff.mp hrepeated
    refine Component.ofValue_object_eq_ok_iff.mpr ⟨refuseRepeated_sorted _ _, ?_, ?_, ?_, ?_⟩
    · rw [valueAt?_sorted (honce "component" (by simp [Component.fieldNames]))]
      exact partOr_map_sorted id rfl (fun v _ => textOrEmpty_sorted) hname
    · rw [valueAt?_sorted (honce "props" (by simp [Component.fieldNames]))]
      exact partOr_map_sorted (Value.sortedMembers []) rfl (fun v _ => propsOfValue_sorted) hprops
    · rw [valueAt?_sorted (honce "span" (by simp [Component.fieldNames])), Option.bind_map,
        spanOfValue_comp_sorted]
      exact hspan
    · rw [valueAt?_sorted (honce "children" (by simp [Component.fieldNames]))]
      exact partOr_map_sorted Child.sortedAll rfl
        (fun v hv => (h _ (mem_of_valueAt?_eq_some hv)).list) hchildren
  refine ⟨hcomponent _, fun {child} hchild => ?_, fun {children} hchildren => ?_⟩
  · obtain ⟨c, hc, rfl⟩ := (Child.ofValue_eq_component_iff (by simp) (by simp) (by simp)).mp hchild
    refine (Child.ofValue_eq_component_iff ?_ ?_ ?_).mpr ⟨c.sorted, hcomponent c hc, rfl⟩
    all_goals simp [Value.sorted]
  · simp [Child.listOfValue] at hchildren

/-- What is decoded of a value is decoded sorted of the sorted value. -/
theorem decodesSorted (v : Value) : DecodesSorted v := by
  induction v using decoding_induction with
  | leaf v h => exact h.decodesSorted
  | array items ih => exact decodesSorted_array ih
  | object members ih => exact decodesSorted_object ih

/-! ## Sketches -/

/-- A sketch is decoded sorted of the sorted value, when neither field stands twice. -/
theorem Sketch.ofValue_sorted {members : List (String × Value)} {sketch : Sketch}
    (hrepeated : refuseRepeated ["page", "components"] members = .ok ())
    (h : Sketch.ofValue (.object members) = .ok sketch) :
    Sketch.ofValue (Value.object members).sorted = .ok sketch.sorted := by
  have honce := refuseRepeated_eq_ok_iff.mp hrepeated
  obtain ⟨⟨_, hvalue, hcomponents⟩, hpage⟩ := ofValue_object_eq_ok_iff.mp h
  obtain ⟨items, rfl, hitems⟩ := Component.listOfValue_eq_ok_iff.mp hcomponents
  refine ofValue_object_eq_ok_iff.mpr ⟨⟨.array (items.map Value.sorted), ?_, ?_⟩, ?_⟩
  · rw [valueAt?_sorted (honce "components" (by simp)), hvalue, Option.map_some, Value.sorted,
      Value.sortedItems_eq_map]
  · refine Component.listOfValue_eq_ok_iff.mpr ⟨items.map Value.sorted, rfl, ?_⟩
    rw [List.map_map]
    exact map_eq_map_ok_of_forall hitems fun item _ c hc => (decodesSorted item).component hc
  · rw [valueAt?_sorted (honce "page" (by simp))]
    exact partOr_map_sorted id rfl (fun v _ => Header.orEmpty_sorted) hpage

/-- Only an object is decoded as a sketch when it is sorted. -/
theorem Sketch.exists_members_of_ofValue_sorted {v : Value} {sketch : Sketch}
    (h : Sketch.ofValue v.sorted = .ok sketch) : ∃ members, v = .object members := by
  cases v with
  | object members => exact ⟨members, rfl⟩
  | _ => simp [Value.sorted, Sketch.ofValue] at h

/-- The components of a sorted sketch are sorted. -/
theorem Sketch.sorted_components {sketch : Sketch} (h : sketch.sorted = sketch) :
    ∀ c ∈ sketch.components, c.sorted = c := by
  have hcomponents : sketch.components.map Component.sorted = sketch.components.map id := by
    rw [List.map_id]
    exact congrArg Sketch.components h
  exact List.map_inj_left.mp hcomponents

/-- A sketch that is decoded of a sorted value is sorted. -/
theorem Sketch.sorted_of_ofValue {v : Value} {sketch : Sketch} (hv : v.Sorted)
    (h : Sketch.ofValue v = .ok sketch) : sketch.sorted = sketch := by
  cases v with
  | object members =>
    have hrepeated := (Ascending.keysOnce hv.top).refuseRepeated_eq_ok ["page", "components"]
    have hsorted := Sketch.ofValue_sorted hrepeated h
    rw [hv.sorted_eq, h] at hsorted
    exact (Except.ok.inj hsorted).symm
  | _ => simp [Sketch.ofValue] at h

end PageSketch
