import PageSketch.Proofs.Sketch.Writing

/-!
# What may be left out of a sketch

A null field with a default and a member that is no field say nothing to a record. Pruning leaves one
such member out of a sketch, of its header or of a component at any depth. Headers and components are
then decoded as the same, or refused for the same reason, and what stands inside props is kept.
-/

namespace PageSketch

open Json

/-! ## Members that say nothing -/

/-- What stands under a key, and null if nothing does. -/
def orNull (key : String) (members : List (String × Value)) : Value :=
  (valueAt? key members).getD .null

/-- Whether a member says nothing to a record: it is no field, or null as a field with a default. -/
def Idle (fields defaults : List String) (member : String × Value) : Prop :=
  member.1 ∉ fields ∨ member.1 ∈ defaults ∧ member.2 = .null

/-- Whether an object is another one without a member that says nothing. -/
inductive LeavesOut (fields defaults : List String) : Value → Value → Prop
  | mk {before after : List (String × Value)} {key : String} {value : Value}
      (idle : Idle fields defaults (key, value)) :
      LeavesOut fields defaults (.object (before ++ (key, value) :: after))
        (.object (before ++ after))

/-- A field is what its decoder makes of the member or of null, if null stands for the default. -/
theorem fieldOr_eq_orNull {α : Type} {fallback : α} (decode : Value → Except DecodeError α)
    (hnull : decode .null = .ok fallback) (name : String) (members : List (String × Value)) :
    fieldOr fallback decode name members = decode (orNull name members) := by
  rw [fieldOr, orNull]
  cases valueAt? name members with
  | none => exact hnull.symm
  | some value => rfl

/-- The children of a record are what is made of the member or of null. -/
theorem Child.listField_eq_orNull (members : List (String × Value)) :
    Child.listField members = Child.listOfValue (orNull "children" members) := by
  rw [Child.listField_eq_partOr, orNull]
  cases valueAt? "children" members with
  | none => simp [partOr, Child.listOfValue]
  | some value => rfl

section Idle

variable {fields defaults : List String} {key : String} {value : Value}
  {before after : List (String × Value)}

/-- A member that says nothing is not the value of a field. -/
theorem Idle.orNull_eq (h : Idle fields defaults (key, value))
    (honce : KeysOnce (before ++ (key, value) :: after)) {name : String} (hname : name ∈ fields) :
    orNull name (before ++ after) = orNull name (before ++ (key, value) :: after) := by
  by_cases hkey : key = name
  · subst hkey
    obtain ⟨-, rfl⟩ : key ∈ defaults ∧ value = .null := h.resolve_left (not_not_intro hname)
    -- Nothing else stands under the key, so what is left out is replaced by null.
    obtain ⟨hbefore, hafter⟩ := (atMostOnce_append_cons_iff.mp (honce.atMostOnce key)).1 rfl
    have hnone : valueAt? key (before ++ after) = none := by
      rw [valueAt?_append, valueAt?_eq_none_iff.mpr hbefore, valueAt?_eq_none_iff.mpr hafter]
      rfl
    rw [orNull, orNull, hnone, valueAt?_append_cons_self hbefore]
    rfl
  · rw [orNull, orNull, valueAt?_append_cons_of_ne hkey]

/-- A member that says nothing does not stand under a field without a default. -/
theorem Idle.valueAt?_eq (h : Idle fields defaults (key, value)) {name : String}
    (hname : name ∈ fields) (hdefaults : name ∉ defaults) :
    valueAt? name (before ++ (key, value) :: after) = valueAt? name (before ++ after) := by
  refine valueAt?_append_cons_of_ne ?_ value before after
  rintro rfl
  rcases h with hnot | ⟨hmem, -⟩
  · exact hnot hname
  · exact hdefaults hmem

end Idle

/-- Leaving a member out keeps every key once. -/
theorem LeavesOut.wellKeyed {fields defaults : List String} {v w : Value}
    (h : LeavesOut fields defaults v w) (hv : v.WellKeyed) : w.WellKeyed := by
  obtain @⟨before, after, key, value, -⟩ := h
  obtain ⟨honce, hvalues⟩ := Value.wellKeyed_object_iff.mp hv
  have hsub : (before ++ after).Sublist (before ++ (key, value) :: after) :=
    (List.sublist_cons_self _ _).append_left before
  exact Value.wellKeyed_object_iff.mpr
    ⟨honce.sublist (hsub.map Prod.fst), fun member hmember => hvalues member (hsub.subset hmember)⟩

/-! ## Headers -/

/-- Whether a header is another one without a member that says nothing. -/
def Header.Prunes : Value → Value → Prop := LeavesOut ["title", "layout"] ["title", "layout"]

/-- A header in object form is decoded of its fields or of null in their place. -/
theorem Header.ofValue_object_eq {members : List (String × Value)} (h : KeysOnce members) :
    Header.ofValue (.object members) = do
      let layout ← layoutOfValue (orNull "layout" members)
      let title ← textOrEmpty (orNull "title" members)
      return ⟨title, layout⟩ := by
  rw [Header.ofValue, h.refuseRepeated_eq_ok, fieldOr_eq_orNull layoutOfValue rfl,
    fieldOr_eq_orNull textOrEmpty rfl]
  rfl

/-- A header is decoded as the same without a member that says nothing. -/
theorem Header.Prunes.ofValue_eq {v w : Value} (h : Header.Prunes v w) (hv : v.WellKeyed) :
    Header.ofValue w = Header.ofValue v := by
  have hw : w.WellKeyed := LeavesOut.wellKeyed h hv
  obtain ⟨idle⟩ := h
  rw [Header.ofValue_object_eq hv.top, Header.ofValue_object_eq hw.top,
    idle.orNull_eq hv.top (by decide), idle.orNull_eq hv.top (by decide)]

/-! ## Components -/

/-- Whether a component is another one without a member that says nothing, in itself or in one of
its children. -/
inductive Component.Prunes : Value → Value → Prop
  | leavesOut {v w : Value} (h : LeavesOut Component.fieldNames Component.fieldNames v w) :
      Prunes v w
  | inField {before after : List (String × Value)} {first rest : List Value} {v w : Value}
      (child : Prunes v w) :
      Prunes (.object (before ++ ("children", .array (first ++ v :: rest)) :: after))
        (.object (before ++ ("children", .array (first ++ w :: rest)) :: after))
  | inItem {name props span : Value} {first rest more : List Value} {v w : Value}
      (child : Prunes v w) :
      Prunes (.array (name :: props :: span :: .array (first ++ v :: rest) :: more))
        (.array (name :: props :: span :: .array (first ++ w :: rest) :: more))

/-- Pruning keeps every key once. -/
theorem Component.Prunes.wellKeyed {v w : Value} (h : Component.Prunes v w) (hv : v.WellKeyed) :
    w.WellKeyed := by
  induction h with
  | leavesOut h => exact h.wellKeyed hv
  | inField child ih => exact hv.replaced (hv.inner.item_replaced (ih hv.inner.inner_item))
  | @inItem name props span first rest more v w child ih =>
    have hchildren : (Value.array (first ++ v :: rest)).WellKeyed := hv.item (by simp)
    have hpruned := hchildren.item_replaced (ih hchildren.inner_item)
    exact @Value.WellKeyed.item_replaced [name, props, span] more _ _ hv hpruned

/-- A component in object form is decoded of its fields or of null in their place. -/
theorem Component.ofValue_object_eq {members : List (String × Value)} (h : KeysOnce members) :
    Component.ofValue (.object members) = do
      let children ← Child.listOfValue (orNull "children" members)
      let name ← textOrEmpty (orNull "component" members)
      let props ← propsOfValue (orNull "props" members)
      return ⟨name, props, spanOfValue (orNull "span" members), children⟩ := by
  rw [Component.ofValue, h.refuseRepeated_eq_ok, Child.listField_eq_orNull,
    fieldOr_eq_orNull textOrEmpty rfl, fieldOr_eq_orNull propsOfValue rfl,
    @fieldOr_eq_orNull _ none (fun value => .ok (spanOfValue value)) rfl]
  rfl

/-- Components in object form are decoded as the same when their children are and they have the same
other fields. -/
theorem Component.ofValue_object_congr {members others : List (String × Value)}
    (h : KeysOnce members) (hothers : KeysOnce others)
    (hchildren : Child.listOfValue (orNull "children" others) =
      Child.listOfValue (orNull "children" members))
    (hfields : ∀ name ∈ ["component", "props", "span"], orNull name others = orNull name members) :
    Component.ofValue (.object others) = Component.ofValue (.object members) := by
  rw [ofValue_object_eq h, ofValue_object_eq hothers, hchildren, hfields "component" (by decide),
    hfields "props" (by decide), hfields "span" (by decide)]

/-- Components in array form are decoded as the same when their children are and they have the same
other items. -/
theorem Component.ofValue_array_congr {name props span children others : Value}
    (more : List Value) (h : Child.listOfValue others = Child.listOfValue children) :
    Component.ofValue (.array (name :: props :: span :: others :: more)) =
      Component.ofValue (.array (name :: props :: span :: children :: more)) := by
  simp only [Component.ofValue, Child.listItem, h]
  rfl

/-- Children are decoded one after another. -/
theorem Child.ofValues_eq_mapM (items : List Value) :
    Child.ofValues items = items.mapM Child.ofValue := by
  induction items with
  | nil => rw [Child.ofValues]; rfl
  | cons item rest ih => simp [Child.ofValues, ih]

/-- Components are decoded one after another. -/
theorem Component.ofValues_eq_mapM (items : List Value) :
    Component.ofValues items = items.mapM Component.ofValue := by
  induction items with
  | nil => rfl
  | cons item rest ih => simp [Component.ofValues, ih]

/-- A list of children is decoded as the same with another child that is decoded as the same. -/
theorem Child.listOfValue_replaced {first rest : List Value} {v w : Value}
    (h : Child.ofValue w = Child.ofValue v) :
    Child.listOfValue (.array (first ++ w :: rest)) =
      Child.listOfValue (.array (first ++ v :: rest)) := by
  rw [Child.listOfValue, Child.listOfValue, Child.ofValues_eq_mapM, Child.ofValues_eq_mapM]
  simp [h]

/-- What is pruned is an object or an array, and as a child it is decoded as a component. -/
theorem Component.Prunes.child_ofValue_eq {v w : Value} (h : Component.Prunes v w)
    (heq : Component.ofValue w = Component.ofValue v) : Child.ofValue w = Child.ofValue v := by
  cases h with
  | leavesOut h =>
    obtain ⟨-⟩ := h
    simp only [Child.ofValue, heq]
  | inField | inItem => simp only [Child.ofValue, heq]

/-- A component is decoded as the same after pruning. -/
theorem Component.Prunes.ofValue_eq {v w : Value} (h : Component.Prunes v w) (hv : v.WellKeyed) :
    Component.ofValue w = Component.ofValue v := by
  induction h with
  | leavesOut h =>
    have hw := h.wellKeyed hv
    obtain ⟨idle⟩ := h
    refine ofValue_object_congr hv.top hw.top ?_ fun name hname => ?_
    · rw [idle.orNull_eq hv.top (by decide)]
    · have hsub : ["component", "props", "span"] ⊆ Component.fieldNames := by decide
      exact idle.orNull_eq hv.top (hsub hname)
  | @inField before after first rest v w child ih =>
    have hw := child.inField.wellKeyed hv
    have hchild := child.child_ofValue_eq (ih hv.inner.inner_item)
    refine ofValue_object_congr hv.top hw.top ?_ fun name hname => ?_
    · rw [orNull, orNull, hw.top.valueAt?_eq, hv.top.valueAt?_eq]
      exact Child.listOfValue_replaced hchild
    · have hne : "children" ≠ name := by
        rintro rfl
        exact absurd hname (by decide)
      rw [orNull, orNull, valueAt?_replaced hne]
  | @inItem name props span first rest more v w child ih =>
    have hchildren : (Value.array (first ++ v :: rest)).WellKeyed := hv.item (by simp)
    have hchild := child.child_ofValue_eq (ih hchildren.inner_item)
    exact ofValue_array_congr more (Child.listOfValue_replaced hchild)

/-- What stands in the place of the props of a component. -/
def Component.propsPart? : Value → Option Value
  | .object members => valueAt? "props" members
  | .array items => items[1]?
  | _ => none

/-- The props of a component are decoded of what stands in their place. -/
theorem Component.props_of_propsPart? {v : Value} {c : Component} {props : Props} (hv : v.WellKeyed)
    (hpart : propsPart? v = some (.object props)) (hc : Component.ofValue v = .ok c) :
    c.props = props := by
  have hdecoded : partOr [] propsOfValue (propsPart? v) = .ok c.props := by
    cases v with
    | object members => exact (ofValue_object_eq_ok_iff.mp hc).2.2.1
    | array items => exact (ofValue_array_eq_ok_iff.mp hc).2.2.1
    | _ => cases hpart
  have hkeyed : (Value.object props).WellKeyed := by
    cases v with
    | object members => exact hv.member (mem_of_valueAt?_eq_some hpart)
    | array items => exact hv.item (List.mem_of_getElem? hpart)
    | _ => cases hpart
  rw [hpart] at hdecoded
  exact Except.ok.inj (hdecoded.symm.trans (propsOfValue_object hkeyed))

/-- Nothing is left out of props. -/
theorem Component.Prunes.propsPart?_eq {v w : Value} {props : Props} (h : Component.Prunes v w)
    (hpart : propsPart? v = some (.object props)) : propsPart? w = some (.object props) := by
  cases h with
  | leavesOut h =>
    obtain @⟨before, after, key, value, idle⟩ := h
    by_cases hkey : key = "props"
    · subst hkey
      -- The member that is left out is null, so it is not the one that holds the props.
      have hfield : "props" ∈ Component.fieldNames := by decide
      obtain ⟨-, rfl⟩ := idle.resolve_left (not_not_intro hfield)
      rw [propsPart?, valueAt?_append, valueAt?, if_pos rfl] at hpart
      rw [propsPart?, valueAt?_append]
      cases hbefore : valueAt? "props" before with
      | none => simp [hbefore] at hpart
      | some part => simpa [hbefore] using hpart
    · rwa [propsPart?, valueAt?_append_cons_of_ne hkey] at hpart
  | inField child => rwa [propsPart?, valueAt?_replaced (by decide)]
  | inItem child => exact hpart

/-! ## Sketches -/

/-- Whether a sketch is another one without a member that says nothing, in itself, in its header or
in one of its components. -/
inductive Sketch.Prunes : Value → Value → Prop
  | leavesOut {v w : Value} (h : LeavesOut ["page", "components"] ["page"] v w) : Prunes v w
  | header {before after : List (String × Value)} {v w : Value} (header : Header.Prunes v w) :
      Prunes (.object (before ++ ("page", v) :: after)) (.object (before ++ ("page", w) :: after))
  | component {before after : List (String × Value)} {first rest : List Value} {v w : Value}
      (component : Component.Prunes v w) :
      Prunes (.object (before ++ ("components", .array (first ++ v :: rest)) :: after))
        (.object (before ++ ("components", .array (first ++ w :: rest)) :: after))

/-- Pruning keeps every key once. -/
theorem Sketch.Prunes.wellKeyed {v w : Value} (h : Sketch.Prunes v w) (hv : v.WellKeyed) :
    w.WellKeyed := by
  cases h with
  | leavesOut h => exact h.wellKeyed hv
  | header header => exact hv.replaced (LeavesOut.wellKeyed header hv.inner)
  | component component =>
    exact hv.replaced (hv.inner.item_replaced (component.wellKeyed hv.inner.inner_item))

/-- A header, or null, is decoded as the same without a member that says nothing. -/
theorem Header.Prunes.orEmpty_eq {v w : Value} (h : Header.Prunes v w) (hv : v.WellKeyed) :
    Header.orEmpty w = Header.orEmpty v := by
  have heq := h.ofValue_eq hv
  obtain ⟨-⟩ := h
  exact heq

end PageSketch
