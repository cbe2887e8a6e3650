import PageSketch.Proofs.Json.Record
import PageSketch.Proofs.Json.Value
import PageSketch.Sketch.Reader
import PageSketch.Sketch.Writer

/-!
# What the decoders of values accept

When the decoders of headers, components, children and sketches end well, told field by field. The
later modules argue from these equivalences and do not unfold the decoders again.
-/

namespace PageSketch

open Json

/-! ## Parts of records -/

/-- A field is the part under its name. -/
theorem fieldOr_eq_partOr {α : Type} (fallback : α) (decode : Value → Except DecodeError α)
    (name : String) (members : List (String × Value)) :
    fieldOr fallback decode name members = partOr fallback decode (valueAt? name members) := by
  rw [fieldOr]
  cases valueAt? name members <;> rfl

/-- An item is the part at its index. -/
theorem itemOr_eq_partOr {α : Type} (fallback : α) (decode : Value → Except DecodeError α)
    (index : Nat) (items : List Value) :
    itemOr fallback decode index items = partOr fallback decode items[index]? := by
  rw [itemOr]
  cases items[index]? <;> rfl

/-- A width is accepted whatever stands there. -/
theorem partOr_spanOfValue_eq_ok_iff {part : Option Value} {span : Option Int64} :
    partOr none (fun value => .ok (spanOfValue value)) part = .ok span ↔
      part.bind spanOfValue = span := by
  cases part with
  | none => simp [partOr]
  | some value => simp [partOr]

/-- The children of a record in object form are the part under their name. -/
theorem Child.listField_eq_partOr (members : List (String × Value)) :
    Child.listField members = partOr [] Child.listOfValue (valueAt? "children" members) := by
  induction members with
  | nil => simp [Child.listField, valueAt?, partOr]
  | cons member rest ih =>
    obtain ⟨key, value⟩ := member
    by_cases h : key = "children"
    · simp [Child.listField, valueAt?, h, partOr]
    · simp [Child.listField, valueAt?, h, ih]

/-- The children of a record in array form are the part at their index. -/
theorem Child.listItem_eq_partOr (index : Nat) (items : List Value) :
    Child.listItem index items = partOr [] Child.listOfValue items[index]? := by
  induction items generalizing index with
  | nil => simp [Child.listItem, partOr]
  | cons item rest ih =>
    cases index with
    | zero => simp [Child.listItem, partOr]
    | succ index => simp [Child.listItem, ih]

/-! ## Refusals -/

/-- No field is found to be repeated when none stands twice. -/
theorem repeatedField?_eq_none_iff {names : List String} {members : List (String × Value)} :
    repeatedField? names members = none ↔ ∀ name ∈ names, AtMostOnce name members := by
  induction members with
  | nil => simp [repeatedField?, AtMostOnce]
  | cons member rest ih =>
    obtain ⟨key, value⟩ := member
    have hany : rest.any (fun member => member.1 == key) = true ↔ key ∈ rest.map Prod.fst := by
      simp [List.any_eq_true]
    rw [repeatedField?]
    split
    · rename_i hrepeated
      rw [Bool.and_eq_true, List.contains_iff_mem, hany] at hrepeated
      obtain ⟨hname, hmem⟩ := hrepeated
      simp only [reduceCtorEq, false_iff]
      intro honce
      exact (atMostOnce_cons_iff.mp (honce key hname)).1 rfl hmem
    · rename_i hsingle
      rw [Bool.and_eq_true, List.contains_iff_mem, hany] at hsingle
      rw [ih]
      refine forall_congr' fun name => forall_congr' fun hname => ?_
      rw [atMostOnce_cons_iff]
      constructor
      · intro honce
        refine ⟨?_, honce⟩
        rintro rfl hmem
        exact hsingle ⟨hname, hmem⟩
      · exact And.right

/-- Nothing is refused as repeated when no field stands twice. -/
theorem refuseRepeated_eq_ok_iff {names : List String} {members : List (String × Value)} :
    refuseRepeated names members = .ok () ↔ ∀ name ∈ names, AtMostOnce name members := by
  rw [refuseRepeated, ← repeatedField?_eq_none_iff]
  cases repeatedField? names members <;> simp

/-- Nothing is refused as repeated when every key stands once. -/
theorem KeysOnce.refuseRepeated_eq_ok {members : List (String × Value)} (h : KeysOnce members)
    (names : List String) : refuseRepeated names members = .ok () :=
  refuseRepeated_eq_ok_iff.mpr fun name _ => h.atMostOnce name

/-- An array with no more items than fields is not refused. -/
theorem refuseLonger_eq_ok_iff {fieldCount : Nat} {items : List Value} :
    refuseLonger fieldCount items = .ok () ↔ items.length ≤ fieldCount := by
  rw [refuseLonger]
  split
  · rename_i h
    simp [Nat.not_le.mpr h]
  · rename_i h
    simp [Nat.not_lt.mp h]

/-! ## Records -/

/-- When a header in object form is accepted. -/
theorem Header.ofValue_object_eq_ok_iff {members : List (String × Value)} {header : Header} :
    Header.ofValue (.object members) = .ok header ↔
      refuseRepeated ["title", "layout"] members = .ok () ∧
      partOr "" textOrEmpty (valueAt? "title" members) = .ok header.title ∧
      partOr .flow layoutOfValue (valueAt? "layout" members) = .ok header.layout := by
  simp only [Header.ofValue, bind_eq_ok_iff, pure_eq_ok_iff, fieldOr_eq_partOr]
  constructor
  · rintro ⟨⟨⟩, hrepeated, layout, hlayout, title, htitle, rfl⟩
    exact ⟨hrepeated, htitle, hlayout⟩
  · rintro ⟨hrepeated, htitle, hlayout⟩
    exact ⟨(), hrepeated, header.layout, hlayout, header.title, htitle, rfl⟩

/-- When a header in array form is accepted. -/
theorem Header.ofValue_array_eq_ok_iff {items : List Value} {header : Header} :
    Header.ofValue (.array items) = .ok header ↔
      items.length ≤ 2 ∧
      partOr "" textOrEmpty items[0]? = .ok header.title ∧
      partOr .flow layoutOfValue items[1]? = .ok header.layout := by
  simp only [Header.ofValue, bind_eq_ok_iff, pure_eq_ok_iff, itemOr_eq_partOr]
  constructor
  · rintro ⟨title, htitle, layout, hlayout, ⟨⟩, hlonger, rfl⟩
    exact ⟨refuseLonger_eq_ok_iff.mp hlonger, htitle, hlayout⟩
  · rintro ⟨hlength, htitle, hlayout⟩
    exact ⟨header.title, htitle, header.layout, hlayout, (), refuseLonger_eq_ok_iff.mpr hlength, rfl⟩

/-- When a component in object form is accepted. -/
theorem Component.ofValue_object_eq_ok_iff {members : List (String × Value)} {c : Component} :
    Component.ofValue (.object members) = .ok c ↔
      refuseRepeated Component.fieldNames members = .ok () ∧
      partOr "" textOrEmpty (valueAt? "component" members) = .ok c.name ∧
      partOr [] propsOfValue (valueAt? "props" members) = .ok c.props ∧
      (valueAt? "span" members).bind spanOfValue = c.span ∧
      partOr [] Child.listOfValue (valueAt? "children" members) = .ok c.children := by
  simp only [Component.ofValue, bind_eq_ok_iff, pure_eq_ok_iff, fieldOr_eq_partOr,
    Child.listField_eq_partOr, partOr_spanOfValue_eq_ok_iff]
  constructor
  · rintro ⟨⟨⟩, hrepeated, children, hchildren, name, hname, props, hprops, span, hspan, rfl⟩
    exact ⟨hrepeated, hname, hprops, hspan, hchildren⟩
  · obtain ⟨name, props, span, children⟩ := c
    rintro ⟨hrepeated, hname, hprops, hspan, hchildren⟩
    exact ⟨(), hrepeated, children, hchildren, name, hname, props, hprops, span, hspan, rfl⟩

/-- When a component in array form is accepted. -/
theorem Component.ofValue_array_eq_ok_iff {items : List Value} {c : Component} :
    Component.ofValue (.array items) = .ok c ↔
      items.length ≤ 4 ∧
      partOr "" textOrEmpty items[0]? = .ok c.name ∧
      partOr [] propsOfValue items[1]? = .ok c.props ∧
      items[2]?.bind spanOfValue = c.span ∧
      partOr [] Child.listOfValue items[3]? = .ok c.children := by
  simp only [Component.ofValue, bind_eq_ok_iff, pure_eq_ok_iff, itemOr_eq_partOr,
    Child.listItem_eq_partOr, partOr_spanOfValue_eq_ok_iff]
  constructor
  · rintro ⟨name, hname, props, hprops, span, hspan, children, hchildren, ⟨⟩,
      hlonger, rfl⟩
    exact ⟨refuseLonger_eq_ok_iff.mp hlonger, hname, hprops, hspan, hchildren⟩
  · obtain ⟨name, props, span, children⟩ := c
    rintro ⟨hlength, hname, hprops, hspan, hchildren⟩
    exact ⟨name, hname, props, hprops, span, hspan, children, hchildren, (),
      refuseLonger_eq_ok_iff.mpr hlength, rfl⟩

/-- A value that is no string, number or truth value is a child when it is a component. -/
theorem Child.ofValue_eq_component_iff {v : Value} (hstring : ∀ text, v ≠ .string text)
    (hnumber : ∀ n, v ≠ .number n) (hbool : ∀ b, v ≠ .bool b) {child : Child} :
    Child.ofValue v = .ok child ↔ ∃ c, Component.ofValue v = .ok c ∧ .component c = child := by
  rw [Child.ofValue]
  · cases Component.ofValue v <;> simp
  · exact hstring
  · exact hnumber
  · exact hbool

/-- Whether a value is decoded as a leaf: as no component, as a list of children only if that is empty,
and as a child only if that is a leaf and has the value as its JSON form. Such a value is not changed
by sorting. -/
structure DecodesLeaf (v : Value) : Prop where
  component (c : Component) : Component.ofValue v ≠ .ok c
  list {children : List Child} : Child.listOfValue v = .ok children → children = []
  child {child : Child} : Child.ofValue v = .ok child →
    child.component? = none ∧ child.toValue = v
  sorted : v.sorted = v

/-- Induction over values that are decoded: values that are neither arrays nor objects are decoded as
leaves. -/
@[elab_as_elim]
theorem decoding_induction {P : Value → Prop} (leaf : ∀ v, DecodesLeaf v → P v)
    (array : ∀ items, (∀ item ∈ items, P item) → P (.array items))
    (object : ∀ members, (∀ member ∈ members, P member.2) → P (.object members)) (v : Value) :
    P v := by
  induction v using Value.induction with
  | null =>
    refine leaf _ ⟨?_, ?_, ?_, rfl⟩
    · simp [Component.ofValue]
    · simp [Child.listOfValue]
    · simp [Child.ofValue, Component.ofValue]
  | bool b =>
    refine leaf _ ⟨?_, ?_, ?_, rfl⟩
    · simp [Component.ofValue]
    · simp [Child.listOfValue]
    · simp [Child.ofValue, Child.component?, Child.toValue]
  | number n =>
    refine leaf _ ⟨?_, ?_, ?_, rfl⟩
    · simp [Component.ofValue]
    · simp [Child.listOfValue]
    · simp [Child.ofValue, Child.component?, Child.toValue]
  | string s =>
    refine leaf _ ⟨?_, ?_, ?_, rfl⟩
    · simp [Component.ofValue]
    · simp [Child.listOfValue]
    · simp [Child.ofValue, Child.component?, Child.toValue]
  | array items ih => exact array items ih
  | object members ih => exact object members ih

/-- Lists of components are accepted component by component. -/
theorem Component.ofValues_eq_ok_iff {items : List Value} {components : List Component} :
    Component.ofValues items = .ok components ↔
      items.map Component.ofValue = components.map .ok := by
  induction items generalizing components with
  | nil => simp [Component.ofValues, eq_comm]
  | cons item rest ih =>
    simp only [Component.ofValues, bind_eq_ok_iff, pure_eq_ok_iff, ih]
    cases components with
    | nil => simp
    | cons c cs => simp

/-- The components of a sketch are accepted as an array. -/
theorem Component.listOfValue_eq_ok_iff {v : Value} {components : List Component} :
    Component.listOfValue v = .ok components ↔
      ∃ items, v = .array items ∧ items.map Component.ofValue = components.map .ok := by
  cases v with
  | array items => simp [Component.listOfValue, Component.ofValues_eq_ok_iff]
  | _ => simp [Component.listOfValue]

/-- Lists of children are accepted child by child. -/
theorem Child.ofValues_eq_ok_iff {items : List Value} {children : List Child} :
    Child.ofValues items = .ok children ↔ items.map Child.ofValue = children.map .ok := by
  induction items generalizing children with
  | nil => simp [Child.ofValues, eq_comm]
  | cons item rest ih =>
    simp only [Child.ofValues, bind_eq_ok_iff, pure_eq_ok_iff, ih]
    cases children with
    | nil => simp
    | cons c cs => simp

/-- When a sketch in object form is accepted. -/
theorem Sketch.ofValue_object_eq_ok_iff {members : List (String × Value)} {sketch : Sketch} :
    Sketch.ofValue (.object members) = .ok sketch ↔
      (∃ value, valueAt? "components" members = some value ∧
        Component.listOfValue value = .ok sketch.components) ∧
      partOr .empty Header.orEmpty (valueAt? "page" members) = .ok sketch.header := by
  rw [Sketch.ofValue]
  cases valueAt? "components" members with
  | none => simp
  | some value =>
    simp only [bind_eq_ok_iff, pure_eq_ok_iff, fieldOr_eq_partOr, Option.some.injEq]
    constructor
    · rintro ⟨components, hcomponents, header, hheader, rfl⟩
      exact ⟨⟨value, rfl, hcomponents⟩, hheader⟩
    · rintro ⟨⟨_, rfl, hcomponents⟩, hheader⟩
      exact ⟨sketch.components, hcomponents, sketch.header, hheader, rfl⟩

end PageSketch
