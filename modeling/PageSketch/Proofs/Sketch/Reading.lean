import PageSketch.Proofs.Json.Document
import PageSketch.Proofs.Sketch.Decoding

/-!
# The reader of sketches decodes values

On a text with a value the readers of headers, components, children and sketches accept what the
decoders accept of that value, members in the order of the text and with repeated keys.
-/

namespace PageSketch

open Json

/-! ## Parts -/

/-- A text, or null, is read as it is decoded. -/
theorem follows_textOrEmpty : Follows (orDefault "" readText) textOrEmpty := by
  intro depth tree v h text
  rw [orDefault_eq_ok_iff h, readText_eq_ok_iff h]
  cases v <;> simp [textOrEmpty]

/-- A layout, or null, is read as it is decoded. -/
theorem follows_layoutOfValue : Follows (orDefault .flow Layout.read) layoutOfValue := by
  intro depth tree v h layout
  rw [orDefault_eq_ok_iff h, Layout.read, map_eq_ok_iff]
  simp only [readText_eq_ok_iff h]
  cases v <;> simp [layoutOfValue]

/-- Props, or null, are read as they are decoded. -/
theorem follows_propsOfValue : Follows (orDefault [] readMap) propsOfValue := by
  intro depth tree v h props
  rw [orDefault_eq_ok_iff h, readMap_eq_ok_iff h]
  cases v <;> simp [propsOfValue]

/-- A child is read as it is decoded. -/
theorem Child.follows_ofValue : Follows Child.read Child.ofValue := by
  intro depth tree v h child
  have hread : readAny depth tree = .ok v := (readAny_eq_ok_iff h).mpr rfl
  rw [Child.read, hread]

/-- Children, or null, are read as they are decoded. -/
theorem Child.follows_listOfValue :
    Follows (orDefault [] (readList Child.read)) Child.listOfValue := by
  intro depth tree v h children
  rw [orDefault_eq_ok_iff h, Child.follows_ofValue.readList_eq_ok_iff h]
  cases v <;> simp [Child.listOfValue, Child.ofValues_eq_ok_iff]

/-! ## Headers -/

namespace Header

/-- The title among the fields of a header. -/
def titleField : Json.Field Header :=
  .of "title" false follows_textOrEmpty "" Header.title
    (fun title header => { header with title }) fun _ _ => rfl

/-- The layout among the fields of a header. -/
def layoutField : Json.Field Header :=
  .of "layout" false follows_layoutOfValue .flow Header.layout
    (fun layout header => { header with layout }) fun _ _ => rfl

/-- A header as a record of its fields. -/
def record : Record Header where
  name := "Page"
  fields := [titleField, layoutField]
  initial := .empty
  names := by simp [titleField, layoutField, Field.name, Field.of, FieldReader.of]
  spares := by
    simp [titleField, layoutField, Field.name, Field.of, FieldReader.of, Field.Spares]
  get_initial := by simp [titleField, layoutField, Field.of, Header.empty]
  ext header header' h := by
    have htitle : header.title = header'.title := h titleField (by simp)
    have hlayout : header.layout = header'.layout := h layoutField (by simp)
    cases header
    cases header'
    simp_all

/-- The reader of headers reads that record. -/
theorem record_reader : record.reader = Header.reader := rfl

/-- A header is read as it is decoded. -/
theorem follows_ofValue : Follows Header.reader.read Header.ofValue := by
  rw [← record_reader]
  refine Record.follows ?_ ?_ ?_ ?_
  · simp [record, titleField, layoutField, Field.isRequired, Field.of, FieldReader.of]
  · intro vs header
    rw [ofValue_object_eq_ok_iff, refuseRepeated_eq_ok_iff]
    simp [record, titleField, layoutField, Field.name, Field.Holds, Field.of, FieldReader.of]
  · intro vs header
    rw [ofValue_array_eq_ok_iff]
    simp [record, titleField, layoutField, Field.Holds, Field.of, Record.forall_getElem?_cons_iff]
  · intro v header h
    cases v <;> simp [ofValue] at h ⊢

end Header

/-! ## Components -/

namespace Component

/-- The name among the fields of a component. -/
def nameField : Json.Field Component :=
  .of "component" false follows_textOrEmpty "" Component.name
    (fun name component => { component with name }) fun _ _ => rfl

/-- The props among the fields of a component. -/
def propsField : Json.Field Component :=
  .of "props" false follows_propsOfValue [] Component.props
    (fun props component => { component with props }) fun _ _ => rfl

/-- The width among the fields of a component: whatever stands there is read, and what it stands
for is kept. -/
def spanField : Json.Field Component where
  reader := .of "span" false readAny fun value component =>
    { component with span := spanOfValue value }
  decode value := .ok (spanOfValue value)
  fallback := none
  get := Component.span
  set span component := { component with span }
  store_eq_ok_iff h record result := by
    simp [FieldReader.of, readAny_eq_ok_iff h]
  get_set _ _ := rfl

/-- The children among the fields of a component. -/
def childrenField : Json.Field Component :=
  .of "children" false Child.follows_listOfValue [] Component.children
    (fun children component => { component with children }) fun _ _ => rfl

/-- A component as a record of its fields. -/
def record : Record Component where
  name := "ComponentNode"
  fields := [nameField, propsField, spanField, childrenField]
  initial := .named ""
  names := by
    simp [nameField, propsField, spanField, childrenField, Field.name, Field.of, FieldReader.of]
  spares := by
    simp [nameField, propsField, spanField, childrenField, Field.name, Field.of, FieldReader.of,
      Field.Spares]
  get_initial := by
    simp [nameField, propsField, spanField, childrenField, Field.of, Component.named]
  ext component component' h := by
    have hname : component.name = component'.name := h nameField (by simp)
    have hprops : component.props = component'.props := h propsField (by simp)
    have hspan : component.span = component'.span := h spanField (by simp)
    have hchildren : component.children = component'.children := h childrenField (by simp)
    cases component
    cases component'
    simp_all

/-- The reader of components reads that record. -/
theorem record_reader : record.reader = Component.reader := rfl

/-- A component is read as it is decoded. -/
theorem follows_ofValue : Follows Component.reader.read Component.ofValue := by
  rw [← record_reader]
  refine Record.follows ?_ ?_ ?_ ?_
  · simp [record, nameField, propsField, spanField, childrenField, Field.isRequired, Field.of,
      FieldReader.of]
  · intro vs component
    rw [ofValue_object_eq_ok_iff, refuseRepeated_eq_ok_iff]
    simp [record, nameField, propsField, spanField, childrenField, Field.name, Field.Holds,
      Field.of, FieldReader.of, fieldNames, partOr_spanOfValue_eq_ok_iff]
  · intro vs component
    rw [ofValue_array_eq_ok_iff]
    simp [record, nameField, propsField, spanField, childrenField, Field.Holds, Field.of,
      Record.forall_getElem?_cons_iff, partOr_spanOfValue_eq_ok_iff]
  · intro v component h
    cases v <;> simp [ofValue] at h ⊢

end Component

/-! ## Sketches -/

/-- A header, or null, is read as it is decoded. -/
theorem Header.follows_orEmpty : Follows (orDefault .empty Header.reader.read) Header.orEmpty := by
  intro depth tree v h header
  rw [orDefault_eq_ok_iff h, Header.follows_ofValue depth tree v h]
  cases v <;> simp [Header.orEmpty]

/-- The components of a sketch are read as they are decoded. -/
theorem Component.follows_listOfValue :
    Follows (readList Component.reader.read) Component.listOfValue := by
  intro depth tree v h components
  rw [Component.follows_ofValue.readList_eq_ok_iff h, Component.listOfValue_eq_ok_iff]

namespace Sketch

/-- The header among the fields of a sketch. -/
def headerField : Json.Field Sketch :=
  .of "page" false Header.follows_orEmpty .empty Sketch.header
    (fun header sketch => { sketch with header }) fun _ _ => rfl

/-- The components among the fields of a sketch. -/
def componentsField : Json.Field Sketch :=
  .of "components" true Component.follows_listOfValue [] Sketch.components
    (fun components sketch => { sketch with components }) fun _ _ => rfl

/-- A sketch as a record of its fields. -/
def record : Record Sketch where
  name := "UiDsl"
  fields := [headerField, componentsField]
  initial := ⟨.empty, []⟩
  names := by simp [headerField, componentsField, Field.name, Field.of, FieldReader.of]
  spares := by
    simp [headerField, componentsField, Field.name, Field.of, FieldReader.of, Field.Spares]
  get_initial := by simp [headerField, componentsField, Field.of]
  ext sketch sketch' h := by
    have hheader : sketch.header = sketch'.header := h headerField (by simp)
    have hcomponents : sketch.components = sketch'.components := h componentsField (by simp)
    cases sketch
    cases sketch'
    simp_all

/-- The reader of sketches reads that record. -/
theorem record_reader : record.reader = Sketch.reader := rfl

/-- A sketch in object form is read as it is decoded when neither field stands twice. -/
theorem reader_object_eq_ok_iff {depth : Nat} {tree : Tree} {members : List (String × Value)}
    (h : tree.value depth = .ok (.object members)) {sketch : Sketch} :
    Sketch.reader.read depth tree = .ok sketch ↔
      refuseRepeated ["page", "components"] members = .ok () ∧
        Sketch.ofValue (.object members) = .ok sketch := by
  rw [← record_reader, ofValue_object_eq_ok_iff, refuseRepeated_eq_ok_iff]
  cases Tree.shows h with
  | object hdepth hvs =>
    rw [Record.reader_object_eq_ok_iff hdepth hvs]
    -- The components are required: a fallback for them is of no use.
    have hmem : "components" ∈ members.map Prod.fst ↔ valueAt? "components" members ≠ none := by
      rw [ne_eq, valueAt?_eq_none_iff, Decidable.not_not]
    simp only [record, headerField, componentsField, Field.name, Field.isRequired, Field.Holds,
      Field.of, FieldReader.of, List.forall_mem_cons, List.not_mem_nil, false_implies,
      hmem]
    cases hvalue : valueAt? "components" members with
    | none => simp
    | some value => simp [partOr, and_comm]

/-- A text that spells an object is read as the object is decoded, when neither field stands
twice. -/
theorem read_eq_ok_iff {text : String} {members : List (String × Value)}
    (h : SpellsValue text.toList (.object members)) {sketch : Sketch} :
    Sketch.read text = .ok sketch ↔
      refuseRepeated ["page", "components"] members = .ok () ∧
        Sketch.ofValue (.object members) = .ok sketch := by
  obtain ⟨hroot, hextra⟩ := Document.value_eq_ok_iff.mp (read_value_eq_ok_iff.mpr h)
  rw [Sketch.read, decodeText, Document.decode_eq_ok_iff, reader_object_eq_ok_iff hroot]
  simp [hextra]

end Sketch

end PageSketch
