import PageSketch.Proofs.Json.Value
import PageSketch.Proofs.Sketch.Decoding

/-!
# The shapes of sketches

Which values are headers, components, children and sketches, as a grammar of values: a record is an
object whose fields have the right shapes, or an array of at most as many items in the order of the
fields. Further members of an object, widths and what stands inside props may be anything. The
decoders accept exactly these shapes when every key stands once.
-/

namespace PageSketch

open Json

/-! ## The grammar -/

/-- A text, or null in its place. -/
inductive TextShape : Value → Prop
  | null : TextShape .null
  | string (text : String) : TextShape (.string text)

/-- Props, or null in their place. -/
inductive PropsShape : Value → Prop
  | null : PropsShape .null
  | object (members : List (String × Value)) : PropsShape (.object members)

/-- A header in either form. -/
inductive Header.Shape : Value → Prop
  | object {members : List (String × Value)}
      (title : ∀ v ∈ valueAt? "title" members, TextShape v)
      (layout : ∀ v ∈ valueAt? "layout" members, TextShape v) : Shape (.object members)
  | array {items : List Value} (length : items.length ≤ 2) (title : ∀ v ∈ items[0]?, TextShape v)
      (layout : ∀ v ∈ items[1]?, TextShape v) : Shape (.array items)

mutual

/-- A component in either form. -/
inductive Component.Shape : Value → Prop
  | object {members : List (String × Value)}
      (name : ∀ v ∈ valueAt? "component" members, TextShape v)
      (props : ∀ v ∈ valueAt? "props" members, PropsShape v)
      (children : ∀ v ∈ valueAt? "children" members, Child.ListShape v) :
      Component.Shape (.object members)
  | array {items : List Value} (length : items.length ≤ 4)
      (name : ∀ v ∈ items[0]?, TextShape v) (props : ∀ v ∈ items[1]?, PropsShape v)
      (children : ∀ v ∈ items[3]?, Child.ListShape v) : Component.Shape (.array items)

/-- A list of children, or null in its place. -/
inductive Child.ListShape : Value → Prop
  | null : Child.ListShape .null
  | array {items : List Value} (each : ∀ v ∈ items, Child.Shape v) : Child.ListShape (.array items)

/-- A child. -/
inductive Child.Shape : Value → Prop
  | component {v : Value} (component : Component.Shape v) : Child.Shape v
  | string (text : String) : Child.Shape (.string text)
  | number (number : Number) : Child.Shape (.number number)
  | bool (value : Bool) : Child.Shape (.bool value)

end

/-- A sketch: an object with a list of components, and with a header or null if it has a page. -/
inductive Sketch.Shape : Value → Prop
  | object {members : List (String × Value)} {items : List Value}
      (components : valueAt? "components" members = some (.array items))
      (each : ∀ v ∈ items, Component.Shape v)
      (page : ∀ v ∈ valueAt? "page" members, v = .null ∨ Header.Shape v) : Shape (.object members)

/-! ## Parts are accepted in their shapes -/

/-- The decoder of texts accepts their shape. -/
theorem exists_textOrEmpty_iff (v : Value) : (∃ a, textOrEmpty v = .ok a) ↔ TextShape v := by
  constructor
  · rintro ⟨a, h⟩
    cases v with
    | null => exact .null
    | string text => exact .string text
    | _ => simp [textOrEmpty] at h
  · rintro (_ | text)
    · exact ⟨"", rfl⟩
    · exact ⟨text, rfl⟩

/-- The decoder of layouts accepts the shape of texts. -/
theorem exists_layoutOfValue_iff (v : Value) : (∃ a, layoutOfValue v = .ok a) ↔ TextShape v := by
  constructor
  · rintro ⟨a, h⟩
    cases v with
    | null => exact .null
    | string text => exact .string text
    | _ => simp [layoutOfValue] at h
  · rintro (_ | text)
    · exact ⟨.flow, rfl⟩
    · exact ⟨.ofName text, rfl⟩

/-- The decoder of props accepts their shape. -/
theorem exists_propsOfValue_iff (v : Value) : (∃ a, propsOfValue v = .ok a) ↔ PropsShape v := by
  constructor
  · rintro ⟨a, h⟩
    cases v with
    | null => exact .null
    | object members => exact .object members
    | _ => simp [propsOfValue] at h
  · rintro (_ | members)
    · exact ⟨[], rfl⟩
    · exact ⟨Value.dedupMembers [] members, rfl⟩

/-- The decoder of headers accepts their shape. -/
theorem Header.exists_ofValue_iff {v : Value} (h : v.WellKeyed) :
    (∃ header, Header.ofValue v = .ok header) ↔ Header.Shape v := by
  cases v with
  | object members =>
    have hrepeated := KeysOnce.refuseRepeated_eq_ok h.top ["title", "layout"]
    have htitle := exists_partOr_eq_ok_iff ""
      fun v (_ : v ∈ valueAt? "title" members) => exists_textOrEmpty_iff v
    have hlayout := exists_partOr_eq_ok_iff .flow
      fun v (_ : v ∈ valueAt? "layout" members) => exists_layoutOfValue_iff v
    simp only [Header.ofValue_object_eq_ok_iff]
    constructor
    · rintro ⟨header, -, ht, hl⟩
      exact .object (htitle.mp ⟨_, ht⟩) (hlayout.mp ⟨_, hl⟩)
    · rintro (⟨ht, hl⟩)
      obtain ⟨title, ht⟩ := htitle.mpr ht
      obtain ⟨layout, hl⟩ := hlayout.mpr hl
      exact ⟨⟨title, layout⟩, hrepeated, ht, hl⟩
  | array items =>
    have htitle := exists_partOr_eq_ok_iff ""
      fun v (_ : v ∈ items[0]?) => exists_textOrEmpty_iff v
    have hlayout := exists_partOr_eq_ok_iff .flow
      fun v (_ : v ∈ items[1]?) => exists_layoutOfValue_iff v
    simp only [Header.ofValue_array_eq_ok_iff]
    constructor
    · rintro ⟨header, hlength, ht, hl⟩
      exact .array hlength (htitle.mp ⟨_, ht⟩) (hlayout.mp ⟨_, hl⟩)
    · rintro (_ | ⟨hlength, ht, hl⟩)
      obtain ⟨title, ht⟩ := htitle.mpr ht
      obtain ⟨layout, hl⟩ := hlayout.mpr hl
      exact ⟨⟨title, layout⟩, hlength, ht, hl⟩
  | _ =>
    constructor
    · rintro ⟨header, h⟩
      simp [Header.ofValue] at h
    · rintro ⟨⟩

/-! ## Components and children -/

/-- Whether the decoders of components, children and lists of children accept a value exactly when
it has the shape. -/
structure DecidesShape (v : Value) : Prop where
  component : (∃ c, Component.ofValue v = .ok c) ↔ Component.Shape v
  child : (∃ child, Child.ofValue v = .ok child) ↔ Child.Shape v
  list : (∃ children, Child.listOfValue v = .ok children) ↔ Child.ListShape v

/-- A value that is no string, number or truth value has the shape of a child when it is decoded as a
component. -/
theorem Child.exists_ofValue_iff {v : Value} (hstring : ∀ text, v ≠ .string text)
    (hnumber : ∀ n, v ≠ .number n) (hbool : ∀ b, v ≠ .bool b)
    (h : (∃ c, Component.ofValue v = .ok c) ↔ Component.Shape v) :
    (∃ child, Child.ofValue v = .ok child) ↔ Child.Shape v := by
  -- What is left for a child is to be a component.
  have hchild : (∃ child, Child.ofValue v = .ok child) ↔ ∃ c, Component.ofValue v = .ok c := by
    simp only [Child.ofValue_eq_component_iff hstring hnumber hbool]
    rw [exists_comm]
    simp
  rw [hchild, h]
  constructor
  · exact .component
  · intro hshape
    cases hshape with
    | component hcomponent => exact hcomponent
    | string text => exact absurd rfl (hstring text)
    | number n => exact absurd rfl (hnumber n)
    | bool b => exact absurd rfl (hbool b)

/-- A string, a number or a truth value is a child and nothing else. -/
theorem decidesShape_leaf {v : Value} (hchild : ∃ child, Child.ofValue v = .ok child)
    (hshape : Child.Shape v) (hobject : ∀ members, v ≠ .object members)
    (harray : ∀ items, v ≠ .array items) (hnull : v ≠ .null) : DecidesShape v where
  component := by
    constructor
    · rintro ⟨c, h⟩
      cases v <;> simp_all [Component.ofValue]
    · intro h
      cases h with
      | object => exact absurd rfl (hobject _)
      | array => exact absurd rfl (harray _)
  child := ⟨fun _ => hshape, fun _ => hchild⟩
  list := by
    constructor
    · rintro ⟨children, h⟩
      cases v <;> simp_all [Child.listOfValue]
    · intro h
      cases h with
      | null => exact absurd rfl hnull
      | array => exact absurd rfl (harray _)

/-- Null is an empty list of children and nothing else. -/
theorem decidesShape_null : DecidesShape .null := by
  have hcomponent : (∃ c, Component.ofValue .null = .ok c) ↔ Component.Shape .null := by
    constructor
    · rintro ⟨c, h⟩
      simp [Component.ofValue] at h
    · rintro ⟨⟩
  refine ⟨hcomponent, Child.exists_ofValue_iff (by simp) (by simp) (by simp) hcomponent, ?_⟩
  exact ⟨fun _ => .null, fun _ => ⟨[], by rw [Child.listOfValue]⟩⟩

/-- An array is a component by its parts and a list of children by its items. -/
theorem decidesShape_array {items : List Value} (h : ∀ item ∈ items, DecidesShape item) :
    DecidesShape (.array items) := by
  have hname := exists_partOr_eq_ok_iff ""
    fun v (_ : v ∈ items[0]?) => exists_textOrEmpty_iff v
  have hprops := exists_partOr_eq_ok_iff []
    fun v (_ : v ∈ items[1]?) => exists_propsOfValue_iff v
  have hchildren := exists_partOr_eq_ok_iff []
    fun v (hv : v ∈ items[3]?) => (h v (List.mem_of_getElem? hv)).list
  have hcomponent :
      (∃ c, Component.ofValue (.array items) = .ok c) ↔ Component.Shape (.array items) := by
    simp only [Component.ofValue_array_eq_ok_iff]
    constructor
    · rintro ⟨c, hlength, hn, hp, -, hc⟩
      exact .array hlength (hname.mp ⟨_, hn⟩) (hprops.mp ⟨_, hp⟩) (hchildren.mp ⟨_, hc⟩)
    · rintro (_ | ⟨hlength, hn, hp, hc⟩)
      obtain ⟨name, hn⟩ := hname.mpr hn
      obtain ⟨props, hp⟩ := hprops.mpr hp
      obtain ⟨children, hc⟩ := hchildren.mpr hc
      exact ⟨⟨name, props, items[2]?.bind spanOfValue, children⟩, hlength, hn, hp, rfl, hc⟩
  refine ⟨hcomponent, Child.exists_ofValue_iff (by simp) (by simp) (by simp) hcomponent, ?_⟩
  simp only [Child.listOfValue, Child.ofValues_eq_ok_iff, exists_map_eq_map_ok_iff]
  constructor
  · intro heach
    exact .array fun item hitem => (h item hitem).child.mp (heach item hitem)
  · rintro (_ | heach) item hitem
    exact (h item hitem).child.mpr (heach item hitem)

/-- An object is a component by its fields. -/
theorem decidesShape_object {members : List (String × Value)} (honce : KeysOnce members)
    (h : ∀ member ∈ members, DecidesShape member.2) : DecidesShape (.object members) := by
  -- Every key stands once, so nothing is refused as repeated.
  have hrepeated := honce.refuseRepeated_eq_ok Component.fieldNames
  have hname := exists_partOr_eq_ok_iff ""
    fun v (_ : v ∈ valueAt? "component" members) => exists_textOrEmpty_iff v
  have hprops := exists_partOr_eq_ok_iff []
    fun v (_ : v ∈ valueAt? "props" members) => exists_propsOfValue_iff v
  have hchildren := exists_partOr_eq_ok_iff []
    fun v (hv : v ∈ valueAt? "children" members) => (h _ (mem_of_valueAt?_eq_some hv)).list
  have hcomponent :
      (∃ c, Component.ofValue (.object members) = .ok c) ↔
        Component.Shape (.object members) := by
    simp only [Component.ofValue_object_eq_ok_iff]
    constructor
    · rintro ⟨c, -, hn, hp, -, hc⟩
      exact .object (hname.mp ⟨_, hn⟩) (hprops.mp ⟨_, hp⟩) (hchildren.mp ⟨_, hc⟩)
    · rintro (⟨hn, hp, hc⟩)
      obtain ⟨name, hn⟩ := hname.mpr hn
      obtain ⟨props, hp⟩ := hprops.mpr hp
      obtain ⟨children, hc⟩ := hchildren.mpr hc
      exact ⟨⟨name, props, (valueAt? "span" members).bind spanOfValue, children⟩, hrepeated, hn,
        hp, rfl, hc⟩
  refine ⟨hcomponent, Child.exists_ofValue_iff (by simp) (by simp) (by simp) hcomponent, ?_⟩
  constructor
  · rintro ⟨children, h⟩
    simp [Child.listOfValue] at h
  · rintro ⟨⟩

/-- The decoders of components and children accept exactly their shapes. -/
theorem decidesShape {v : Value} (h : v.WellKeyed) : DecidesShape v := by
  induction v using Value.induction with
  | null => exact decidesShape_null
  | bool b =>
    exact decidesShape_leaf ⟨.bool b, by rw [Child.ofValue]⟩ (.bool b) (by simp) (by simp) (by simp)
  | number n =>
    exact decidesShape_leaf ⟨.number n, by rw [Child.ofValue]⟩ (.number n) (by simp) (by simp)
      (by simp)
  | string text =>
    exact decidesShape_leaf ⟨.text text, by rw [Child.ofValue]⟩ (.string text) (by simp) (by simp)
      (by simp)
  | array items ih => exact decidesShape_array fun item hitem => ih item hitem (h.item hitem)
  | object members ih =>
    exact decidesShape_object h.top fun member hmember => ih member hmember (h.member hmember)

/-! ## Sketches -/

/-- The page of a sketch is null or a header. -/
theorem Header.exists_orEmpty_iff {v : Value} (h : v.WellKeyed) :
    (∃ header, Header.orEmpty v = .ok header) ↔ v = .null ∨ Header.Shape v := by
  by_cases hnull : v = .null
  · simp [hnull, Header.orEmpty]
  · rw [Header.orEmpty]
    · simp [hnull, Header.exists_ofValue_iff h]
    · exact hnull

/-- The decoder of sketches accepts exactly their shape. -/
theorem Sketch.exists_ofValue_iff {v : Value} (h : v.WellKeyed) :
    (∃ sketch, Sketch.ofValue v = .ok sketch) ↔ Sketch.Shape v := by
  cases v with
  | object members =>
    have hpage := exists_partOr_eq_ok_iff .empty fun v (hv : v ∈ valueAt? "page" members) =>
      Header.exists_orEmpty_iff (h.member (mem_of_valueAt?_eq_some hv))
    simp only [Sketch.ofValue_object_eq_ok_iff, Component.listOfValue_eq_ok_iff]
    constructor
    · rintro ⟨sketch, ⟨_, hvalue, items, rfl, hitems⟩, hheader⟩
      have hlist := h.member (mem_of_valueAt?_eq_some hvalue)
      refine .object hvalue (fun item hitem => ?_) (hpage.mp ⟨_, hheader⟩)
      exact (decidesShape (hlist.item hitem)).component.mp
        (exists_map_eq_map_ok_iff.mp ⟨_, hitems⟩ item hitem)
    · rintro (@⟨_, items, hvalue, heach, hheader⟩)
      have hlist := h.member (mem_of_valueAt?_eq_some hvalue)
      obtain ⟨components, hitems⟩ := exists_map_eq_map_ok_iff.mpr fun item hitem =>
        (decidesShape (hlist.item hitem)).component.mpr (heach item hitem)
      obtain ⟨header, hheader⟩ := hpage.mpr hheader
      exact ⟨⟨header, components⟩, ⟨_, hvalue, items, rfl, hitems⟩, hheader⟩
  | _ =>
    constructor
    · rintro ⟨sketch, h⟩
      simp [Sketch.ofValue] at h
    · rintro ⟨⟩

end PageSketch
