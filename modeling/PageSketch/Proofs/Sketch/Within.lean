import PageSketch.Proofs.Json.Within
import PageSketch.Proofs.Sketch.Writing

/-!
# Decoding stays within bounds

The JSON form of a decoded sketch is nested no deeper than the value that it was decoded from, and
its texts are those of that value, but for a few words that every sketch is written with.
-/

namespace PageSketch

open Json

/-- The texts that a sketch may be written with whatever it was decoded from: the empty text, the
names of the fields and the names of the layouts. -/
def ownWords : List String :=
  ["", "page", "components", "title", "layout", "component", "props", "span", "children",
    Layout.flow.name, Layout.grid.name]

variable {p : String → Prop} {k : Nat}

/-! ## Headers -/

/-- The name of a layout is one of the words. -/
theorem Layout.name_mem_ownWords (layout : Layout) : layout.name ∈ ownWords := by
  cases layout <;> simp [ownWords]

/-- The JSON form of a header is within bounds when its title is. -/
theorem Header.within_toValue (hwords : ∀ word ∈ ownWords, p word) {header : Header}
    (htitle : p header.title) : header.toValue.Within p (k + 1) := by
  refine Value.within_object.mpr fun member hmember => ?_
  simp only [List.mem_cons, List.not_mem_nil, or_false] at hmember
  rcases hmember with rfl | rfl
  · exact ⟨hwords _ (by simp [ownWords]), Value.within_string.mpr htitle⟩
  · exact ⟨hwords _ (by simp [ownWords]),
      Value.within_string.mpr (hwords _ header.layout.name_mem_ownWords)⟩

/-- A text within bounds is decoded, or the empty one. -/
theorem textOrEmpty_within (hwords : ∀ word ∈ ownWords, p word) {v : Value} {text : String}
    (h : textOrEmpty v = .ok text) (hv : v.Within p k) : p text := by
  cases v with
  | null =>
    obtain rfl : "" = text := by simpa [textOrEmpty] using h
    exact hwords _ (by simp [ownWords])
  | string s =>
    obtain rfl : s = text := by simpa [textOrEmpty] using h
    exact Value.within_string.mp hv
  | _ => simp [textOrEmpty] at h

/-- A text in a part within bounds. -/
theorem partOr_textOrEmpty_within (hwords : ∀ word ∈ ownWords, p word) {part : Option Value}
    {text : String} (h : partOr "" textOrEmpty part = .ok text)
    (hpart : ∀ v ∈ part, v.Within p k) : p text := by
  rcases partOr_eq_ok h with rfl | ⟨v, hv, htext⟩
  · exact hwords _ (by simp [ownWords])
  · exact textOrEmpty_within hwords htext (hpart v hv)

/-- The member of an object within bounds under a key. -/
theorem within_valueAt? {members : List (String × Value)}
    (h : (Value.object members).Within p (k + 1)) (key : String) :
    ∀ v ∈ valueAt? key members, v.Within p k := by
  intro v hv
  exact (Value.within_object.mp h _ (mem_of_valueAt?_eq_some hv)).2

/-- The item of an array within bounds at an index. -/
theorem within_getElem? {items : List Value} (h : (Value.array items).Within p (k + 1))
    (index : Nat) : ∀ v ∈ items[index]?, v.Within p k := by
  intro v hv
  exact Value.within_array.mp h v (List.mem_of_getElem? hv)

/-- The title of a header that is decoded of a value within bounds. -/
theorem Header.within_title (hwords : ∀ word ∈ ownWords, p word) {v : Value} {header : Header}
    (h : Header.orEmpty v = .ok header) (hv : v.Within p k) : p header.title := by
  cases v with
  | null =>
    obtain rfl : Header.empty = header := by simpa [Header.orEmpty] using h
    exact hwords _ (by simp [ownWords, Header.empty])
  | object members =>
    obtain ⟨j, rfl⟩ := hv.exists_of_object
    obtain ⟨-, htitle, -⟩ := ofValue_object_eq_ok_iff.mp h
    exact partOr_textOrEmpty_within hwords htitle (within_valueAt? hv "title")
  | array items =>
    obtain ⟨j, rfl⟩ := hv.exists_of_array
    obtain ⟨-, htitle, -⟩ := ofValue_array_eq_ok_iff.mp h
    exact partOr_textOrEmpty_within hwords htitle (within_getElem? hv 0)
  | _ => simp [Header.orEmpty, Header.ofValue] at h

/-! ## Components and children -/

/-- The JSON form of a component is within bounds when its name, its props and its children are;
what is empty is not written and needs no level. -/
theorem Component.within_toValue (hwords : ∀ word ∈ ownWords, p word) {c : Component}
    (hname : p c.name) (hprops : c.props = [] ∨ (Value.object c.props).Within p k)
    (hchildren : c.children = [] ∨ (Value.array (Child.toValues c.children)).Within p k) :
    c.toValue.Within p (k + 1) := by
  rw [toValue_eq_object]
  refine Value.within_object.mpr fun member hmember => ?_
  rcases mem_members hmember with rfl | ⟨hne, rfl⟩ | ⟨n, rfl⟩ | ⟨hne, rfl⟩
  · exact ⟨hwords _ (by simp [ownWords]), Value.within_string.mpr hname⟩
  · exact ⟨hwords _ (by simp [ownWords]), hprops.resolve_left hne⟩
  · exact ⟨hwords _ (by simp [ownWords]), Value.within_number _⟩
  · exact ⟨hwords _ (by simp [ownWords]), hchildren.resolve_left hne⟩

/-- Props that are decoded of a value within bounds. -/
theorem propsOfValue_within {v : Value} {props : Props} (h : propsOfValue v = .ok props)
    (hv : v.Within p k) : props = [] ∨ (Value.object props).Within p k := by
  cases v with
  | null =>
    obtain rfl : [] = props := by simpa [propsOfValue] using h
    exact .inl rfl
  | object members =>
    obtain rfl : Value.dedupMembers [] members = props := by simpa [propsOfValue] using h
    exact .inr hv.dedup
  | _ => simp [propsOfValue] at h

/-- Whether what is decoded of a value within bounds is within them. -/
structure DecodesWithin (p : String → Prop) (v : Value) : Prop where
  component {c : Component} {k : Nat} : Component.ofValue v = .ok c → v.Within p k →
    c.toValue.Within p k
  child {child : Child} {k : Nat} : Child.ofValue v = .ok child → v.Within p k →
    child.toValue.Within p k
  list {children : List Child} {k : Nat} : Child.listOfValue v = .ok children → v.Within p k →
    children = [] ∨ (Value.array (Child.toValues children)).Within p k

/-- A component whose parts are decoded of values within bounds, one level below. -/
theorem Component.within_of_parts (hwords : ∀ word ∈ ownWords, p word) {c : Component}
    {name props children : Option Value} (hname : partOr "" textOrEmpty name = .ok c.name)
    (hprops : partOr [] propsOfValue props = .ok c.props)
    (hchildren : partOr [] Child.listOfValue children = .ok c.children)
    (hnameWithin : ∀ v ∈ name, v.Within p k) (hpropsWithin : ∀ v ∈ props, v.Within p k)
    (hchildrenWithin : ∀ v ∈ children, v.Within p k)
    (hdecodes : ∀ v ∈ children, DecodesWithin p v) : c.toValue.Within p (k + 1) := by
  refine within_toValue hwords (partOr_textOrEmpty_within hwords hname hnameWithin) ?_ ?_
  · rcases partOr_eq_ok hprops with hempty | ⟨v, hv, hvalue⟩
    · exact .inl hempty
    · exact propsOfValue_within hvalue (hpropsWithin v hv)
  · rcases partOr_eq_ok hchildren with hempty | ⟨v, hv, hvalue⟩
    · exact .inl hempty
    · exact (hdecodes v hv).list hvalue (hchildrenWithin v hv)

/-- A leaf is decoded within bounds. -/
theorem DecodesLeaf.decodesWithin {v : Value} (h : DecodesLeaf v) : DecodesWithin p v where
  component hc _ := absurd hc (h.component _)
  child hchild hv := by rwa [(h.child hchild).2]
  list hlist _ := .inl (h.list hlist)

/-- Children that are decoded of items within bounds. -/
theorem Child.within_toValues {items : List Value} {children : List Child}
    (h : items.map Child.ofValue = children.map .ok)
    (hitems : ∀ item ∈ items, item.Within p k) (hdecodes : ∀ item ∈ items, DecodesWithin p item) :
    ∀ v ∈ Child.toValues children, v.Within p k := by
  induction items generalizing children with
  | nil =>
    obtain rfl : children = [] := by simpa using h.symm
    simp [Child.toValues]
  | cons item rest ih =>
    cases children with
    | nil => simp at h
    | cons child others =>
      obtain ⟨hchild, hothers⟩ := List.cons.inj h
      rw [List.forall_mem_cons] at hitems hdecodes
      rw [Child.toValues, List.forall_mem_cons]
      exact ⟨hdecodes.1.child hchild hitems.1, ih hothers hitems.2 hdecodes.2⟩

/-- An array is decoded within bounds when its items are. -/
theorem decodesWithin_array (hwords : ∀ word ∈ ownWords, p word) {items : List Value}
    (h : ∀ item ∈ items, DecodesWithin p item) : DecodesWithin p (.array items) := by
  have hcomponent : ∀ c k, Component.ofValue (.array items) = .ok c →
      (Value.array items).Within p k → c.toValue.Within p k := by
    intro c k hc hv
    obtain ⟨j, rfl⟩ := hv.exists_of_array
    obtain ⟨-, hname, hprops, -, hchildren⟩ := Component.ofValue_array_eq_ok_iff.mp hc
    exact Component.within_of_parts hwords hname hprops hchildren (within_getElem? hv 0)
      (within_getElem? hv 1) (within_getElem? hv 3)
      fun v hmem => h v (List.mem_of_getElem? hmem)
  refine ⟨hcomponent _ _, fun {child k} hchild hv => ?_, fun {children k} hchildren hv => ?_⟩
  · obtain ⟨c, hc, rfl⟩ := (Child.ofValue_eq_component_iff (by simp) (by simp) (by simp)).mp hchild
    exact hcomponent c k hc hv
  · obtain ⟨j, rfl⟩ := hv.exists_of_array
    rw [Child.listOfValue, Child.ofValues_eq_ok_iff] at hchildren
    exact .inr (Value.within_array.mpr
      (Child.within_toValues hchildren (Value.within_array.mp hv) h))

/-- An object is decoded within bounds when its members are. -/
theorem decodesWithin_object (hwords : ∀ word ∈ ownWords, p word)
    {members : List (String × Value)} (h : ∀ member ∈ members, DecodesWithin p member.2) :
    DecodesWithin p (.object members) := by
  have hcomponent : ∀ c k, Component.ofValue (.object members) = .ok c →
      (Value.object members).Within p k → c.toValue.Within p k := by
    intro c k hc hv
    obtain ⟨j, rfl⟩ := hv.exists_of_object
    obtain ⟨-, hname, hprops, -, hchildren⟩ := Component.ofValue_object_eq_ok_iff.mp hc
    exact Component.within_of_parts hwords hname hprops hchildren (within_valueAt? hv _)
      (within_valueAt? hv _) (within_valueAt? hv _)
      fun v hmem => h _ (mem_of_valueAt?_eq_some hmem)
  refine ⟨hcomponent _ _, fun {child k} hchild hv => ?_, fun {children k} hchildren _ => ?_⟩
  · obtain ⟨c, hc, rfl⟩ := (Child.ofValue_eq_component_iff (by simp) (by simp) (by simp)).mp hchild
    exact hcomponent c k hc hv
  · simp [Child.listOfValue] at hchildren

/-- What is decoded of a value within bounds is within them. -/
theorem decodesWithin (hwords : ∀ word ∈ ownWords, p word) (v : Value) : DecodesWithin p v := by
  induction v using decoding_induction with
  | leaf v h => exact h.decodesWithin
  | array items ih => exact decodesWithin_array hwords ih
  | object members ih => exact decodesWithin_object hwords ih

/-! ## Sketches -/

/-- The JSON form of a sketch that is decoded of a value within bounds is within them. -/
theorem Sketch.within_toValue (hwords : ∀ word ∈ ownWords, p word) {v : Value} {sketch : Sketch}
    (h : Sketch.ofValue v = .ok sketch) (hv : v.Within p k) : sketch.toValue.Within p k := by
  cases v with
  | object members =>
    obtain ⟨j, rfl⟩ := hv.exists_of_object
    obtain ⟨⟨_, hvalue, hcomponents⟩, hpage⟩ := ofValue_object_eq_ok_iff.mp h
    obtain ⟨items, rfl, hitems⟩ := Component.listOfValue_eq_ok_iff.mp hcomponents
    have hlist := within_valueAt? hv "components" _ hvalue
    -- The level of the list of components is the one that the header needs.
    obtain ⟨i, rfl⟩ := hlist.exists_of_array
    have htitle : p sketch.header.title := by
      rcases partOr_eq_ok hpage with hempty | ⟨page, hmem, hheader⟩
      · rw [hempty]
        exact hwords _ (by simp [ownWords, Header.empty])
      · exact Header.within_title hwords hheader (within_valueAt? hv "page" page hmem)
    refine Value.within_object.mpr fun member hmember => ?_
    simp only [List.mem_cons, List.not_mem_nil, or_false] at hmember
    rcases hmember with rfl | rfl
    · exact ⟨hwords _ (by simp [ownWords]), Header.within_toValue hwords htitle⟩
    · refine ⟨hwords _ (by simp [ownWords]), Value.within_array.mpr fun item hitem => ?_⟩
      obtain ⟨c, hc, rfl⟩ := List.mem_map.mp hitem
      obtain ⟨source, hsource, hdecoded⟩ : ∃ source ∈ items, Component.ofValue source = .ok c := by
        have hmem : (Except.ok c : Except DecodeError Component) ∈ items.map Component.ofValue := by
          rw [hitems]
          exact List.mem_map_of_mem hc
        exact List.mem_map.mp hmem
      exact (decodesWithin hwords source).component hdecoded
        (Value.within_array.mp hlist source hsource)
  | _ => simp [Sketch.ofValue] at h

/-- The JSON form of a sketch is nested no deeper than the value that it was decoded from. -/
theorem Sketch.nesting_toValue_le {v : Value} {sketch : Sketch} (h : Sketch.ofValue v = .ok sketch) :
    sketch.toValue.nesting ≤ v.nesting :=
  (within_toValue (fun _ _ => trivial) h (Value.within_of_nesting_le (Nat.le_refl _))).nesting

end PageSketch
