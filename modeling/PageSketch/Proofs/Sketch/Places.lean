import PageSketch.Sketch.Basic

/-!
# Places in a sketch

A place is a list of indices: that of a top-level component, then that of a child of it, and so on
downwards; leaves are counted too. `Component.places` lists the components below a component with
their places. It has every component at the place where it stands, and the places are in the order of
the tree, which is the lexicographic order of places: a component comes before everything below it,
and that before the next sibling.
-/

namespace PageSketch

/-! ## Induction -/

mutual

/-- What holds for a component if it holds for those among its children holds for all components. -/
theorem Component.induction {P : Component → Prop}
    (step : ∀ c, (∀ d, .component d ∈ c.children → P d) → P c) (c : Component) : P c := by
  match c with
  | ⟨name, props, span, children⟩ => exact step _ (Child.induction step children)

/-- It holds for the components among any children. -/
theorem Child.induction {P : Component → Prop}
    (step : ∀ c, (∀ d, .component d ∈ c.children → P d) → P c) (children : List Child) :
    ∀ d, .component d ∈ children → P d := by
  match children with
  | [] => exact fun d hd => absurd hd List.not_mem_nil
  | .component c :: rest =>
    intro d hd
    rcases List.mem_cons.mp hd with h | h
    · rw [Child.component.inj h]
      exact Component.induction step c
    · exact Child.induction step rest d h
  | .text _ :: rest | .number _ :: rest | .bool _ :: rest =>
    intro d hd
    exact Child.induction step rest d ((List.mem_cons.mp hd).resolve_left nofun)

end

/-! ## Places -/

/-- The indices on the way down to a component. -/
abbrev Place := List Nat

/-- The order of the tree. -/
abbrev Place.Before (p q : Place) : Prop := List.Lex (· < ·) p q

/-- The component at a place below a component. -/
def Component.at? : Place → Component → Option Component
  | [], c => some c
  | i :: rest, c => (c.children[i]?.bind Child.component?).bind (Component.at? rest)

/-- The component at a place of a sketch. -/
def Sketch.componentAt? (s : Sketch) : Place → Option Component
  | [] => none
  | i :: rest => s.components[i]?.bind (Component.at? rest)

/-- The components that stand side by side below a place: the children of the component there, and at
the empty place the top-level components. -/
def Sketch.siblingsAt? (s : Sketch) : Place → Option (List Component)
  | [] => some s.components
  | i :: rest => (s.componentAt? (i :: rest)).map Component.childComponents

mutual

/-- A component and those below it with their places. -/
def Component.places : Component → List (Place × Component)
  | ⟨name, props, span, children⟩ => ([], ⟨name, props, span, children⟩) :: Child.places 0 children

/-- The components in the children from an index on with their places. -/
def Child.places (index : Nat) : List Child → List (Place × Component)
  | [] => []
  | child :: rest => child.placesAt index ++ Child.places (index + 1) rest

/-- The components in the child with an index with their places. -/
def Child.placesAt (index : Nat) : Child → List (Place × Component)
  | .component c => c.places.map fun entry => (index :: entry.1, entry.2)
  | .text _ => []
  | .number _ => []
  | .bool _ => []

end

/-- The components of a sketch with their places. -/
def Sketch.places (s : Sketch) : List (Place × Component) :=
  Child.places 0 (s.components.map .component)

/-- The first component is the uppermost one. -/
theorem Component.places_eq (c : Component) : c.places = ([], c) :: Child.places 0 c.children := by
  obtain ⟨name, props, span, children⟩ := c
  rw [Component.places]

/-- The components in children are those in each child. -/
theorem Child.places_eq_flatMap (index : Nat) (children : List Child) :
    Child.places index children =
      (children.zipIdx index).flatMap fun entry => entry.1.placesAt entry.2 := by
  induction children generalizing index with
  | nil => rw [Child.places, List.zipIdx_nil, List.flatMap_nil]
  | cons child rest ih => rw [Child.places, List.zipIdx_cons, List.flatMap_cons, ih]

/-! ## Every component at its place -/

/-- The components in a child with an index are those of the component that the child is. -/
theorem Child.mem_placesAt_iff {child : Child} {index i : Nat} {place : Place} {d : Component} :
    (i :: place, d) ∈ child.placesAt index ↔
      i = index ∧ ∃ c, child = .component c ∧ (place, d) ∈ c.places := by
  cases child with
  | component c =>
    simp only [Child.placesAt, List.mem_map, Prod.mk.injEq, List.cons.injEq, Child.component.injEq]
    constructor
    · rintro ⟨⟨place', d'⟩, hmem, ⟨rfl, rfl⟩, rfl⟩
      exact ⟨rfl, c, rfl, hmem⟩
    · rintro ⟨rfl, _, rfl, hmem⟩
      exact ⟨(place, d), hmem, ⟨rfl, rfl⟩, rfl⟩
  | text _ | number _ | bool _ => simp [Child.placesAt]

/-- No component in a child is at the empty place. -/
theorem Child.nil_not_mem_placesAt {child : Child} {index : Nat} {d : Component} :
    ([], d) ∉ child.placesAt index := by
  cases child <;> simp [Child.placesAt]

/-- The components in children are at the places below the child that they are in. -/
theorem Child.mem_places_iff {children : List Child} {place : Place} {d : Component} :
    (place, d) ∈ Child.places 0 children ↔
      ∃ i rest c, place = i :: rest ∧ children[i]? = some (.component c) ∧ (rest, d) ∈ c.places := by
  simp only [Child.places_eq_flatMap, List.mem_flatMap, List.mem_zipIdx_iff_getElem?]
  constructor
  · rintro ⟨⟨child, index⟩, hchild, hmem⟩
    cases place with
    | nil => exact absurd hmem Child.nil_not_mem_placesAt
    | cons i rest =>
      obtain ⟨rfl, c, rfl, hrest⟩ := Child.mem_placesAt_iff.mp hmem
      exact ⟨i, rest, c, rfl, hchild, hrest⟩
  · rintro ⟨i, rest, c, rfl, hchild, hrest⟩
    exact ⟨(.component c, i), hchild, Child.mem_placesAt_iff.mpr ⟨rfl, c, rfl, hrest⟩⟩

/-- The components below a component are listed with the places where they stand. -/
theorem Component.mem_places_iff {c d : Component} {place : Place} :
    (place, d) ∈ c.places ↔ c.at? place = some d := by
  induction c using Component.induction generalizing place d with
  | step c ih =>
    rw [Component.places_eq, List.mem_cons, Child.mem_places_iff]
    cases place with
    | nil => simp [Component.at?, eq_comm]
    | cons i rest =>
      simp only [Component.at?, Prod.mk.injEq, reduceCtorEq, false_and, false_or,
        List.cons.injEq, Option.bind_eq_some_iff]
      constructor
      · rintro ⟨_, _, e, ⟨rfl, rfl⟩, hchild, hmem⟩
        exact ⟨e, ⟨_, hchild, rfl⟩, (ih e (List.mem_of_getElem? hchild)).mp hmem⟩
      · rintro ⟨e, ⟨child, hchild, hcomponent⟩, hat⟩
        obtain rfl : child = .component e := by
          cases child <;> simp_all [Child.component?]
        exact ⟨i, rest, e, ⟨rfl, rfl⟩, hchild, (ih e (List.mem_of_getElem? hchild)).mpr hat⟩

/-- The components of a sketch are listed with the places where they stand. -/
theorem Sketch.mem_places_iff {s : Sketch} {place : Place} {d : Component} :
    (place, d) ∈ s.places ↔ s.componentAt? place = some d := by
  simp only [Sketch.places, Child.mem_places_iff, Component.mem_places_iff, List.getElem?_map]
  cases place with
  | nil => simp [Sketch.componentAt?]
  | cons i rest =>
    rw [Sketch.componentAt?, Option.bind_eq_some_iff]
    constructor
    · rintro ⟨_, _, c, ⟨rfl, rfl⟩, hc, hat⟩
      obtain ⟨_, hc, ⟨⟩⟩ := Option.map_eq_some_iff.mp hc
      exact ⟨c, hc, hat⟩
    · rintro ⟨c, hc, hat⟩
      exact ⟨i, rest, c, rfl, Option.map_eq_some_iff.mpr ⟨c, hc, rfl⟩, hat⟩

/-! ## The order of the tree -/

/-- Whether one component is listed at an earlier place than another. -/
abbrev Place.Earlier (a b : Place × Component) : Prop := a.1.Before b.1

/-- The places in the child with an index begin with it. -/
theorem Child.exists_of_mem_placesAt {child : Child} {index : Nat} {entry : Place × Component}
    (h : entry ∈ child.placesAt index) : ∃ rest, entry.1 = index :: rest := by
  obtain ⟨place, d⟩ := entry
  cases place with
  | nil => exact absurd h Child.nil_not_mem_placesAt
  | cons i rest =>
    obtain ⟨rfl, -⟩ := Child.mem_placesAt_iff.mp h
    exact ⟨rest, rfl⟩

/-- The places in a child are in order if those of the component that it is are. -/
theorem Child.pairwise_placesAt {child : Child} {index : Nat}
    (h : ∀ c, child = .component c → c.places.Pairwise Place.Earlier) :
    (child.placesAt index).Pairwise Place.Earlier := by
  cases child with
  | component c =>
    rw [Child.placesAt, List.pairwise_map]
    exact (h c rfl).imp .cons
  | text _ | number _ | bool _ => exact .nil

/-- The places in children one after another are in order if those of each component are. -/
theorem Child.pairwise_places {children : List Child}
    (h : ∀ c, .component c ∈ children → c.places.Pairwise Place.Earlier) :
    (Child.places 0 children).Pairwise Place.Earlier := by
  rw [Child.places_eq_flatMap]
  refine List.pairwise_flatMap.mpr ⟨fun entry hentry => ?_, ?_⟩
  · refine Child.pairwise_placesAt fun c hc => h c ?_
    exact hc ▸ List.fst_mem_of_mem_zipIdx hentry
  · have hindices : children.zipIdx.Pairwise fun a b => a.2 < b.2 := by
      refine List.pairwise_map.mp ?_
      rw [List.zipIdx_map_snd]
      exact List.pairwise_lt_range'
    refine hindices.imp fun hlt x hx y hy => ?_
    obtain ⟨px, hpx⟩ := Child.exists_of_mem_placesAt hx
    obtain ⟨py, hpy⟩ := Child.exists_of_mem_placesAt hy
    rw [Place.Earlier, hpx, hpy]
    exact .rel hlt

/-- The components below a component are listed in the order of the tree. -/
theorem Component.pairwise_places (c : Component) : c.places.Pairwise Place.Earlier := by
  induction c using Component.induction with
  | step c ih =>
    rw [Component.places_eq]
    refine List.pairwise_cons.mpr ⟨fun entry hentry => ?_, Child.pairwise_places ih⟩
    obtain ⟨i, rest, _, hplace, -, -⟩ := Child.mem_places_iff.mp hentry
    rw [Place.Earlier, hplace]
    exact .nil

/-- The components of a sketch are listed in the order of the tree. -/
theorem Sketch.pairwise_places (s : Sketch) : s.places.Pairwise Place.Earlier :=
  Child.pairwise_places fun c _ => c.pairwise_places

end PageSketch
