import Mathlib.Data.List.Basic
import PageSketch.Proofs.Check.Paths

/-!
# Violations at their places

Checking walks down the components of a sketch. What is told about one component depends on its own
fields and the widths of its children, so the walk tells the violation of the top-level components as
siblings and then, component by component in the order of the tree, what is told at its place.
`Sketch.located` is this list with the places, and `Sketch.Breaks` says from the data at a place
what is told there.
-/

namespace PageSketch

/-! ## The walk -/

/-- What is told about a component by itself and about its children as siblings. -/
def Component.ownViolations (layout : Layout) (path : String) (c : Component) : List Violation :=
  nameViolations path c.name ++ spanViolations path layout c.span ++
    sumViolations (childrenPath path) layout (c.childComponents.filterMap (·.span))

/-- The widths among children are those of the components among them. -/
theorem Child.spans_eq (children : List Child) :
    Child.spans children = (children.filterMap Child.component?).filterMap (·.span) := by
  induction children with
  | nil => rw [Child.spans, List.filterMap_nil, List.filterMap_nil]
  | cons child rest ih =>
    match child with
    | .component ⟨_, _, none, _⟩ | .component ⟨_, _, some _, _⟩ =>
      simp [Child.spans, Child.component?, ih]
    | .text _ | .number _ | .bool _ =>
      simp [Child.spans, List.filterMap_cons, Child.component?, ih]

/-- The walk tells what it has to tell about a component before it goes on to the children. -/
theorem Component.violations_eq (layout : Layout) (path : String) (c : Component) :
    c.violations layout path =
      c.ownViolations layout path ++ Child.violations layout path 0 c.children := by
  obtain ⟨name, props, span, children⟩ := c
  rw [Component.violations, Child.spans_eq]
  rfl

/-- The walk goes through children one after another. -/
theorem Child.violations_eq_flatMap (layout : Layout) (path : String) (index : Nat)
    (children : List Child) :
    Child.violations layout path index children =
      (children.zipIdx index).flatMap fun entry =>
        Child.violation layout (childPath path entry.2) entry.1 := by
  induction children generalizing index with
  | nil => rw [Child.violations, List.zipIdx_nil, List.flatMap_nil]
  | cons child rest ih => rw [Child.violations, List.zipIdx_cons, List.flatMap_cons, ih]

/-- The walk goes through top-level components one after another. -/
theorem Component.listViolations_eq_flatMap (layout : Layout) (index : Nat)
    (components : List Component) :
    Component.listViolations layout index components =
      (components.zipIdx index).flatMap fun entry =>
        entry.1.violations layout (rootPath entry.2) := by
  induction components generalizing index with
  | nil => rw [Component.listViolations, List.zipIdx_nil, List.flatMap_nil]
  | cons c rest ih => rw [Component.listViolations, List.zipIdx_cons, List.flatMap_cons, ih]

/-- The walk through a component tells what is told about those below it in their order. -/
theorem Component.violations_eq_flatMap (layout : Layout) (path : String) (c : Component) :
    c.violations layout path =
      c.places.flatMap fun entry => entry.2.ownViolations layout (pathBelow path entry.1) := by
  induction c using Component.induction generalizing path with
  | step c ih =>
    rw [violations_eq, places_eq, List.flatMap_cons, pathBelow, Child.violations_eq_flatMap,
      Child.places_eq_flatMap, List.flatMap_assoc]
    congr 1
    refine List.flatMap_congr ?_
    rintro ⟨child, index⟩ hentry
    cases child with
    | component d =>
      rw [Child.violation, ih d (List.fst_mem_of_mem_zipIdx hentry), Child.placesAt,
        List.flatMap_map]
      rfl
    | text _ | number _ | bool _ => rw [Child.violation, Child.placesAt, List.flatMap_nil]

/-- The walk through a sketch tells the violation of the top-level components as siblings and then
what is told about every component in their order. -/
theorem Sketch.violations_eq_flatMap (s : Sketch) :
    s.violations =
      sumViolations (Place.siblingsPath []) s.header.layout (s.components.filterMap (·.span)) ++
        s.places.flatMap fun entry => entry.2.ownViolations s.header.layout entry.1.path := by
  rw [Sketch.violations, Component.listViolations_eq_flatMap, Sketch.places,
    Child.places_eq_flatMap, List.zipIdx_map, List.flatMap_map, List.flatMap_assoc]
  congr 1
  refine List.flatMap_congr ?_
  rintro ⟨c, index⟩ -
  rw [Component.violations_eq_flatMap, Prod.map, Child.placesAt, List.flatMap_map]
  rfl

/-! ## Rules -/

/-- The number of a rule among those that are checked at one place. -/
def Violation.rank : Violation → Nat
  | emptyName .. => 0
  | unknownName .. => 1
  | spanOutOfRange .. => 2
  | spanWithoutGrid .. => 3
  | spanSum .. => 4

/-- What is told about a name. -/
theorem mem_nameViolations_iff {path name : String} {v : Violation} :
    v ∈ nameViolations path name ↔
      Text.trim name = "" ∧ v = .emptyName path ∨
      Text.trim name ≠ "" ∧ name ∉ vocabulary ∧ v = .unknownName path name := by
  by_cases hblank : Text.trim name = ""
  · simp [nameViolations, Text.isBlankText, hblank]
  · by_cases hknown : name ∈ vocabulary <;>
      simp [nameViolations, Text.isBlankText, isKnownName, hblank, hknown]

/-- What is told about a width by itself. -/
theorem mem_spanViolations_iff {path : String} {layout : Layout} {width : Option Int64}
    {v : Violation} :
    v ∈ spanViolations path layout width ↔
      ∃ span, width = some span ∧
        (¬(1 ≤ span.toInt ∧ span.toInt ≤ 24) ∧ v = .spanOutOfRange path span ∨
          layout ≠ .grid ∧ v = .spanWithoutGrid path) := by
  cases width with
  | none => simp [spanViolations]
  | some span =>
    simp only [spanViolations, List.mem_append, List.mem_ite_nil_left, List.mem_singleton,
      Option.some.injEq, exists_eq_left', ne_eq]
    rw [leastSpan, gridColumns]

/-- What is told about the widths of siblings. -/
theorem mem_sumViolations_iff {path : String} {layout : Layout} {siblings : List Component}
    {v : Violation} :
    v ∈ sumViolations path layout (siblings.filterMap (·.span)) ↔
      layout = .grid ∧ (∃ c ∈ siblings, c.span ≠ none) ∧
        spanTotal (siblings.filterMap (·.span)) ≠ 24 ∧
        v = .spanSum path (clampInt64 (spanTotal (siblings.filterMap (·.span)))) := by
  have hspans : siblings.filterMap (·.span) ≠ [] ↔ ∃ c ∈ siblings, c.span ≠ none := by
    simp [List.filterMap_eq_nil_iff]
  simp only [sumViolations, List.mem_ite_nil_right, List.mem_singleton, hspans, and_assoc]
  rw [gridColumns]

/-- What is told about a name has one of the first two ranks. -/
theorem ranks_nameViolations (path name : String) :
    ((nameViolations path name).map Violation.rank).Sublist [0, 1] := by
  rw [nameViolations]
  split
  · exact .cons_cons _ (List.nil_sublist _)
  · split
    · exact List.nil_sublist _
    · exact .cons _ (.refl _)

/-- What is told about a width has the next two, each at most once. -/
theorem ranks_spanViolations (path : String) (layout : Layout) (width : Option Int64) :
    ((spanViolations path layout width).map Violation.rank).Sublist [2, 3] := by
  cases width with
  | none => exact List.nil_sublist _
  | some span =>
    have hrange : ((if leastSpan ≤ span.toInt ∧ span.toInt ≤ gridColumns then []
        else [Violation.spanOutOfRange path span]).map Violation.rank).Sublist [2] := by
      split
      · exact List.nil_sublist _
      · exact .refl _
    have hlayout : ((if layout = .grid then []
        else [Violation.spanWithoutGrid path]).map Violation.rank).Sublist [3] := by
      split
      · exact List.nil_sublist _
      · exact .refl _
    rw [spanViolations, List.map_append]
    exact hrange.append hlayout

/-- What is told about the widths of siblings has the last one. -/
theorem ranks_sumViolations (path : String) (layout : Layout) (spans : List Int64) :
    ((sumViolations path layout spans).map Violation.rank).Sublist [4] := by
  rw [sumViolations]
  split
  · exact .refl _
  · exact List.nil_sublist _

/-- What is told at one place is told rule by rule. -/
theorem Component.pairwise_rank_ownViolations (layout : Layout) (path : String) (c : Component) :
    (c.ownViolations layout path).Pairwise fun v w => v.rank < w.rank := by
  have hranks : ((c.ownViolations layout path).map Violation.rank).Sublist ([0, 1] ++ [2, 3] ++ [4]) := by
    rw [ownViolations, List.map_append, List.map_append]
    exact ((ranks_nameViolations ..).append (ranks_spanViolations ..)).append
      (ranks_sumViolations ..)
  refine List.pairwise_map.mp (List.Pairwise.sublist hranks ?_)
  decide

/-! ## Places -/

/-- The rules that a sketch breaks at a place. -/
inductive Sketch.Breaks (s : Sketch) (place : Place) : Violation → Prop
  | emptyName {c : Component} (hc : s.componentAt? place = some c) (hname : Text.trim c.name = "") :
    Breaks s place (.emptyName place.path)
  | unknownName {c : Component} (hc : s.componentAt? place = some c)
      (hname : Text.trim c.name ≠ "") (hunknown : c.name ∉ vocabulary) :
    Breaks s place (.unknownName place.path c.name)
  | spanOutOfRange {c : Component} {span : Int64} (hc : s.componentAt? place = some c)
      (hspan : c.span = some span) (hrange : ¬(1 ≤ span.toInt ∧ span.toInt ≤ 24)) :
    Breaks s place (.spanOutOfRange place.path span)
  | spanWithoutGrid {c : Component} {span : Int64} (hc : s.componentAt? place = some c)
      (hspan : c.span = some span) (hlayout : s.header.layout ≠ .grid) :
    Breaks s place (.spanWithoutGrid place.path)
  | spanSum {siblings : List Component} (hsiblings : s.siblingsAt? place = some siblings)
      (hlayout : s.header.layout = .grid) (hspans : ∃ c ∈ siblings, c.span ≠ none)
      (hsum : spanTotal (siblings.filterMap (·.span)) ≠ 24) :
    Breaks s place
      (.spanSum place.siblingsPath (clampInt64 (spanTotal (siblings.filterMap (·.span)))))

/-- The violations of a sketch with the places where they are told. -/
def Sketch.located (s : Sketch) : List (Place × Violation) :=
  (sumViolations (Place.siblingsPath []) s.header.layout (s.components.filterMap (·.span))).map
      (([] : Place), ·) ++
    s.places.flatMap fun entry =>
      (entry.2.ownViolations s.header.layout entry.1.path).map (entry.1, ·)

/-- They are the violations of the sketch. -/
theorem Sketch.map_located (s : Sketch) : s.located.map Prod.snd = s.violations := by
  rw [located, violations_eq_flatMap, List.map_append, List.map_flatMap]
  simp [Function.comp_def]

/-- There is a component at no empty place. -/
theorem Sketch.ne_nil_of_componentAt? {s : Sketch} {place : Place} {c : Component}
    (h : s.componentAt? place = some c) : place ≠ [] := by
  rintro rfl
  exact nomatch h

/-- Where a component stands, its children are the siblings. -/
theorem Sketch.siblingsAt?_of_componentAt? {s : Sketch} {place : Place} {c : Component}
    (h : s.componentAt? place = some c) : s.siblingsAt? place = some c.childComponents := by
  obtain ⟨i, rest, rfl⟩ := List.exists_cons_of_ne_nil (ne_nil_of_componentAt? h)
  rw [siblingsAt?, h, Option.map_some]

/-- The path of the siblings below a component is that of its children. -/
theorem Place.siblingsPath_of_ne_nil {place : Place} (h : place ≠ []) :
    place.siblingsPath = childrenPath place.path := by
  obtain ⟨i, rest, rfl⟩ := List.exists_cons_of_ne_nil h
  rw [siblingsPath]

/-- What is told at the place of a component are the rules that the sketch breaks there. -/
theorem Sketch.mem_ownViolations_iff {s : Sketch} {place : Place} {c : Component}
    (h : s.componentAt? place = some c) {v : Violation} :
    v ∈ c.ownViolations s.header.layout place.path ↔ s.Breaks place v := by
  have hsiblings := siblingsAt?_of_componentAt? h
  rw [Component.ownViolations, List.mem_append, List.mem_append, mem_nameViolations_iff,
    mem_spanViolations_iff, mem_sumViolations_iff,
    ← Place.siblingsPath_of_ne_nil (ne_nil_of_componentAt? h)]
  constructor
  · rintro (((⟨hname, rfl⟩ | ⟨hname, hunknown, rfl⟩) |
      ⟨span, hspan, ⟨hrange, rfl⟩ | ⟨hlayout, rfl⟩⟩) | ⟨hlayout, hspans, hsum, rfl⟩)
    · exact .emptyName h hname
    · exact .unknownName h hname hunknown
    · exact .spanOutOfRange h hspan hrange
    · exact .spanWithoutGrid h hspan hlayout
    · exact .spanSum hsiblings hlayout hspans hsum
  · intro hbreaks
    cases hbreaks with
    | emptyName hc hname =>
      obtain rfl := Option.some.inj (h.symm.trans hc)
      exact .inl (.inl (.inl ⟨hname, rfl⟩))
    | unknownName hc hname hunknown =>
      obtain rfl := Option.some.inj (h.symm.trans hc)
      exact .inl (.inl (.inr ⟨hname, hunknown, rfl⟩))
    | spanOutOfRange hc hspan hrange =>
      obtain rfl := Option.some.inj (h.symm.trans hc)
      exact .inl (.inr ⟨_, hspan, .inl ⟨hrange, rfl⟩⟩)
    | spanWithoutGrid hc hspan hlayout =>
      obtain rfl := Option.some.inj (h.symm.trans hc)
      exact .inl (.inr ⟨_, hspan, .inr ⟨hlayout, rfl⟩⟩)
    | spanSum hsiblings' hlayout hspans hsum =>
      obtain rfl := Option.some.inj (hsiblings.symm.trans hsiblings')
      exact .inr ⟨hlayout, hspans, hsum, rfl⟩

/-- What is told at the empty place are the rules that the sketch breaks there. -/
theorem Sketch.mem_topViolations_iff {s : Sketch} {v : Violation} :
    v ∈ sumViolations (Place.siblingsPath []) s.header.layout (s.components.filterMap (·.span)) ↔
      s.Breaks [] v := by
  have htop : s.siblingsAt? [] = some s.components := rfl
  rw [mem_sumViolations_iff]
  constructor
  · rintro ⟨hlayout, hspans, hsum, rfl⟩
    exact .spanSum htop hlayout hspans hsum
  · intro hbreaks
    cases hbreaks with
    | emptyName hc | unknownName hc | spanOutOfRange hc | spanWithoutGrid hc => exact nomatch hc
    | spanSum hsiblings hlayout hspans hsum =>
      obtain rfl := Option.some.inj (htop.symm.trans hsiblings)
      exact ⟨hlayout, hspans, hsum, rfl⟩

/-- The rules that a sketch breaks at a place other than the empty one are told there about a
component. -/
theorem Sketch.Breaks.exists_component {s : Sketch} {i : Nat} {rest : Place} {v : Violation}
    (h : s.Breaks (i :: rest) v) : ∃ c, s.componentAt? (i :: rest) = some c := by
  cases h with
  | emptyName hc | unknownName hc | spanOutOfRange hc | spanWithoutGrid hc => exact ⟨_, hc⟩
  | spanSum hsiblings =>
    obtain ⟨c, hc, -⟩ := Option.map_eq_some_iff.mp hsiblings
    exact ⟨c, hc⟩

/-- Each rule that a sketch breaks is told at its place, and nothing else is told. -/
theorem Sketch.mem_located_iff {s : Sketch} {place : Place} {v : Violation} :
    (place, v) ∈ s.located ↔ s.Breaks place v := by
  simp only [located, List.mem_append, List.mem_map, List.mem_flatMap, Prod.mk.injEq,
    mem_topViolations_iff]
  constructor
  · rintro (⟨_, hbreaks, rfl, rfl⟩ | ⟨⟨_, c⟩, hmem, _, hown, rfl, rfl⟩)
    · exact hbreaks
    · exact (mem_ownViolations_iff (mem_places_iff.mp hmem)).mp hown
  · intro hbreaks
    cases place with
    | nil => exact .inl ⟨v, hbreaks, rfl, rfl⟩
    | cons i rest =>
      obtain ⟨c, hc⟩ := hbreaks.exists_component
      exact .inr ⟨(i :: rest, c), mem_places_iff.mpr hc, v, (mem_ownViolations_iff hc).mpr hbreaks,
        rfl, rfl⟩

/-! ## The order -/

/-- Whether one broken rule comes before another: at an earlier place, or at the same place with a
lower rank. -/
def Violation.Precedes (a b : Place × Violation) : Prop :=
  a.1.Before b.1 ∨ a.1 = b.1 ∧ a.2.rank < b.2.rank

/-- What is told at one place is in order if the ranks are. -/
theorem Violation.pairwise_precedes_of_rank {place : Place} {vs : List Violation}
    (h : vs.Pairwise fun v w => v.rank < w.rank) : (vs.map (place, ·)).Pairwise Precedes :=
  List.pairwise_map.mpr (h.imp fun hrank => .inr ⟨rfl, hrank⟩)

/-- The violations of a sketch are in the order of the tree. -/
theorem Sketch.pairwise_located (s : Sketch) : s.located.Pairwise Violation.Precedes := by
  refine List.pairwise_append.mpr ⟨?_, List.pairwise_flatMap.mpr ⟨fun entry _ => ?_, ?_⟩, ?_⟩
  · refine Violation.pairwise_precedes_of_rank (List.pairwise_map.mp ?_)
    exact (List.pairwise_singleton ..).sublist (ranks_sumViolations ..)
  · exact Violation.pairwise_precedes_of_rank (entry.2.pairwise_rank_ownViolations ..)
  · refine s.pairwise_places.imp fun hearlier a ha b hb => .inl ?_
    obtain ⟨_, -, rfl⟩ := List.mem_map.mp ha
    obtain ⟨_, -, rfl⟩ := List.mem_map.mp hb
    exact hearlier
  · intro a ha b hb
    obtain ⟨_, -, rfl⟩ := List.mem_map.mp ha
    obtain ⟨⟨place, c⟩, hmem, hb⟩ := List.mem_flatMap.mp hb
    obtain ⟨_, -, rfl⟩ := List.mem_map.mp hb
    obtain ⟨i, rest, rfl⟩ :=
      List.exists_cons_of_ne_nil (ne_nil_of_componentAt? (mem_places_iff.mp hmem))
    exact .inl .nil

end PageSketch
