import PageSketch.Proofs.Check.Located

/-!
# Checking is sound, complete and ordered

A violation names its place by a path, and paths determine places. So a sketch is told to break a
rule at a path exactly if what stands at the place with that path breaks it, no rule is told twice at
one path, and the list is in the order of the tree.
-/

namespace PageSketch

/-! ## Places from paths -/

/-- A violation of one component is told at its path. -/
theorem Sketch.Breaks.path_eq {s : Sketch} {place : Place} {v : Violation} (h : s.Breaks place v)
    (hrank : v.rank ≠ 4) : place ≠ [] ∧ v.path = place.path := by
  cases h with
  | emptyName hc | unknownName hc | spanOutOfRange hc | spanWithoutGrid hc =>
    exact ⟨ne_nil_of_componentAt? hc, rfl⟩
  | spanSum => exact absurd rfl hrank

/-- A violation of siblings is told at the path of the list that they are in. -/
theorem Sketch.Breaks.siblingsPath_eq {s : Sketch} {place : Place} {v : Violation}
    (h : s.Breaks place v) (hrank : v.rank = 4) : v.path = place.siblingsPath := by
  cases h with
  | emptyName | unknownName | spanOutOfRange | spanWithoutGrid => exact nomatch hrank
  | spanSum => rfl

/-- Violations of one rule at one path are at one place. -/
theorem Sketch.Breaks.place_eq {s : Sketch} {p q : Place} {v w : Violation} (hv : s.Breaks p v)
    (hw : s.Breaks q w) (hrank : v.rank = w.rank) (hpath : v.path = w.path) : p = q := by
  by_cases hsum : v.rank = 4
  · refine Place.siblingsPath_injective ?_
    rw [← hv.siblingsPath_eq hsum, ← hw.siblingsPath_eq (hrank ▸ hsum), hpath]
  · obtain ⟨hp, hvpath⟩ := hv.path_eq hsum
    obtain ⟨hq, hwpath⟩ := hw.path_eq (hrank ▸ hsum)
    exact Place.path_injective hp hq (by rw [← hvpath, ← hwpath, hpath])

/-- The violations of a sketch are the rules that it breaks somewhere. -/
theorem Sketch.mem_violations_iff {s : Sketch} {v : Violation} :
    v ∈ s.violations ↔ ∃ place, s.Breaks place v := by
  simp only [← map_located, List.mem_map, Prod.exists, exists_eq_right, mem_located_iff]

/-- A violation of one component is told at its path if the rule is broken at its place. -/
theorem Sketch.mem_violations_iff_breaks {s : Sketch} {place : Place} {v : Violation}
    (hplace : place ≠ []) (hrank : v.rank ≠ 4) (hpath : v.path = place.path) :
    v ∈ s.violations ↔ s.Breaks place v := by
  refine mem_violations_iff.trans ⟨fun ⟨q, h⟩ => ?_, fun h => ⟨place, h⟩⟩
  obtain ⟨hq, hqpath⟩ := h.path_eq hrank
  rwa [Place.path_injective hplace hq (hpath.symm.trans hqpath)]

/-- A violation of siblings is told at the path of their list if the rule is broken there. -/
theorem Sketch.mem_violations_iff_breaks_siblings {s : Sketch} {place : Place} {v : Violation}
    (hrank : v.rank = 4) (hpath : v.path = place.siblingsPath) :
    v ∈ s.violations ↔ s.Breaks place v := by
  refine mem_violations_iff.trans ⟨fun ⟨q, h⟩ => ?_, fun h => ⟨place, h⟩⟩
  rwa [Place.siblingsPath_injective (hpath.symm.trans (h.siblingsPath_eq hrank))]

/-! ## Rule by rule -/

section

variable {s : Sketch} {place : Place} {c : Component}

/-- What is told at the path of a component is told about it. -/
theorem Sketch.mem_violations_iff_mem_ownViolations (hc : s.componentAt? place = some c)
    {v : Violation} (hrank : v.rank ≠ 4) (hpath : v.path = place.path) :
    v ∈ s.violations ↔ v ∈ nameViolations place.path c.name ∨
      v ∈ spanViolations place.path s.header.layout c.span := by
  have hsum : v ∉ sumViolations (childrenPath place.path) s.header.layout
      (c.childComponents.filterMap (·.span)) := by
    intro hmem
    obtain ⟨-, -, -, rfl⟩ := mem_sumViolations_iff.mp hmem
    exact hrank rfl
  rw [mem_violations_iff_breaks (ne_nil_of_componentAt? hc) hrank hpath,
    ← mem_ownViolations_iff hc, Component.ownViolations, List.mem_append, List.mem_append,
    or_iff_left hsum]

/-- A name is told to be missing exactly if it is blank. -/
theorem Sketch.emptyName_mem_violations_iff (hc : s.componentAt? place = some c) :
    .emptyName place.path ∈ s.violations ↔ Text.trim c.name = "" := by
  refine (mem_violations_iff_mem_ownViolations hc (by simp [Violation.rank]) rfl).trans ?_
  rw [mem_nameViolations_iff, mem_spanViolations_iff]
  simp

/-- A name is told to be unknown exactly if it is not blank and not in the vocabulary. -/
theorem Sketch.unknownName_mem_violations_iff (hc : s.componentAt? place = some c)
    {name : String} :
    .unknownName place.path name ∈ s.violations ↔
      name = c.name ∧ Text.trim c.name ≠ "" ∧ c.name ∉ vocabulary := by
  refine (mem_violations_iff_mem_ownViolations hc (by simp [Violation.rank]) rfl).trans ?_
  rw [mem_nameViolations_iff, mem_spanViolations_iff]
  simp [and_comm, and_assoc]

/-- A width is told to be out of range exactly if it is. -/
theorem Sketch.spanOutOfRange_mem_violations_iff (hc : s.componentAt? place = some c)
    {span : Int64} :
    .spanOutOfRange place.path span ∈ s.violations ↔
      c.span = some span ∧ ¬(1 ≤ span.toInt ∧ span.toInt ≤ 24) := by
  refine (mem_violations_iff_mem_ownViolations hc (by simp [Violation.rank]) rfl).trans ?_
  rw [mem_nameViolations_iff, mem_spanViolations_iff]
  simp

/-- A width is told to be set without a grid exactly if it is. -/
theorem Sketch.spanWithoutGrid_mem_violations_iff (hc : s.componentAt? place = some c) :
    .spanWithoutGrid place.path ∈ s.violations ↔ c.span ≠ none ∧ s.header.layout ≠ .grid := by
  refine (mem_violations_iff_mem_ownViolations hc (by simp [Violation.rank]) rfl).trans ?_
  rw [mem_nameViolations_iff, mem_spanViolations_iff]
  simp [Option.ne_none_iff_exists']

/-- Widths of siblings are told not to fill a row exactly if there are some on a grid page whose
sum is not that of a row. -/
theorem Sketch.spanSum_mem_violations_iff {siblings : List Component}
    (hsiblings : s.siblingsAt? place = some siblings) {total : Int64} :
    .spanSum place.siblingsPath total ∈ s.violations ↔
      s.header.layout = .grid ∧ (∃ c ∈ siblings, c.span ≠ none) ∧
        spanTotal (siblings.filterMap (·.span)) ≠ 24 ∧
        total = clampInt64 (spanTotal (siblings.filterMap (·.span))) := by
  rw [mem_violations_iff_breaks_siblings rfl rfl]
  constructor
  · intro h
    cases h with
    | spanSum hsiblings' hlayout hspans hsum =>
      obtain rfl := Option.some.inj (hsiblings.symm.trans hsiblings')
      exact ⟨hlayout, hspans, hsum, rfl⟩
  · rintro ⟨hlayout, hspans, hsum, rfl⟩
    exact .spanSum hsiblings hlayout hspans hsum

end

/-! ## Once and in order -/

/-- No place is before itself. -/
theorem Place.not_before_self (place : Place) : ¬place.Before place := List.lt_irrefl place

/-- Of two violations the one that is told first is told at an earlier place, or at the same place
for an earlier rule. -/
theorem Sketch.pairwise_violations (s : Sketch) :
    s.violations.Pairwise fun v w => ∀ p q, s.Breaks p v → s.Breaks q w →
      Violation.Precedes (p, v) (q, w) := by
  rw [← map_located, List.pairwise_map]
  refine s.pairwise_located.imp_of_mem ?_
  intro a b ha hb hprecedes p q hp hq
  rw [hp.place_eq (mem_located_iff.mp ha) rfl rfl, hq.place_eq (mem_located_iff.mp hb) rfl rfl]
  exact hprecedes

/-- No rule is told twice at one path. -/
theorem Sketch.nodup_violations (s : Sketch) :
    (s.violations.map fun v => (v.rank, v.path)).Nodup := by
  rw [← map_located, List.map_map]
  refine List.pairwise_map.mpr (s.pairwise_located.imp_of_mem ?_)
  intro a b ha hb hprecedes heq
  obtain ⟨hrank, hpath⟩ := Prod.mk.inj heq
  have hplace := (mem_located_iff.mp ha).place_eq (mem_located_iff.mp hb) hrank hpath
  rcases hprecedes with hbefore | ⟨-, hlt⟩
  · exact Place.not_before_self b.1 (hplace ▸ hbefore)
  · exact absurd hrank (Nat.ne_of_lt hlt)

/-- Checking tells every broken rule, nothing else, each once at its place and in the order of the
tree. -/
theorem Sketch.violations_exact (s : Sketch) :
    (∀ place c, s.componentAt? place = some c →
      (.emptyName place.path ∈ s.violations ↔ Text.trim c.name = "") ∧
      (∀ name, .unknownName place.path name ∈ s.violations ↔
        name = c.name ∧ Text.trim c.name ≠ "" ∧ c.name ∉ vocabulary) ∧
      (∀ span, .spanOutOfRange place.path span ∈ s.violations ↔
        c.span = some span ∧ ¬(1 ≤ span.toInt ∧ span.toInt ≤ 24)) ∧
      (.spanWithoutGrid place.path ∈ s.violations ↔
        c.span ≠ none ∧ s.header.layout ≠ .grid)) ∧
    (∀ place siblings, s.siblingsAt? place = some siblings →
      ∀ total, .spanSum place.siblingsPath total ∈ s.violations ↔
        s.header.layout = .grid ∧ (∃ c ∈ siblings, c.span ≠ none) ∧
          spanTotal (siblings.filterMap (·.span)) ≠ 24 ∧
          total = clampInt64 (spanTotal (siblings.filterMap (·.span)))) ∧
    (∀ v ∈ s.violations, ∃ place, s.Breaks place v) ∧
    (s.violations.map fun v => (v.rank, v.path)).Nodup ∧
    s.violations.Pairwise fun v w => ∀ p q, s.Breaks p v → s.Breaks q w →
      p.Before q ∨ p = q ∧ v.rank < w.rank := by
  refine ⟨fun place c hc => ⟨?_, fun name => ?_, fun span => ?_, ?_⟩,
    fun place siblings hsiblings total => ?_, fun v hv => ?_, s.nodup_violations,
    s.pairwise_violations⟩
  · exact emptyName_mem_violations_iff hc
  · exact unknownName_mem_violations_iff hc
  · exact spanOutOfRange_mem_violations_iff hc
  · exact spanWithoutGrid_mem_violations_iff hc
  · exact spanSum_mem_violations_iff hsiblings
  · exact mem_violations_iff.mp hv

/-- A grid page whose only top-level component is unknown and half a row wide, and in it, behind a
text, a component without a name and a column wider than a row. -/
def Sketch.faulty : Sketch where
  header := ⟨"", .grid⟩
  components := [⟨"Row", [], some 12, [.text "ok", .component (.named " "),
    .component ((Component.named "d-col").withSpan 30)]⟩]

/-- The rules that this page breaks are told at their paths. -/
theorem Sketch.violations_exact_faulty :
    .spanSum "components" 12 ∈ faulty.violations ∧
      .unknownName "components[0]" "Row" ∈ faulty.violations ∧
      .spanSum "components[0].children" 30 ∈ faulty.violations ∧
      .emptyName "components[0].children[1]" ∈ faulty.violations ∧
      .spanOutOfRange "components[0].children[2]" 30 ∈ faulty.violations ∧
      .spanWithoutGrid "components[0].children[2]" ∉ faulty.violations := by
  obtain ⟨hcomponents, hsiblings, -⟩ := faulty.violations_exact
  obtain ⟨-, hrow, -, -⟩ := hcomponents [0] _ rfl
  obtain ⟨hblank, -, -, -⟩ := hcomponents [0, 1] _ rfl
  obtain ⟨-, -, hrange, hgrid⟩ := hcomponents [0, 2] _ rfl
  refine ⟨?_, ?_, ?_, ?_, ?_, ?_⟩
  · exact (hsiblings [] _ rfl 12).mpr (by decide)
  · exact (hrow "Row").mpr (by decide)
  · exact (hsiblings [0] _ rfl 30).mpr (by decide)
  · exact hblank.mpr (by decide)
  · exact (hrange 30).mpr (by decide)
  · exact fun hmem => (hgrid.mp hmem).2 rfl

end PageSketch
