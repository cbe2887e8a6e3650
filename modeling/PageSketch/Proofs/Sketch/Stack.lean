import PageSketch.Check
import PageSketch.Markup.Source
import PageSketch.Proofs.Check.Located
import PageSketch.Proofs.Markup.Expression
import PageSketch.Proofs.Markup.Imports
import PageSketch.Proofs.Sketch.Levels

/-!
# Passes on a bounded stack

Rendering, collecting names, checking and writing literals are recursive and have no bound of their
own. Here each is carried out on a stack of a given number of frames: every call of a component, a
child, a value or the attributes of a tag takes a frame from those below it, lists are gone through
without one, and there is no result when no frame is left. The nesting of the JSON form of a component
says how many frames are enough, and then the result is that of the pass without a bound.
-/

namespace PageSketch

open Json

/-! ## Lists without failures -/

/-- When nothing fails for any of a list, the results are those of each. -/
theorem mapM_eq_some_map {α β : Type} {f : α → Option β} {g : α → β} {as : List α}
    (h : ∀ a ∈ as, f a = some (g a)) : as.mapM f = some (as.map g) := by
  induction as with
  | nil => rfl
  | cons a as ih =>
    rw [List.forall_mem_cons] at h
    rw [List.mapM_cons, h.1, ih h.2]
    rfl

/-- When no step fails, a fold ends with what the steps lead to. -/
theorem foldlM_eq_some_foldl {α β : Type} {f : β → α → Option β} {g : β → α → β} {as : List α}
    (h : ∀ a ∈ as, ∀ b, f b a = some (g b a)) (b : β) :
    as.foldlM f b = some (as.foldl g b) := by
  induction as generalizing b with
  | nil => rfl
  | cons a as ih =>
    rw [List.forall_mem_cons] at h
    rw [List.foldlM_cons, h.1, List.foldl_cons]
    exact ih h.2 _

namespace Markup

/-! ## Literals -/

/-- A value as an expression literal, on a stack. -/
def literalOnStack? : Nat → Value → Option String
  | 0, _ => none
  | frames + 1, .array items =>
    (items.mapM (literalOnStack? frames)).map fun texts => "[" ++ ", ".intercalate texts ++ "]"
  | frames + 1, .object members =>
    if members.isEmpty then some "\x7b\x7d"
    else
      (members.mapM fun member =>
        (literalOnStack? frames member.2).map (literalKey member.1 ++ ": " ++ ·)).map fun texts =>
          "\x7b " ++ ", ".intercalate texts ++ " \x7d"
  | _ + 1, scalar => some (literal scalar)

/-- A literal takes one frame more than its value is nested. -/
theorem literalOnStack?_eq_some {frames : Nat} {v : Value} (h : v.nesting < frames) :
    literalOnStack? frames v = some (literal v) := by
  induction frames generalizing v with
  | zero => exact absurd h (Nat.not_lt_zero _)
  | succ frames ih =>
    cases v with
    | array items =>
      have hitems : ∀ item ∈ items, literalOnStack? frames item = some (literal item) := by
        rw [Value.nesting, Nat.add_lt_add_iff_right] at h
        exact fun item hitem =>
          ih (Nat.lt_of_le_of_lt (Value.itemNesting_le_iff.mp (Nat.le_refl _) item hitem) h)
      rw [literalOnStack?, mapM_eq_some_map hitems, literal, literalItems_eq_intercalate]
      rfl
    | object members =>
      have hmembers : ∀ member ∈ members,
          (literalOnStack? frames member.2).map (literalKey member.1 ++ ": " ++ ·) =
            some (literalKey member.1 ++ ": " ++ literal member.2) := by
        rw [Value.nesting, Nat.add_lt_add_iff_right] at h
        intro member hmember
        rw [ih (Nat.lt_of_le_of_lt
          (Value.memberNesting_le_iff.mp (Nat.le_refl _) member hmember) h)]
        rfl
      cases members with
      | nil => rfl
      | cons member rest =>
        rw [literalOnStack?, mapM_eq_some_map hmembers, literal, literalMembers_eq_intercalate]
        rfl
    | null | bool | number | string => rfl

/-! ## Rendering -/

/-- The text of an attribute, on a stack: only a value that is no text needs a literal. -/
def attributeOnStack? (frames : Nat) (key : String) : Value → Option String
  | .string text => some (attributeText key (.string text))
  | value =>
    (literalOnStack? frames value).map fun text =>
      attributeName key value ++ "=\"" ++ escapeAttribute text ++ "\""

/-- The attributes of a component, on a stack. -/
def attributesOnStack? : Nat → Props → Option String
  | 0, _ => none
  | frames + 1, props =>
    (props.mapM fun prop => attributeOnStack? frames prop.1 prop.2).map (" ".intercalate ·)

mutual

/-- A component at a depth, on a stack. -/
def renderComponentOnStack? : Nat → Nat → Component → Option String
  | 0, _, _ => none
  | frames + 1, depth, c => do
    let attributes ← attributesOnStack? frames c.props
    let opening := if attributes.isEmpty then "<" ++ c.name ++ ">"
      else "<" ++ c.name ++ " " ++ attributes ++ ">"
    if c.children.isEmpty then return indent depth ++ opening ++ closeTag c.name
    let lines ← c.children.mapM (renderChildOnStack? frames (depth + 1))
    return indent depth ++ opening ++ "\n" ++ "\n".intercalate lines ++ "\n" ++ indent depth ++
      closeTag c.name

/-- A child at a depth, on a stack. -/
def renderChildOnStack? : Nat → Nat → Child → Option String
  | 0, _, _ => none
  | frames + 1, depth, .component c => renderComponentOnStack? frames depth c
  | _ + 1, depth, leaf => some (renderChild depth leaf)

end

/-- Attributes take two frames more than their values are nested. -/
theorem attributesOnStack?_eq_some {frames : Nat} {props : Props}
    (h : ∀ prop ∈ props, prop.2.nesting < frames) :
    attributesOnStack? (frames + 1) props = some (attributesText props) := by
  rw [attributesOnStack?, attributesText,
    mapM_eq_some_map (g := fun prop => attributeText prop.1 prop.2)]
  · rfl
  · rintro ⟨key, value⟩ hprop
    cases value with
    | string text => rfl
    | _ =>
      simp only [attributeOnStack?, literalOnStack?_eq_some (h _ hprop)]
      rfl

/-- A rendered component is its tags with the children on lines between them. -/
theorem renderComponent_eq (depth : Nat) (c : Component) :
    renderComponent depth c =
      if c.children.isEmpty then indent depth ++ openTag c.name c.props ++ closeTag c.name
      else indent depth ++ openTag c.name c.props ++ "\n" ++
        "\n".intercalate (c.children.map (renderChild (depth + 1))) ++ "\n" ++ indent depth ++
          closeTag c.name := by
  have hrest : ∀ children : List Child, renderRest (depth + 1) children =
      String.join ((children.map (renderChild (depth + 1))).map ("\n" ++ ·)) := by
    intro children
    induction children with
    | nil => rw [renderRest, List.map_nil, List.map_nil, String.join_nil]
    | cons child rest ih =>
      rw [renderRest, List.map_cons, List.map_cons, String.join_cons, ih]
  obtain ⟨name, props, span, children⟩ := c
  cases children with
  | nil =>
    rw [renderComponent]
    rfl
  | cons child rest =>
    simp only [renderComponent, List.isEmpty_cons, Bool.false_eq_true, if_false, List.map_cons,
      intercalate_cons, hrest, String.append_assoc]

/-- A component takes one frame more than its JSON form is nested, and so does a child below two. -/
theorem renderOnStack?_eq_some (frames : Nat) :
    (∀ depth (c : Component), c.toValue.nesting < frames →
      renderComponentOnStack? frames depth c = some (renderComponent depth c)) ∧
    (∀ depth (child : Child), child.toValue.nesting + 1 < frames →
      renderChildOnStack? frames depth child = some (renderChild depth child)) := by
  induction frames with
  | zero => exact ⟨fun _ _ h => absurd h (Nat.not_lt_zero _), fun _ _ h => absurd h (Nat.not_lt_zero _)⟩
  | succ frames ih =>
    obtain ⟨hcomponent, hchild⟩ := ih
    refine ⟨fun depth c h => ?_, fun depth child h => ?_⟩
    · have hframes : frames ≠ 0 := by
        rw [Component.nesting_toValue] at h
        omega
      obtain ⟨k, rfl⟩ := Nat.exists_eq_succ_of_ne_zero hframes
      have hattributes : attributesOnStack? (k + 1) c.props = some (attributesText c.props) := by
        refine attributesOnStack?_eq_some fun prop hprop => ?_
        have hnesting := Component.nesting_prop hprop
        omega
      have hchildren : ∀ child ∈ c.children, renderChildOnStack? (k + 1) (depth + 1) child =
          some (renderChild (depth + 1) child) := by
        intro child hmem
        have hnesting := Component.nesting_child hmem
        exact hchild _ _ (by omega)
      rw [renderComponentOnStack?, renderComponent_eq]
      simp only [hattributes, mapM_eq_some_map hchildren, openTag,
        Option.bind_eq_bind, Option.bind_some]
      split <;> rfl
    · cases child with
      | component c =>
        rw [Child.toValue] at h
        rw [renderChildOnStack?, renderChild, hcomponent depth c (by omega)]
      | text | number | bool => rfl

/-! ## Collecting -/

mutual

/-- Adds the names in a component, on a stack. -/
def collectComponentOnStack? : Nat → List String → Component → Option (List String)
  | 0, _, _ => none
  | frames + 1, seen, c =>
    c.children.foldlM (collectChildOnStack? frames)
      (if c.name.isEmpty || seen.contains c.name then seen else seen ++ [c.name])

/-- Adds the names in a child, on a stack. -/
def collectChildOnStack? : Nat → List String → Child → Option (List String)
  | 0, _, _ => none
  | frames + 1, seen, .component c => collectComponentOnStack? frames seen c
  | _ + 1, seen, _ => some seen

end

/-- The names in children are added child by child. -/
theorem collectChildren_eq_foldl (seen : List String) (children : List Child) :
    collectChildren seen children = children.foldl collectChild seen := by
  induction children generalizing seen with
  | nil => rw [collectChildren, List.foldl_nil]
  | cons child rest ih => rw [collectChildren, ih, List.foldl_cons]

/-- Collecting takes one frame more than the JSON form is nested. -/
theorem collectOnStack?_eq_some (frames : Nat) :
    (∀ seen (c : Component), c.toValue.nesting < frames →
      collectComponentOnStack? frames seen c = some (collectComponent seen c)) ∧
    (∀ seen (child : Child), child.toValue.nesting + 1 < frames →
      collectChildOnStack? frames seen child = some (collectChild seen child)) := by
  induction frames with
  | zero => exact ⟨fun _ _ h => absurd h (Nat.not_lt_zero _), fun _ _ h => absurd h (Nat.not_lt_zero _)⟩
  | succ frames ih =>
    obtain ⟨hcomponent, hchild⟩ := ih
    refine ⟨fun seen c h => ?_, fun seen child h => ?_⟩
    · have hchildren : ∀ child ∈ c.children, ∀ seen,
          collectChildOnStack? frames seen child = some (collectChild seen child) := by
        intro child hmem seen
        have hnesting := Component.nesting_child hmem
        exact hchild _ _ (by omega)
      obtain ⟨name, props, span, children⟩ := c
      rw [collectComponentOnStack?, foldlM_eq_some_foldl hchildren, collectComponent,
        collectChildren_eq_foldl]
    · cases child with
      | component c =>
        rw [Child.toValue] at h
        rw [collectChildOnStack?, collectChild, hcomponent seen c (by omega)]
      | text | number | bool => rfl

end Markup

/-! ## Checking -/

mutual

/-- The violations in a component, on a stack. -/
def Component.violationsOnStack? (layout : Layout) : Nat → String → Component →
    Option (List Violation)
  | 0, _, _ => none
  | frames + 1, path, c =>
    (c.children.zipIdx.mapM fun entry =>
      Child.violationOnStack? layout frames (childPath path entry.2) entry.1).map fun lists =>
        c.ownViolations layout path ++ lists.flatten

/-- The violations in a child, on a stack. -/
def Child.violationOnStack? (layout : Layout) : Nat → String → Child → Option (List Violation)
  | 0, _, _ => none
  | frames + 1, path, .component c => Component.violationsOnStack? layout frames path c
  | _ + 1, _, _ => some []

end

/-- Checking takes one frame more than the JSON form is nested. -/
theorem violationsOnStack?_eq_some (layout : Layout) (frames : Nat) :
    (∀ path (c : Component), c.toValue.nesting < frames →
      c.violationsOnStack? layout frames path = some (c.violations layout path)) ∧
    (∀ path (child : Child), child.toValue.nesting + 1 < frames →
      child.violationOnStack? layout frames path = some (child.violation layout path)) := by
  induction frames with
  | zero => exact ⟨fun _ _ h => absurd h (Nat.not_lt_zero _), fun _ _ h => absurd h (Nat.not_lt_zero _)⟩
  | succ frames ih =>
    obtain ⟨hcomponent, hchild⟩ := ih
    refine ⟨fun path c h => ?_, fun path child h => ?_⟩
    · have hchildren : ∀ entry ∈ c.children.zipIdx,
          Child.violationOnStack? layout frames (childPath path entry.2) entry.1 =
            some (Child.violation layout (childPath path entry.2) entry.1) := by
        intro entry hentry
        have hnesting := Component.nesting_child (List.fst_mem_of_mem_zipIdx hentry)
        exact hchild _ _ (by omega)
      rw [Component.violationsOnStack?, mapM_eq_some_map hchildren, Component.violations_eq,
        Child.violations_eq_flatMap, List.flatMap_def]
      rfl
    · cases child with
      | component c =>
        rw [Child.toValue] at h
        rw [Child.violationOnStack?, Child.violation, hcomponent path c (by omega)]
      | text | number | bool => rfl

/-! ## Sketches -/

/-- Whether rendering, collecting and checking a sketch end on a stack of some frames, with the
results that they have without a bound. -/
structure Sketch.PassesFit (frames : Nat) (s : Sketch) : Prop where
  rendered : ∀ depth, ∀ c ∈ s.components,
    Markup.renderComponentOnStack? frames depth c = some (Markup.renderComponent depth c)
  collected : s.components.foldlM (Markup.collectComponentOnStack? frames) [] =
    some (Markup.usedNames s.components)
  checked : ∀ path, ∀ c ∈ s.components,
    c.violationsOnStack? s.header.layout frames path = some (c.violations s.header.layout path)

/-- The passes over a sketch take one frame less than its JSON form is nested. -/
theorem Sketch.passesFit {frames : Nat} {s : Sketch} (h : s.toValue.nesting ≤ frames + 1) :
    s.PassesFit frames := by
  have hcomponents : ∀ c ∈ s.components, c.toValue.nesting < frames := by
    intro c hc
    have hnesting := Sketch.nesting_component hc
    omega
  refine ⟨fun depth c hc => ?_, ?_, fun path c hc => ?_⟩
  · exact (Markup.renderOnStack?_eq_some frames).1 depth c (hcomponents c hc)
  · refine foldlM_eq_some_foldl (fun c hc seen => ?_) []
    exact (Markup.collectOnStack?_eq_some frames).1 seen c (hcomponents c hc)
  · exact (violationsOnStack?_eq_some s.header.layout frames).1 path c (hcomponents c hc)

end PageSketch
