import PageSketch.Sketch.Basic

/-!
# Checking sketches

The rules that a sketch is asked to keep: every component has a name of the vocabulary, a width
lies within the columns of the grid and is set on grid pages only, and the widths of siblings fill
a row once one of them has a width. `Sketch.violations` lists every broken rule with the place in
the tree, in the order of the tree.
-/

namespace PageSketch

/-! ## Rules -/

/-- The names that components may have. -/
def vocabulary : List String :=
  ["d-row", "d-col", "d-card", "d-card-header", "d-card-content", "d-form", "d-form-item",
   "d-input", "d-select", "d-button", "d-textarea", "simple-stat", "simple-chart"]

/-- Whether a name belongs to the vocabulary. -/
def isKnownName (name : String) : Bool := vocabulary.contains name

/-- The number of columns of a row. -/
def gridColumns : Int := 24

/-- The least width of a component. -/
def leastSpan : Int := 1

/-- A broken rule at a place: a component, or the siblings that stand in one list. -/
inductive Violation where
  | emptyName (path : String)
  | unknownName (path : String) (name : String)
  | spanOutOfRange (path : String) (span : Int64)
  | spanWithoutGrid (path : String)
  | spanSum (path : String) (total : Int64)
deriving DecidableEq, Repr

namespace Violation

/-- The place of a broken rule. -/
def path : Violation → String
  | emptyName path => path
  | unknownName path _ => path
  | spanOutOfRange path _ => path
  | spanWithoutGrid path => path
  | spanSum path _ => path

/-- The wording of a broken rule. -/
def message : Violation → String
  | emptyName path => "Node '" ++ path ++ "' has no component name"
  | unknownName path name => "Node '" ++ path ++ "' uses unknown component '" ++ name ++ "'"
  | spanOutOfRange path span =>
    "Node '" ++ path ++ "' has span " ++ toString span.toInt ++ " outside " ++
      toString leastSpan ++ "..=" ++ toString gridColumns
  | spanWithoutGrid path =>
    "Node '" ++ path ++ "' sets a span but the page layout is not grid"
  | spanSum path total =>
    "Spans under '" ++ path ++ "' add up to " ++ toString total.toInt ++ " instead of " ++
      toString gridColumns

end Violation

/-! ## Places -/

/-- The place of a top-level component. -/
def rootPath (index : Nat) : String := "components[" ++ toString index ++ "]"

/-- The place of the children of a component. -/
def childrenPath (path : String) : String := path ++ ".children"

/-- The place of a child; leaves are counted too. -/
def childPath (path : String) (index : Nat) : String :=
  childrenPath path ++ "[" ++ toString index ++ "]"

/-! ## One component -/

/-- The violations of a name. -/
def nameViolations (path name : String) : List Violation :=
  if Text.isBlankText name then [.emptyName path]
  else if isKnownName name then []
  else [.unknownName path name]

/-- The violations of a width by itself. -/
def spanViolations (path : String) (layout : Layout) : Option Int64 → List Violation
  | none => []
  | some span =>
    (if leastSpan ≤ span.toInt ∧ span.toInt ≤ gridColumns then []
      else [.spanOutOfRange path span]) ++
    (if layout = .grid then [] else [.spanWithoutGrid path])

/-! ## Siblings -/

/-- The sum of widths, exactly. -/
def spanTotal : List Int64 → Int
  | [] => 0
  | span :: rest => span.toInt + spanTotal rest

/-- The violation of the widths of siblings: on a grid page they have to fill a row, unless there
is none. -/
def sumViolations (path : String) (layout : Layout) (spans : List Int64) : List Violation :=
  if layout = .grid ∧ spans ≠ [] ∧ spanTotal spans ≠ gridColumns then
    [.spanSum path (clampInt64 (spanTotal spans))]
  else []

/-! ## Trees -/

mutual

/-- The violations in a component: its own first, then those of its children as siblings, then
those in the children. -/
def Component.violations (layout : Layout) (path : String) : Component → List Violation
  | ⟨name, _, span, children⟩ =>
    nameViolations path name ++ spanViolations path layout span ++
      sumViolations (childrenPath path) layout (Child.spans children) ++
      Child.violations layout path 0 children

/-- The violations in the children from an index on. -/
def Child.violations (layout : Layout) (path : String) (index : Nat) :
    List Child → List Violation
  | [] => []
  | child :: rest =>
    Child.violation layout (childPath path index) child ++
      Child.violations layout path (index + 1) rest

/-- The violations in a child. -/
def Child.violation (layout : Layout) (path : String) : Child → List Violation
  | .component c => c.violations layout path
  | .text _ => []
  | .number _ => []
  | .bool _ => []

/-- The widths of the components among the children. -/
def Child.spans : List Child → List Int64
  | [] => []
  | .component ⟨_, _, some span, _⟩ :: rest => span :: Child.spans rest
  | _ :: rest => Child.spans rest

end

/-- The violations in the top-level components from an index on. -/
def Component.listViolations (layout : Layout) (index : Nat) : List Component → List Violation
  | [] => []
  | component :: rest =>
    component.violations layout (rootPath index) ++
      Component.listViolations layout (index + 1) rest

/-- All violations of a sketch. -/
def Sketch.violations (sketch : Sketch) : List Violation :=
  sumViolations "components" sketch.header.layout (sketch.components.filterMap (·.span)) ++
    Component.listViolations sketch.header.layout 0 sketch.components

end PageSketch
