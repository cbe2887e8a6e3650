import PageSketch.Json.Value
import PageSketch.Text.Property

/-!
# Sketches of pages

A sketch is a page header and a list of components. A component has a name, props, an optional
width in columns and children, and a child is a component or a leaf: text, a number or a truth
value. The components of a sketch are forests of unbounded depth.
-/

namespace PageSketch

/-- How the components of a page are placed. -/
inductive Layout where
  /-- One below the other. -/
  | flow
  /-- In rows of a grid. -/
  | grid
deriving DecidableEq, Repr, Inhabited

/-- The name of a layout. -/
def Layout.name : Layout → String
  | flow => "default"
  | grid => "grid"

/-- The layout of a name; every name but one means the flow. -/
def Layout.ofName (name : String) : Layout := if name = "grid" then grid else flow

/-- A layout is found under its name. -/
@[simp] theorem Layout.ofName_name (layout : Layout) : ofName layout.name = layout := by
  cases layout <;> decide

/-- What a sketch says about the page as a whole. -/
structure Header where
  title : String
  layout : Layout
deriving DecidableEq, Repr, Inhabited

/-- The header of an untitled flowing page. -/
def Header.empty : Header := ⟨"", .flow⟩

/-- The props of a component in their order. -/
abbrev Props := List (String × Json.Value)

mutual

/-- A component of a page. -/
structure Component where
  name : String
  props : Props
  span : Option Int64
  children : List Child

/-- A child of a component. -/
inductive Child where
  | component (component : Component)
  | text (text : String)
  | number (number : Json.Number)
  | bool (value : Bool)

end

/-- A page: its header and its top-level components. -/
structure Sketch where
  header : Header
  components : List Component

/-! ## Building -/

namespace Component

/-- A component with a name and nothing else. -/
def named (name : String) : Component := ⟨name, [], none, []⟩

/-- Sets a prop, in its place if it is there. -/
def withProp (component : Component) (key : String) (value : Json.Value) : Component :=
  { component with props := put key value component.props }

/-- Sets the width in columns. -/
def withSpan (component : Component) (span : Int64) : Component :=
  { component with span := some span }

/-- Appends a child. -/
def withChild (component : Component) (child : Child) : Component :=
  { component with children := component.children ++ [child] }

end Component

/-- The child as a component, if it is one. -/
def Child.component? : Child → Option Component
  | .component c => some c
  | _ => none

/-- The components among the children. -/
def Component.childComponents (component : Component) : List Component :=
  component.children.filterMap Child.component?

/-- The title of a page, or a substitute if the title is blank. -/
def Sketch.titleOr (sketch : Sketch) (substitute : String) : String :=
  if Text.isBlankText sketch.header.title then substitute else sketch.header.title

end PageSketch
