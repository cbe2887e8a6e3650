import PageSketch.Json.Writer
import PageSketch.Sketch.Basic

/-!
# Writing sketches

The JSON form of a sketch. The header is written in full; of a component, empty props, a missing
width and an empty list of children are left out.
-/

namespace PageSketch

open Json (Value)

mutual

/-- A component as a JSON value. -/
def Component.toValue : Component → Value
  | ⟨name, props, span, children⟩ =>
    .object ([("component", .string name)] ++
      (if props.isEmpty then [] else [("props", .object props)]) ++
      (match span with
        | some n => [("span", .number (.ofInt64 n))]
        | none => []) ++
      (match children with
        | [] => []
        | child :: rest => [("children", .array (Child.toValue child :: Child.toValues rest))]))

/-- A child as a JSON value. -/
def Child.toValue : Child → Value
  | .component c => c.toValue
  | .text s => .string s
  | .number n => .number n
  | .bool b => .bool b

/-- The children as JSON values. -/
def Child.toValues : List Child → List Value
  | [] => []
  | child :: rest => Child.toValue child :: Child.toValues rest

end

/-- A header as a JSON value. -/
def Header.toValue (header : Header) : Value :=
  .object [("title", .string header.title), ("layout", .string header.layout.name)]

/-- A sketch as a JSON value. -/
def Sketch.toValue (sketch : Sketch) : Value :=
  .object [("page", sketch.header.toValue),
    ("components", .array (sketch.components.map Component.toValue))]

end PageSketch
