import PageSketch.Json.Record
import PageSketch.Sketch.Basic
import PageSketch.Text.Property

/-!
# Reading sketches

There are two ways from JSON to a sketch. `Sketch.read` follows a text and keeps its order.
`Sketch.ofValue` starts from a value, and there the fields of a record are taken in the order of
their names, which is the order in which a value with ascending keys has them. Both accept null
for every field with a default, take a record as an object or as an array of its fields, and read
a width leniently: a whole number, or a text that is one, within 64 bits, and none otherwise.
-/

namespace PageSketch

open Json

/-! ## Widths -/

/-- The width that a number stands for. -/
def spanOfNumber (number : Number) : Option Int64 :=
  number.toInt?.bind int64?

/-- The width that a text stands for: blanks around it do not count. -/
def spanOfText (text : String) : Option Int64 :=
  let cs := Text.trimChars text.toList
  match readInt64? cs with
  | some n => some n
  | none => (wholeNumber? cs).bind spanOfNumber

/-- The width that a value stands for. -/
def spanOfValue : Value → Option Int64
  | .number n => spanOfNumber n
  | .string s => spanOfText s
  | _ => none

/-! ## From values -/

/-- A text from a value; null is the empty text. -/
def textOrEmpty : Value → Except DecodeError String
  | .null => .ok ""
  | .string s => .ok s
  | value => .error (value.mismatch .text)

/-- Props from a value; null means none. -/
def propsOfValue : Value → Except DecodeError Props
  | .null => .ok []
  | .object members => .ok (Value.dedupMembers [] members)
  | value => .error (value.mismatch .map)

/-- A layout from a value; null is the flow. -/
def layoutOfValue : Value → Except DecodeError Layout
  | .null => .ok .flow
  | .string s => .ok (.ofName s)
  | value => .error (value.mismatch .text)

/-- The field of a record as `decode` reads it, and `fallback` if the record has no such field. -/
def fieldOr {α : Type} (fallback : α) (decode : Value → Except DecodeError α) (name : String)
    (members : List (String × Value)) : Except DecodeError α :=
  match valueAt? name members with
  | some value => decode value
  | none => .ok fallback

/-- The item of a record in array form, and `fallback` if the array ends before it. -/
def itemOr {α : Type} (fallback : α) (decode : Value → Except DecodeError α) (index : Nat)
    (items : List Value) : Except DecodeError α :=
  match items[index]? with
  | some value => decode value
  | none => .ok fallback

/-- The first field of a record that stands twice among the members. -/
def repeatedField? (names : List String) : List (String × Value) → Option String
  | [] => none
  | (key, _) :: rest =>
    if names.contains key && rest.any (fun member => member.1 == key) then some key
    else repeatedField? names rest

/-- Refuses members in which a field of a record stands twice. -/
def refuseRepeated (names : List String) (members : List (String × Value)) :
    Except DecodeError Unit :=
  match repeatedField? names members with
  | some name => .error (.repeatedField name)
  | none => .ok ()

/-- Refuses an array with more items than a record has fields. -/
def refuseLonger (fieldCount : Nat) (items : List Value) : Except DecodeError Unit :=
  if fieldCount < items.length then .error (.tooManyItems items.length) else .ok ()

/-- A header from a value. -/
def Header.ofValue : Value → Except DecodeError Header
  | .object members => do
    refuseRepeated ["title", "layout"] members
    let layout ← fieldOr .flow layoutOfValue "layout" members
    let title ← fieldOr "" textOrEmpty "title" members
    return ⟨title, layout⟩
  | .array items => do
    let title ← itemOr "" textOrEmpty 0 items
    let layout ← itemOr .flow layoutOfValue 1 items
    refuseLonger 2 items
    return ⟨title, layout⟩
  | value => .error (value.mismatch (.record "Page"))

/-- The fields of a component. -/
def Component.fieldNames : List String := ["component", "props", "span", "children"]

mutual

/-- A component from a value. -/
def Component.ofValue : Value → Except DecodeError Component
  | .object members => do
    refuseRepeated Component.fieldNames members
    let children ← Child.listField members
    let name ← fieldOr "" textOrEmpty "component" members
    let props ← fieldOr [] propsOfValue "props" members
    let span ← fieldOr none (fun value => .ok (spanOfValue value)) "span" members
    return ⟨name, props, span, children⟩
  | .array items => do
    let name ← itemOr "" textOrEmpty 0 items
    let props ← itemOr [] propsOfValue 1 items
    let span ← itemOr none (fun value => .ok (spanOfValue value)) 2 items
    let children ← Child.listItem 3 items
    refuseLonger 4 items
    return ⟨name, props, span, children⟩
  | value => .error (value.mismatch (.record "ComponentNode"))

/-- A child from a value. Why a value is no component is not reported. -/
def Child.ofValue : Value → Except DecodeError Child
  | .string s => .ok (.text s)
  | .number n => .ok (.number n)
  | .bool b => .ok (.bool b)
  | value =>
    match Component.ofValue value with
    | .ok c => .ok (.component c)
    | .error _ => .error .noChild

/-- The children among the members of a component. -/
def Child.listField : List (String × Value) → Except DecodeError (List Child)
  | [] => .ok []
  | (key, value) :: rest =>
    if key = "children" then Child.listOfValue value else Child.listField rest

/-- The children of a component in array form, `skip` items from here. -/
def Child.listItem : Nat → List Value → Except DecodeError (List Child)
  | _, [] => .ok []
  | 0, value :: _ => Child.listOfValue value
  | skip + 1, _ :: rest => Child.listItem skip rest

/-- A list of children from a value; null means none. -/
def Child.listOfValue : Value → Except DecodeError (List Child)
  | .null => .ok []
  | .array items => Child.ofValues items
  | value => .error (value.mismatch .sequence)

/-- Children from values. -/
def Child.ofValues : List Value → Except DecodeError (List Child)
  | [] => .ok []
  | value :: rest => do
    let child ← Child.ofValue value
    let children ← Child.ofValues rest
    return child :: children

end

/-- Components from values. -/
def Component.ofValues : List Value → Except DecodeError (List Component)
  | [] => .ok []
  | value :: rest => do
    let component ← Component.ofValue value
    let components ← Component.ofValues rest
    return component :: components

/-- The components of a sketch from a value. -/
def Component.listOfValue : Value → Except DecodeError (List Component)
  | .array items => Component.ofValues items
  | value => .error (value.mismatch .sequence)

/-- A header from a value; null is the empty header. -/
def Header.orEmpty : Value → Except DecodeError Header
  | .null => .ok .empty
  | value => Header.ofValue value

/-- A sketch from a value in object form. -/
def Sketch.ofValue : Value → Except DecodeError Sketch
  | .object members =>
    match valueAt? "components" members with
    | none => .error (.missingField "components")
    | some value => do
      let components ← Component.listOfValue value
      let header ← fieldOr .empty Header.orEmpty "page" members
      return ⟨header, components⟩
  | value => .error (value.mismatch (.record "UiDsl"))

/-! ## From texts -/

/-- Reads a layout. -/
def Layout.read : TreeReader Layout := fun depth tree => (readText depth tree).map .ofName

/-- Reads a header. -/
def Header.reader : RecordReader Header where
  name := "Page"
  fields :=
    [.of "title" false (orDefault "" readText) fun title header => { header with title },
     .of "layout" false (orDefault .flow Layout.read) fun layout header => { header with layout }]
  initial := .empty

/-- Reads a child: first as a value, and then as what that value is. -/
def Child.read : TreeReader Child := fun depth tree =>
  match readAny depth tree with
  | .error e => .error e
  | .ok value => Child.ofValue value

/-- Reads a component. -/
def Component.reader : RecordReader Component where
  name := "ComponentNode"
  fields :=
    [.of "component" false (orDefault "" readText) fun name component => { component with name },
     .of "props" false (orDefault [] readMap) fun props component => { component with props },
     .of "span" false readAny fun value component => { component with span := spanOfValue value },
     .of "children" false (orDefault [] (readList Child.read))
       fun children component => { component with children }]
  initial := .named ""

/-- Reads a sketch. -/
def Sketch.reader : RecordReader Sketch where
  name := "UiDsl"
  fields :=
    [.of "page" false (orDefault .empty Header.reader.read)
       fun header sketch => { sketch with header },
     .of "components" true (readList Component.reader.read)
       fun components sketch => { sketch with components }]
  initial := ⟨.empty, []⟩

/-- The sketch of a text, in the order of the text. -/
def Sketch.read (text : String) : Except DecodeError Sketch := decodeText Sketch.reader.read text

end PageSketch
