import PageSketch.Json.Value
import PageSketch.Sketch.Basic
import PageSketch.Text.Property

/-!
# Elements

A component becomes an element. Every prop becomes one attribute, in the order of the props: a text is
a plain attribute, and every other value is bound to its expression literal, which a colon before the
name says. Without children an element stands on one line; otherwise its tags have a line each, and the
children stand between them one level deeper. Leaves are written as raw text on a line of their own.
-/

namespace PageSketch.Markup

open Json (Value)

/-! ## Expression literals -/

/-- A character inside single quotes. -/
def literalChar (c : Char) : List Char :=
  if c = '\\' then ['\\', '\\']
  else if c = '\'' then ['\\', '\'']
  else if c = '\n' then ['\\', 'n']
  else if c = '\r' then ['\\', 'r']
  else [c]

/-- A text in single quotes. -/
def quotedLiteral (text : String) : String :=
  "'" ++ String.ofList (text.toList.flatMap literalChar) ++ "'"

/-- Whether a character may begin a name. -/
def beginsName (c : Char) : Bool := Text.isAlphabetic c || c = '_' || c = '$'

/-- Whether a character may continue a name. -/
def continuesName (c : Char) : Bool := Text.isAlphanumeric c || c = '_' || c = '$'

/-- Whether a key has the form of a name. -/
def isName (key : String) : Bool :=
  match key.toList with
  | [] => false
  | c :: rest => beginsName c && rest.all continuesName

/-- A key of an object literal. -/
def literalKey (key : String) : String := if isName key then key else quotedLiteral key

mutual

/-- A value as an expression literal. -/
def literal : Value → String
  | .bool b => if b then "true" else "false"
  | .number n => n.text
  | .string s => quotedLiteral s
  | .null => "null"
  | .array items => "[" ++ literalItems items ++ "]"
  | .object [] => "\x7b\x7d"
  | .object (member :: rest) => "\x7b " ++ literalMembers (member :: rest) ++ " \x7d"

/-- The items of an array literal, with commas between them. -/
def literalItems : List Value → String
  | [] => ""
  | [item] => literal item
  | item :: rest => literal item ++ ", " ++ literalItems rest

/-- The members of an object literal, with commas between them. -/
def literalMembers : List (String × Value) → String
  | [] => ""
  | [(key, value)] => literalKey key ++ ": " ++ literal value
  | (key, value) :: rest => literalKey key ++ ": " ++ literal value ++ ", " ++ literalMembers rest

end

/-! ## Attributes -/

/-- A character inside an attribute value. -/
def attributeChar (c : Char) : List Char :=
  if c = '"' then ['&', 'q', 'u', 'o', 't', ';'] else [c]

/-- The text of an attribute value. -/
def escapeAttribute (text : String) : String := String.ofList (text.toList.flatMap attributeChar)

/-- No double quote stands in an attribute value. -/
theorem quote_not_mem_escapeAttribute (text : String) : '"' ∉ (escapeAttribute text).toList := by
  simp only [escapeAttribute, String.toList_ofList, List.mem_flatMap, not_exists, not_and]
  intro c _
  unfold attributeChar
  split
  · decide
  · rename_i h
    simpa using Ne.symm h

/-- The name of an attribute. -/
def attributeName (key : String) : Value → String
  | .string _ => key
  | _ => ":" ++ key

/-- The value of an attribute, before its quotes are escaped. -/
def attributeValue : Value → String
  | .string text => text
  | value => literal value

/-- One attribute. -/
def attributeText (key : String) (value : Value) : String :=
  attributeName key value ++ "=\"" ++ escapeAttribute (attributeValue value) ++ "\""

/-- The attributes of a component, with single spaces between them. -/
def attributesText (props : Props) : String :=
  " ".intercalate (props.map fun prop => attributeText prop.1 prop.2)

/-! ## Tags and children -/

/-- The indentation of a level. -/
def indent (depth : Nat) : String := String.ofList (List.replicate (2 * depth) ' ')

/-- The opening tag of a component. -/
def openTag (name : String) (props : Props) : String :=
  if (attributesText props).isEmpty then "<" ++ name ++ ">"
  else "<" ++ name ++ " " ++ attributesText props ++ ">"

/-- The closing tag of a component. -/
def closeTag (name : String) : String := "</" ++ name ++ ">"

mutual

/-- A component at a depth. -/
def renderComponent (depth : Nat) : Component → String
  | ⟨name, props, _, []⟩ => indent depth ++ openTag name props ++ closeTag name
  | ⟨name, props, _, child :: rest⟩ =>
    indent depth ++ openTag name props ++ "\n" ++ renderChild (depth + 1) child ++
      renderRest (depth + 1) rest ++ "\n" ++ indent depth ++ closeTag name

/-- A child at a depth. -/
def renderChild (depth : Nat) : Child → String
  | .component c => renderComponent depth c
  | .text s => indent depth ++ s
  | .number n => indent depth ++ n.text
  | .bool b => indent depth ++ (if b then "true" else "false")

/-- The children behind the first one, each behind a line break. -/
def renderRest (depth : Nat) : List Child → String
  | [] => ""
  | child :: rest => "\n" ++ renderChild depth child ++ renderRest depth rest

end

end PageSketch.Markup
