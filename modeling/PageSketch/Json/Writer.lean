import PageSketch.Json.Value
import PageSketch.Text.Digits

/-!
# Writing JSON

An `Outline` is a document whose scalars are already text. It is laid out on one line without
spaces, or with one entry a line and two spaces for each level; an empty list or record is written
the same way in both. Strings escape only what they must.
-/

namespace PageSketch.Json

/-! ## Strings -/

/-- A character inside a JSON string. -/
def escapeChar (c : Char) : List Char :=
  if c = '"' then ['\\', '"']
  else if c = '\\' then ['\\', '\\']
  else if c = '\x08' then ['\\', 'b']
  else if c = '\x0c' then ['\\', 'f']
  else if c = '\n' then ['\\', 'n']
  else if c = '\r' then ['\\', 'r']
  else if c = '\t' then ['\\', 't']
  else if c.toNat < 0x20 then
    ['\\', 'u', '0', '0', Text.hexDigit (c.toNat / 16), Text.hexDigit c.toNat]
  else [c]

/-- A JSON string. -/
def writeString (text : String) : String :=
  "\"" ++ String.ofList (text.toList.flatMap escapeChar) ++ "\""

/-- A character that needs no escape stands for itself. -/
theorem escapeChar_of_plain {c : Char} (hq : c ≠ '"') (hb : c ≠ '\\') (h : 0x20 ≤ c.toNat) :
    escapeChar c = [c] := by
  have hne : ∀ d : Char, d.toNat < 0x20 → c ≠ d := by
    intro d hd he
    rw [he] at h
    omega
  simp [escapeChar, hq, hb, hne _ (show '\x08'.toNat < 0x20 by decide),
    hne _ (show '\x0c'.toNat < 0x20 by decide), hne _ (show '\n'.toNat < 0x20 by decide),
    hne _ (show '\r'.toNat < 0x20 by decide), hne _ (show '\t'.toNat < 0x20 by decide),
    Nat.not_lt.mpr h]

/-! ## Outlines -/

/-- A document with its scalars written out. -/
inductive Outline where
  | atom (text : String)
  | list (items : List Outline)
  | record (entries : List (String × Outline))

namespace Outline

mutual

/-- The document on one line. -/
def compact : Outline → String
  | .atom text => text
  | .list items => "[" ++ compactItems items ++ "]"
  | .record entries => "\x7b" ++ compactEntries entries ++ "\x7d"

/-- The items, with commas between them. -/
def compactItems : List Outline → String
  | [] => ""
  | [item] => compact item
  | item :: rest => compact item ++ "," ++ compactItems rest

/-- The entries, with commas between them. -/
def compactEntries : List (String × Outline) → String
  | [] => ""
  | [(key, value)] => writeString key ++ ":" ++ compact value
  | (key, value) :: rest => writeString key ++ ":" ++ compact value ++ "," ++ compactEntries rest

end

/-- A line break and the indentation of a level. -/
def newLine (level : Nat) : String :=
  "\n" ++ String.ofList (List.replicate (2 * level) ' ')

mutual

/-- The document with one entry a line, from the given level on. -/
def pretty (level : Nat) : Outline → String
  | .atom text => text
  | .list [] => "[]"
  | .list (item :: rest) =>
    "[" ++ newLine (level + 1) ++ pretty (level + 1) item ++ prettyItems (level + 1) rest ++
      newLine level ++ "]"
  | .record [] => "\x7b\x7d"
  | .record ((key, value) :: rest) =>
    "\x7b" ++ newLine (level + 1) ++ writeString key ++ ": " ++ pretty (level + 1) value ++
      prettyEntries (level + 1) rest ++ newLine level ++ "\x7d"

/-- The items behind the first one. -/
def prettyItems (level : Nat) : List Outline → String
  | [] => ""
  | item :: rest => "," ++ newLine level ++ pretty level item ++ prettyItems level rest

/-- The entries behind the first one. -/
def prettyEntries (level : Nat) : List (String × Outline) → String
  | [] => ""
  | (key, value) :: rest =>
    "," ++ newLine level ++ writeString key ++ ": " ++ pretty level value ++
      prettyEntries level rest

end

/-- A string as an outline. -/
def string (text : String) : Outline := .atom (writeString text)

end Outline

/-! ## Values -/

namespace Value

mutual

/-- A value as an outline. -/
def outline : Value → Outline
  | .null => .atom "null"
  | .bool b => .atom (if b then "true" else "false")
  | .number n => .atom n.text
  | .string s => .string s
  | .array items => .list (outlineItems items)
  | .object members => .record (outlineMembers members)

/-- The outlines of the items. -/
def outlineItems : List Value → List Outline
  | [] => []
  | item :: rest => outline item :: outlineItems rest

/-- The outlines of the members. -/
def outlineMembers : List (String × Value) → List (String × Outline)
  | [] => []
  | (key, value) :: rest => (key, outline value) :: outlineMembers rest

end

/-- The value as text on one line. -/
def compact (value : Value) : String := value.outline.compact

/-- The value as text with one entry a line. -/
def pretty (value : Value) : String := value.outline.pretty 0

end Value

end PageSketch.Json
