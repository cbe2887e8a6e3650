/-!
# Faults of JSON text

What can be wrong with a text as JSON, and where. A reader that needs the value and one that only
passes over it find the same faults, but they word six of them differently.
-/

namespace PageSketch.Json

/-- A cause for refusing a text. -/
inductive Fault where
  /-- The text ends where a value should begin, or within a word. -/
  | valueMissing
  /-- The text ends in an array. -/
  | arrayUnclosed
  /-- The text ends in an object. -/
  | objectUnclosed
  /-- The text ends behind a comma in an object. -/
  | memberMissing
  /-- The text ends in a string. -/
  | stringUnclosed
  | noValue
  | wordMisspelt
  | colonExpected
  | commaOrBracketExpected
  | commaOrBraceExpected
  | keyNotString
  | commaBeforeBracket
  | commaBeforeBrace
  | controlCharacter
  /-- A backslash before a character that has no escape. -/
  | unknownEscape
  /-- A `u` escape without four hexadecimal digits. -/
  | hexExpected
  /-- A low surrogate without a high one before it, or a high one before another escape. -/
  | loneSurrogate
  /-- A high surrogate with no escape behind it. -/
  | unpairedSurrogate
  /-- The text ends within a number. -/
  | numberUnfinished
  | numberMalformed
  | numberOutOfRange
  | extraText
  | tooDeep
deriving DecidableEq, Repr

namespace Fault

/-- The wording of a reader that needs the value. -/
def message : Fault → String
  | valueMissing | memberMissing | numberUnfinished => "EOF while parsing a value"
  | arrayUnclosed => "EOF while parsing a list"
  | objectUnclosed => "EOF while parsing an object"
  | stringUnclosed => "EOF while parsing a string"
  | noValue => "expected value"
  | wordMisspelt => "expected ident"
  | colonExpected => "expected `:`"
  | commaOrBracketExpected => "expected `,` or `]`"
  | commaOrBraceExpected => "expected `,` or `\x7d`"
  | keyNotString => "key must be a string"
  | commaBeforeBracket | commaBeforeBrace => "trailing comma"
  | controlCharacter => "control character (\\u0000-\\u001F) found while parsing a string"
  | unknownEscape | hexExpected => "invalid escape"
  | loneSurrogate => "lone leading surrogate in hex escape"
  | unpairedSurrogate => "unexpected end of hex escape"
  | numberMalformed => "invalid number"
  | numberOutOfRange => "number out of range"
  | extraText => "trailing characters"
  | tooDeep => "recursion limit exceeded"

/-- The wording of a reader that passes over the value. -/
def messageInPassing : Fault → String
  | memberMissing => message objectUnclosed
  | commaBeforeBracket => message noValue
  | commaBeforeBrace => message keyNotString
  | numberUnfinished => message numberMalformed
  | fault => fault.message

end Fault

/-- A fault and the number of bytes read when it shows. -/
structure FaultAt where
  fault : Fault
  offset : Nat
deriving DecidableEq, Repr

/-! ## Positions -/

/-- A line, counted from one, and the bytes before the position on it. -/
structure Position where
  line : Nat
  column : Nat
deriving DecidableEq, Repr

/-- The position after `offset` bytes of the text, with `done` the position reached so far. -/
def Position.walk (done : Position) : Nat → List Char → Position
  | 0, _ => done
  | offset, [] => ⟨done.line, done.column + offset⟩
  | offset, c :: rest =>
    if offset < c.utf8Size then ⟨done.line, done.column + offset⟩
    else if c = '\n' then walk ⟨done.line + 1, 0⟩ (offset - c.utf8Size) rest
    else walk ⟨done.line, done.column + c.utf8Size⟩ (offset - c.utf8Size) rest

/-- The position after `offset` bytes of the text. -/
def Position.of (text : List Char) (offset : Nat) : Position := walk ⟨1, 0⟩ offset text

/-- A position as it stands at the end of a message. -/
def Position.suffix (position : Position) : String :=
  " at line " ++ toString position.line ++ " column " ++ toString position.column

end PageSketch.Json
