import PageSketch.Json.Tree
import PageSketch.Text.Digits

/-!
# Reading JSON text

`Document.read` turns the characters of a text into its tree in one pass from left to right. An
offset counts bytes of the UTF-8 form of the text. A fault found by looking at a character has the
offset behind that character's first byte, and at the end of the text the offset of the end.
-/

namespace PageSketch.Json

/-- A place in a text: the bytes before it and the characters behind it. -/
structure Cursor where
  offset : Nat
  rest : List Char

/-- Whether a character may stand between the tokens of a text. -/
def isJsonBlank (c : Char) : Bool := c = ' ' || c = '\n' || c = '\t' || c = '\r'

/-- The place behind the blanks. -/
def skipBlanks (offset : Nat) : List Char → Cursor
  | [] => ⟨offset, []⟩
  | c :: rest => if isJsonBlank c then skipBlanks (offset + 1) rest else ⟨offset, c :: rest⟩

/-! ## Words -/

/-- Reads the characters of a word. -/
def readWord (offset : Nat) : List Char → List Char → Except FaultAt Cursor
  | [], cs => .ok ⟨offset, cs⟩
  | _ :: _, [] => .error ⟨.valueMissing, offset⟩
  | w :: word, c :: cs =>
    if c = w then readWord (offset + 1) word cs else .error ⟨.wordMisspelt, offset + 1⟩

/-! ## Numbers -/

/-- Reads the fraction of a number, if there is one. -/
def readFraction (offset : Nat) : List Char → Except FaultAt (List Char × Cursor)
  | '.' :: cs =>
    let digits := cs.takeWhile isDigit
    match digits, cs with
    | [], [] => .error ⟨.numberUnfinished, offset + 1⟩
    | [], _ :: _ => .error ⟨.numberMalformed, offset + 2⟩
    | _ :: _, _ => .ok (digits, ⟨offset + 1 + digits.length, cs.dropWhile isDigit⟩)
  | cs => .ok ([], ⟨offset, cs⟩)

/-- Reads the digits of an exponent. -/
def readExponentDigits (negative : Bool) (offset : Nat) (cs : List Char) :
    Except FaultAt (Option Exponent × Cursor) :=
  let digits := cs.takeWhile isDigit
  match digits, cs with
  | [], [] => .error ⟨.numberUnfinished, offset⟩
  | [], _ :: _ => .error ⟨.numberMalformed, offset + 1⟩
  | _ :: _, _ =>
    .ok (some ⟨negative, digits⟩, ⟨offset + digits.length, cs.dropWhile isDigit⟩)

/-- Reads the exponent of a number, if there is one. -/
def readExponent (offset : Nat) : List Char → Except FaultAt (Option Exponent × Cursor)
  | c :: cs =>
    if c = 'e' || c = 'E' then
      match cs with
      | '-' :: ds => readExponentDigits true (offset + 2) ds
      | '+' :: ds => readExponentDigits false (offset + 2) ds
      | ds => readExponentDigits false (offset + 1) ds
    else .ok (none, ⟨offset, c :: cs⟩)
  | [] => .ok (none, ⟨offset, []⟩)

/-- Reads the digits before the point: a zero stands alone. -/
def readWhole (offset : Nat) : List Char → Except FaultAt (List Char × Cursor)
  | [] => .error ⟨.numberUnfinished, offset⟩
  | c :: cs =>
    if c = '0' then
      if (cs.takeWhile isDigit).isEmpty then .ok (['0'], ⟨offset + 1, cs⟩)
      else .error ⟨.numberMalformed, offset + 2⟩
    else if isDigit c then
      let digits := cs.takeWhile isDigit
      .ok (c :: digits, ⟨offset + 1 + digits.length, cs.dropWhile isDigit⟩)
    else .error ⟨.numberMalformed, offset + 1⟩

/-- Reads a number behind its sign. -/
def readUnsigned (negative : Bool) (offset : Nat) (cs : List Char) :
    Except FaultAt (Numeral × Cursor) :=
  match readWhole offset cs with
  | .error e => .error e
  | .ok (whole, atFraction) =>
    match readFraction atFraction.offset atFraction.rest with
    | .error e => .error e
    | .ok (fraction, atExponent) =>
      match readExponent atExponent.offset atExponent.rest with
      | .error e => .error e
      | .ok (exponent, behind) => .ok (⟨negative, whole, fraction, exponent⟩, behind)

/-- Reads a number. -/
def readNumeral (offset : Nat) : List Char → Except FaultAt (Numeral × Cursor)
  | '-' :: cs => readUnsigned true (offset + 1) cs
  | cs => readUnsigned false offset cs

/-- The number that is the whole of a text, without blanks around it. -/
def wholeNumber? (cs : List Char) : Option Number :=
  match readNumeral 0 cs with
  | .ok (numeral, ⟨_, []⟩) => numeral.value?
  | _ => none

/-! ## Strings -/

/-- The code of four hexadecimal digits. -/
def hexCode? (a b c d : Char) : Option Nat :=
  match Text.hexValue? a, Text.hexValue? b, Text.hexValue? c, Text.hexValue? d with
  | some w, some x, some y, some z => some (((w * 16 + x) * 16 + y) * 16 + z)
  | _, _, _, _ => none

/-- The number of bytes of the characters. -/
def byteLength : List Char → Nat
  | [] => 0
  | c :: rest => c.utf8Size + byteLength rest

/-- The ending of a string at a `u` escape whose four digits, from `offset` on, are not there. -/
def brokenHex (offset : Nat) (cs : List Char) : TextEnd :=
  if byteLength cs < 4 then .broken .stringUnclosed (offset + byteLength cs)
  else .broken .hexExpected (offset + 4)

/-- The character of a short escape. -/
def shortEscape? (c : Char) : Option Char :=
  if c = '"' then some '"'
  else if c = '\\' then some '\\'
  else if c = '/' then some '/'
  else if c = 'b' then some '\x08'
  else if c = 'f' then some '\x0c'
  else if c = 'n' then some '\n'
  else if c = 'r' then some '\r'
  else if c = 't' then some '\t'
  else none

/-- A string with one more unit in front. -/
def StringToken.cons (unit : TextUnit) (token : StringToken) : StringToken :=
  ⟨unit :: token.units, token.ending⟩

/-- Reads a string behind its opening quote; also gives the characters behind the closing one. -/
def readString (offset : Nat) : List Char → StringToken × List Char
  | [] => (⟨[], .broken .stringUnclosed offset⟩, [])
  | '"' :: cs => (⟨[], .closed (offset + 1)⟩, cs)
  | '\\' :: [] => (⟨[], .broken .stringUnclosed (offset + 1)⟩, [])
  | '\\' :: 'u' :: a :: b :: c :: d :: cs =>
    match hexCode? a b c d with
    | some code =>
      let read := readString (offset + 6) cs
      (read.1.cons (.code code (offset + 6)), read.2)
    | none => (⟨[], brokenHex (offset + 2) (a :: b :: c :: d :: cs)⟩, [])
  | '\\' :: 'u' :: cs => (⟨[], brokenHex (offset + 2) cs⟩, [])
  | '\\' :: e :: cs =>
    match shortEscape? e with
    | some c =>
      let read := readString (offset + 2) cs
      (read.1.cons (.char c (offset + 2)), read.2)
    | none => (⟨[], .broken .unknownEscape (offset + 2)⟩, [])
  | c :: cs =>
    if c.toNat < 0x20 then (⟨[], .broken .controlCharacter (offset + 1)⟩, [])
    else
      let read := readString (offset + c.utf8Size) cs
      (read.1.cons (.char c (offset + 1)), read.2)

/-- The place behind a string, unless the string is broken. -/
def StringToken.behind (token : StringToken) (rest : List Char) : Option Cursor :=
  match token.ending with
  | .closed stop => some ⟨stop, rest⟩
  | .broken _ _ => none

/-! ## Values -/

/-- A word as a tree, and the place behind it. -/
def wordTree (tree : Nat → Tree) : Except FaultAt Cursor → Tree × Option Cursor
  | .error e => (.broken e.fault e.offset, none)
  | .ok behind => (tree behind.offset, some behind)

/-- A number as a tree, and the place behind it. -/
def numeralTree : Except FaultAt (Numeral × Cursor) → Tree × Option Cursor
  | .error e => (.broken e.fault e.offset, none)
  | .ok (numeral, behind) => (.number numeral behind.offset, some behind)

mutual

/-- Reads a value behind blanks. There is no place behind a broken value. The first number bounds
the work: every three steps take at least one character. -/
def readValue : Nat → Cursor → Tree × Option Cursor
  | 0, place => (.broken .valueMissing place.offset, none)
  | fuel + 1, place =>
    match skipBlanks place.offset place.rest with
    | ⟨offset, []⟩ => (.broken .valueMissing offset, none)
    | ⟨offset, c :: cs⟩ =>
      if c = '"' then
        let read := readString (offset + 1) cs
        (.string read.1, read.1.behind read.2)
      else if c = '[' then
        let read := readItems fuel true ⟨offset + 1, cs⟩
        (.array offset read.1, read.2)
      else if c = '\x7b' then
        let read := readMembers fuel true ⟨offset + 1, cs⟩
        (.object offset read.1, read.2)
      else if c = 'n' then wordTree .null (readWord (offset + 1) ['u', 'l', 'l'] cs)
      else if c = 't' then wordTree (.bool true) (readWord (offset + 1) ['r', 'u', 'e'] cs)
      else if c = 'f' then
        wordTree (.bool false) (readWord (offset + 1) ['a', 'l', 's', 'e'] cs)
      else if c = '-' || isDigit c then numeralTree (readNumeral offset (c :: cs))
      else (.broken .noValue (offset + 1), none)

/-- Reads the items of an array from the first one on, or from behind an item. -/
def readItems : Nat → Bool → Cursor → Items × Option Cursor
  | 0, _, place => (.broken .arrayUnclosed place.offset, none)
  | fuel + 1, isFirst, place =>
    match skipBlanks place.offset place.rest with
    | ⟨offset, []⟩ => (.broken .arrayUnclosed offset, none)
    | ⟨offset, c :: cs⟩ =>
      if c = ']' then (.closed (offset + 1), some ⟨offset + 1, cs⟩)
      else if isFirst then readItem fuel ⟨offset, c :: cs⟩
      else if c = ',' then
        match skipBlanks (offset + 1) cs with
        | ⟨next, []⟩ => (.broken .valueMissing next, none)
        | ⟨next, d :: ds⟩ =>
          if d = ']' then (.broken .commaBeforeBracket (next + 1), none)
          else readItem fuel ⟨next, d :: ds⟩
      else (.broken .commaOrBracketExpected (offset + 1), none)

/-- Reads an item and those behind it. -/
def readItem : Nat → Cursor → Items × Option Cursor
  | 0, place => (.broken .arrayUnclosed place.offset, none)
  | fuel + 1, place =>
    match readValue fuel place with
    | (value, none) => (.item value (.closed place.offset), none)
    | (value, some behind) =>
      let read := readItems fuel false behind
      (.item value read.1, read.2)

/-- Reads the members of an object from the first one on, or from behind a member. -/
def readMembers : Nat → Bool → Cursor → Members × Option Cursor
  | 0, _, place => (.broken .objectUnclosed place.offset, none)
  | fuel + 1, isFirst, place =>
    match skipBlanks place.offset place.rest with
    | ⟨offset, []⟩ => (.broken .objectUnclosed offset, none)
    | ⟨offset, c :: cs⟩ =>
      if c = '\x7d' then (.closed (offset + 1), some ⟨offset + 1, cs⟩)
      else if isFirst then
        if c = '"' then readMember fuel ⟨offset + 1, cs⟩
        else (.broken .keyNotString (offset + 1), none)
      else if c = ',' then
        match skipBlanks (offset + 1) cs with
        | ⟨next, []⟩ => (.broken .memberMissing next, none)
        | ⟨next, d :: ds⟩ =>
          if d = '"' then readMember fuel ⟨next + 1, ds⟩
          else if d = '\x7d' then (.broken .commaBeforeBrace (next + 1), none)
          else (.broken .keyNotString (next + 1), none)
      else (.broken .commaOrBraceExpected (offset + 1), none)

/-- Reads a member behind the opening quote of its key, and those behind it. -/
def readMember : Nat → Cursor → Members × Option Cursor
  | 0, place => (.broken .objectUnclosed place.offset, none)
  | fuel + 1, place =>
    let key := readString place.offset place.rest
    match key.1.behind key.2 with
    | none => (.member key.1 (.broken .stringUnclosed key.1.stop) (.closed key.1.stop), none)
    | some behindKey =>
      match skipBlanks behindKey.offset behindKey.rest with
      | ⟨offset, []⟩ => (.member key.1 (.broken .objectUnclosed offset) (.closed offset), none)
      | ⟨offset, c :: cs⟩ =>
        if c = ':' then
          match readValue fuel ⟨offset + 1, cs⟩ with
          | (value, none) => (.member key.1 value (.closed offset), none)
          | (value, some behind) =>
            let read := readMembers fuel false behind
            (.member key.1 value read.1, read.2)
        else (.member key.1 (.broken .colonExpected (offset + 1)) (.closed offset), none)

end

/-- The tree of a text. -/
def Document.read (text : List Char) : Document :=
  match readValue (3 * text.length + 3) ⟨0, text⟩ with
  | (root, none) => ⟨root, none⟩
  | (root, some behind) =>
    match skipBlanks behind.offset behind.rest with
    | ⟨_, []⟩ => ⟨root, none⟩
    | ⟨offset, _ :: _⟩ => ⟨root, some (offset + 1)⟩

/-! ## Generic values -/

/-- A fault with the place in the text where it shows. -/
structure TextError where
  fault : Fault
  position : Position
deriving DecidableEq, Repr

/-- The message of a fault, with its position. -/
def TextError.message (error : TextError) : String :=
  error.fault.message ++ error.position.suffix

/-- The value of a text: keys ascend in every object, and a repeated key has its last value. -/
def parse (text : String) : Except TextError Value :=
  match (Document.read text.toList).value with
  | .ok value => .ok value.sorted
  | .error e => .error ⟨e.fault, .of text.toList e.offset⟩

end PageSketch.Json
