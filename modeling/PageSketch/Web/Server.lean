import PageSketch.Number.Reading
import PageSketch.Text.Digits
import PageSketch.Web.Domain

/-!
# Servers

A server is named by a domain, or by a number: of 32 bits, written as four numbers with points
between them, or of 128 bits, written in brackets as eight hexadecimal groups with colons between
them, where two colons stand for groups of zero. In schemes that are not those of the web a server
may have any name, in which a byte may stand as a percent sign and two hexadecimal digits. That is so
in all parts of an address: controls and all characters beyond ASCII always stand that way, by their
UTF-8 encoding; which others do depends on the part.
-/

namespace PageSketch.Web

/-! ## Escapes -/

/-- The escape of a byte. -/
def escapeByte (byte : UInt8) : List Char :=
  ['%', (Text.hexDigit (byte.toNat / 16)).toUpper, (Text.hexDigit byte.toNat).toUpper]

/-- Whether a character is a control or beyond ASCII. -/
def isControlOrBeyond (c : Char) : Bool := c.toNat < 0x20 || 0x7F ≤ c.toNat

/-- The text with every control, every character beyond ASCII and every reserved character
escaped. -/
def escape (isReserved : Char → Bool) (cs : List Char) : List Char :=
  cs.flatMap fun c =>
    if isControlOrBeyond c || isReserved c then (String.utf8EncodeChar c).flatMap escapeByte
    else [c]

/-- The byte that two hexadecimal digits stand for. -/
def escapedByte? (high low : Char) : Option UInt8 :=
  match Text.hexValue? high, Text.hexValue? low with
  | some h, some l => some (16 * h + l).toUInt8
  | _, _ => none

/-- The bytes of a text whose escapes are undone. -/
def unescape : List Char → List UInt8
  | '%' :: a :: b :: rest =>
    match escapedByte? a b with
    | some byte => byte :: unescape rest
    | none => String.utf8EncodeChar '%' ++ unescape (a :: b :: rest)
  | c :: rest => String.utf8EncodeChar c ++ unescape rest
  | [] => []

/-- The text whose escapes are undone, if the bytes are text. -/
def unescapeText? (cs : List Char) : Option String :=
  String.fromUTF8? ⟨(unescape cs).toArray⟩

/-! ## Reserved characters -/

/-- No character is reserved. -/
def reservedNowhere (_ : Char) : Bool := false

/-- The characters that are escaped in a fragment. -/
def reservedInFragment (c : Char) : Bool :=
  c = ' ' || c = '"' || c = '<' || c = '>' || c.toNat = 0x60

/-- The characters that are escaped in a path. -/
def reservedInPath (c : Char) : Bool :=
  reservedInFragment c || c = '#' || c = '?' || c.toNat = 0x7B || c.toNat = 0x7D

/-- The characters that are escaped in the name and the password of a user. -/
def reservedInUser (c : Char) : Bool :=
  reservedInPath c || ['/', ':', ';', '=', '@', '[', '\\', ']', '^', '|'].contains c

/-- The characters that are escaped in a query; the single quote only in addresses of the web. -/
def reservedInQuery (isWeb : Bool) (c : Char) : Bool :=
  c = ' ' || c = '"' || c = '#' || c = '<' || c = '>' || (isWeb && c = '\'')

/-- Text without anything to escape stays as it is. -/
theorem escape_of_plain {isReserved : Char → Bool} {cs : List Char}
    (h : ∀ c ∈ cs, isControlOrBeyond c = false ∧ isReserved c = false) :
    escape isReserved cs = cs := by
  induction cs with
  | nil => rfl
  | cons c rest ih =>
    have hc := h c (by simp)
    have hrest := ih fun d hd => h d (by simp [hd])
    simp only [escape, List.flatMap_cons] at hrest ⊢
    rw [hrest]
    simp [hc.1, hc.2]

/-! ## Kinds of servers -/

/-- A server. -/
inductive Server where
  | named (name : String)
  /-- A number of 32 bits. -/
  | numbered (number : Nat)
  /-- Eight groups of 16 bits. -/
  | grouped (groups : List Nat)
deriving DecidableEq, Repr

/-! ## Numbers of 32 bits -/

/-- The number that digits to a base write. -/
def numberToBase? (base : Nat) (digits : List Char) : Option Nat :=
  digits.foldl
    (fun number? c =>
      match number?, Text.hexValue? c with
      | some number, some value => if value < base then some (base * number + value) else none
      | _, _ => none)
    (some 0)

/-- The number of a part: hexadecimal behind `0x`, octal behind another zero. -/
def partNumber? : List Char → Option Nat
  | [] => none
  | '0' :: 'x' :: digits => numberToBase? 16 digits
  | '0' :: 'X' :: digits => numberToBase? 16 digits
  | '0' :: digit :: digits => numberToBase? 8 (digit :: digits)
  | digits => numberToBase? 10 digits

/-- The parts of a name; a point at the end does not count. -/
def partsOf (name : List Char) : List (List Char) :=
  let parts := Text.pieces '.' name
  if parts.length ≠ 1 ∧ parts.getLast? = some [] then parts.dropLast else parts

/-- Whether a name has to be a number, because its last part is one. -/
def endsInNumber (name : List Char) : Bool :=
  match (partsOf name).getLast? with
  | none => false
  | some part => (!part.isEmpty && part.all isDigit) || (partNumber? part).isSome

/-- Puts parts together: every part but the last is one byte, and the last one is all the rest. -/
def joinParts? (places : Nat) : List Nat → Option Nat
  | [] => none
  | [last] => if last < twoTo (8 * places) then some last else none
  | part :: rest =>
    if part < 256 then
      (joinParts? (places - 1) rest).map (part * twoTo (8 * (places - 1)) + ·)
    else none

/-- The number of 32 bits that a name is. -/
def readNumber? (name : List Char) : Option Nat :=
  let parts := partsOf name
  if 4 < parts.length then none else (parts.mapM partNumber?).bind (joinParts? 4)

/-- The text of a number of 32 bits. -/
def numberText (number : Nat) : String :=
  ".".intercalate ([24, 16, 8, 0].map fun place => toString (number / twoTo place % 256))

/-! ## Numbers of 128 bits -/

/-- One hexadecimal group. -/
def readGroup? (digits : List Char) : Option Nat :=
  if digits.isEmpty || 4 < digits.length then none else numberToBase? 16 digits

/-- One of four decimal numbers. -/
def readByte? (digits : List Char) : Option Nat :=
  if digits.isEmpty || !digits.all isDigit || (digits.length ≠ 1 && digits.head? = some '0') then
    none
  else if digitsValue digits < 256 then some (digitsValue digits)
  else none

/-- The two groups that four decimal numbers write. -/
def readBytes? (text : List Char) : Option (List Nat) :=
  match (Text.pieces '.' text).mapM readByte? with
  | some [a, b, c, d] => some [256 * a + b, 256 * c + d]
  | _ => none

/-- The groups of some texts, the last of which may be four decimal numbers if it is the end. -/
def readGroups? (isEnd : Bool) : List (List Char) → Option (List Nat)
  | [] => some []
  | [last] =>
    if isEnd && last.contains '.' then readBytes? last
    else (readGroup? last).map fun group => [group]
  | text :: rest =>
    match readGroup? text, readGroups? isEnd rest with
    | some group, some groups => some (group :: groups)
    | _, _ => none

/-- The groups of a text, which may be empty. -/
def readSide? (isEnd : Bool) (text : List Char) : Option (List Nat) :=
  if text.isEmpty then some [] else readGroups? isEnd (Text.pieces ':' text)

/-- The text before two colons, and the text behind them. -/
def splitAtColons : List Char → List Char × Option (List Char)
  | ':' :: ':' :: rest => ([], some rest)
  | c :: rest =>
    match splitAtColons rest with
    | (before, behind) => (c :: before, behind)
  | [] => ([], none)

/-- The eight groups of a text. -/
def readEight? (text : List Char) : Option (List Nat) :=
  match splitAtColons text with
  | (whole, none) =>
    (readSide? true whole).bind fun groups => if groups.length = 8 then some groups else none
  | (before, some behind) =>
    match readSide? false before, readSide? true behind with
    | some left, some right =>
      if left.length + right.length < 8 then
        some (left ++ List.replicate (8 - left.length - right.length) 0 ++ right)
      else none
    | _, _ => none

/-- The number of zeros at the beginning. -/
def leadingZeros (groups : List Nat) : Nat := (groups.takeWhile (· = 0)).length

/-- Where the longest run of zeros begins, and how long it is; the first one of several. -/
def longestZeros : List Nat → Nat × Nat
  | [] => (0, 0)
  | group :: rest =>
    let own := leadingZeros (group :: rest)
    let (start, length) := longestZeros rest
    if length ≤ own then (0, own) else (start + 1, length)

/-- Groups with colons between them. -/
def groupsText (groups : List Nat) : String := ":".intercalate (groups.map Text.hexDigits)

/-- The text of eight groups. Two colons stand for the longest run of zeros, if it is a run. -/
def eightText (groups : List Nat) : String :=
  let (start, length) := longestZeros groups
  if length < 2 then groupsText groups
  else groupsText (groups.take start) ++ "::" ++ groupsText (groups.drop (start + length))

/-! ## Servers -/

namespace Server

/-- The text of a server. -/
def text : Server → String
  | named name => name
  | numbered number => numberText number
  | grouped groups => "[" ++ eightText groups ++ "]"

/-- Reads what stands in brackets, if a bracket is open. -/
def readBrackets? (inside : List Char) : Option Server :=
  if inside.getLast? = some ']' then (readEight? inside.dropLast).map grouped else none

/-- Reads a server of the web. -/
def readWeb? (cs : List Char) : Option Server :=
  match cs with
  | '[' :: inside => readBrackets? inside
  | _ =>
    match (unescapeText? cs).bind fun name => Domain.canonical? name.toList with
    | none => none
    | some name =>
      if name.isEmpty then none
      else if endsInNumber name then (readNumber? name).map numbered
      else some (named (String.ofList name))

/-- Whether a character may not stand in any name. -/
def isForbidden (c : Char) : Bool :=
  c = '\x00' || c = '\t' || c = '\n' || c = '\r' ||
    (Domain.reservedChars.contains c && c ≠ '%')

/-- Reads a server of another scheme. -/
def readOther? (cs : List Char) : Option Server :=
  match cs with
  | '[' :: inside => readBrackets? inside
  | _ =>
    if cs.any isForbidden then none
    else some (named (String.ofList (escape reservedNowhere cs)))

end Server

end PageSketch.Web
