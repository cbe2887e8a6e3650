import PageSketch.Json.Fault
import PageSketch.Json.Numeral
import PageSketch.Json.Value

/-!
# Texts as trees

The structure of a text as JSON, in the order of the text and with repeated keys. Where the
structure breaks off, the tree has a broken end with the fault; nothing follows it. What depends on
the reader is left open: how deep it goes, whether numbers are in range, and whether the escapes of
a string pair up. Every part holds the offsets that the messages of a reader need.
-/

namespace PageSketch.Json

/-! ## Strings -/

/-- One element of a string. -/
inductive TextUnit where
  /-- A character, and the offset at which a reader gives up that wants a `u` escape here. -/
  | char (value : Char) (giveUp : Nat)
  /-- A `u` escape, and the offset behind it. -/
  | code (value : Nat) (stop : Nat)
deriving DecidableEq

/-- How a string ends. -/
inductive TextEnd where
  | closed (stop : Nat)
  | broken (fault : Fault) (offset : Nat)
deriving DecidableEq

/-- A string of the text, from behind its opening quote. -/
structure StringToken where
  units : List TextUnit
  ending : TextEnd
deriving DecidableEq

/-- Whether a code is the first half of a pair. -/
def isHighSurrogate (code : Nat) : Bool := 0xD800 ≤ code && code ≤ 0xDBFF

/-- Whether a code is the second half of a pair. -/
def isLowSurrogate (code : Nat) : Bool := 0xDC00 ≤ code && code ≤ 0xDFFF

/-- The character of a pair of surrogates. -/
def joinSurrogates (high low : Nat) : Char :=
  Char.ofNat (0x10000 + (high - 0xD800) * 0x400 + (low - 0xDC00))

/-- The fault of a string that ends behind a high surrogate. -/
def TextEnd.afterHigh : TextEnd → FaultAt
  | .closed stop => ⟨.unpairedSurrogate, stop⟩
  | .broken .controlCharacter offset => ⟨.unpairedSurrogate, offset⟩
  | .broken .unknownEscape offset => ⟨.unpairedSurrogate, offset⟩
  | .broken fault offset => ⟨fault, offset⟩

/-- The characters of a string: escapes of surrogates have to come in pairs. -/
def decodeUnits (ending : TextEnd) : List TextUnit → Except FaultAt (List Char)
  | [] =>
    match ending with
    | .closed _ => .ok []
    | .broken fault offset => .error ⟨fault, offset⟩
  | .char c _ :: rest => (decodeUnits ending rest).map (c :: ·)
  | .code n stop :: rest =>
    if isLowSurrogate n then .error ⟨.loneSurrogate, stop⟩
    else if isHighSurrogate n then
      match rest with
      | [] => .error ending.afterHigh
      | .char _ giveUp :: _ => .error ⟨.unpairedSurrogate, giveUp⟩
      | .code m stop' :: rest' =>
        if isLowSurrogate m then (decodeUnits ending rest').map (joinSurrogates n m :: ·)
        else .error ⟨.loneSurrogate, stop'⟩
    else (decodeUnits ending rest).map (Char.ofNat n :: ·)

namespace StringToken

/-- The text of a string. -/
def text (token : StringToken) : Except FaultAt String :=
  (decodeUnits token.ending token.units).map String.ofList

/-- The offset behind a string. -/
def stop (token : StringToken) : Nat :=
  match token.ending with
  | .closed stop => stop
  | .broken _ offset => offset

/-- The fault that breaks a string off, if one does; surrogates may stand alone. -/
def hardFault? (token : StringToken) : Option Fault :=
  match token.ending with
  | .closed _ => none
  | .broken fault _ => some fault

end StringToken

/-! ## Trees -/

mutual

/-- A value of the text. -/
inductive Tree where
  | null (stop : Nat)
  | bool (value : Bool) (stop : Nat)
  | number (numeral : Numeral) (stop : Nat)
  | string (token : StringToken)
  | array (start : Nat) (items : Items)
  | object (start : Nat) (members : Members)
  | broken (fault : Fault) (offset : Nat)

/-- The items of an array. -/
inductive Items where
  | closed (stop : Nat)
  | item (value : Tree) (rest : Items)
  | broken (fault : Fault) (offset : Nat)

/-- The members of an object. -/
inductive Members where
  | closed (stop : Nat)
  | member (key : StringToken) (value : Tree) (rest : Members)
  | broken (fault : Fault) (offset : Nat)

end

/-- A whole text: its value, and the offset at which a reader notices text behind it. -/
structure Document where
  root : Tree
  extra : Option Nat

/-! ## Passing over a value -/

mutual

/-- The fault at which the structure of a value breaks off, if it does. -/
def Tree.hardFault? : Tree → Option Fault
  | .null _ => none
  | .bool _ _ => none
  | .number _ _ => none
  | .string token => token.hardFault?
  | .array _ items => items.hardFault?
  | .object _ members => members.hardFault?
  | .broken fault _ => some fault

/-- The fault at which the structure of the items breaks off. -/
def Items.hardFault? : Items → Option Fault
  | .closed _ => none
  | .item value rest => value.hardFault?.or rest.hardFault?
  | .broken fault _ => some fault

/-- The fault at which the structure of the members breaks off. -/
def Members.hardFault? : Members → Option Fault
  | .closed _ => none
  | .member key value rest => (key.hardFault?.or value.hardFault?).or rest.hardFault?
  | .broken fault _ => some fault

end

/-! ## The value of a tree -/

/-- The value of a number literal that ends at `stop`. -/
def Numeral.read (numeral : Numeral) (stop : Nat) : Except FaultAt Number :=
  match numeral.value? with
  | some number => .ok number
  | none => .error ⟨.numberOutOfRange, stop - numeral.unreadDigits⟩

mutual

/-- The value of a tree for a reader that may enter `depth - 1` nested arrays and objects. The
first fault in the order of the text is reported. -/
def Tree.value (depth : Nat) : Tree → Except FaultAt Value
  | .null _ => .ok .null
  | .bool b _ => .ok (.bool b)
  | .number numeral stop => (numeral.read stop).map .number
  | .string token => token.text.map .string
  | .array start items =>
    if depth ≤ 1 then .error ⟨.tooDeep, start + 1⟩ else (items.values (depth - 1)).map .array
  | .object start members =>
    if depth ≤ 1 then .error ⟨.tooDeep, start + 1⟩ else (members.values (depth - 1)).map .object
  | .broken fault offset => .error ⟨fault, offset⟩

/-- The values of the items. -/
def Items.values (depth : Nat) : Items → Except FaultAt (List Value)
  | .closed _ => .ok []
  | .item value rest =>
    match value.value depth with
    | .error e => .error e
    | .ok v => (rest.values depth).map (v :: ·)
  | .broken fault offset => .error ⟨fault, offset⟩

/-- The keys and values of the members. -/
def Members.values (depth : Nat) : Members → Except FaultAt (List (String × Value))
  | .closed _ => .ok []
  | .member key value rest =>
    match key.text with
    | .error e => .error e
    | .ok k =>
      match value.value depth with
      | .error e => .error e
      | .ok v => (rest.values depth).map ((k, v) :: ·)
  | .broken fault offset => .error ⟨fault, offset⟩

end

/-- The depth of every reader: 127 nested arrays and objects are read, one more is not. -/
def maxDepth : Nat := 128

/-- The fault of text behind the value. -/
def Document.extraFault? (document : Document) : Option FaultAt :=
  document.extra.map fun offset => ⟨.extraText, offset⟩

/-- The value of a document that has nothing behind it. -/
def Document.value (document : Document) : Except FaultAt Value :=
  match document.root.value maxDepth with
  | .error e => .error e
  | .ok v =>
    match document.extraFault? with
    | some e => .error e
    | none => .ok v

end PageSketch.Json
