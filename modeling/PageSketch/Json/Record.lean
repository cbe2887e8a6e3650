import PageSketch.Json.Reader
import PageSketch.Text.Quoted

/-!
# Reading records

A record is a JSON object with fixed fields, or an array of those fields in their order. Fields
that a record does not have are passed over in the object form and refused in the array form.
`RecordReader.read` follows the text, so the first fault in the order of the text is the one that
is reported; a mismatch counts where the mismatching value begins. An object of texts is read by its
own functions, because there a refusal keeps the number of bytes that had been read when it was noticed.
-/

namespace PageSketch.Json

/-! ## What a reader refuses -/

/-- What stands where something else was wanted. -/
inductive Found where
  | null
  | bool (value : Bool)
  | number (value : Number)
  | string (value : String)
  | sequence
  | map

/-- What was wanted. -/
inductive Wanted where
  | text
  | sequence
  | map
  | single
  | record (name : String)

/-- A cause for refusing a text as a typed value. -/
inductive DecodeError where
  | fault (fault : Fault)
  | faultInPassing (fault : Fault)
  | mismatch (found : Found) (wanted : Wanted)
  | missingField (field : String)
  | repeatedField (field : String)
  /-- An array ends before the field with this index, which the record needs. -/
  | tooFewItems (index : Nat) (name : String) (fieldCount : Nat)
  | tooManyItems (count : Nat)
  /-- A child that is neither a component nor text, a number or a truth value. -/
  | noChild

/-- The wording of what was found. -/
def Found.message : Found → String
  | null => "null"
  | bool b => "boolean `" ++ (if b then "true" else "false") ++ "`"
  | number (.integer n _ _) => "integer `" ++ toString n ++ "`"
  | number (.float x) => "floating point `" ++ DecimalStyle.jsonDouble.text x ++ "`"
  | string text => "string " ++ Text.quoted text
  | sequence => "sequence"
  | map => "map"

/-- The wording of what was wanted. -/
def Wanted.message : Wanted → String
  | text => "a string"
  | sequence => "a sequence"
  | map => "a map"
  | single => "f32"
  | record name => "struct " ++ name

/-- The message of a refusal, without a position. -/
def DecodeError.message : DecodeError → String
  | fault f => f.message
  | faultInPassing f => f.messageInPassing
  | mismatch found wanted => "invalid type: " ++ found.message ++ ", expected " ++ wanted.message
  | missingField field => "missing field `" ++ field ++ "`"
  | repeatedField field => "duplicate field `" ++ field ++ "`"
  | tooFewItems index name fieldCount =>
    "invalid length " ++ toString index ++ ", expected struct " ++ name ++ " with " ++
      toString fieldCount ++ " elements"
  | tooManyItems count =>
    "invalid length " ++ toString count ++ ", expected fewer elements in array"
  | noChild => "data did not match any variant of untagged enum Child"

/-! ## Mismatches -/

/-- How a value is described when something else was wanted. -/
def Value.found : Value → Found
  | .null => .null
  | .bool b => .bool b
  | .number n => .number n
  | .string s => .string s
  | .array _ => .sequence
  | .object _ => .map

/-- The refusal of a value that is not what was wanted. -/
def Value.mismatch (value : Value) (wanted : Wanted) : DecodeError := .mismatch value.found wanted

/-- The refusal of a tree that is not what was wanted: a scalar is read first, so its own faults
come before the mismatch. -/
def Tree.mismatch (wanted : Wanted) : Tree → DecodeError
  | .null _ => .mismatch .null wanted
  | .bool b _ => .mismatch (.bool b) wanted
  | .number numeral stop =>
    match numeral.read stop with
    | .ok n => .mismatch (.number n) wanted
    | .error e => .fault e.fault
  | .string token =>
    match token.text with
    | .ok s => .mismatch (.string s) wanted
    | .error e => .fault e.fault
  | .array _ _ => .mismatch .sequence wanted
  | .object _ _ => .mismatch .map wanted
  | .broken fault _ => .fault fault

/-! ## Plain fields -/

/-- A reader of a part of a tree, given the depth that is left. -/
abbrev TreeReader (α : Type) := Nat → Tree → Except DecodeError α

/-- Reads a text. -/
def readText : TreeReader String := fun _ tree =>
  match tree with
  | .string token =>
    match token.text with
    | .ok s => .ok s
    | .error e => .error (.fault e.fault)
  | other => .error (other.mismatch .text)

/-- Reads any value. -/
def readAny : TreeReader Value := fun depth tree =>
  match tree.value depth with
  | .ok v => .ok v
  | .error e => .error (.fault e.fault)

/-- Reads a number as a single-precision one. -/
def readSingle : TreeReader (ExtendedBinary .single) := fun _ tree =>
  match tree with
  | .number numeral stop =>
    match numeral.read stop with
    | .ok n => .ok n.toSingle
    | .error e => .error (.fault e.fault)
  | other => .error (other.mismatch .single)

/-- Reads a part that may be null, which stands for the default. -/
def orDefault {α : Type} (fallback : α) (reader : TreeReader α) : TreeReader α := fun depth tree =>
  match tree with
  | .null _ => .ok fallback
  | other => reader depth other

/-- Reads the members of an object, with every key kept once. -/
def readMap : TreeReader (List (String × Value)) := fun depth tree =>
  match tree with
  | .object _ members =>
    if depth ≤ 1 then .error (.fault .tooDeep)
    else
      match members.values (depth - 1) with
      | .ok found => .ok (Value.dedupMembers [] found)
      | .error e => .error (.fault e.fault)
  | other => .error (other.mismatch .map)

/-- Reads the items one after another. -/
def Items.readAll {α : Type} (reader : TreeReader α) (depth : Nat) :
    Items → Except DecodeError (List α)
  | .closed _ => .ok []
  | .broken fault _ => .error (.fault fault)
  | .item value rest =>
    match reader depth value with
    | .error e => .error e
    | .ok a => (rest.readAll reader depth).map (a :: ·)

/-- Reads an array of parts. -/
def readList {α : Type} (reader : TreeReader α) : TreeReader (List α) := fun depth tree =>
  match tree with
  | .array _ items =>
    if depth ≤ 1 then .error (.fault .tooDeep) else items.readAll reader (depth - 1)
  | other => .error (other.mismatch .sequence)

/-! ## Records -/

/-- A field of a record under construction. -/
structure FieldReader (α : Type) where
  name : String
  isRequired : Bool
  store : Nat → Tree → α → Except DecodeError α

/-- A field whose part is read and then put into the record. -/
def FieldReader.of {α β : Type} (name : String) (isRequired : Bool) (reader : TreeReader β)
    (set : β → α → α) : FieldReader α :=
  ⟨name, isRequired, fun depth tree record => (reader depth tree).map fun part => set part record⟩

/-- A record: its name in messages, its fields in order, and the record before any field. -/
structure RecordReader (α : Type) where
  name : String
  fields : List (FieldReader α)
  initial : α

/-- Reads the members into the record, `seen` being the fields read so far. -/
def Members.readFields {α : Type} (fields : List (FieldReader α)) (depth : Nat)
    (seen : List String) (record : α) : Members → Except DecodeError (List String × α)
  | .closed _ => .ok (seen, record)
  | .broken fault _ => .error (.fault fault)
  | .member key value rest =>
    match key.text with
    | .error e => .error (.fault e.fault)
    | .ok name =>
      match fields.find? fun field => field.name == name with
      | none =>
        match value.hardFault? with
        | some fault => .error (.faultInPassing fault)
        | none => rest.readFields fields depth seen record
      | some field =>
        if seen.contains name then .error (.repeatedField name)
        else
          match field.store depth value record with
          | .error e => .error e
          | .ok record' => rest.readFields fields depth (name :: seen) record'

/-- The refusal of items behind the last field. -/
def Items.leftover : Items → Option DecodeError
  | .closed _ => none
  | .broken .commaBeforeBracket _ => some (.fault .commaBeforeBracket)
  | .broken .arrayUnclosed _ => some (.fault .arrayUnclosed)
  | .broken _ _ => some (.fault .extraText)
  | .item _ _ => some (.fault .extraText)

/-- Reads the items into the fields in their order; also gives the fields without an item. -/
def Items.readFields {α : Type} (depth : Nat) (record : α) :
    List (FieldReader α) → Items → Except DecodeError (List (FieldReader α) × α)
  | [], items =>
    match items.leftover with
    | some e => .error e
    | none => .ok ([], record)
  | fields, .closed _ => .ok (fields, record)
  | _, .broken fault _ => .error (.fault fault)
  | field :: fields, .item value rest =>
    match field.store depth value record with
    | .error e => .error e
    | .ok record' => rest.readFields depth record' fields

namespace RecordReader

variable {α : Type}

/-- The first required field that was not seen. -/
def missing? (reader : RecordReader α) (seen : List String) : Option String :=
  (reader.fields.find? fun field => field.isRequired && !seen.contains field.name).map (·.name)

/-- The index of the first required field among those without an item. -/
def missingIndex? (reader : RecordReader α) (left : List (FieldReader α)) : Option Nat :=
  (left.findIdx? fun field => field.isRequired).map fun index =>
    reader.fields.length - left.length + index

/-- Reads a record in either form. -/
def read (reader : RecordReader α) : TreeReader α := fun depth tree =>
  match tree with
  | .object _ members =>
    if depth ≤ 1 then .error (.fault .tooDeep)
    else
      match members.readFields reader.fields (depth - 1) [] reader.initial with
      | .error e => .error e
      | .ok (seen, record) =>
        match reader.missing? seen with
        | some field => .error (.missingField field)
        | none => .ok record
  | .array _ items =>
    if depth ≤ 1 then .error (.fault .tooDeep)
    else
      match items.readFields (depth - 1) reader.initial reader.fields with
      | .error e => .error e
      | .ok (left, record) =>
        match reader.missingIndex? left with
        | some index => .error (.tooFewItems index reader.name reader.fields.length)
        | none => .ok record
  | other => .error (other.mismatch (.record reader.name))

end RecordReader

/-! ## Whole texts -/

/-- Reads a document that has nothing behind its value. -/
def Document.decode {α : Type} (document : Document) (reader : TreeReader α) :
    Except DecodeError α :=
  match reader maxDepth document.root with
  | .error e => .error e
  | .ok a =>
    match document.extraFault? with
    | some e => .error (.fault e.fault)
    | none => .ok a

/-- Reads a whole text. -/
def decodeText {α : Type} (reader : TreeReader α) (text : String) : Except DecodeError α :=
  (Document.read text.toList).decode reader

/-! ## Objects of texts -/

/-- A refusal and the number of bytes read when it is noticed. -/
abbrev RefusalAt := DecodeError × Nat

/-- The offset at which a reader notices that a tree is not what it wants: a scalar has been read
by then, an array or object has not been entered. -/
def Tree.refusalOffset : Tree → Nat
  | .null stop => stop
  | .bool _ stop => stop
  | .number numeral stop =>
    match numeral.read stop with
    | .ok _ => stop
    | .error e => e.offset
  | .string token =>
    match token.text with
    | .ok _ => token.stop
    | .error e => e.offset
  | .array start _ => start
  | .object start _ => start
  | .broken _ offset => offset

/-- Reads a text. -/
def Tree.textAt : Tree → Except RefusalAt String
  | .string token =>
    match token.text with
    | .ok text => .ok text
    | .error e => .error (.fault e.fault, e.offset)
  | tree => .error (tree.mismatch .text, tree.refusalOffset)

/-- Reads members whose values are texts. -/
def Members.textsAt : Members → Except RefusalAt (List (String × String))
  | .closed _ => .ok []
  | .broken fault offset => .error (.fault fault, offset)
  | .member key value rest =>
    match key.text with
    | .error e => .error (.fault e.fault, e.offset)
    | .ok name =>
      match value.textAt with
      | .error refusal => .error refusal
      | .ok text =>
        match rest.textsAt with
        | .error refusal => .error refusal
        | .ok entries => .ok ((name, text) :: entries)

/-- Reads an object of texts. -/
def Tree.mapAt : Tree → Except RefusalAt (List (String × String))
  | .object _ members => members.textsAt
  | tree => .error (tree.mismatch .map, tree.refusalOffset)

/-- The keys and texts of a JSON object, in the order of the text. Nothing may stand behind it. -/
def readTextMap (text : List Char) : Except RefusalAt (List (String × String)) :=
  let document := Document.read text
  match document.root.mapAt with
  | .error refusal => .error refusal
  | .ok entries =>
    match document.extraFault? with
    | some e => .error (.fault e.fault, e.offset)
    | none => .ok entries

end PageSketch.Json
