import PageSketch.Text.Digits
import PageSketch.Text.Search

/-!
# Tables as text

A large table of code points is kept as lines of text, with blanks between its entries and all
numbers in hexadecimal.

A table of ranges has the entries `A` and `A-B`, for a code point and for a range with both ends
included. A table of targets has the entries `A>T`, `A-B>T`, `A/B>T` and `A=B>T`: the target of a
code point, or of all code points of a range, or of every second one, where the targets move along
with the code points, or of a range in which all have the same target. A target has points between
its code points, and targets with commas between them belong to code points that follow one
another.
-/

namespace PageSketch.Text

/-- The entries of a table. -/
def entriesOf (lines : List String) : List (List Char) :=
  lines.flatMap fun line => pieces ' ' line.toList

/-! ## Ranges -/

/-- The range of an entry. -/
def readRange (entry : List Char) : Nat × Nat :=
  match pieces '-' entry with
  | [first, last] => (hexNumber first, hexNumber last)
  | _ => (hexNumber entry, hexNumber entry)

/-- The ranges of a table. -/
def rangesOf (lines : List String) : List (Nat × Nat) := (entriesOf lines).map readRange

/-! ## Targets -/

/-- Every `stride`-th code point from `first` to `last`, with the target of the first one. If the
targets do not move, it is the target of all. -/
structure TargetRun where
  first : Nat
  last : Nat
  stride : Nat
  moves : Bool
  target : List Nat

/-- The target of a code point in the run, if it is one of them. -/
def TargetRun.target? (run : TargetRun) (code : Nat) : Option (List Nat) :=
  if run.first ≤ code ∧ code ≤ run.last ∧ (code - run.first) % run.stride = 0 then
    some (if run.moves then run.target.map (· + (code - run.first)) else run.target)
  else none

/-- The code points of a target. -/
def readTarget (text : List Char) : List Nat := (pieces '.' text).map hexNumber

/-- The run of the code points of an entry. -/
def readRun (key : List Char) (target : List Nat) : TargetRun :=
  let first := hexNumber (key.takeWhile isHexDigit)
  match key.dropWhile isHexDigit with
  | '-' :: last => ⟨first, hexNumber last, 1, true, target⟩
  | '/' :: last => ⟨first, hexNumber last, 2, true, target⟩
  | '=' :: last => ⟨first, hexNumber last, 1, false, target⟩
  | _ => ⟨first, first, 1, false, target⟩

/-- The runs of an entry: one, or one for each of its targets. -/
def readRuns (entry : List Char) : List TargetRun :=
  match pieces '>' entry with
  | [key, targets] =>
    match (pieces ',' targets).map readTarget with
    | [target] => [readRun key target]
    | several =>
      several.zipIdx.map fun (target, index) =>
        ⟨hexNumber key + index, hexNumber key + index, 1, false, target⟩
  | _ => []

/-- The runs of a table. -/
def targetsOf (lines : List String) : List TargetRun := (entriesOf lines).flatMap readRuns

/-- The target of a code point in a table. -/
def lookupTarget (runs : List TargetRun) (code : Nat) : Option (List Nat) :=
  runs.findSome? fun run => run.target? code

end PageSketch.Text
