import PageSketch.Text.Composed.Tables

/-!
# Composed text

One character may be written in several ways: as one code point, or as a letter with marks, and
with the marks in several orders. `composed` makes one text of all of them. It takes every character
apart, puts the marks of a character in the order of their classes, and puts together again what
goes together.
-/

namespace PageSketch.Text

/-! ## Taking apart -/

/-- The letters of a syllable of Hangul: two, or three if it is closed. -/
def syllableLetters? (code : Nat) : Option (List Nat) :=
  if 0xAC00 ≤ code ∧ code ≤ 0xD7A3 then
    let index := code - 0xAC00
    let opened := [0x1100 + index / 588, 0x1161 + index % 588 / 28]
    some (if index % 28 = 0 then opened else opened ++ [0x11A7 + index % 28])
  else none

/-- What a character is made of, if it is made of others. -/
def parts? (code : Nat) : Option (List Nat) :=
  ((syllableLetters? code).or (lookupTarget composedPairs code)).or
    (lookupTarget brokenCharacters code)

/-- The most often that a part of a character can be taken apart again. -/
def deepestParts : Nat := 3

/-- A character taken apart, at most `depth` times. -/
def takeApart : Nat → Nat → List Nat
  | 0, code => [code]
  | depth + 1, code =>
    match parts? code with
    | none => [code]
    | some parts => parts.flatMap (takeApart depth)

/-! ## The order of marks -/

/-- Puts a character in front, behind the marks of smaller classes. -/
def placeMark (code : Nat) : List Nat → List Nat
  | [] => [code]
  | other :: rest =>
    if 0 < combiningClass other ∧ combiningClass other < combiningClass code then
      other :: placeMark code rest
    else code :: other :: rest

/-- The marks of every character in the order of their classes. -/
def orderMarks (codes : List Nat) : List Nat := codes.foldr placeMark []

/-! ## Putting together -/

/-- The syllable of Hangul that two parts make up. -/
def syllableOf? (first second : Nat) : Option Nat :=
  if 0x1100 ≤ first ∧ first < 0x1113 ∧ 0x1161 ≤ second ∧ second < 0x1176 then
    some (0xAC00 + (first - 0x1100) * 588 + (second - 0x1161) * 28)
  else if 0xAC00 ≤ first ∧ first ≤ 0xD7A3 ∧ (first - 0xAC00) % 28 = 0 ∧ 0x11A7 < second ∧
      second < 0x11C3 then
    some (first + (second - 0x11A7))
  else none

/-- The character that two others make up. -/
def compositionOf? (first second : Nat) : Option Nat :=
  (syllableOf? first second).or
    ((composedPairs.find? fun run => run.target == [first, second]).map TargetRun.first)

/-- Whether a character is kept from the one that it belongs to by the marks between them, the last
one first. -/
def isBlocked (marks : List Nat) (code : Nat) : Bool :=
  match marks with
  | [] => false
  | mark :: _ => combiningClass code ≤ combiningClass mark

/-- Puts together what goes together: `base` is the last character that is no mark, and `marks` are
the marks behind it, the last one first. -/
def putTogether : Option Nat → List Nat → List Nat → List Nat
  | none, _, [] => []
  | some base, marks, [] => base :: marks.reverse
  | none, marks, code :: rest =>
    if combiningClass code = 0 then putTogether (some code) [] rest
    else code :: putTogether none marks rest
  | some base, marks, code :: rest =>
    match if isBlocked marks code then none else compositionOf? base code with
    | some whole => putTogether (some whole) marks rest
    | none =>
      if combiningClass code = 0 then base :: marks.reverse ++ putTogether (some code) [] rest
      else putTogether (some base) (code :: marks) rest

/-! ## The whole text -/

/-- The first mark: below it nothing changes. -/
def firstMark : Nat := 0x300

/-- The composed form of a text. -/
def composed (cs : List Char) : List Char :=
  if cs.all fun c => c.toNat < firstMark then cs
  else
    (putTogether none []
      (orderMarks (cs.flatMap fun c => takeApart deepestParts c.toNat))).map Char.ofNat

/-- Text without marks is composed. -/
theorem composed_of_lt {cs : List Char} (h : ∀ c ∈ cs, c.toNat < firstMark) :
    composed cs = cs := by
  simp only [composed]
  rw [if_pos]
  simpa using h

end PageSketch.Text
