/-!
# Text beyond ASCII in ASCII

Punycode writes the ASCII characters of a text first, and behind a hyphen where the other characters
are put in and which ones they are. They are put in by ascending code points, and each one is told
by its distance from the one before it: the number of places that are passed over, a full round
through the text being one step to the next code point. The distances are written in digits to the
base 36, the lowest one first, and every digit has a threshold; a digit below its threshold is the
last one. The thresholds are adapted to the distances.
-/

namespace PageSketch.Web.Punycode

/-! ## Digits and thresholds -/

/-- The digit for a number below 36: the letters come first. -/
def digit (n : Nat) : Char :=
  if n < 26 then Char.ofNat ('a'.toNat + n) else Char.ofNat ('0'.toNat + (n - 26))

/-- The value of a digit. -/
def value? (c : Char) : Option Nat :=
  if 'a' ≤ c && c ≤ 'z' then some (c.toNat - 'a'.toNat)
  else if 'A' ≤ c && c ≤ 'Z' then some (c.toNat - 'A'.toNat)
  else if '0' ≤ c && c ≤ '9' then some (c.toNat - '0'.toNat + 26)
  else none

/-- The threshold of a digit, told by its place and the bias. -/
def threshold (bias place : Nat) : Nat := min 26 (max 1 (36 * (place + 1) - bias))

/-- A threshold is positive. -/
theorem threshold_pos (bias place : Nat) : 1 ≤ threshold bias place := by
  unfold threshold
  omega

/-- A threshold is smaller than the base. -/
theorem threshold_lt (bias place : Nat) : threshold bias place < 36 := by
  unfold threshold
  omega

/-- The bias for a distance that is still to be divided. -/
def biasFrom (distance base : Nat) : Nat :=
  if 455 < distance then biasFrom (distance / 35) (base + 36)
  else base + 36 * distance / (distance + 38)
termination_by distance
decreasing_by omega

/-- The bias behind a distance, when the text has `size` characters. -/
def adapt (distance size : Nat) (isFirst : Bool) : Nat :=
  let scaled := if isFirst then distance / 700 else distance / 2
  biasFrom (scaled + scaled / size) 0

/-- The bias at the beginning. -/
def initialBias : Nat := 72

/-- The first code point beyond ASCII. -/
def firstCode : Nat := 0x80

/-! ## Writing -/

/-- The digits of a distance, from a place on. -/
def digitsFrom (bias place distance : Nat) : List Char :=
  let bound := threshold bias place
  if distance < bound then [digit distance]
  else
    digit (bound + (distance - bound) % (36 - bound)) ::
      digitsFrom bias (place + 1) ((distance - bound) / (36 - bound))
termination_by distance
decreasing_by
  have := threshold_pos bias place
  have := Nat.div_le_self (distance - threshold bias place) (36 - threshold bias place)
  omega

/-- How far a text has been written: the digits so far, the distance since the last character that
was put in, the bias, and the number of characters that are there. -/
structure Writing where
  digits : List Char
  distance : Nat
  bias : Nat
  size : Nat

/-- Passes over a character, or puts it in if it is the one that is due. -/
def Writing.pass (basic code : Nat) (writing : Writing) (c : Nat) : Writing :=
  if c < code then { writing with distance := writing.distance + 1 }
  else if c = code then
    ⟨writing.digits ++ digitsFrom writing.bias 0 writing.distance, 0,
      adapt writing.distance (writing.size + 1) (writing.size == basic), writing.size + 1⟩
  else writing

/-- Puts in the characters of ascending code points; `due` is the code point that is due when the
round begins. -/
def Writing.putAll (text : List Nat) (basic : Nat) : Nat → List Nat → Writing → Writing
  | _, [], writing => writing
  | due, code :: codes, writing =>
    let reached := { writing with
      distance := writing.distance + (code - due) * (writing.size + 1) }
    let passed := text.foldl (pass basic code) reached
    putAll text basic (code + 1) codes { passed with distance := passed.distance + 1 }

/-- Inserts a number into ascending numbers, unless it is there. -/
def insertAscending (n : Nat) : List Nat → List Nat
  | [] => [n]
  | m :: rest => if n < m then n :: m :: rest else if n = m then m :: rest
    else m :: insertAscending n rest

/-- The code points beyond ASCII, in ascending order and each of them once. -/
def codesBeyond (text : List Nat) : List Nat :=
  (text.filter (firstCode ≤ ·)).foldr insertAscending []

/-- The ASCII form of a text. -/
def encode (cs : List Char) : List Char :=
  let text := cs.map Char.toNat
  let basic := cs.filter fun c => c.toNat < firstCode
  let writing := Writing.putAll text basic.length firstCode (codesBeyond text)
    ⟨[], 0, initialBias, basic.length⟩
  basic ++ (if basic.isEmpty then [] else ['-']) ++ writing.digits

/-! ## Reading -/

/-- How far a text has been read: the characters so far, the code point of the last one that was put
in and the index behind it, the bias, and of the next digit the place, the weight, and the distance
that the digits before it make. -/
structure Reading where
  text : List Char
  code : Nat
  index : Nat
  bias : Nat
  place : Nat
  weight : Nat
  distance : Nat

/-- Puts in the character at the distance that has been read. -/
def Reading.putIn? (reading : Reading) : Option Reading :=
  let size := reading.text.length + 1
  let reached := reading.index + reading.distance
  let code := reading.code + reached / size
  let index := reached % size
  if code.isValidChar then
    some
      ⟨reading.text.take index ++ Char.ofNat code :: reading.text.drop index, code, index + 1,
        adapt reading.distance size (reading.index == 0), 0, 1, 0⟩
  else none

/-- Reads the digits of the distances. -/
def Reading.readAll (reading : Reading) : List Char → Option (List Char)
  | [] => if reading.place = 0 then some reading.text else none
  | c :: rest =>
    match value? c with
    | none => none
    | some n =>
      let taken := { reading with distance := reading.distance + n * reading.weight }
      let bound := threshold reading.bias reading.place
      if n < bound then
        match taken.putIn? with
        | some next => next.readAll rest
        | none => none
      else
        readAll
          { taken with place := reading.place + 1, weight := reading.weight * (36 - bound) } rest

/-- The text of an ASCII form: the characters before the last hyphen are ASCII. -/
def decode (cs : List Char) : Option (List Char) :=
  let digits := (cs.reverse.takeWhile (· ≠ '-')).reverse
  let basic := cs.take (cs.length - digits.length - 1)
  if basic.isEmpty then Reading.readAll ⟨[], firstCode, 0, initialBias, 0, 1, 0⟩ cs
  else Reading.readAll ⟨basic, firstCode, 0, initialBias, 0, 1, 0⟩ digits

end PageSketch.Web.Punycode
