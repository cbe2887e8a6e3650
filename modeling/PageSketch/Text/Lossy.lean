/-!
# Text from bytes that may be malformed

UTF-8 is read by a machine that takes one byte at a time. Where the bytes stop making sense, the
longest run that could still have begun a character becomes one replacement character. A byte order
mark chooses the encoding and is not part of the text.
-/

namespace PageSketch.Text

/-- The character that stands for malformed bytes. -/
def replacement : Char := '\uFFFD'

/-! ## UTF-8 -/

/-- Where the machine stands: between characters, or inside one of which `missing` bytes are still
to come, the next one between `least` and `greatest`. -/
inductive Utf8State where
  | between
  | inside (missing : Nat) (code : Nat) (least greatest : Nat)
deriving DecidableEq, Repr

/-- Takes a byte between characters. -/
def beginChar (b : Nat) : List Char × Utf8State :=
  if b < 0x80 then ([Char.ofNat b], .between)
  else if b < 0xC2 then ([replacement], .between)
  else if b < 0xE0 then ([], .inside 1 (b - 0xC0) 0x80 0xBF)
  else if b = 0xE0 then ([], .inside 2 0 0xA0 0xBF)
  else if b = 0xED then ([], .inside 2 0xD 0x80 0x9F)
  else if b < 0xF0 then ([], .inside 2 (b - 0xE0) 0x80 0xBF)
  else if b = 0xF0 then ([], .inside 3 0 0x90 0xBF)
  else if b < 0xF4 then ([], .inside 3 (b - 0xF0) 0x80 0xBF)
  else if b = 0xF4 then ([], .inside 3 4 0x80 0x8F)
  else ([replacement], .between)

/-- Takes a byte. -/
def Utf8State.step : Utf8State → Nat → List Char × Utf8State
  | .between, b => beginChar b
  | .inside missing code least greatest, b =>
    if least ≤ b ∧ b ≤ greatest then
      let code' := 64 * code + (b - 0x80)
      if missing ≤ 1 then ([Char.ofNat code'], .between)
      else ([], .inside (missing - 1) code' 0x80 0xBF)
    else
      let (cs, state) := beginChar b
      (replacement :: cs, state)

/-- The characters of bytes, from a state on. -/
def utf8CharsFrom : Utf8State → List Nat → List Char
  | .between, [] => []
  | .inside _ _ _ _, [] => [replacement]
  | state, b :: rest => (state.step b).1 ++ utf8CharsFrom (state.step b).2 rest

/-! ## UTF-16 -/

/-- The code units of bytes in pairs, `join` putting two bytes together. A byte left over becomes
no unit. -/
def codeUnits (join : Nat → Nat → Nat) : List Nat → List (Option Nat)
  | [] => []
  | [_] => [none]
  | a :: b :: rest => some (join a b) :: codeUnits join rest

/-- The characters of code units; surrogates without a partner are replaced. A byte left over
belongs to the first half of a pair if it stands behind one. -/
def utf16Chars : List (Option Nat) → List Char
  | [] => []
  | none :: rest => replacement :: utf16Chars rest
  | some high :: some low :: rest =>
    if 0xD800 ≤ high ∧ high < 0xDC00 then
      if 0xDC00 ≤ low ∧ low < 0xE000 then
        Char.ofNat (0x10000 + (high - 0xD800) * 0x400 + (low - 0xDC00)) :: utf16Chars rest
      else replacement :: utf16Chars (some low :: rest)
    else if 0xDC00 ≤ high ∧ high < 0xE000 then replacement :: utf16Chars (some low :: rest)
    else Char.ofNat high :: utf16Chars (some low :: rest)
  | [some unit, none] =>
    if 0xD800 ≤ unit ∧ unit < 0xDC00 then [replacement]
    else if 0xDC00 ≤ unit ∧ unit < 0xE000 then [replacement, replacement]
    else [Char.ofNat unit, replacement]
  | some unit :: rest =>
    (if 0xD800 ≤ unit ∧ unit < 0xE000 then replacement else Char.ofNat unit) :: utf16Chars rest

/-! ## Any bytes -/

/-- The characters of bytes. -/
def lossyChars : List Nat → List Char
  | 0xEF :: 0xBB :: 0xBF :: rest => utf8CharsFrom .between rest
  | 0xFE :: 0xFF :: rest => utf16Chars (codeUnits (fun a b => 256 * a + b) rest)
  | 0xFF :: 0xFE :: rest => utf16Chars (codeUnits (fun a b => 256 * b + a) rest)
  | bytes => utf8CharsFrom .between bytes

/-- The text of bytes. -/
def lossy (bytes : ByteArray) : String :=
  String.ofList (lossyChars (bytes.data.toList.map UInt8.toNat))

/-- Bytes below 128 are characters. -/
theorem utf8CharsFrom_ascii {bytes : List Nat} (h : ∀ b ∈ bytes, b < 0x80) :
    utf8CharsFrom .between bytes = bytes.map Char.ofNat := by
  induction bytes with
  | nil => rfl
  | cons b rest ih =>
    have hb : beginChar b = ([Char.ofNat b], .between) := by
      simp [beginChar, h b (by simp)]
    simp [utf8CharsFrom, Utf8State.step, hb, ih fun c hc => h c (by simp [hc])]

end PageSketch.Text
