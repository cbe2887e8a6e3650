/-!
# Digits

Digits to the base sixteen are written in lower case, and read in both cases. Digits to the base 64
stand for bytes, four of them for three bytes; what is missing from the last three is shown by equals
signs.
-/

namespace PageSketch.Text

/-! ## Base sixteen -/

/-- The last digit of a number. -/
def hexDigit (n : Nat) : Char := Nat.digitChar (n % 16)

/-- The digits of a number. -/
def hexDigits (n : Nat) : String := String.ofList (Nat.toDigits 16 n)

/-- The value of a digit. -/
def hexValue? (c : Char) : Option Nat :=
  if '0' ≤ c && c ≤ '9' then some (c.toNat - '0'.toNat)
  else if 'a' ≤ c && c ≤ 'f' then some (c.toNat - 'a'.toNat + 10)
  else if 'A' ≤ c && c ≤ 'F' then some (c.toNat - 'A'.toNat + 10)
  else none

/-- Whether a character is a digit. -/
def isHexDigit (c : Char) : Bool := (hexValue? c).isSome

/-- The number that digits write. -/
def hexNumber (digits : List Char) : Nat :=
  digits.foldl (fun n c => 16 * n + (hexValue? c).getD 0) 0

/-- A digit that is written is read as its value. -/
theorem hexValue?_hexDigit (n : Nat) : hexValue? (hexDigit n) = some (n % 16) := by
  have h : ∀ d < 16, hexValue? (Nat.digitChar d) = some d := by decide
  exact h (n % 16) (Nat.mod_lt n (by decide))

/-! ## Base 64 -/

/-- The digit for a number below 64. -/
def base64Digit (n : Nat) : Char :=
  if n < 26 then Char.ofNat ('A'.toNat + n)
  else if n < 52 then Char.ofNat ('a'.toNat + (n - 26))
  else if n < 62 then Char.ofNat ('0'.toNat + (n - 52))
  else if n = 62 then '+'
  else '/'

/-- The digits for bytes. -/
def base64Digits : List Nat → List Char
  | [] => []
  | [a] => [base64Digit (a / 4), base64Digit (a % 4 * 16), '=', '=']
  | [a, b] =>
    [base64Digit (a / 4), base64Digit (a % 4 * 16 + b / 16), base64Digit (b % 16 * 4), '=']
  | a :: b :: c :: rest =>
    base64Digit (a / 4) :: base64Digit (a % 4 * 16 + b / 16) ::
      base64Digit (b % 16 * 4 + c / 64) :: base64Digit (c % 64) :: base64Digits rest

/-- The digits for the UTF-8 encoding of a text. -/
def base64 (text : String) : String :=
  String.ofList (base64Digits (text.toUTF8.data.toList.map UInt8.toNat))

end PageSketch.Text
