/-!
# Hexadecimal digits

Reading and writing numbers in base sixteen. Escapes of stylesheets, patterns and literals all
use them: letters of either case are read, and lower-case letters are written.
-/

namespace StyleLookup.Text.Hexadecimal

/-- The value of a hexadecimal digit of either case. -/
def digit? (c : Char) : Option Nat :=
  if '0' ≤ c ∧ c ≤ '9' then some (c.toNat - '0'.toNat)
  else if 'a' ≤ c ∧ c ≤ 'f' then some (c.toNat - 'a'.toNat + 10)
  else if 'A' ≤ c ∧ c ≤ 'F' then some (c.toNat - 'A'.toNat + 10)
  else none

/-- Whether a character is a hexadecimal digit. -/
def isDigit (c : Char) : Bool := (digit? c).isSome

/-- The number that a list of digits writes, most significant digit first. -/
def value (digits : List Char) : Nat :=
  digits.foldl (fun n c => 16 * n + (digit? c).getD 0) 0

/-- The lower-case digit of a value below sixteen. -/
def digitChar (n : Nat) : Char :=
  if n < 10 then Char.ofNat ('0'.toNat + n) else Char.ofNat ('a'.toNat + (n - 10))

/-- The last four digits of a number, with leading zeros. -/
def fourDigits (n : Nat) : List Char :=
  [digitChar (n / 4096 % 16), digitChar (n / 256 % 16), digitChar (n / 16 % 16), digitChar (n % 16)]

/-- The digits of a number without leading zeros. -/
def digits (n : Nat) : List Char := Nat.toDigits 16 n

example : value ['2', 'F'] = 47 := by decide
example : fourDigits 0x9f = ['0', '0', '9', 'f'] := by decide

end StyleLookup.Text.Hexadecimal
