import StyleLookup.Decimal.Shortest

/-!
# Numerals

The number at the start of a numeric token, kept as it is written: sign, digits, fraction and
exponent. What it is worth is worked out from the digits where a message shows it.
-/

namespace StyleLookup.Css

/-- A number as written. -/
structure Numeral where
  /-- The sign, if one is written: `true` for minus. -/
  sign : Option Bool
  /-- Digits before the point, possibly none. -/
  whole : List Char
  /-- Digits after the point. -/
  fraction : Option (List Char)
  /-- Whether the exponent is negative, and its digits. -/
  exponent : Option (Bool × List Char)
deriving Repr, DecidableEq

namespace Numeral

/-- Whether a sign is written. -/
def isSigned (n : Numeral) : Bool := n.sign.isSome

/-- Whether the number is written with a minus sign. -/
def isNegative (n : Numeral) : Bool := n.sign == some true

/-- The value of a decimal digit. -/
def digit (c : Char) : Nat := c.toNat - '0'.toNat

/-- The number that decimal digits write. -/
def natValue (digits : List Char) : Nat := digits.foldl (fun n c => 10 * n + digit c) 0

/-- The number that decimal digits write, in binary arithmetic with 64 bits. -/
def floatValue (digits : List Char) : Float :=
  digits.foldl (fun x c => x * 10 + (digit c).toFloat) 0

/-- What the digits after a point are worth: each a tenth of the place before it. -/
def fractionValue (digits : List Char) : Float :=
  (digits.foldl (fun (acc : Float × Float) c =>
    (acc.1 + (digit c).toFloat * acc.2, acc.2 * 0.1)) (0, 0.1)).1

/-- The value of the number, in binary arithmetic with 64 bits. -/
def value (n : Numeral) : Float :=
  let sign : Float := if n.isNegative then -1 else 1
  let base := sign * (floatValue n.whole + fractionValue (n.fraction.getD []))
  match n.exponent with
  | none => base
  | some (negative, digits) =>
      let e := floatValue digits
      base * Float.pow 10 (if negative then -1 * e else 1 * e)

/--
The value of a number without fraction and exponent, brought into the range of signed integers of
32 bits.
-/
def integer? (n : Numeral) : Option Int :=
  if n.fraction.isSome || n.exponent.isSome then none
  else
    let v : Int := natValue n.whole
    some (if n.isNegative then max (-0x80000000) (-v) else min 0x7FFFFFFF v)

example : integer? ⟨some true, ['7'], none, none⟩ = some (-7) := by decide

end Numeral

end StyleLookup.Css
