/-!
# Shortest decimals

A binary floating-point number is written with the fewest decimal digits that read back as the
same number; of the decimals with that many digits, the nearest is taken, and the upper of two
that are equally near.

A positive number is given as `m * 2 ^ q`. The decimals that read back as it lie between the
midpoints to its neighbours, which belong to it when `m` is even. For a growing number of digits
the two decimals next to the number are tried.
-/

namespace StyleLookup.Decimal

/-- A positive binary number `mantissa * 2 ^ exponent`. -/
structure Binary where
  mantissa : Nat
  exponent : Int
  /-- The gap below is half the gap above: the mantissa is the least one of its exponent. -/
  isLowest : Bool
deriving Repr, DecidableEq

/-- The decimal number `digits * 10 ^ exponent`. -/
structure Scaled where
  digits : Nat
  exponent : Int
deriving Repr, DecidableEq

/-- A power of a natural number; one for negative exponents. -/
def power (base : Nat) (exponent : Int) : Nat := Nat.pow base exponent.toNat

namespace Binary

/-- Compares `quarters * 2 ^ (exponent - 2)` with `d * 10 ^ e`. -/
def compareQuarters (b : Binary) (quarters d : Nat) (e : Int) : Ordering :=
  let q := b.exponent - 2
  compare (quarters * power 2 q * power 10 (-e)) (d * power 10 e * power 2 (-q))

/-- The largest `d` with `d * 10 ^ e` not above the number. -/
def floorAt (b : Binary) (e : Int) : Nat :=
  (b.mantissa * power 2 b.exponent * power 10 (-e)) / (power 10 e * power 2 (-b.exponent))

/-- Whether `d * 10 ^ e` reads back as the number. -/
def readsBack (b : Binary) (d : Nat) (e : Int) : Bool :=
  let low := 4 * b.mantissa - if b.isLowest then 1 else 2
  let high := 4 * b.mantissa + 2
  match b.compareQuarters low d e, b.compareQuarters high d e with
  | .lt, .gt => true
  | .eq, .gt | .lt, .eq => b.mantissa % 2 == 0
  | _, _ => false

/-- Whether the number is at or above the middle of `d` and `d + 1` on the grid `10 ^ e`. -/
def isUpperHalf (b : Binary) (d : Nat) (e : Int) : Bool :=
  b.compareQuarters (8 * b.mantissa) (2 * d + 1) e != .lt

/-- The nearest decimal on the grid `10 ^ e` that reads back, if one does. -/
def onGrid? (b : Binary) (e : Int) : Option Scaled :=
  let d := b.floorAt e
  let down := if b.readsBack d e then some (⟨d, e⟩ : Scaled) else none
  let up := if b.readsBack (d + 1) e then some (⟨d + 1, e⟩ : Scaled) else none
  match down, up with
  | some down, some up => some (if b.isUpperHalf d e then up else down)
  | some down, none => some down
  | none, up => up

end Binary

/-- Takes zeros off the end of the digits. -/
def Scaled.strip (x : Scaled) : Scaled :=
  if h : x.digits % 10 = 0 ∧ x.digits ≠ 0 then strip ⟨x.digits / 10, x.exponent + 1⟩ else x
termination_by x.digits
decreasing_by exact Nat.div_lt_self (Nat.pos_of_ne_zero h.2) (by decide)

/-- The shortest decimal of a number whose leading digit stands for `10 ^ p` or less. -/
def Binary.shortestFrom (b : Binary) (p : Int) : Scaled :=
  match (List.range 20).findSome? fun (n : Nat) => b.onGrid? (p - n) with
  | some x => x.strip
  | none => ⟨b.floorAt (p - 20), p - 20⟩

/-- The shortest decimal of a number of 32-bit precision. -/
def Binary.shortest (b : Binary) : Scaled :=
  let leading := (List.range 100).find? fun (k : Nat) => b.floorAt (40 - (k : Int)) != 0
  b.shortestFrom (40 - ((leading.getD 100 : Nat) : Int))

/-! ## Text -/

/-- The digits of a number in base ten. -/
def natText (n : Nat) : List Char := Nat.toDigits 10 n

/-- An integer with a minus sign where it is negative. -/
def intText (n : Int) : List Char :=
  if n < 0 then '-' :: natText n.natAbs else natText n.natAbs

/--
The text of a decimal in messages: positional from `0.0001` up to below `10 ^ 16`, with at least
one digit after the point; with an exponent otherwise.
-/
def Scaled.text (x : Scaled) : List Char :=
  let ds := natText x.digits
  let point : Int := ds.length + x.exponent
  if point ≤ -4 ∨ 17 ≤ point then
    let tail := match ds with
      | d :: [] => [d]
      | d :: rest => d :: '.' :: rest
      | [] => []
    tail ++ 'e' :: intText (point - 1)
  else if point ≤ 0 then ['0', '.'] ++ List.replicate (-point).toNat '0' ++ ds
  else
    let whole := ds.take point.toNat ++ List.replicate (point.toNat - ds.length) '0'
    let rest := ds.drop point.toNat
    whole ++ '.' :: (if rest.isEmpty then ['0'] else rest)

/-- The number of values of a fraction field of a 32-bit number, the first normal mantissa. -/
def fractions : Nat := 0x800000

/--
The text of a 32-bit number in messages. From the lowest bit, a fraction, an exponent of eight bits
and a sign make up such a number.
-/
def float32Text (x : Float32) : List Char :=
  let bits : Nat := x.toBits.toNat
  let sign := if bits / fractions / 256 = 1 then ['-'] else []
  let field : Nat := bits / fractions % 256
  let fraction : Nat := bits % fractions
  if field = 255 then
    if fraction = 0 then sign ++ ['i', 'n', 'f'] else ['N', 'a', 'N']
  else if field = 0 ∧ fraction = 0 then sign ++ ['0', '.', '0']
  else
    let b : Binary :=
      if field = 0 then ⟨fraction, -149, false⟩
      else ⟨fractions + fraction, (field : Int) - 150, fraction = 0 ∧ 1 < field⟩
    sign ++ b.shortest.text

end StyleLookup.Decimal
