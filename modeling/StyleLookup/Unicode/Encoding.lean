import StyleLookup.Unicode.Scalars

/-!
# Encoded characters

Texts are stored as bytes: a character takes one to four of them, and larger code points take
more. A set of characters is then a list of rows of byte ranges, where a row stands for all ways
to pick a byte from each of its ranges. Rows come in increasing order and as few as possible.
-/

namespace StyleLookup.Unicode

/--
The numbers from `lo` through `hi` as products of ranges of digits in base 64, most significant
digit first; there are `n` digits below the first, which may be larger than 63.
-/
def digitRanges : Nat → Nat → Nat → List (List Interval)
  | 0, lo, hi => [[⟨lo, hi⟩]]
  | n + 1, lo, hi =>
      let block := Nat.pow 64 (n + 1)
      let first := lo / block
      let last := hi / block
      if first = last then
        (digitRanges n (lo % block) (hi % block)).map (⟨first, first⟩ :: ·)
      else
        let cutLow := lo % block != 0
        let cutHigh := hi % block != block - 1
        let low := if cutLow then
            (digitRanges n (lo % block) (block - 1)).map (⟨first, first⟩ :: ·) else []
        let high := if cutHigh then
            (digitRanges n 0 (hi % block)).map (⟨last, last⟩ :: ·) else []
        let start := if cutLow then first + 1 else first
        let stop := if cutHigh then last else last + 1
        let full := if start < stop then
            [⟨start, stop - 1⟩ :: List.replicate (n + 1) ⟨0, 63⟩] else []
        low ++ full ++ high

/-- Code points whose encodings are alike. -/
structure Stretch where
  range : Interval
  /-- How many bytes follow the first. -/
  following : Nat
  /-- What is added to the first digit in the first byte. -/
  mark : Nat
deriving Repr, DecidableEq

/-- The stretches of code points by their encodings. Surrogates have none. -/
def stretches : List Stretch :=
  [⟨⟨0, 0x7F⟩, 0, 0⟩, ⟨⟨0x80, 0x7FF⟩, 1, 0xC0⟩, ⟨⟨0x800, 0xD7FF⟩, 2, 0xE0⟩,
    ⟨⟨0xE000, 0xFFFF⟩, 2, 0xE0⟩, ⟨⟨0x10000, lastScalar⟩, 3, 0xF0⟩]

/-- A range moved up. -/
def Interval.shift (r : Interval) (distance : Nat) : Interval := ⟨r.lo + distance, r.hi + distance⟩

/-- Digits as bytes: the first carries a mark, and each other one is marked as following. -/
def bytesOfDigits (mark : Nat) : List Interval → List Interval
  | [] => []
  | first :: others => first.shift mark :: others.map (·.shift 0x80)

/-- The rows of byte ranges of the code points in both a range and a stretch. -/
def Stretch.byteRows (s : Stretch) (r : Interval) : List (List Interval) :=
  let lo := Nat.max r.lo s.range.lo
  let hi := Nat.min r.hi s.range.hi
  if lo ≤ hi then (digitRanges s.following lo hi).map (bytesOfDigits s.mark) else []

/-- A set of characters as rows of byte ranges. -/
def Scalars.byteRows (set : Scalars) : List (List Interval) :=
  set.flatMap fun r => stretches.flatMap fun s => s.byteRows r

/-- The bytes of a code point. -/
def encode (n : Nat) : List Nat := (Scalars.byteRows [⟨n, n⟩]).flatten.map Interval.lo

example : encode 0x20AC = [0xE2, 0x82, 0xAC] := by decide
example : Scalars.byteRows [⟨0x41, 0x101⟩]
    = [[⟨0x41, 0x7F⟩], [⟨0xC2, 0xC3⟩, ⟨0x80, 0xBF⟩], [⟨0xC4, 0xC4⟩, ⟨0x80, 0x81⟩]] := by decide

end StyleLookup.Unicode
