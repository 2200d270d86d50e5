import StyleLookup.Text.Hexadecimal

/-!
# Sets of Unicode scalar values

A set of code points is a list of closed intervals, in increasing order, with a gap after each.
Tables of the Unicode standard are written as text and read here. Surrogates may lie inside an
interval; no character is one, so nothing depends on it.
-/

namespace StyleLookup.Unicode

open StyleLookup.Text

/-- The code points from `lo` through `hi`. -/
structure Interval where
  lo : Nat
  hi : Nat
deriving Repr, DecidableEq, Inhabited

/-- A set of code points as ordered intervals that do not touch. -/
abbrev Scalars := List Interval

/-- The largest code point. -/
def lastScalar : Nat := 0x10FFFF

namespace Scalars

/-- Whether a code point is in the set. The search stops at the first interval above it. -/
def contains : Scalars → Nat → Bool
  | [], _ => false
  | r :: rs, n => if n < r.lo then false else n ≤ r.hi || contains rs n

/-- Joins neighbours that touch or overlap, in a list ordered by lower end. -/
def merge : List Interval → Scalars
  | [] => []
  | [r] => [r]
  | a :: b :: rs =>
      if b.lo ≤ a.hi + 1 then merge (⟨a.lo, max a.hi b.hi⟩ :: rs) else a :: merge (b :: rs)
termination_by l => l.length

/-- The set that any list of intervals covers. -/
def ofIntervals (rs : List Interval) : Scalars :=
  merge ((rs.filter (fun r => r.lo ≤ r.hi)).mergeSort (fun a b => a.lo ≤ b.lo))

/-- The set of one code point. -/
def single (n : Nat) : Scalars := [⟨n, n⟩]

/-- The code points of either set. -/
def union (a b : Scalars) : Scalars := ofIntervals (a ++ b)

/-- The code points of any of the sets. -/
def unions (sets : List Scalars) : Scalars := ofIntervals sets.flatten

/-- The code points from `start` through `last` that lie in none of the intervals. -/
def gaps (start last : Nat) : Scalars → Scalars
  | [] => if start ≤ last then [⟨start, last⟩] else []
  | r :: rs =>
      if start < r.lo then ⟨start, r.lo - 1⟩ :: gaps (r.hi + 1) last rs
      else gaps (r.hi + 1) last rs

/-- The code points through `last` that are not in the set. -/
def complementTo (last : Nat) (a : Scalars) : Scalars := gaps 0 last a

/-- The code points that are not in the set. -/
def complement (a : Scalars) : Scalars := complementTo lastScalar a

/-- The code points of the first set that are not in the second. -/
def difference (a b : Scalars) : Scalars := complement (union (complement a) b)

/-- The code points of both sets. -/
def intersection (a b : Scalars) : Scalars := difference a (complement b)

/-- The code points of exactly one of the sets. -/
def symmetricDifference (a b : Scalars) : Scalars :=
  union (difference a b) (difference b a)

/-- Whether all of a set is ASCII. -/
def isAscii (a : Scalars) : Bool := a.all fun r => r.hi < 128

/-- The first character from a code point on: surrogates are none. -/
def firstFrom (n : Nat) : Nat := if 0xD800 ≤ n ∧ n ≤ 0xDFFF then 0xE000 else n

/-- The last character up to a code point. -/
def lastUpTo (n : Nat) : Nat := if 0xD800 ≤ n ∧ n ≤ 0xDFFF then 0xD7FF else n

/-- The same characters, by intervals that start and end with characters. -/
def trim (a : Scalars) : Scalars :=
  a.filterMap fun r =>
    if firstFrom r.lo ≤ lastUpTo r.hi then some ⟨firstFrom r.lo, lastUpTo r.hi⟩ else none

/--
The characters between the intervals of a set that start and end with characters. Each gap is
named by the characters that follow and precede its neighbours. Where only surrogates lie in a
gap these are the neighbours themselves, which are then taken for the gap.
-/
def between (a : Scalars) : Scalars :=
  a.complement.map fun r =>
    ⟨Nat.min (firstFrom r.lo) (lastUpTo r.hi), Nat.max (firstFrom r.lo) (lastUpTo r.hi)⟩

end Scalars

/-! ## Tables written as text -/

/-- The words of a text, cut at spaces and line ends. -/
def tableWords (text : String) : List (List Char) :=
  let (word, words) := text.toList.foldr
    (fun c (acc : List Char × List (List Char)) =>
      if c = ' ' ∨ c = '\n' then ([], if acc.1.isEmpty then acc.2 else acc.1 :: acc.2)
      else (c :: acc.1, acc.2))
    ([], [])
  if word.isEmpty then words else word :: words

/-- Tables write numbers with small letters; a capital starts a name. -/
def isTableDigit (c : Char) : Bool := Hexadecimal.isDigit c && !c.isUpper

/-- Reads `lo`, `lo-hi`, or `lo-hi/2` for every second code point, in hexadecimal. -/
def intervalsOfWord (word : List Char) : List Interval :=
  let (lo, rest) := word.span isTableDigit
  let first := Hexadecimal.value lo
  match rest with
  | '-' :: rest =>
      let (hi, step) := rest.span isTableDigit
      let last := Hexadecimal.value hi
      if step.isEmpty then [⟨first, last⟩]
      else (List.range ((last - first) / 2 + 1)).map fun k => ⟨first + 2 * k, first + 2 * k⟩
  | _ => [⟨first, first⟩]

/-- Reads a set written as words in increasing order. -/
def Scalars.ofTable (text : String) : Scalars := (tableWords text).flatMap intervalsOfWord

/--
Reads a table that cuts all code points into stretches: each word is the first code point of a
stretch followed by the name of its value, which starts with a capital letter.
-/
def stretchesOfTable (text : String) : List (Interval × String) :=
  let starts := (tableWords text).map fun word =>
    let (lo, name) := word.span isTableDigit
    (Hexadecimal.value lo, String.ofList name)
  starts.zipWith (fun (lo, name) next => (⟨lo, next - 1⟩, name))
    ((starts.drop 1).map Prod.fst ++ [lastScalar + 1])

end StyleLookup.Unicode
