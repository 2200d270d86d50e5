import Std.Data.HashMap
import StyleLookup.Unicode.Encoding

/-!
# The size of machines

The machine that runs an expression is made of states and reads bytes. It is made twice: one
reads forwards, the other backwards. States are only counted here, with the bytes that they hold
beside their fixed part; they are numbered in the order in which they are made.

Sets of characters that are not all ASCII take the most states. States that do the same are
shared as far as a table of limited size remembers them: a state whose slot went to another one
is made again. Slots depend on the numbers of states, so equal sets may come to different sizes.

How large a state is depends on the platform, so a pattern can be too large on one and not on
another.
-/

namespace StyleLookup

/-- A platform, as far as the size of machines depends on it. -/
class Platform where
  /-- The bytes that a state takes. -/
  stateSize : Nat

export Platform (stateSize)

namespace Platform

/-- Platforms with addresses of 64 bits. -/
instance wide : Platform := ⟨32⟩

/-- Platforms with addresses of 32 bits, such as that of WebAssembly. -/
abbrev narrow : Platform := ⟨16⟩

end Platform

end StyleLookup

namespace StyleLookup.Pattern

open StyleLookup.Unicode

/-- The way in which a machine reads a text. -/
inductive Direction where
  | forwards
  | backwards
deriving Repr, DecidableEq

/-- The bytes that a state takes for each of its ways out. -/
def branchSize : Nat := 4

/-- The bytes that a state takes for each range it distinguishes. -/
def rangeSize : Nat := 8

/-- The largest machine that is accepted, in bytes. -/
def sizeLimit : Nat := 10485760

/-- What was made so far: how many states, and the bytes that they hold beside. -/
structure Tally where
  states : Nat
  held : Nat
deriving Repr, DecidableEq

namespace Tally

/-- Nothing was made. -/
def none : Tally := ⟨0, 0⟩

/-- Makes so many states. -/
def add (t : Tally) (states : Nat) : Tally := { t with states := t.states + states }

/-- Lets states hold ways out. -/
def branch (t : Tally) (count : Nat) : Tally := { t with held := t.held + branchSize * count }

/-- Makes a state that distinguishes so many ranges. -/
def ranges (t : Tally) (count : Nat) : Tally := ⟨t.states + 1, t.held + rangeSize * count⟩

/-- The size in bytes. -/
def size [Platform] (t : Tally) : Nat := stateSize * t.states + t.held

/-- Whether more was made than is accepted. -/
def isOver [Platform] (t : Tally) : Bool := sizeLimit < t.size

/-- Makes a part so many times. Once there is too much, more of it changes nothing. -/
def times [Platform] (make : Tally → Tally) : Nat → Tally → Tally
  | 0, t => t
  | n + 1, t => if t.isOver then t else times make n (make t)

end Tally

/-! ## Tables of states -/

/-- The states that are remembered by what they do, a slot for each. -/
structure Slots where
  count : Nat
  taken : Std.HashMap Nat (List Nat × Nat)

namespace Slots

/-- No state is remembered. -/
def empty (count : Nat) : Slots := ⟨count, {}⟩

/-- The slot for what a state does: the bits of the numbers are mixed in one after another. -/
def slotOf (s : Slots) (key : List Nat) : Nat :=
  let mixed : UInt64 := key.foldl (fun h n => (h ^^^ UInt64.ofNat n) * 1099511628211)
    14695981039346656037
  mixed.toNat % s.count

/-- The state that does the same, if it is still remembered. -/
def find? (s : Slots) (key : List Nat) : Option Nat :=
  match s.taken[s.slotOf key]? with
  | some (known, state) => if known = key then some state else none
  | none => none

/-- Remembers a state in place of the one whose slot it takes. -/
def put (s : Slots) (key : List Nat) (state : Nat) : Slots :=
  { s with taken := s.taken.insert (s.slotOf key) (key, state) }

end Slots

/-! ## Sets, read forwards -/

/-- Rows by their first ranges, which neighbours share; an empty row has none. -/
def rowsByFirst (rows : List (List Interval)) : List (Interval × List (List Interval)) :=
  rows.foldr (fun row groups =>
    match row, groups with
    | [], groups => groups
    | r :: rest, (r', rests) :: groups =>
        if r = r' then (r', rest :: rests) :: groups else (r, [rest]) :: (r', rests) :: groups
    | r :: rest, [] => [(r, [rest])]) []

/-- What was made, and the states that are remembered. -/
structure Making where
  tally : Tally
  slots : Slots

/-- A state that tells ranges apart, each with the state it leads to: a known one or a new one. -/
def Making.ranges (m : Making) (ways : List (Interval × Nat)) : Nat × Making :=
  let key := ways.flatMap fun (r, next) => [r.lo, r.hi, next]
  match m.slots.find? key with
  | some state => (state, m)
  | none => (m.tally.states, ⟨m.tally.ranges ways.length, m.slots.put key m.tally.states⟩)

/--
The state that reads rows of at most `depth` ranges and ends in the state `last`. States are made
from the ends of the rows, so that equal ends are shared.
-/
def Making.rows (last : Nat) : Nat → List (List Interval) → Making → Nat × Making
  | 0, _, m => (last, m)
  | depth + 1, rows, m =>
      if rows.all List.isEmpty then (last, m)
      else
        let (ways, m) := (rowsByFirst rows).foldl
          (fun (acc : List (Interval × Nat) × Making) group =>
            let (next, m) := Making.rows last depth group.2 acc.2
            ((group.1, next) :: acc.1, m))
          ([], m)
        m.ranges ways.reverse

/-- How many states are remembered while a set is made that is read forwards. -/
def forwardSlots : Nat := 10000

/-- Makes a set that is read forwards: a state where it ends, and before it a tree of ranges. -/
def Tally.setForwards (set : Scalars) (t : Tally) : Tally :=
  (Making.rows t.states 4 set.byteRows ⟨t.add 1, .empty forwardSlots⟩).2.tally

/-! ## Sets, read backwards -/

/-- Makes the states of a row that lead to a state, the first range next to it. -/
def Making.rowBackwards (m : Making) (state : Nat) : List Interval → Making
  | [] => m
  | r :: rest =>
      let key := [state, r.lo, r.hi]
      match m.slots.find? key with
      | some known => m.rowBackwards known rest
      | none =>
          Making.rowBackwards ⟨m.tally.add 1, m.slots.put key m.tally.states⟩ m.tally.states rest

/-- How many states are remembered while a set is made that is read backwards. -/
def backwardSlots : Nat := 1000

/-- Makes a set that is read backwards: a state with a way for each row, and one where it ends. -/
def Tally.setBackwards (set : Scalars) (t : Tally) : Tally :=
  let rows := set.byteRows
  let making : Making := ⟨t.add 2, .empty backwardSlots⟩
  (rows.foldl (fun m row => m.rowBackwards (t.states + 1) row) making).tally.branch rows.length

/-- Makes a set of characters. One that is all ASCII is a single state with the state it ends in. -/
def Tally.set (d : Direction) (set : Scalars) (t : Tally) : Tally :=
  if set.isAscii then (t.ranges set.length).add 1
  else
    match d with
    | .forwards => t.setForwards set
    | .backwards => t.setBackwards set

/-! ## Choices of texts -/

/-- Words in stretches, which empty words end. -/
def splitAtEmpty (words : List (List Nat)) : List (List (List Nat)) :=
  words.foldr (fun word stretches =>
    match word, stretches with
    | [], stretches => [] :: stretches
    | word, stretch :: stretches => (word :: stretch) :: stretches
    | word, [] => [[word]]) [[]]

/-- Words in stretches. Of empty words in front one is enough. -/
def stretchesOf (words : List (List Nat)) : List (List (List Nat)) :=
  let rest := words.dropWhile List.isEmpty
  if rest.length = words.length then splitAtEmpty words else [] :: splitAtEmpty rest

/-- What follows the first byte of words, by that byte. -/
def wordsByFirst (words : List (List Nat)) : List (List (List Nat)) :=
  (words.filterMap List.head?).eraseDups.map fun byte =>
    words.filterMap fun word => if word.head? = some byte then some word.tail else none

/--
Makes the tree of words that have at most `depth` bytes. A word that others continue cuts them
into stretches, as what comes first in a choice is preferred. Each stretch is a state that tells
first bytes apart.
-/
def Tally.words : Nat → List (List Nat) → Tally → Tally
  | 0, _, t => t
  | depth + 1, words, t =>
      if words.all List.isEmpty then t
      else
        let stretches := (stretchesOf words).map wordsByFirst
        let t := stretches.flatten.foldl (fun t rests => Tally.words depth rests t) t
        let t := stretches.foldl (fun t groups =>
          match groups.length with
          | 0 => t
          | 1 => (t.add 1).branch 1
          | n => (t.ranges n).branch 1) t
        (t.add 1).branch (stretches.length - 1)

/-- Makes a choice of texts, with the state where it ends. -/
def Tally.texts (d : Direction) (texts : List (List Nat)) (t : Tally) : Tally :=
  let words := texts.map fun text =>
    match d with
    | .forwards => text.flatMap encode
    | .backwards => (text.flatMap encode).reverse
  (t.add 1).words (words.foldl (fun n word => Nat.max n word.length) 0 + 1) words

end StyleLookup.Pattern
