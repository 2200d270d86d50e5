import StyleLookup.Unicode.Property
import StyleLookup.Unicode.Folding

/-!
# Regular expressions

What a pattern means, apart from how it is written: a regular expression over steps. A step takes
one character of a set, or looks at a position without taking anything.

Two accounts of matching stand side by side. `Matches` says which stretches of a text an
expression matches. `ends` works it out for all starting positions at once: a set of positions is
a number, with bit `i` for the position after `i` characters, and an expression maps the set of
positions where it may start to the set of those where it may end. Repetition stops as soon as
the set does not change, so the work is bounded by the length of the text however often an
expression may repeat.
-/

namespace StyleLookup.Pattern

open StyleLookup.Unicode

/-- How a word may begin or end at a position. -/
inductive WordEdge where
  /-- A word begins or ends here. -/
  | boundary
  /-- No word begins or ends here. -/
  | inside
  | start
  | stop
  /-- No word character stands before. -/
  | startHalf
  /-- No word character stands behind. -/
  | stopHalf
deriving Repr, DecidableEq

/-- What an expression may look for at a position. -/
inductive Look where
  | textStart
  | textEnd
  | lineStart
  | lineEnd
  /-- The start of a line that a line feed, a carriage return or both ended. -/
  | lineStartCrlf
  /-- The end of such a line. -/
  | lineEndCrlf
  | word (edge : WordEdge) (unicode : Bool)
deriving Repr, DecidableEq

/-- A single step of an expression. -/
inductive Atom where
  | oneOf (set : Scalars)
  | look (l : Look)
deriving Repr, DecidableEq

/-- A regular expression over steps of some kind. -/
inductive Regex (α : Type) where
  | empty
  | leaf (a : α)
  | seq (a b : Regex α)
  | alt (a b : Regex α)
  /-- So many times, and then up to `more` times again, without limit if there is no number. -/
  | loop (times : Nat) (more : Option Nat) (body : Regex α)
deriving Repr, DecidableEq

namespace Regex

/-- Replaces every step. -/
def map {α β : Type} (f : α → β) : Regex α → Regex β
  | .empty => .empty
  | .leaf a => .leaf (f a)
  | .seq a b => .seq (a.map f) (b.map f)
  | .alt a b => .alt (a.map f) (b.map f)
  | .loop times more body => .loop times more (body.map f)

/-- Expressions one after another. -/
def inRow {α : Type} : List (Regex α) → Regex α
  | [] => .empty
  | [e] => e
  | e :: es => .seq e (inRow es)

/-- A choice of expressions. -/
def choice {α : Type} : List (Regex α) → Regex α
  | [] => .empty
  | [e] => e
  | e :: es => .alt e (choice es)

end Regex

/-! ## What holds at a position -/

/-- Whether a character belongs to a word. -/
def isWordChar (unicode : Bool) (c : Char) : Bool :=
  if unicode then wordScalars.contains c.toNat
  else c.isAlphanum || c == '_'

/-- Whether an edge lies between a side that is part of a word or not and another. -/
def WordEdge.holds (before behind : Bool) : WordEdge → Bool
  | .boundary => before != behind
  | .inside => before == behind
  | .start => !before && behind
  | .stop => before && !behind
  | .startHalf => !before
  | .stopHalf => !behind

/-- Whether a look is satisfied between two characters; at an end of the text there is none. -/
def Look.holds (before behind : Option Char) : Look → Bool
  | .textStart => before.isNone
  | .textEnd => behind.isNone
  | .lineStart => before.all (· == '\n')
  | .lineEnd => behind.all (· == '\n')
  | .lineStartCrlf =>
      before.all fun c => c == '\n' || (c == '\r' && behind != some '\n')
  | .lineEndCrlf =>
      behind.all fun c => c == '\r' || (c == '\n' && before != some '\r')
  | .word edge unicode =>
      edge.holds (before.any (isWordChar unicode)) (behind.any (isWordChar unicode))

/-- The character before a position, and the one behind it. -/
def around (text : List Char) (i : Nat) : Option Char × Option Char :=
  (if i = 0 then none else text[i - 1]?, text[i]?)

/-! ## Matching as a relation -/

/-- `Atom.Steps text a i j`: the step leads from position `i` to position `j`. -/
inductive Atom.Steps (text : List Char) : Atom → Nat → Nat → Prop where
  | take {set : Scalars} {i : Nat} {c : Char} (h : text[i]? = some c)
      (hc : set.contains c.toNat = true) : Steps text (.oneOf set) i (i + 1)
  | stay {l : Look} {i : Nat} (hi : i ≤ text.length)
      (hl : l.holds (around text i).1 (around text i).2 = true) : Steps text (.look l) i i

/-- `Matches text e i j`: the expression matches the stretch from position `i` to position `j`. -/
inductive Matches (text : List Char) : Regex Atom → Nat → Nat → Prop where
  | empty {i : Nat} (hi : i ≤ text.length) : Matches text .empty i i
  | leaf {a : Atom} {i j : Nat} (h : a.Steps text i j) : Matches text (.leaf a) i j
  | seq {a b : Regex Atom} {i j k : Nat} (ha : Matches text a i j) (hb : Matches text b j k) :
      Matches text (.seq a b) i k
  | left {a b : Regex Atom} {i j : Nat} (h : Matches text a i j) : Matches text (.alt a b) i j
  | right {a b : Regex Atom} {i j : Nat} (h : Matches text b i j) : Matches text (.alt a b) i j
  | done {more : Option Nat} {body : Regex Atom} {i : Nat} (hi : i ≤ text.length) :
      Matches text (.loop 0 more body) i i
  | must {times : Nat} {more : Option Nat} {body : Regex Atom} {i j k : Nat}
      (h : Matches text body i j) (hs : Matches text (.loop times more body) j k) :
      Matches text (.loop (times + 1) more body) i k
  | again {body : Regex Atom} {i j k : Nat} (h : Matches text body i j)
      (hs : Matches text (.loop 0 none body) j k) : Matches text (.loop 0 none body) i k
  | upTo {more : Nat} {body : Regex Atom} {i j k : Nat} (h : Matches text body i j)
      (hs : Matches text (.loop 0 (some more) body) j k) :
      Matches text (.loop 0 (some (more + 1)) body) i k

/-! ## Matching by sets of positions -/

/-- A step for one text: which positions it may start at, and whether it moves on by one. -/
inductive Plan where
  | advance (starts : Nat)
  | stay (places : Nat)
deriving Repr, DecidableEq

/-- The positions with a character of the set behind them. -/
def positionsOf (set : Scalars) : List Char → Nat
  | [] => 0
  | c :: cs => (if set.contains c.toNat then 1 else 0) + 2 * positionsOf set cs

/-- The positions where a look is satisfied; `before` is the character before the text. -/
def lookPositions (l : Look) (before : Option Char) : List Char → Nat
  | [] => if l.holds before none then 1 else 0
  | c :: cs => (if l.holds before (some c) then 1 else 0) + 2 * lookPositions l (some c) cs

/-- A step as a plan for a text. -/
def Atom.plan (text : List Char) : Atom → Plan
  | .oneOf set => .advance (positionsOf set text)
  | .look l => .stay (lookPositions l none text)

/-- The positions that a plan leads to. -/
def Plan.ends (s : Nat) : Plan → Nat
  | .advance mask => (s &&& mask) <<< 1
  | .stay mask => s &&& mask

/-- Applies a map of sets so many times, or until the set does not change. -/
def iterate (f : Nat → Nat) : Nat → Nat → Nat
  | 0, s => s
  | n + 1, s =>
      let t := f s
      if t = s then s else iterate f n t

/-- Adds the image of a set so many times, or until the set does not change. -/
def accumulate (f : Nat → Nat) : Nat → Nat → Nat
  | 0, s => s
  | n + 1, s =>
      let t := s ||| f s
      if t = s then s else accumulate f n t

/--
The positions where matches end that start at a position of the set. `bound` is the number of
positions of the text: no set can grow more often than that.
-/
def Regex.ends (bound : Nat) : Regex Plan → Nat → Nat
  | .empty, s => s
  | .leaf p, s => p.ends s
  | .seq a b, s => b.ends bound (a.ends bound s)
  | .alt a b, s => a.ends bound s ||| b.ends bound s
  | .loop times more body, s =>
      accumulate (body.ends bound) (more.getD bound) (iterate (body.ends bound) times s)

/-- The positions where matches end that start at a position of the set. -/
def Regex.endsIn (e : Regex Atom) (text : List Char) (s : Nat) : Nat :=
  (e.map (Atom.plan text)).ends (text.length + 1) s

/-- All positions of a text that has so many characters. -/
def allPositions (length : Nat) : Nat := (1 <<< (length + 1)) - 1

/-- Whether some stretch of a text is matched. -/
def Regex.foundIn (e : Regex Atom) (text : List Char) : Bool :=
  e.endsIn text (allPositions text.length) != 0

end StyleLookup.Pattern
