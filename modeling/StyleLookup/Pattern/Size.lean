import StyleLookup.Pattern.Expression
import StyleLookup.Pattern.Machine

/-!
# The size of an expression

An expression is refused when a machine that would run it takes too much memory. A part that may
repeat up to a number of times is made that many times, so a short pattern can stand for a large
machine.

Where one part follows another, its end is tied to the next start. That is for free but for parts
whose last state chooses between going round again and going on: going on is one more way out.
-/

namespace StyleLookup.Pattern

namespace Expression

/-- Whether every match takes a character. What has a part that matches nothing does not count. -/
def alwaysTakes (e : Expression) : Bool :=
  match e.shortest with
  | some n => 0 < n
  | none => false

mutual

/-- Whether the last state of an expression chooses between going round and going on. -/
def endsInChoice (d : Direction) : Expression → Bool
  | .loop min none _ body => 0 < min || body.alwaysTakes
  | .loop min (some max) _ body => min == max && body.endsInChoice d
  | .capture body => d == .backwards && body.endsInChoice d
  | .row es =>
      match d with
      | .forwards => lastEndsInChoice es
      | .backwards => firstEndsInChoice es
  | _ => false

/-- Whether the last of several expressions ends in a choice, read forwards. -/
def lastEndsInChoice : List Expression → Bool
  | [] => false
  | e :: es => if es.isEmpty then e.endsInChoice .forwards else lastEndsInChoice es

/-- Whether the first of several expressions ends in a choice, read backwards. -/
def firstEndsInChoice : List Expression → Bool
  | [] => false
  | e :: _ => e.endsInChoice .backwards

end

/-- The ways out that it takes to go on behind an expression. -/
def link (d : Direction) (e : Expression) : Nat := if e.endsInChoice d then 1 else 0

/-- The texts of branches, if all of them are texts. -/
def texts? : List Expression → Option (List (List Nat))
  | [] => some []
  | .literal text :: es => (texts? es).map (text :: ·)
  | _ :: _ => none

/-- Makes a repetition; `part` makes its body, which ends as `link` tells. -/
def makeLoop [Platform] (min : Nat) (max : Option Nat) (alwaysTakes : Bool) (link : Nat)
    (part : Tally → Tally) (t : Tally) : Tally :=
  match max with
  | none =>
      if min = 0 then
        if alwaysTakes then (part (t.add 1)).branch (1 + link)
        else ((part t).add 3).branch (4 + link)
      else ((t.times (fun t => (part t).branch link) min).add 1).branch 1
  | some max =>
      if min = max then (t.times (fun t => (part t).branch link) (min - 1)) |> part
      else if max = 1 then ((part (t.add 1)).add 1).branch (2 + link)
      else
        let start := if min = 0 then t.add 1 else t.times (fun t => (part t).branch link) min
        (start.add 1).times (fun t => (part (t.add 1)).branch (2 + link)) (max - min)

mutual

/-- Makes an expression. -/
def make [Platform] (d : Direction) : Expression → Tally → Tally
  | .empty, t => t.add 1
  | .literal text, t => t.add (text.flatMap Unicode.encode).length
  | .oneOf set _, t => t.set d set
  | .look _, t => t.add 1
  | .loop min max _ body, t =>
      makeLoop min max body.alwaysTakes (body.link d) (body.make d) t
  | .capture body, t =>
      match d with
      | .forwards => ((body.make d (t.add 1)).add 1).branch (body.link d)
      | .backwards => body.make d t
  | .row es, t =>
      match d with
      | .forwards => makeForwards es t
      | .backwards => makeBackwards es t
  | .choice es, t =>
      match texts? es with
      | some texts => t.texts d texts
      | none => makeBranches d 0 es t

/-- Makes the items of a row, the first of them first. -/
def makeForwards [Platform] : List Expression → Tally → Tally
  | [], t => t
  | e :: es, t =>
      if es.isEmpty then e.make .forwards t
      else makeForwards es ((e.make .forwards t).branch (e.link .forwards))

/-- Makes the items of a row, the last of them first. -/
def makeBackwards [Platform] : List Expression → Tally → Tally
  | [], t => t
  | e :: es, t =>
      e.make .backwards
        ((makeBackwards es t).branch (if firstEndsInChoice es then 1 else 0))

/-- Makes branches. The states that choose and that end the choice are made behind the second. -/
def makeBranches [Platform] (d : Direction) (made : Nat) : List Expression → Tally → Tally
  | [], t => t
  | e :: es, t =>
      let t := (e.make d t).branch (1 + e.link d)
      makeBranches d (made + 1) es (if made = 1 then t.add 2 else t)

end

/-! ## The whole machine -/

mutual

/-- Whether matches only start where a text starts, by what stands first. -/
def startsAtStart : Expression → Bool
  | .look l => l == .textStart
  | .loop min _ _ body => 0 < min && body.startsAtStart
  | .capture body => body.startsAtStart
  | .row es => anyStartsAtStart es
  | .choice es => allStartAtStart es
  | _ => false

/-- Whether an item starts at the start of the text before one takes something. -/
def anyStartsAtStart : List Expression → Bool
  | [] => false
  | e :: es => e.startsAtStart || (e.takesNothing && anyStartsAtStart es)

/-- Whether all branches start at the start of the text. -/
def allStartAtStart : List Expression → Bool
  | [] => true
  | e :: es => e.startsAtStart && allStartAtStart es

end

mutual

/-- Whether matches only end where a text ends, by what stands last. -/
def endsAtEnd : Expression → Bool
  | .look l => l == .textEnd
  | .loop min _ _ body => 0 < min && body.endsAtEnd
  | .capture body => body.endsAtEnd
  | .row es => anyEndsAtEnd es
  | .choice es => allEndAtEnd es
  | _ => false

/-- Whether an item ends at the end of the text behind which none takes something. -/
def anyEndsAtEnd : List Expression → Bool
  | [] => false
  | e :: es => anyEndsAtEnd es || (allTakeNothing es && e.endsAtEnd)

/-- Whether all branches end at the end of the text. -/
def allEndAtEnd : List Expression → Bool
  | [] => true
  | e :: es => e.endsAtEnd && allEndAtEnd es

end

/-- Whether a machine need not look for the place where a match starts. -/
def isAnchored (e : Expression) : Direction → Bool
  | .forwards => e.startsAtStart
  | .backwards => e.endsAtEnd

/--
The machine of a simplified expression. It starts with a single state, or with three that pass
over bytes to where a match starts. Read forwards, a match is a group of its own.
-/
def machine [Platform] (e : Expression) (d : Direction) : Tally :=
  let entry := if e.isAnchored d then Tally.none.add 1 else ((Tally.none.ranges 1).add 2).branch 2
  match d with
  | .forwards => ((e.make d (entry.add 1)).branch (e.link d)).add 2
  | .backwards => ((e.make d entry).branch (e.link d)).add 1

/-- Whether an expression is too large to run. -/
def isTooLarge [Platform] (e : Expression) : Bool :=
  let e := e.simplified
  (e.machine .forwards).isOver || (e.machine .backwards).isOver

end Expression

end StyleLookup.Pattern
