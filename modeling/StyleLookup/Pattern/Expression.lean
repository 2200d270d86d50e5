import StyleLookup.Pattern.Regex

/-!
# Expressions

What the parts of a pattern mean once the modes are settled. An expression keeps what bears on
the size of the machine that runs it and is of no account for what it matches: groups that report
their place, and whether a repetition prefers many times or few. `regex` drops it.

A machine is made of the expression without what would make it larger than need be. `simplified`
matches the same, but a set with one member is that character, characters in a row are a text,
a choice of characters is a set, rows of a choice share their start, and nothing that takes no
character comes twice.
-/

namespace StyleLookup.Pattern

open StyleLookup.Unicode

/-- What a part of a pattern means. -/
inductive Expression where
  | empty
  /-- Characters that stand for themselves, one after another. -/
  | literal (text : List Nat)
  /-- One character of a set that is made of characters, or of bytes. -/
  | oneOf (set : Scalars) (unicode : Bool)
  | look (l : Look)
  /-- At least `min` times and at most `max` times, without limit if there is no `max`. -/
  | loop (min : Nat) (max : Option Nat) (greedy : Bool) (body : Expression)
  /-- A group whose place in the text would be reported. -/
  | capture (body : Expression)
  | row (items : List Expression)
  | choice (branches : List Expression)

namespace Expression

mutual

/-- What an expression matches. -/
def regex : Expression → Regex Atom
  | .empty => .empty
  | .literal text => Regex.inRow (text.map fun n => .leaf (.oneOf (Scalars.single n)))
  | .oneOf set _ => .leaf (.oneOf set)
  | .look l => .leaf (.look l)
  | .loop min max _ body => .loop min (max.map (· - min)) body.regex
  | .capture body => body.regex
  | .row items => Regex.inRow (regexes items)
  | .choice branches => Regex.choice (regexes branches)

/-- What several expressions match. -/
def regexes : List Expression → List (Regex Atom)
  | [] => []
  | e :: es => e.regex :: regexes es

end

/-! ## How much is taken -/

mutual

/-- The fewest characters that a match takes. There is no number if a part matches nothing. -/
def shortest : Expression → Option Nat
  | .empty | .look _ => some 0
  | .literal text => some text.length
  | .oneOf set _ => if set.isEmpty then none else some 1
  | .loop min _ _ body => body.shortest.map (min * ·)
  | .capture body => body.shortest
  | .row items => shortestRow items
  | .choice branches => shortestChoice branches

/-- The fewest characters that a row takes. -/
def shortestRow : List Expression → Option Nat
  | [] => some 0
  | e :: es =>
      match e.shortest, shortestRow es with
      | some m, some n => some (m + n)
      | _, _ => none

/-- The fewest characters that a choice takes. -/
def shortestChoice : List Expression → Option Nat
  | [] => none
  | [e] => e.shortest
  | e :: es =>
      match e.shortest, shortestChoice es with
      | some m, some n => some (Nat.min m n)
      | _, _ => none

end

mutual

/-- Whether matches never take a character. A repetition without limit does not count as such. -/
def takesNothing : Expression → Bool
  | .empty | .look _ => true
  | .literal text => text.isEmpty
  | .oneOf _ _ => false
  | .loop _ max _ body => max == some 0 || (max.isSome && body.takesNothing)
  | .capture body => body.takesNothing
  | .row items => allTakeNothing items
  | .choice branches => allTakeNothing branches

/-- Whether none of several expressions takes a character. -/
def allTakeNothing : List Expression → Bool
  | [] => true
  | e :: es => e.takesNothing && allTakeNothing es

end

/-! ## Simplification -/

/-- One character of a set; a set with one member is that character. -/
def ofSet (set : Scalars) (unicode : Bool) : Expression :=
  match set with
  | [] => .oneOf [] false
  | [r] => if r.lo = r.hi then .literal [r.lo] else .oneOf [r] unicode
  | set => .oneOf set unicode

/-- An expression as items of a row: empty ones are none, and a row is opened. -/
def items : Expression → List Expression
  | .empty => []
  | .row es => es
  | e => [e]

/-- Puts an item in front of others; texts that meet become one. -/
def before : Expression → List Expression → List Expression
  | .literal s, .literal t :: es => .literal (s ++ t) :: es
  | e, es => e :: es

/-- Simplified expressions one after another. -/
def inRow (es : List Expression) : Expression :=
  match (es.flatMap items).foldr before [] with
  | [] => .empty
  | [e] => e
  | es => .row es

/-- An expression as branches of a choice: a choice is opened. -/
def branches : Expression → List Expression
  | .choice es => es
  | e => [e]

/-- The character that an expression stands for. -/
def char? : Expression → Option Nat
  | .literal [n] => some n
  | _ => none

/-- The set that an expression takes a character of. -/
def set? : Expression → Option Scalars
  | .oneOf set _ => some set
  | _ => none

/-- The set that branches come to that are all characters, or all sets. -/
def commonSet? (es : List Expression) : Option Scalars :=
  if es.all (·.char?.isSome) then
    some (Scalars.unions (es.filterMap fun e => e.char?.map Scalars.single))
  else if es.all (·.set?.isSome) then some (Scalars.unions (es.filterMap set?))
  else none

mutual

/-- Whether expressions are alike. A group that reports its place is like no other. -/
def like : Expression → Expression → Bool
  | .empty, .empty => true
  | .literal s, .literal t => s == t
  | .oneOf s u, .oneOf t v => s == t && u == v
  | .look l, .look k => l == k
  | .loop min max greedy body, .loop min' max' greedy' body' =>
      min == min' && max == max' && greedy == greedy' && body.like body'
  | .row es, .row fs | .choice es, .choice fs => allLike es fs
  | _, _ => false

/-- Whether expressions are alike in pairs. -/
def allLike : List Expression → List Expression → Bool
  | [], [] => true
  | e :: es, f :: fs => e.like f && allLike es fs
  | _, _ => false

end

/-- How many items two rows share at their starts. -/
def sharedLength : List Expression → List Expression → Nat
  | e :: es, f :: fs => if e.like f then sharedLength es fs + 1 else 0
  | _, _ => 0

/-- The rows that branches are, if all of them are rows. -/
def rows? : List Expression → Option (List (List Expression))
  | [] => some []
  | .row es :: rest => (rows? rest).map (es :: ·)
  | _ :: _ => none

/--
Simplified branches as one expression. Choices among them are opened, characters or sets become
one set, and `otherwise` tells what becomes of other branches.
-/
def choiceOr (otherwise : List Expression → Expression) (es : List Expression) : Expression :=
  match es.flatMap branches with
  | [] => .oneOf [] false
  | [e] => e
  | es =>
      match commonSet? es with
      | some set => ofSet set true
      | none => otherwise es

/--
A choice of simplified branches. Rows that all start alike share their start. The rests are not
looked through for another common start, as they have none.
-/
def inChoice : List Expression → Expression :=
  choiceOr fun es =>
    match rows? es with
    | some (first :: others) =>
        let n := others.foldl (fun n row => Nat.min n (sharedLength first row)) first.length
        if n = 0 then .choice es
        else
          let rests := (first :: others).map fun row => inRow (row.drop n)
          inRow (first.take n ++ [choiceOr .choice rests])
    | _ => .choice es

/-- A repetition of a simplified expression. One that takes nothing need not come twice. -/
def repeated (min : Nat) (max : Option Nat) (greedy : Bool) (body : Expression) : Expression :=
  let (min, max) :=
    if body.takesNothing then (Nat.min min 1, some (Nat.min (max.getD 1) 1)) else (min, max)
  if min = 0 ∧ max = some 0 then .empty
  else if min = 1 ∧ max = some 1 then body
  else .loop min max greedy body

mutual

/-- The expression without what makes its machine larger than need be. -/
def simplified : Expression → Expression
  | .empty => .empty
  | .literal text => if text.isEmpty then .empty else .literal text
  | .oneOf set unicode => ofSet set unicode
  | .look l => .look l
  | .loop min max greedy body => repeated min max greedy body.simplified
  | .capture body => .capture body.simplified
  | .row es => inRow (simplifiedAll es)
  | .choice es => inChoice (simplifiedAll es)

/-- Simplifies several expressions. -/
def simplifiedAll : List Expression → List Expression
  | [] => []
  | e :: es => e.simplified :: simplifiedAll es

end

end Expression

end StyleLookup.Pattern
