import StyleLookup.Pattern.ClassReader

/-!
# Reading patterns

A pattern is read with a list of levels, one for each group that is open and one for the whole
pattern. A level holds the branches that are complete and the items of the branch being read. Each
step takes at least one character (`step_length`), so reading ends.
-/

namespace StyleLookup.Pattern

/-- An open group, or the whole pattern, and what is read in it. -/
structure Level where
  /-- Where the group's parenthesis stands. -/
  opening : Nat
  kind : GroupKind
  /-- Branches before the last bar, last first. -/
  branches : List Ast
  /-- Where the first branch starts. -/
  firstStart : Nat
  /-- Items of the branch being read, last first. -/
  items : List Ast
  /-- Where this branch starts. -/
  start : Nat
  /-- Whether white space and comments count for nothing. -/
  verbose : Bool

namespace Level

/-- A level that starts at a place. -/
def starting (opening : Nat) (kind : GroupKind) (start : Nat) (verbose : Bool) : Level :=
  ⟨opening, kind, [], start, [], start, verbose⟩

/-- Adds an item. -/
def push (l : Level) (item : Ast) : Level := { l with items := item :: l.items }

/-- The branch being read, which stops at a place. -/
def branch (l : Level) (stop : Nat) : Ast := Ast.inRow ⟨l.start, stop⟩ l.items.reverse

/-- Ends the branch at a bar; `stop` is the place of the bar. -/
def nextBranch (l : Level) (stop : Nat) : Level :=
  { l with branches := l.branch stop :: l.branches, items := [], start := stop - 1 }

/-- All branches, the last of which stops at a place. -/
def body (l : Level) (stop : Nat) : Ast :=
  match l.branches with
  | [] => l.branch stop
  | _ :: _ => .alternation ⟨l.firstStart, stop⟩ (l.branches.reverse ++ [l.branch stop])

end Level

/-- Where reading stands. -/
structure Reading where
  level : Level
  outer : List Level
  names : GroupNames
  rest : List Char

/-! ## Groups -/

/-- Whether flags were set to make white space count for nothing. -/
def verboseAfter (settings : FlagSettings) (before : Bool) : Bool :=
  match settings.find? (fun s => s.1 == .verbose) with
  | some (_, on) => on
  | none => before

/-- The number of characters of a look-around that starts after a parenthesis. -/
def lookAround? : List Char → Option Nat
  | '?' :: '=' :: _ => some 2
  | '?' :: '!' :: _ => some 2
  | '?' :: '<' :: '=' :: _ => some 3
  | '?' :: '<' :: '!' :: _ => some 3
  | _ => none

/-- What follows the sign of a named group. -/
def namedGroup? : List Char → Option (List Char)
  | '?' :: 'P' :: '<' :: cs => some cs
  | '?' :: '<' :: cs => some cs
  | _ => none

theorem namedGroup?_length {s rest : List Char} (h : namedGroup? s = some rest) :
    rest.length ≤ s.length := by
  unfold namedGroup? at h
  split at h <;> cases h <;> simp only [List.length_cons] <;> omega

/-- Opens a group. -/
def Reading.openGroup (r : Reading) (opening : Nat) (kind : GroupKind) (names : GroupNames)
    (rest : List Char) : Reading :=
  let verbose := match kind with
    | .plain settings => verboseAfter settings r.level.verbose
    | .capture => r.level.verbose
  ⟨Level.starting opening kind (place rest) verbose, r.level :: r.outer, names, rest⟩

/-- Reads what follows `(?`: flags, and either a group or the end of the parentheses. -/
def flagGroup (r : Reading) (opening : Span) (question : List Char) (s : List Char) :
    Except Fault Reading :=
  if s.isEmpty then fail .groupUnclosed opening
  else
    match flagList ⟨[], none, false⟩ s with
    | .error fault => .error fault
    | .ok (settings, ':' :: rest) =>
        .ok (r.openGroup opening.start (.plain settings) r.names rest)
    | .ok (settings, rest) =>
        if settings.isEmpty then fail .repetitionMissing (spanAt question)
        else
          let rest := rest.drop 1
          let level := { r.level with verbose := verboseAfter settings r.level.verbose }
          .ok ⟨level.push (.flags ⟨opening.start, place rest⟩ settings), r.outer, r.names, rest⟩

/-- Reads what follows an opening parenthesis. -/
def group (r : Reading) (s : List Char) : Except Fault Reading :=
  let opening : Span := ⟨place s + 1, place s⟩
  let s := skip r.level.verbose s
  match lookAround? s with
  | some n => fail .lookAround ⟨opening.start, place (s.drop n)⟩
  | none =>
      match namedGroup? s with
      | some cs =>
          match groupName r.names cs with
          | .error fault => .error fault
          | .ok (names, rest) => .ok (r.openGroup opening.start .capture names rest)
      | none =>
          match s with
          | '?' :: cs => flagGroup r opening s cs
          | s => .ok (r.openGroup opening.start .capture r.names s)

theorem flagGroup_length {r r' : Reading} {opening : Span} {question s : List Char}
    (h : flagGroup r opening question s = .ok r') : r'.rest.length ≤ s.length := by
  unfold flagGroup at h
  split at h
  · simp [fail] at h
  · split at h
    · simp at h
    · rename_i heq
      have := flagList_length heq
      cases h
      simp only [Reading.openGroup, List.length_cons] at *
      omega
    · rename_i heq
      have := flagList_length heq
      split at h
      · simp [fail] at h
      · cases h
        simp only [List.length_drop]
        omega

theorem group_length {r r' : Reading} {s : List Char} (h : group r s = .ok r') :
    r'.rest.length ≤ s.length := by
  unfold group at h
  have skipped := skip_length r.level.verbose s
  dsimp only at h
  split at h
  · simp [fail] at h
  · split at h
    · rename_i hn
      have := namedGroup?_length hn
      split at h
      · simp at h
      · rename_i heq
        have := groupName_length heq
        cases h
        simp only [Reading.openGroup]
        omega
    · split at h
      · rename_i heq
        have := flagGroup_length h
        rw [heq] at skipped
        simp only [List.length_cons] at skipped
        omega
      · cases h
        exact skipped

/-- Closes the innermost group at its parenthesis; `rest` is what follows that. -/
def Reading.closeGroup (r : Reading) (rest : List Char) : Except Fault Reading :=
  let stop := place rest + 1
  match r.outer with
  | [] => fail .groupUnopened ⟨stop, place rest⟩
  | parent :: outer =>
      let node := Ast.group ⟨r.level.opening, place rest⟩ r.level.kind (r.level.body stop)
      .ok ⟨parent.push node, outer, r.names, rest⟩

/-! ## Repetitions -/

/-- Takes the item that an operator repeats; empty items and flags are none. -/
def Level.popOperand (l : Level) (operator : Span) : Except Fault (Ast × Level) :=
  match l.items with
  | [] | .empty _ :: _ | .flags _ _ :: _ => fail .repetitionMissing operator
  | item :: items => .ok (item, { l with items := items })

/-- Reads the sign of a lazy repetition, if it is there. -/
def takeLazy : List Char → Bool × List Char
  | '?' :: cs => (true, cs)
  | s => (false, s)

theorem takeLazy_length (s : List Char) : (takeLazy s).2.length ≤ s.length := by
  unfold takeLazy
  split <;> simp

/-- Repeats the last item; `rest` is what follows the operator. -/
def Reading.repeatLast (r : Reading) (min : Nat) (max : Option Nat) (rest : List Char) :
    Except Fault Reading :=
  let (isLazy, rest') := takeLazy rest
  match r.level.popOperand ⟨place rest + 1, place rest + 1⟩ with
  | .error fault => .error fault
  | .ok (item, level) =>
      let node := Ast.repetition ⟨item.span.start, place rest'⟩ min max isLazy item
      .ok ⟨level.push node, r.outer, r.names, rest'⟩

/--
Reads the counts of a repetition up to its closing brace, which is left. `opening` is the place of
the opening brace. A missing first number is a fault unless the text ends first.
-/
def counts (verbose : Bool) (opening : Nat) (s : List Char) :
    Except Fault (Nat × Option Nat × List Char) :=
  let unclosed {α : Type} (rest : List Char) : Except Fault α :=
    fail .repetitionUnclosed ⟨opening, place rest⟩
  match skip verbose s with
  | [] => unclosed []
  | first :: more =>
      match decimal verbose (first :: more) with
      | (_, []) => unclosed []
      | (low, ',' :: cs) =>
          match skip verbose cs with
          | [] => unclosed []
          | '\x7d' :: rest => low.map fun low => (low, none, '\x7d' :: rest)
          | s =>
              match low, decimal verbose s with
              | .error fault, _ => .error fault
              | _, (.error fault, _) => .error fault
              | .ok low, (.ok high, '\x7d' :: rest) => .ok (low, some high, '\x7d' :: rest)
              | _, (_, rest) => unclosed rest
      | (.error fault, _) => .error fault
      | (.ok low, '\x7d' :: rest) => .ok (low, some low, '\x7d' :: rest)
      | (_, rest) => unclosed rest

theorem counts_length {verbose : Bool} {opening low : Nat} {high : Option Nat}
    {s rest : List Char} (h : counts verbose opening s = .ok (low, high, rest)) :
    rest.length ≤ s.length := by
  have skipped := skip_length verbose s
  unfold counts at h
  dsimp only at h
  split at h
  · simp [fail] at h
  · rename_i first more heq
    have number := decimal_length verbose (first :: more)
    rw [heq] at skipped
    split at h
    · simp [fail] at h
    · rename_i low' cs hd
      have comma := skip_length verbose cs
      rw [hd] at number
      simp only [List.length_cons] at number
      split at h
      · simp [fail] at h
      · rename_i tail hs
        rw [hs] at comma
        cases low' with
        | error e => simp [Except.map] at h
        | ok n =>
            simp only [Except.map, Except.ok.injEq, Prod.mk.injEq] at h
            rw [← h.2.2]
            simp only [List.length_cons] at *
            omega
      · have second := decimal_length verbose (skip verbose cs)
        split at h
        · simp at h
        · simp at h
        · rename_i hd'
          rw [hd'] at second
          simp only [Except.ok.injEq, Prod.mk.injEq] at h
          rw [← h.2.2]
          simp only [List.length_cons] at *
          omega
        · simp [fail] at h
    · simp at h
    · rename_i hd
      rw [hd] at number
      simp only [Except.ok.injEq, Prod.mk.injEq] at h
      rw [← h.2.2]
      simp only [List.length_cons] at *
      omega
    · simp [fail] at h

/-- Reads a counted repetition after its opening brace. -/
def Reading.counted (r : Reading) (s : List Char) : Except Fault Reading :=
  let opening := place s + 1
  match r.level.popOperand ⟨opening, opening⟩ with
  | .error fault => .error fault
  | .ok (item, level) =>
      match counts r.level.verbose opening s with
      | .error fault => .error fault
      | .ok (low, high, rest) =>
          let (isLazy, rest) := takeLazy (skip r.level.verbose (rest.drop 1))
          if high.any (· < low) then fail .repetitionCountInvalid ⟨opening, place rest⟩
          else
            let node := Ast.repetition ⟨item.span.start, place rest⟩ low high isLazy item
            .ok ⟨level.push node, r.outer, r.names, rest⟩

theorem repeatLast_length {r r' : Reading} {min : Nat} {max : Option Nat} {rest : List Char}
    (h : r.repeatLast min max rest = .ok r') : r'.rest.length ≤ rest.length := by
  unfold Reading.repeatLast at h
  dsimp only at h
  split at h
  · simp at h
  · cases h
    exact takeLazy_length rest

theorem counted_length {r r' : Reading} {s : List Char} (h : r.counted s = .ok r') :
    r'.rest.length ≤ s.length := by
  unfold Reading.counted at h
  dsimp only at h
  split at h
  · simp at h
  · split at h
    · simp at h
    · rename_i low high rest heq
      have := counts_length heq
      have skipped := skip_length r.level.verbose (rest.drop 1)
      have sign := takeLazy_length (skip r.level.verbose (rest.drop 1))
      rw [List.length_drop] at skipped
      split at h
      · simp [fail] at h
      · cases h
        simp only
        omega

/-! ## Steps -/

/-- Reads a part that stands for itself, or an escape. -/
def primitive (verbose : Bool) (c : Char) (cs : List Char) :
    Except Fault (Primitive × List Char) :=
  let span := spanOfNext (c :: cs)
  match c with
  | '\\' => escape verbose cs
  | '.' => .ok (.dot span, cs)
  | '^' => .ok (.assertion span .startLine, cs)
  | '$' => .ok (.assertion span .endLine, cs)
  | c => .ok (.literal ⟨span, c, false⟩, cs)

theorem primitive_length {verbose : Bool} {c : Char} {cs rest : List Char} {p : Primitive}
    (h : primitive verbose c cs = .ok (p, rest)) : rest.length ≤ cs.length := by
  unfold primitive at h
  dsimp only at h
  split at h
  · have := escape_length h
    omega
  all_goals simp_all

/-- Adds what a reader returns to the level. -/
def Reading.take (r : Reading) (result : Except Fault (Ast × List Char)) :
    Except Fault Reading :=
  result.map fun (item, rest) => ⟨r.level.push item, r.outer, r.names, rest⟩

/-- Reads one thing that starts with `c`. -/
def step (r : Reading) (c : Char) (cs : List Char) : Except Fault Reading :=
  match c with
  | '(' => group r cs
  | ')' => r.closeGroup cs
  | '|' => .ok ⟨r.level.nextBranch (place cs + 1), r.outer, r.names, cs⟩
  | '[' => r.take (bracketedClass r.level.verbose cs)
  | '?' => r.repeatLast 0 (some 1) cs
  | '*' => r.repeatLast 0 none cs
  | '+' => r.repeatLast 1 none cs
  | '\x7b' => r.counted cs
  | c => r.take ((primitive r.level.verbose c cs).map fun (p, rest) => (p.toAst, rest))

theorem take_length {r r' : Reading} {result : Except Fault (Ast × List Char)}
    (h : r.take result = .ok r') : ∃ item, result = .ok (item, r'.rest) := by
  unfold Reading.take at h
  cases result with
  | error e => simp [Except.map] at h
  | ok a =>
      simp only [Except.map, Except.ok.injEq] at h
      exact ⟨a.1, by rw [← h]⟩

/-- A step takes the character that it starts with. -/
theorem step_length {r r' : Reading} {c : Char} {cs : List Char} (h : step r c cs = .ok r') :
    r'.rest.length ≤ cs.length := by
  unfold step at h
  split at h
  · exact group_length h
  · unfold Reading.closeGroup at h
    dsimp only at h
    split at h
    · simp [fail] at h
    · cases h
      exact Nat.le_refl _
  · cases h
    exact Nat.le_refl _
  · obtain ⟨item, hi⟩ := take_length h
    exact bracketedClass_length hi
  · exact repeatLast_length h
  · exact repeatLast_length h
  · exact repeatLast_length h
  · exact counted_length h
  · obtain ⟨item, hi⟩ := take_length h
    simp only [Except.map] at hi
    split at hi
    · simp at hi
    · rename_i a hp
      simp only [Except.ok.injEq, Prod.mk.injEq] at hi
      rw [← hi.2]
      exact primitive_length hp

/-- Ends reading: a group that is still open is a fault. -/
def Reading.finish (r : Reading) : Except Fault Ast :=
  match r.outer with
  | [] => .ok (r.level.body 0)
  | _ :: _ => fail .groupUnclosed ⟨r.level.opening, r.level.opening - 1⟩

/-- Reads on to the end of the pattern. -/
def Reading.run (r : Reading) : Except Fault Ast :=
  match _h : skip r.level.verbose r.rest with
  | [] => r.finish
  | c :: cs =>
      match _h' : step r c cs with
      | .error fault => .error fault
      | .ok r' => r'.run
termination_by r.rest.length
decreasing_by
  have := step_length _h'
  have skipped := skip_length r.level.verbose r.rest
  rw [_h] at skipped
  simp only [List.length_cons] at skipped
  omega

/-! ## Depth -/

mutual

/-- The place of the first set that lies deeper than allowed, at a depth. -/
def ClassSet.tooDeep? (depth : Nat) : ClassSet → Option Span
  | .bracketed span _ set =>
      if nestLimit ≤ depth then some span else set.tooDeep? (depth + 1)
  | .union span items =>
      if nestLimit ≤ depth then some span else ClassSet.anyTooDeep? (depth + 1) items
  | .operation span _ left right =>
      if nestLimit ≤ depth then some span
      else (left.tooDeep? (depth + 1)).or (right.tooDeep? (depth + 1))
  | _ => none

/-- The first such place in a row of sets. -/
def ClassSet.anyTooDeep? (depth : Nat) : List ClassSet → Option Span
  | [] => none
  | item :: items => (item.tooDeep? depth).or (ClassSet.anyTooDeep? depth items)

end

mutual

/-- The place of the first node that lies deeper than allowed, at a depth. -/
def Ast.tooDeep? (depth : Nat) : Ast → Option Span
  | .bracketed span _ set =>
      if nestLimit ≤ depth then some span else set.tooDeep? (depth + 1)
  | .repetition span _ _ _ body | .group span _ body =>
      if nestLimit ≤ depth then some span else body.tooDeep? (depth + 1)
  | .alternation span items | .concat span items =>
      if nestLimit ≤ depth then some span else Ast.anyTooDeep? (depth + 1) items
  | _ => none

/-- The first such place in a row of nodes. -/
def Ast.anyTooDeep? (depth : Nat) : List Ast → Option Span
  | [] => none
  | item :: items => (item.tooDeep? depth).or (Ast.anyTooDeep? depth items)

end

/-- Reads a pattern. -/
def Ast.read (pattern : List Char) : Except Fault Ast :=
  let whole := Level.starting (place pattern) .capture (place pattern) false
  match Reading.run ⟨whole, [], [], pattern⟩ with
  | .error fault => .error fault
  | .ok ast =>
      match ast.tooDeep? 0 with
      | some span => fail .nestedTooDeep span
      | none => .ok ast

end StyleLookup.Pattern
