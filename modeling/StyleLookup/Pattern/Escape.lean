import StyleLookup.Pattern.Scan

/-!
# Escapes of patterns

What a backslash and the characters after it stand for: a character, a class, or an assertion
about a position.
-/

namespace StyleLookup.Pattern

open StyleLookup.Text

/-- The smallest parts of a pattern. -/
inductive Primitive where
  | literal (l : Literal)
  | dot (span : Span)
  | assertion (span : Span) (kind : AssertionKind)
  | letterClass (span : Span) (kind : LetterClass) (negated : Bool)
  | unicode (span : Span) (query : Unicode.Query) (negated : Bool)
deriving Repr, DecidableEq

namespace Primitive

/-- The place of a part. -/
def span : Primitive → Span
  | .literal l => l.span
  | .dot s | .assertion s _ | .letterClass s _ _ | .unicode s _ _ => s

/-- The part as a node of a pattern. -/
def toAst : Primitive → Ast
  | .literal l => .literal l
  | .dot s => .dot s
  | .assertion s kind => .assertion s kind
  | .letterClass s kind negated => .letterClass s kind negated
  | .unicode s query negated => .unicode s query negated

end Primitive

/-- Characters with a meaning of their own in patterns. -/
def isMeta (c : Char) : Bool := "\\.+*?()|[]\x7b\x7d^$#&-~".toList.contains c

/-- Whether an escaped character stands for itself: all of ASCII that is not reserved. -/
def isEscapable (c : Char) : Bool :=
  isMeta c || (c.toNat < 128 && !c.isAlphanum && c != '<' && c != '>')

/-- The control character of a letter. -/
def controlOf? : Char → Option Char
  | 'a' => some '\x07'
  | 'f' => some '\x0c'
  | 't' => some '\t'
  | 'n' => some '\n'
  | 'r' => some '\r'
  | 'v' => some '\x0b'
  | _ => none

/-- The assertion of a character. -/
def assertionOf? : Char → Option AssertionKind
  | 'A' => some .startText
  | 'z' => some .endText
  | 'b' => some .wordBoundary
  | 'B' => some .notWordBoundary
  | '<' => some .wordStart
  | '>' => some .wordEnd
  | _ => none

/-- The class of a letter, and whether the letter asks for what is not in it. -/
def letterClassOf? : Char → Option (LetterClass × Bool)
  | 'd' => some (.digit, false)
  | 's' => some (.space, false)
  | 'w' => some (.word, false)
  | 'D' => some (.digit, true)
  | 'S' => some (.space, true)
  | 'W' => some (.word, true)
  | _ => none

/-- How many digits a hexadecimal escape has without braces. -/
def hexCount? : Char → Option Nat
  | 'x' => some 2
  | 'u' => some 4
  | 'U' => some 8
  | _ => none

/-! ## Named boundaries -/

/-- Characters of the names of boundaries. -/
def isBoundaryChar (c : Char) : Bool := c.isAlpha || c == '-'

/-- The boundary of a name. -/
def boundaryOf? (name : List Char) : Option AssertionKind :=
  if name == "start".toList then some .wordStart
  else if name == "end".toList then some .wordEnd
  else if name == "start-half".toList then some .wordStartHalf
  else if name == "end-half".toList then some .wordEndHalf
  else none

/--
Reads the name of a boundary in braces, after the opening brace. Without a name this is the start
of a counted repetition, and nothing is read. `start` is the place of the backslash.
-/
def boundaryName (verbose : Bool) (start : Nat) (s : List Char) :
    Except Fault (Option (AssertionKind × List Char)) :=
  match skip verbose s with
  | [] => fail .boundaryOrRepetitionUnexpectedEnd ⟨start, 0⟩
  | c :: cs =>
      if isBoundaryChar c then
        match takeRun verbose isBoundaryChar (c :: cs) with
        | (name, '\x7d' :: rest) =>
            match boundaryOf? name with
            | some kind => .ok (some (kind, rest))
            | none => fail .boundaryUnrecognized ⟨place (c :: cs), place rest + 1⟩
        | (_, rest) => fail .boundaryUnclosed ⟨place s + 1, place rest⟩
      else .ok none

theorem boundaryName_length {verbose : Bool} {start : Nat} {s rest : List Char}
    {kind : AssertionKind} (h : boundaryName verbose start s = .ok (some (kind, rest))) :
    rest.length ≤ s.length := by
  have skipped := skip_length verbose s
  unfold boundaryName at h
  split at h
  · simp [fail] at h
  · rename_i c cs heq
    rw [heq] at skipped
    split at h
    · split at h
      · rename_i name tail heq'
        have run := takeRun_length verbose isBoundaryChar (c :: cs)
        rw [heq'] at run
        split at h
        · simp only [Except.ok.injEq, Option.some.injEq, Prod.mk.injEq] at h
          rw [← h.2]
          simp only [List.length_cons] at run skipped
          omega
        · simp [fail] at h
      · simp [fail] at h
    · simp at h

/-- Reads what may follow `\b`; `boundary` is its meaning if nothing does. -/
def afterBoundary (verbose : Bool) (start : Nat) (boundary : Primitive) :
    List Char → Except Fault (Primitive × List Char)
  | '\x7b' :: cs =>
      match boundaryName verbose start cs with
      | .error fault => .error fault
      | .ok (some (kind, rest)) => .ok (.assertion ⟨start, place rest⟩ kind, rest)
      | .ok none => .ok (boundary, '\x7b' :: cs)
  | s => .ok (boundary, s)

theorem afterBoundary_length {verbose : Bool} {start : Nat} {boundary p : Primitive}
    {s rest : List Char} (h : afterBoundary verbose start boundary s = .ok (p, rest)) :
    rest.length ≤ s.length := by
  unfold afterBoundary at h
  split at h
  · split at h
    · simp at h
    · rename_i cs kind tail heq
      have := boundaryName_length heq
      simp only [Except.ok.injEq, Prod.mk.injEq] at h
      simp only [List.length_cons, ← h.2]
      omega
    · simp_all
  · simp_all

/-! ## Escapes -/

/-- Reads what follows a backslash. -/
def escape (verbose : Bool) (s : List Char) : Except Fault (Primitive × List Char) :=
  let start := place s + 1
  match s with
  | [] => fail .escapeUnexpectedEnd ⟨start, 0⟩
  | c :: cs =>
      let span : Span := ⟨start, place cs⟩
      if isDecimalDigit c then fail .backreference span
      else
        match hexCount? c, letterClassOf? c, controlOf? c, assertionOf? c with
        | some count, _, _, _ =>
            match hexEscape verbose count cs with
            | .error fault => .error fault
            | .ok (char, rest) =>
                let isByte := c == 'x' && (skip verbose cs).head? != some '\x7b'
                .ok (.literal ⟨⟨start, place rest⟩, char, isByte⟩, rest)
        | none, some (kind, negated), _, _ => .ok (.letterClass span kind negated, cs)
        | none, none, some control, _ => .ok (.literal ⟨span, control, false⟩, cs)
        | none, none, none, some kind =>
            if c = 'b' then afterBoundary verbose start (.assertion span kind) cs
            else .ok (.assertion span kind, cs)
        | none, none, none, none =>
            if c = 'p' ∨ c = 'P' then
              match unicodeClass verbose cs with
              | .error fault => .error fault
              | .ok (query, rest) => .ok (.unicode ⟨start, place rest⟩ query (c == 'P'), rest)
            else if isEscapable c then .ok (.literal ⟨span, c, false⟩, cs)
            else fail .escapeUnrecognized span

/-- An escape takes at least one character after the backslash. -/
theorem escape_length {verbose : Bool} {s rest : List Char} {p : Primitive}
    (h : escape verbose s = .ok (p, rest)) : rest.length < s.length := by
  unfold escape at h
  dsimp only at h
  split at h
  · simp [fail] at h
  · rename_i c cs
    simp only [List.length_cons]
    split at h
    · simp [fail] at h
    · split at h
      · split at h
        · simp at h
        · rename_i heq
          have := hexEscape_length heq
          simp only [Except.ok.injEq, Prod.mk.injEq] at h
          rw [← h.2]
          omega
      · simp only [Except.ok.injEq, Prod.mk.injEq] at h
        rw [← h.2]
        omega
      · simp only [Except.ok.injEq, Prod.mk.injEq] at h
        rw [← h.2]
        omega
      · split at h
        · have := afterBoundary_length h
          omega
        · simp only [Except.ok.injEq, Prod.mk.injEq] at h
          rw [← h.2]
          omega
      · split at h
        · split at h
          · simp at h
          · rename_i heq
            have := unicodeClass_length heq
            simp only [Except.ok.injEq, Prod.mk.injEq] at h
            rw [← h.2]
            omega
        · split at h
          · simp only [Except.ok.injEq, Prod.mk.injEq] at h
            rw [← h.2]
            omega
          · simp [fail] at h

end StyleLookup.Pattern
