import StyleLookup.Unicode.Query

/-!
# Syntax of patterns

A pattern is read into a tree whose nodes know where they stand. A place in a pattern is named by
the number of characters from there to its end: text put in front of a pattern then changes no
place in it.
-/

namespace StyleLookup.Pattern

/-- A piece of a pattern, by the number of characters left at its start and at its end. -/
structure Span where
  start : Nat
  stop : Nat
deriving Repr, DecidableEq, Inhabited

/-- A character that stands for itself. -/
structure Literal where
  span : Span
  char : Char
  /-- Written as `\xNN`, which names a byte where Unicode is off. -/
  isByte : Bool
deriving Repr, DecidableEq

/-- What an assertion about a position asks for. -/
inductive AssertionKind where
  /-- `^` -/
  | startLine
  /-- `$` -/
  | endLine
  /-- `\A` -/
  | startText
  /-- `\z` -/
  | endText
  /-- `\b` -/
  | wordBoundary
  /-- `\B` -/
  | notWordBoundary
  /-- `\<` or `\b{start}` -/
  | wordStart
  /-- `\>` or `\b{end}` -/
  | wordEnd
  /-- `\b{start-half}` -/
  | wordStartHalf
  /-- `\b{end-half}` -/
  | wordEndHalf
deriving Repr, DecidableEq

/-- The classes with a letter of their own. -/
inductive LetterClass where
  | digit
  | space
  | word
deriving Repr, DecidableEq

/-- The classes of ASCII characters that have a name. -/
inductive AsciiKind where
  | alnum | alpha | ascii | blank | cntrl | digit | graph | lower | print | punct | space
  | upper | word | xdigit
deriving Repr, DecidableEq

/-- How two sets combine in a class. -/
inductive SetOperator where
  | intersection
  | difference
  | symmetricDifference
deriving Repr, DecidableEq

/-- What stands in a bracketed class. -/
inductive ClassSet where
  | empty (span : Span)
  | literal (l : Literal)
  | range (span : Span) (first last : Literal)
  | ascii (span : Span) (kind : AsciiKind) (negated : Bool)
  | unicode (span : Span) (query : Unicode.Query) (negated : Bool)
  | letterClass (span : Span) (kind : LetterClass) (negated : Bool)
  | bracketed (span : Span) (negated : Bool) (set : ClassSet)
  | union (span : Span) (items : List ClassSet)
  | operation (span : Span) (operator : SetOperator) (left right : ClassSet)

/-- The place of a set. -/
def ClassSet.span : ClassSet → Span
  | .literal l => l.span
  | .empty s | .range s _ _ | .ascii s _ _ | .unicode s _ _ | .letterClass s _ _ | .bracketed s _ _
  | .union s _ | .operation s _ _ _ => s

/-- The flags that a pattern may set for a part of itself. -/
inductive Flag where
  /-- `i` -/
  | ignoreCase
  /-- `m` -/
  | multiLine
  /-- `s` -/
  | dotAll
  /-- `U` -/
  | swapGreed
  /-- `u` -/
  | unicode
  /-- `R` -/
  | crlf
  /-- `x` -/
  | verbose
deriving Repr, DecidableEq

/-- Flags that are turned on or off. -/
abbrev FlagSettings := List (Flag × Bool)

/-- What a group is for. -/
inductive GroupKind where
  | capture
  | plain (flags : FlagSettings)
deriving Repr, DecidableEq

/-- A pattern as written. -/
inductive Ast where
  | empty (span : Span)
  | flags (span : Span) (settings : FlagSettings)
  | literal (l : Literal)
  | dot (span : Span)
  | assertion (span : Span) (kind : AssertionKind)
  | letterClass (span : Span) (kind : LetterClass) (negated : Bool)
  | unicode (span : Span) (query : Unicode.Query) (negated : Bool)
  | bracketed (span : Span) (negated : Bool) (set : ClassSet)
  /--
  At least `min` times and at most `max` times, without limit if there is no `max`. A lazy one
  stops as soon as it may.
  -/
  | repetition (span : Span) (min : Nat) (max : Option Nat) (isLazy : Bool) (body : Ast)
  | group (span : Span) (kind : GroupKind) (body : Ast)
  | alternation (span : Span) (branches : List Ast)
  | concat (span : Span) (items : List Ast)

/-- The place of a node. -/
def Ast.span : Ast → Span
  | .literal l => l.span
  | .empty s | .flags s _ | .dot s | .assertion s _ | .letterClass s _ _ | .unicode s _ _
  | .bracketed s _ _ | .repetition s _ _ _ _ | .group s _ _ | .alternation s _ | .concat s _ => s

/-- Items in a row as one node: none is the empty pattern, and one stands for itself. -/
def Ast.inRow (span : Span) : List Ast → Ast
  | [] => .empty span
  | [item] => item
  | items => .concat span items

end StyleLookup.Pattern
