import StyleLookup.Pattern.Expression
import StyleLookup.Pattern.Reader

/-!
# The meaning of patterns

A pattern that was read is turned into an expression. Modes decide what a part means:
whether case counts, what a dot takes, where lines end, and whether characters are Unicode. A
pattern may change the modes for the rest of a group.

Without Unicode a class holds bytes. As texts are Unicode, such a class may hold ASCII only.
-/

namespace StyleLookup.Pattern

open StyleLookup.Unicode

/-- What parts of a pattern mean. -/
structure Modes where
  ignoreCase : Bool
  multiLine : Bool
  dotAll : Bool
  unicode : Bool
  crlf : Bool
  /-- Repetitions are lazy, and the sign of a lazy one makes them greedy. -/
  swapGreed : Bool
deriving Repr, DecidableEq

namespace Modes

/-- Turns one flag on or off. How a pattern may be spaced is settled when it is read. -/
def set (m : Modes) : Flag × Bool → Modes
  | (.ignoreCase, on) => { m with ignoreCase := on }
  | (.multiLine, on) => { m with multiLine := on }
  | (.dotAll, on) => { m with dotAll := on }
  | (.unicode, on) => { m with unicode := on }
  | (.crlf, on) => { m with crlf := on }
  | (.swapGreed, on) => { m with swapGreed := on }
  | (.verbose, _) => m

/-- The modes after flags are set. -/
def apply (m : Modes) (settings : FlagSettings) : Modes := settings.foldl set m

end Modes

/-! ## Classes -/

/-- The characters of a class with a letter. -/
def letterScalars (unicode : Bool) : LetterClass → Scalars
  | .digit => if unicode then decimalDigits else [⟨0x30, 0x39⟩]
  | .space => if unicode then whiteSpace else [⟨9, 13⟩, ⟨32, 32⟩]
  | .word =>
      if unicode then wordScalars
      else [⟨0x30, 0x39⟩, ⟨0x41, 0x5A⟩, ⟨0x5F, 0x5F⟩, ⟨0x61, 0x7A⟩]

/-- The characters of a named class of ASCII. -/
def asciiScalars : AsciiKind → Scalars
  | .alnum => [⟨0x30, 0x39⟩, ⟨0x41, 0x5A⟩, ⟨0x61, 0x7A⟩]
  | .alpha => [⟨0x41, 0x5A⟩, ⟨0x61, 0x7A⟩]
  | .ascii => [⟨0, 0x7F⟩]
  | .blank => [⟨9, 9⟩, ⟨32, 32⟩]
  | .cntrl => [⟨0, 0x1F⟩, ⟨0x7F, 0x7F⟩]
  | .digit => [⟨0x30, 0x39⟩]
  | .graph => [⟨0x21, 0x7E⟩]
  | .lower => [⟨0x61, 0x7A⟩]
  | .print => [⟨0x20, 0x7E⟩]
  | .punct => [⟨0x21, 0x2F⟩, ⟨0x3A, 0x40⟩, ⟨0x5B, 0x60⟩, ⟨0x7B, 0x7E⟩]
  | .space => [⟨9, 13⟩, ⟨32, 32⟩]
  | .upper => [⟨0x41, 0x5A⟩]
  | .word => [⟨0x30, 0x39⟩, ⟨0x41, 0x5A⟩, ⟨0x5F, 0x5F⟩, ⟨0x61, 0x7A⟩]
  | .xdigit => [⟨0x30, 0x39⟩, ⟨0x41, 0x46⟩, ⟨0x61, 0x66⟩]

/-- The set with the other case of its ASCII letters. -/
def foldAscii (set : Scalars) : Scalars :=
  let mates := (List.range 26).flatMap fun k =>
    (if set.contains (0x41 + k) then [(⟨0x61 + k, 0x61 + k⟩ : Interval)] else [])
      ++ (if set.contains (0x61 + k) then [⟨0x41 + k, 0x41 + k⟩] else [])
  set.union mates

/-- Closes a set under change of case, where case does not count. -/
def Modes.fold (m : Modes) (set : Scalars) : Scalars :=
  if m.ignoreCase then (if m.unicode then set.fold else foldAscii set) else set

/-- A set that may stand for bytes only where it is ASCII. -/
def Modes.encodable (m : Modes) (span : Span) (set : Scalars) : Except Fault Scalars :=
  if m.unicode || set.isAscii then .ok set else fail .invalidEncoding span

/-- Negates a set among characters, or among bytes. -/
def Modes.negate (m : Modes) (set : Scalars) : Scalars :=
  if m.unicode then set.between else set.complementTo 255

/-- The set of a class that may be negated. Case is folded first. -/
def Modes.classSet (m : Modes) (span : Span) (negated : Bool) (set : Scalars) :
    Except Fault Scalars :=
  m.encodable span (if negated then m.negate (m.fold set) else m.fold set)

/-- The characters of a class with a letter; change of case adds none to it. -/
def Modes.letterSet (m : Modes) (span : Span) (kind : LetterClass) (negated : Bool) :
    Except Fault Scalars :=
  let set := letterScalars m.unicode kind
  m.encodable span (if negated then m.negate set else set)

/--
The characters that a query asks for. A negated query that asks for what lies outside of a set
means the set itself.
-/
def Modes.querySet (m : Modes) (span : Span) (query : Query) (negated : Bool) :
    Except Fault Scalars :=
  if !m.unicode then fail .unicodeNotAllowed span
  else
    match query.answer with
    | .error .unknownProperty => fail .propertyNotFound span
    | .error .unknownValue => fail .propertyValueNotFound span
    | .ok set => m.classSet span (negated != query.isExclusion) set.trim

/-- A character as an item of a class. -/
def Modes.classLiteral (m : Modes) (l : Literal) : Except Fault Nat :=
  if m.unicode || l.char.toNat < 128 then .ok l.char.toNat
  else if l.isByte then fail .invalidEncoding l.span
  else fail .unicodeNotAllowed l.span

/-- Combines two sets. -/
def SetOperator.apply : SetOperator → Scalars → Scalars → Scalars
  | .intersection => Scalars.intersection
  | .difference => Scalars.difference
  | .symmetricDifference => Scalars.symmetricDifference

mutual

/-- The characters of what stands in a class. -/
def Modes.setOf (m : Modes) : ClassSet → Except Fault Scalars
  | .empty _ => .ok []
  | .literal l => (m.classLiteral l).map Scalars.single
  | .range _ first last =>
      match m.classLiteral first, m.classLiteral last with
      | .error fault, _ => .error fault
      | _, .error fault => .error fault
      | .ok a, .ok b => .ok [⟨a, b⟩]
  | .ascii span kind negated => m.classSet span negated (asciiScalars kind)
  | .unicode span query negated => m.querySet span query negated
  | .letterClass span kind negated => m.letterSet span kind negated
  | .bracketed span negated set =>
      match m.setOf set with
      | .error fault => .error fault
      | .ok set => m.classSet span negated set
  | .union _ items => m.setOfAll items
  | .operation _ operator left right =>
      match m.setOf left with
      | .error fault => .error fault
      | .ok left =>
          match m.setOf right with
          | .error fault => .error fault
          | .ok right => .ok (operator.apply (m.fold left) (m.fold right)).trim

/-- The characters of several things in a class. -/
def Modes.setOfAll (m : Modes) : List ClassSet → Except Fault Scalars
  | [] => .ok []
  | item :: items =>
      match m.setOf item with
      | .error fault => .error fault
      | .ok set => (m.setOfAll items).map set.union

end

/-! ## Expressions -/

/-- An expression that takes one character of a set. -/
def Modes.oneOf (m : Modes) (set : Scalars) : Expression := .oneOf set m.unicode

/-- A character that stands for itself, or for its case class. -/
def Modes.literal (m : Modes) (l : Literal) : Except Fault Expression :=
  if !m.unicode && l.isByte && 128 ≤ l.char.toNat then fail .invalidEncoding l.span
  else .ok (m.oneOf (m.fold (Scalars.single l.char.toNat)))

/-- What a dot takes: all characters, or all but line ends. -/
def Modes.dot (m : Modes) (span : Span) : Except Fault Expression :=
  if !m.unicode then fail .invalidEncoding span
  else if m.dotAll then .ok (m.oneOf [⟨0, lastScalar⟩])
  else if m.crlf then .ok (m.oneOf (Scalars.complement [⟨10, 10⟩, ⟨13, 13⟩]))
  else .ok (m.oneOf (Scalars.complement [⟨10, 10⟩]))

/-- What an assertion looks for. -/
def Modes.look (m : Modes) : AssertionKind → Look
  | .startLine =>
      if m.multiLine then (if m.crlf then .lineStartCrlf else .lineStart) else .textStart
  | .endLine =>
      if m.multiLine then (if m.crlf then .lineEndCrlf else .lineEnd) else .textEnd
  | .startText => .textStart
  | .endText => .textEnd
  | .wordBoundary => .word .boundary m.unicode
  | .notWordBoundary => .word .inside m.unicode
  | .wordStart => .word .start m.unicode
  | .wordEnd => .word .stop m.unicode
  | .wordStartHalf => .word .startHalf m.unicode
  | .wordEndHalf => .word .stopHalf m.unicode

/-- A node without parts. -/
def Modes.single (m : Modes) : Ast → Except Fault Expression
  | .literal l => m.literal l
  | .dot span => m.dot span
  | .assertion _ kind => .ok (.look (m.look kind))
  | .letterClass span kind negated => (m.letterSet span kind negated).map m.oneOf
  | .unicode span query negated => (m.querySet span query negated).map m.oneOf
  | .bracketed span negated set =>
      match m.setOf set with
      | .error fault => .error fault
      | .ok set => (m.classSet span negated set).map m.oneOf
  | _ => .ok .empty

mutual

/-- The expression of a node, and the modes after it. -/
def Modes.meaning (m : Modes) : Ast → Except Fault (Expression × Modes)
  | .flags _ settings => .ok (.empty, m.apply settings)
  | .repetition _ min max isLazy body =>
      (m.meaning body).map fun (e, m) => (.loop min max (isLazy == m.swapGreed) e, m)
  | .group _ .capture body => (m.meaning body).map fun (e, _) => (.capture e, m)
  | .group _ (.plain settings) body => ((m.apply settings).meaning body).map fun (e, _) => (e, m)
  | .alternation _ branches =>
      (m.meanings branches).map fun (es, m) => (.choice es, m)
  | .concat _ items => (m.meanings items).map fun (es, m) => (.row es, m)
  | node => (m.single node).map fun e => (e, m)

/-- The expressions of nodes in a row; each starts with the modes that the one before left. -/
def Modes.meanings (m : Modes) : List Ast → Except Fault (List Expression × Modes)
  | [] => .ok ([], m)
  | node :: nodes =>
      match m.meaning node with
      | .error fault => .error fault
      | .ok (e, m) => (m.meanings nodes).map fun (es, m) => (e :: es, m)

end

end StyleLookup.Pattern
