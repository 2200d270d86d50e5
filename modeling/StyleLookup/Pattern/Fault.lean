import StyleLookup.Pattern.Syntax
import StyleLookup.Decimal.Shortest
import StyleLookup.Text.Pieces

/-!
# Faults of patterns

What is wrong with a pattern and where. A message shows the pattern with carets under the place.
-/

namespace StyleLookup.Pattern

open StyleLookup.Text

/-- What is wrong with a pattern. -/
inductive Cause where
  | groupUnclosed
  | groupUnopened
  | classUnclosed
  | classRangeInvalid
  | classRangeLiteral
  | classEscapeInvalid
  | repetitionMissing
  | repetitionUnclosed
  | repetitionCountEmpty
  | repetitionCountInvalid
  | decimalInvalid
  | escapeUnrecognized
  | escapeUnexpectedEnd
  | hexEmpty
  | hexInvalid
  | hexInvalidDigit
  | backreference
  | lookAround
  | flagUnrecognized
  | flagDuplicate
  | flagDanglingNegation
  | flagRepeatedNegation
  | flagUnexpectedEnd
  | groupNameEmpty
  | groupNameInvalid
  | groupNameUnexpectedEnd
  | groupNameDuplicate
  | boundaryOrRepetitionUnexpectedEnd
  | boundaryUnclosed
  | boundaryUnrecognized
  | unicodeClassInvalid
  | propertyNotFound
  | propertyValueNotFound
  | unicodeNotAllowed
  | invalidEncoding
  | nestedTooDeep
deriving Repr, DecidableEq

/-- How deep brackets, groups and repetitions may nest. -/
def nestLimit : Nat := 250

/-- The wording of a cause. -/
def Cause.message : Cause → String
  | .groupUnclosed => "unclosed group"
  | .groupUnopened => "unopened group"
  | .classUnclosed => "unclosed character class"
  | .classRangeInvalid => "invalid character class range, the start must be <= the end"
  | .classRangeLiteral => "invalid range boundary, must be a literal"
  | .classEscapeInvalid => "invalid escape sequence found in character class"
  | .repetitionMissing => "repetition operator missing expression"
  | .repetitionUnclosed => "unclosed counted repetition"
  | .repetitionCountEmpty => "repetition quantifier expects a valid decimal"
  | .repetitionCountInvalid =>
      "invalid repetition count range, the start must be <= the end"
  | .decimalInvalid => "decimal literal invalid"
  | .escapeUnrecognized => "unrecognized escape sequence"
  | .escapeUnexpectedEnd => "incomplete escape sequence, reached end of pattern prematurely"
  | .hexEmpty => "hexadecimal literal empty"
  | .hexInvalid => "hexadecimal literal is not a Unicode scalar value"
  | .hexInvalidDigit => "invalid hexadecimal digit"
  | .backreference => "backreferences are not supported"
  | .lookAround => "look-around, including look-ahead and look-behind, is not supported"
  | .flagUnrecognized => "unrecognized flag"
  | .flagDuplicate => "duplicate flag"
  | .flagDanglingNegation => "dangling flag negation operator"
  | .flagRepeatedNegation => "flag negation operator repeated"
  | .flagUnexpectedEnd => "expected flag but got end of regex"
  | .groupNameEmpty => "empty capture group name"
  | .groupNameInvalid => "invalid capture group character"
  | .groupNameUnexpectedEnd => "unclosed capture group name"
  | .groupNameDuplicate => "duplicate capture group name"
  | .boundaryOrRepetitionUnexpectedEnd =>
      "found either the beginning of a special word boundary or a bounded repetition on a \\b "
        ++ "with an opening brace, but no closing brace"
  | .boundaryUnclosed =>
      "special word boundary assertion is either unclosed or contains an invalid character"
  | .boundaryUnrecognized =>
      "unrecognized special word boundary assertion, valid choices are: start, end, "
        ++ "start-half or end-half"
  | .unicodeClassInvalid => "invalid Unicode character class"
  | .propertyNotFound => "Unicode property not found"
  | .propertyValueNotFound => "Unicode property value not found"
  | .unicodeNotAllowed => "Unicode not allowed here"
  | .invalidEncoding => "pattern can match invalid UTF-8"
  | .nestedTooDeep =>
      "exceed the maximum number of nested parentheses/brackets ("
        ++ toString nestLimit ++ ")"

/-- A cause, its place, and an earlier place that it clashes with. -/
structure Fault where
  cause : Cause
  span : Span
  earlier : Option Span
deriving Repr, DecidableEq

/-! ## Showing the place -/

/-- A line and a column of a pattern, both counted from one; a column is one character. -/
structure Place where
  line : Nat
  column : Nat
deriving Repr, DecidableEq

/-- The place after a text. Only a line feed ends a line. -/
def placeAfter (text : List Char) : Place :=
  text.foldl (fun p c => if c = '\n' then ⟨p.line + 1, 1⟩ else ⟨p.line, p.column + 1⟩) ⟨1, 1⟩

/-- The lines of a text, without their line ends; a text that ends a line starts no other. -/
def linesOf (text : List Char) : List (List Char) :=
  let pieces := cutAt '\n' text
  let closed := pieces.dropLast.map fun line =>
    if line.getLast? = some '\r' then line.dropLast else line
  match pieces.getLast? with
  | some (c :: cs) => closed ++ [c :: cs]
  | _ => closed

/-- A span as the places of its two ends. -/
def Span.places (pattern : List Char) (s : Span) : Place × Place :=
  (placeAfter (pattern.take (pattern.length - s.start)),
    placeAfter (pattern.take (pattern.length - s.stop)))

/-- Carets under spans of one line, in order; an empty span has one caret too. -/
def caretLine (column : Nat) : List (Place × Place) → List Char
  | [] => []
  | (first, last) :: spans =>
      let width := max 1 (last.column - first.column)
      List.replicate (first.column - column) ' ' ++ List.replicate width '^'
        ++ caretLine (max column first.column + width) spans

/-- The number at the start of a line, right-aligned. -/
def lineNumber (width n : Nat) : List Char :=
  let digits := Decimal.natText n
  List.replicate (width - digits.length) ' ' ++ digits

/-- The lines of a pattern, each with its carets below; `margin` writes what stands before one. -/
def notated (margin : Nat → List Char) (spans : List (Place × Place)) (lines : List (List Char)) :
    List Char :=
  (lines.zipIdx 1).flatMap fun (line, n) =>
    let here := spans.filter (fun s => s.1.line == n)
    margin n ++ line ++ ['\n'] ++
      (if here.isEmpty then []
        else List.replicate (margin n).length ' ' ++ caretLine 1 here ++ ['\n'])

/-- A span over several lines in words. -/
def spanInWords (s : Place × Place) : String :=
  "on line " ++ toString s.1.line ++ " (column " ++ toString s.1.column ++ ") through line "
    ++ toString s.2.line ++ " (column " ++ toString (s.2.column - 1) ++ ")"

/-- The spans that a fault marks, the earlier place first. -/
def Fault.spans (f : Fault) : List Span := f.earlier.toList ++ [f.span]

/-- The message of a fault in a pattern. -/
def Fault.message (pattern : List Char) (f : Fault) : String :=
  let lines := linesOf pattern
  let places := f.spans.map (Span.places pattern)
  let oneLine := places.filter (fun s => s.1.line == s.2.line)
  let several := places.filter (fun s => s.1.line != s.2.line)
  if pattern.contains '\n' then
    let count := lines.length + (if pattern.getLast? = some '\n' then 1 else 0)
    let width := (Decimal.natText count).length
    let divider := String.ofList (List.replicate 79 '~') ++ "\n"
    let notes := if several.isEmpty then ""
      else String.intercalate "\n" (several.map spanInWords) ++ "\n"
    "regex parse error:\n" ++ divider
      ++ String.ofList (notated (fun n => lineNumber width n ++ [':', ' ']) oneLine lines)
      ++ divider ++ notes ++ "error: " ++ f.cause.message
  else
    "regex parse error:\n"
      ++ String.ofList (notated (fun _ => [' ', ' ', ' ', ' ']) oneLine lines)
      ++ "error: " ++ f.cause.message

end StyleLookup.Pattern
