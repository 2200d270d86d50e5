import StyleLookup.Pattern.Meaning
import StyleLookup.Pattern.Size

/-!
# Compiled patterns

The text of a pattern becomes an expression, or is refused: it cannot be read, a part of it has
no meaning under the modes, or the expression is too large to run on the platform.
-/

namespace StyleLookup.Pattern

/-- Why the text of a pattern is refused. -/
inductive Refusal where
  | faulty (fault : Fault)
  | tooLarge
deriving Repr, DecidableEq

/-- The wording of a refusal of a pattern. -/
def Refusal.message (pattern : List Char) : Refusal → String
  | .faulty fault => fault.message pattern
  | .tooLarge => "Compiled regex exceeds size limit of " ++ toString sizeLimit ++ " bytes."

/-- The expression that a pattern stands for, whatever its size. -/
def expressionOf (modes : Modes) (pattern : List Char) : Except Fault Expression :=
  match Ast.read pattern with
  | .error fault => .error fault
  | .ok ast => (modes.meaning ast).map Prod.fst

/-- What a pattern matches that starts with the given modes. -/
def compile [Platform] (modes : Modes) (pattern : List Char) : Except Refusal (Regex Atom) :=
  match expressionOf modes pattern with
  | .error fault => .error (.faulty fault)
  | .ok e => if e.isTooLarge then .error .tooLarge else .ok e.regex

end StyleLookup.Pattern
