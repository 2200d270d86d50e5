import StyleLookup.Css.Token
import StyleLookup.Text.Location

/-!
# Faults of stylesheets

What is wrong with a stylesheet, and where. While a text is read, a fault is placed by the number
of characters before it, counted from the start of the piece that is being read; whoever reads
more than that piece moves the fault. At the end the place becomes a line and a column.
-/

namespace StyleLookup.Css

/-- What is wrong. -/
inductive Cause where
  | unexpectedToken (kind : Kind)
  | unexpectedEnd
  /-- A rule that starts like the declaration of a custom property. -/
  | invalidRule
  /-- An at-rule where only declarations may stand. -/
  | invalidAtRule (name : List Char)
deriving Repr, DecidableEq

/-- The wording of a cause. -/
def Cause.message : Cause → String
  | .unexpectedToken kind => "unexpected token " ++ kind.describe
  | .unexpectedEnd => "unexpected end of input"
  | .invalidRule => "invalid rule"
  | .invalidAtRule name => Kind.named "AtRuleInvalid" name

/-- A cause, and the number of characters before the place of the fault. -/
structure Fault where
  offset : Nat
  cause : Cause
deriving Repr, DecidableEq

/-- The fault as seen with more characters in front. -/
def Fault.shift (n : Nat) (f : Fault) : Fault := ⟨n + f.offset, f.cause⟩

/-- Moves the place of a fault, if there is one. -/
def shifted {α : Type} (n : Nat) (result : Except Fault α) : Except Fault α :=
  result.mapError (Fault.shift n)

/-- Why a stylesheet is refused: the cause, the name of the text, and the place in it. -/
structure ParseError where
  cause : Cause
  file : String
  location : Text.Location
deriving Repr, DecidableEq

/-- The wording of a refusal. -/
def ParseError.message (e : ParseError) : String :=
  "CSS parse error in " ++ e.file ++ " at line " ++ toString e.location.line ++ ", column "
    ++ toString e.location.column ++ ": " ++ e.cause.message

/-- The fault of a text, seen by its reader. -/
def Fault.inText (f : Fault) (file : String) (text : List Char) : ParseError :=
  ⟨f.cause, file, Text.Location.after (text.take f.offset)⟩

end StyleLookup.Css
