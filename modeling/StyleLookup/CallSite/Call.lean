import StyleLookup.CallSite.Argument
import StyleLookup.Css.Reading
import StyleLookup.Literal.Script
import StyleLookup.Literal.Serializer

/-!
# Calls

A script calls with the text of a stylesheet, an argument and perhaps an accessor. The answer is a
value, or the source text of one. The shape of the argument is checked before the stylesheet is
read.
-/

namespace StyleLookup.CallSite

/-- What a script passes. -/
structure Call where
  css : String
  argument : Argument
  accessor : Option String

/-- Why a call fails. -/
inductive CallFault where
  | shape (fault : ShapeFault)
  | stylesheet (error : Css.ParseError)
  | matcher (problem : Matcher.Problem)
deriving Repr, DecidableEq

/-- The text that a failing call throws. -/
def CallFault.message : CallFault → String
  | .shape fault => fault.message
  | .stylesheet error => error.message
  | .matcher problem => problem.message

namespace Call

/-- What errors call a stylesheet that came without a file. -/
def sourceName : String := "<inline>"

/-- What a call finds. -/
def resolution [Platform] (c : Call) : Except CallFault Resolution :=
  match c.argument.matcher with
  | .error fault => .error (.shape fault)
  | .ok matcher =>
      match Css.Stylesheet.parse c.css sourceName with
      | .error error => .error (.stylesheet error)
      | .ok sheet =>
          (sheet.resolve (Format.ofAccessor c.accessor) matcher).mapError .matcher

/--
What a call returns, as a host makes it with a serializer. There are only texts in what is handed
over, and no serializer refuses those.
-/
def returned [Platform] {α : Type} (host : Serializer α) (c : Call) : Except CallFault α :=
  c.resolution.map (·.serialize host)

/-- The tree of what a call returns: what it hands over to the host, part by part. -/
def value [Platform] (c : Call) : Except CallFault Value := c.returned .tree

/-- The source text of the value that a call returns. -/
def source [Platform] (c : Call) : Except CallFault String := c.resolution.map Resolution.script

end Call

end StyleLookup.CallSite
