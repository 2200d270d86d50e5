import StyleLookup.Literal.Layout

/-!
# Script literals

A resolution as an expression that can stand in a script, on one line. Keys are quoted, whatever
they are, and absence is null. An object without entries has no blank between its braces.
-/

namespace StyleLookup

open Text

/-- A text in quotes, with the escapes of scripts. -/
def textLiteral (s : String) : List Char := Layout.script.quote s.toList

/-- An object initializer, of entries whose values are written already. -/
def objectLiteral (entries : List (String × List Char)) : List Char :=
  let parts := entries.map fun (key, value) => textLiteral key ++ [':', ' '] ++ value
  if parts.isEmpty then ['{', '}'] else ['{', ' '] ++ joinWith [',', ' '] parts ++ [' ', '}']

/-- A formatted rule as an expression. -/
def Formatted.literal : Formatted → List Char
  | .text lines => textLiteral lines
  | .object entries =>
      objectLiteral (entries.map fun (key, content) => (key, textLiteral content))

/-- A result as an expression. -/
def resultLiteral (result : Option Formatted) : List Char :=
  match result with
  | none => ['n', 'u', 'l', 'l']
  | some f => f.literal

/-- A resolution as an expression. -/
def Resolution.literal : Resolution → List Char
  | .single result => resultLiteral result
  | .sequence results => ['['] ++ joinWith [',', ' '] (results.map resultLiteral) ++ [']']
  | .mapping entries =>
      objectLiteral (entries.map fun (key, result) => (key, resultLiteral result))

/-- The text of a resolution in a script. -/
def Resolution.script (r : Resolution) : String := String.ofList r.literal

end StyleLookup
