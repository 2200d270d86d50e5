import StyleLookup.Text.Hexadecimal
import StyleLookup.Unicode.Invisible

/-!
# Quoted text in messages

Messages show tokens with their text in quotes. Characters that would not be seen on their own are
written as escapes.
-/

namespace StyleLookup.Text

/-- One character inside quotes of the given kind. -/
def escapedChar (quote c : Char) : List Char :=
  if c = '\x00' then ['\\', '0']
  else if c = '\t' then ['\\', 't']
  else if c = '\n' then ['\\', 'n']
  else if c = '\r' then ['\\', 'r']
  else if c = '\\' ∨ c = quote then ['\\', c]
  else if Unicode.invisible.contains c.toNat then
    ['\\', 'u', '{'] ++ Hexadecimal.digits c.toNat ++ ['}']
  else [c]

/-- A text in double quotes. -/
def quotedText (s : List Char) : List Char :=
  '"' :: s.flatMap (escapedChar '"') ++ ['"']

/-- A character in single quotes. -/
def quotedChar (c : Char) : List Char :=
  '\'' :: escapedChar '\'' c ++ ['\'']

end StyleLookup.Text
