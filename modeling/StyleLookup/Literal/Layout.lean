import StyleLookup.Literal.Value
import StyleLookup.Text.Blank
import StyleLookup.Text.Hexadecimal
import StyleLookup.Text.Pieces

/-!
# Layouts

All written forms of a value are alike in their brackets, quotes and commas. What sets them apart
is their layout: the blanks between parts, and the characters that are escaped in a text. Blanks
may depend on how deep a part lies. Empty lists and objects have no blanks.

There are three layouts. A script literal stands on one line and may take the place of an
expression, so it escapes all that a script could take for the end of a line, and all control
characters. The two layouts of data escape only what they must.
-/

namespace StyleLookup

open Text

/-- What sets a written form apart. -/
structure Layout where
  /-- Between the brackets of a list and its items, by depth. -/
  listGap : Nat → List Char
  /-- Between the braces of an object and its entries, by depth. -/
  objectGap : Nat → List Char
  /-- Behind a comma, by depth. -/
  commaGap : Nat → List Char
  /-- Behind the colon of an entry. -/
  colonGap : List Char
  /-- How a character of a text is written. -/
  escape : Char → List Char

namespace Layout

/-- A character by its number. -/
def numbered (c : Char) : List Char := '\\' :: 'u' :: Hexadecimal.fourDigits c.toNat

/-- The escapes of script literals. -/
def escapeForScript (c : Char) : List Char :=
  if c = '"' ∨ c = '\\' then ['\\', c]
  else if c = '\n' then ['\\', 'n']
  else if c = '\r' then ['\\', 'r']
  else if c = '\t' then ['\\', 't']
  else if isControl c ∨ c = '\u2028' ∨ c = '\u2029' then numbered c
  else [c]

/-- The escapes of data. -/
def escapeForData (c : Char) : List Char :=
  if c = '"' ∨ c = '\\' then ['\\', c]
  else if c = '\n' then ['\\', 'n']
  else if c = '\r' then ['\\', 'r']
  else if c = '\t' then ['\\', 't']
  else if c = '\x08' then ['\\', 'b']
  else if c = '\x0c' then ['\\', 'f']
  else if c.toNat < 0x20 then numbered c
  else [c]

/-- A line end, and two blanks for each level of depth. -/
def newline (depth : Nat) : List Char := '\n' :: List.replicate (2 * depth) ' '

/-- The layout of a script literal. -/
def script : Layout where
  listGap _ := []
  objectGap _ := [' ']
  commaGap _ := [' ']
  colonGap := [' ']
  escape := escapeForScript

/-- The layout of data without blanks. -/
def compact : Layout where
  listGap _ := []
  objectGap _ := []
  commaGap _ := []
  colonGap := []
  escape := escapeForData

/-- The layout of data with each item on a line of its own. -/
def indented : Layout where
  listGap := newline
  objectGap := newline
  commaGap := newline
  colonGap := [' ']
  escape := escapeForData

/-- A text in quotes. -/
def quote (l : Layout) (s : List Char) : List Char := '"' :: s.flatMap l.escape ++ ['"']

/-- Written items in brackets or braces that stand at a depth. -/
def enclose (l : Layout) (gap : Nat → List Char) (depth : Nat) (opening closing : Char)
    (items : List (List Char)) : List Char :=
  if items.isEmpty then [opening, closing]
  else opening :: gap (depth + 1) ++ joinWith (',' :: l.commaGap (depth + 1)) items
    ++ gap depth ++ [closing]

end Layout

mutual

/-- A value in a layout, at a depth. -/
def Value.write (l : Layout) (depth : Nat) : Value → List Char
  | .null => ['n', 'u', 'l', 'l']
  | .text content => l.quote content.toList
  | .list items => l.enclose l.listGap depth '[' ']' (writeItems l (depth + 1) items)
  | .object entries => l.enclose l.objectGap depth '{' '}' (writeEntries l (depth + 1) entries)

/-- The items of a list in a layout. -/
def Value.writeItems (l : Layout) (depth : Nat) : List Value → List (List Char)
  | [] => []
  | item :: items => item.write l depth :: writeItems l depth items

/-- The entries of an object in a layout. -/
def Value.writeEntries (l : Layout) (depth : Nat) : List (String × Value) → List (List Char)
  | [] => []
  | (key, item) :: entries =>
      (l.quote key.toList ++ [':'] ++ l.colonGap ++ item.write l depth)
        :: writeEntries l depth entries

end

/-- The text of a value in a layout. -/
def Value.written (l : Layout) (v : Value) : String := String.ofList (v.write l 0)

end StyleLookup
