/-!
# Lines and columns

A place in a text is shown to people as a line and a column. Both count from one. A line ends
with a line feed, a form feed, a carriage return, or a carriage return with a line feed; columns
count units of UTF-16, so a character outside the basic plane is two columns wide.
-/

namespace StyleLookup.Text

/--
A line and a column, both counted from one. They are not bounded here. Neither is larger than the
bytes of the text in front of the place and one, so for texts below 4 GiB they fit into 32 bits.
-/
structure Location where
  line : Nat
  column : Nat
deriving Repr, DecidableEq

/-- The number of UTF-16 units of a character. -/
def utf16Width (c : Char) : Nat := if c.toNat < 0x10000 then 1 else 2

namespace Location

/-- The first place of a text. -/
def start : Location := ⟨1, 1⟩

/-- The first place of the next line. -/
def nextLine (l : Location) : Location := ⟨l.line + 1, 1⟩

/-- The place reached from another by passing over a text. -/
def advance (l : Location) : List Char → Location
  | [] => l
  | '\r' :: '\n' :: cs => l.nextLine.advance cs
  | c :: cs =>
      if c = '\n' ∨ c = '\r' ∨ c = '\x0c' then l.nextLine.advance cs
      else advance ⟨l.line, l.column + utf16Width c⟩ cs

/-- The place right after a text that starts at the beginning. -/
def after (text : List Char) : Location := start.advance text

example : after ['a', '\r', '\n', 'b', '\x0c', 'c', '😀'] = ⟨3, 4⟩ := by decide

end Location

end StyleLookup.Text
