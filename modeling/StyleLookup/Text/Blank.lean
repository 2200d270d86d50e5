/-!
# White space and control characters

Selectors and values are stored without the white space around them. White space is meant in the
wide sense of Unicode, so that no-break spaces and line separators count.
-/

namespace StyleLookup.Text

/-- The characters with the property White_Space. -/
def isBlank (c : Char) : Bool :=
  let n := c.toNat
  (9 ≤ n && n ≤ 13) || n == 0x20 || n == 0x85 || n == 0xA0 || n == 0x1680
    || (0x2000 ≤ n && n ≤ 0x200A) || n == 0x2028 || n == 0x2029 || n == 0x202F
    || n == 0x205F || n == 0x3000

/-- The control characters: C0, delete and C1. -/
def isControl (c : Char) : Bool := c.toNat < 0x20 || (0x7F ≤ c.toNat && c.toNat ≤ 0x9F)

/-- Removes white space in front. -/
def trimStart (s : List Char) : List Char := s.dropWhile isBlank

/-- Removes white space behind. -/
def trimEnd (s : List Char) : List Char := (s.reverse.dropWhile isBlank).reverse

/-- Removes white space on both sides. -/
def trim (s : List Char) : List Char := trimEnd (trimStart s)

example : trim [' ', 'a', ' ', 'b', '\u00a0', '\n'] = ['a', ' ', 'b'] := by decide
example : isBlank '\ufeff' = false := by decide

end StyleLookup.Text
