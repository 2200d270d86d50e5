import StyleLookup.Literal.Value
import StyleLookup.Text.Blank
import StyleLookup.Text.Hexadecimal

/-!
# Reading written values

The other side of `Literal/Layout`: a reader of literals that are made of `null`, texts in double
quotes, lists, and objects with quoted keys. Objects keep their entries in order, repeated keys
included.

What a literal may look like in detail is a matter of **dialect**: which characters may stand
between the parts, which may stand in a text as themselves, and what a backslash does. The reader
counts down a number at every part and every character. That is only there to make it total: a
text that can be read at all is read with any number above its length.
-/

namespace StyleLookup

open Text

/-- The details in which literals differ. -/
structure Dialect where
  /-- Characters that may stand between the parts of a literal. -/
  isGap : Char → Bool
  /-- Characters that may stand in a text and mean themselves. -/
  isPlain : Char → Bool
  /-- Reads what follows a backslash: what it means, which may be nothing, and the rest. -/
  unescape : List Char → Option (List Char × List Char)

namespace Dialect

/-! ## Escapes -/

/-- Reads exactly `count` hexadecimal digits. -/
def hexadecimal (count : Nat) (cs : List Char) : Option (Nat × List Char) :=
  let digits := cs.take count
  if digits.length = count ∧ digits.all Hexadecimal.isDigit then
    some (Hexadecimal.value digits, cs.drop count)
  else none

/-- The character with a number, if there is one. -/
def character (n : Nat) : Option (List Char) :=
  if n.isValidChar then some [Char.ofNat n] else none

/--
Reads a unit of UTF-16 in four digits. The first half of a pair needs the second half right behind
it; a half on its own is no text.
-/
def utf16Unit (cs : List Char) : Option (List Char × List Char) := do
  let (high, rest) ← hexadecimal 4 cs
  if 0xD800 ≤ high ∧ high < 0xDC00 then
    match rest with
    | '\\' :: 'u' :: rest =>
        let (low, rest) ← hexadecimal 4 rest
        if 0xDC00 ≤ low ∧ low < 0xE000 then
          let c ← character (0x10000 + (high - 0xD800) * 0x400 + (low - 0xDC00))
          some (c, rest)
        else none
    | _ => none
  else
    let c ← character high
    some (c, rest)

/-- Reads a number of any length up to a closing brace. -/
def codePoint (cs : List Char) : Option (List Char × List Char) :=
  let digits := cs.takeWhile Hexadecimal.isDigit
  match cs.drop digits.length with
  | '\x7d' :: rest =>
      if digits.isEmpty then none
      else (character (Hexadecimal.value digits)).map fun c => (c, rest)
  | _ => none

/-- The line ends of scripts. -/
def isLineEnd (c : Char) : Bool := c == '\n' || c == '\r' || c == '\u2028' || c == '\u2029'

/--
Reads an escape of a script. A line end behind the backslash is left out, letters and digits have
their meanings, and every other character means itself.
-/
def unescapeScript : List Char → Option (List Char × List Char)
  | [] => none
  | '\r' :: '\n' :: rest => some ([], rest)
  | c :: rest =>
      if isLineEnd c then some ([], rest)
      else match c with
        | 'b' => some (['\x08'], rest)
        | 't' => some (['\t'], rest)
        | 'n' => some (['\n'], rest)
        | 'v' => some (['\x0b'], rest)
        | 'f' => some (['\x0c'], rest)
        | 'r' => some (['\r'], rest)
        | 'x' => do
            let (n, rest) ← hexadecimal 2 rest
            let c ← character n
            some (c, rest)
        | 'u' =>
            match rest with
            | '\x7b' :: rest => codePoint rest
            | rest => utf16Unit rest
        | '0' => if rest.head?.any Char.isDigit then none else some (['\x00'], rest)
        | c => if c.isDigit then none else some ([c], rest)

/-- The literals of scripts. No line end of any kind may stand in a text as itself. -/
def script : Dialect where
  isGap c := (isBlank c && c != '\u0085') || c == '\ufeff'
  isPlain c := !isLineEnd c
  unescape := unescapeScript

/-! ## Values -/

/-- Passes over what may stand between parts. -/
def skip (d : Dialect) (cs : List Char) : List Char := cs.dropWhile d.isGap

/-- Reads a text behind its opening quote, through its closing quote. -/
def readText (d : Dialect) : Nat → List Char → Option (List Char × List Char)
  | 0, _ => none
  | _ + 1, [] => none
  | n + 1, c :: cs =>
      if c = '"' then some ([], cs)
      else if c = '\\' then do
        let (front, rest) ← d.unescape cs
        let (more, rest) ← d.readText n rest
        some (front ++ more, rest)
      else if d.isPlain c then do
        let (more, rest) ← d.readText n cs
        some (c :: more, rest)
      else none

mutual

/-- Reads a value. -/
def readValue (d : Dialect) : Nat → List Char → Option (Value × List Char)
  | 0, _ => none
  | n + 1, cs =>
      match d.skip cs with
      | 'n' :: 'u' :: 'l' :: 'l' :: rest => some (.null, rest)
      | '"' :: rest => do
          let (content, rest) ← d.readText n rest
          some (.text (String.ofList content), rest)
      | '[' :: rest =>
          match d.skip rest with
          | ']' :: rest => some (.list [], rest)
          | rest => do
              let (items, rest) ← d.readItems n rest
              some (.list items, rest)
      | '\x7b' :: rest =>
          match d.skip rest with
          | '\x7d' :: rest => some (.object [], rest)
          | rest => do
              let (entries, rest) ← d.readEntries n rest
              some (.object entries, rest)
      | _ => none

/-- Reads the items of a list, through its closing bracket. -/
def readItems (d : Dialect) : Nat → List Char → Option (List Value × List Char)
  | 0, _ => none
  | n + 1, cs => do
      let (item, rest) ← d.readValue n cs
      match d.skip rest with
      | ',' :: rest =>
          let (items, rest) ← d.readItems n rest
          some (item :: items, rest)
      | ']' :: rest => some ([item], rest)
      | _ => none

/-- Reads the entries of an object, through its closing brace. -/
def readEntries (d : Dialect) : Nat → List Char → Option (List (String × Value) × List Char)
  | 0, _ => none
  | n + 1, cs =>
      match d.skip cs with
      | '"' :: rest => do
          let (key, rest) ← d.readText n rest
          match d.skip rest with
          | ':' :: rest =>
              let (item, rest) ← d.readValue n rest
              match d.skip rest with
              | ',' :: rest =>
                  let (entries, rest) ← d.readEntries n rest
                  some ((String.ofList key, item) :: entries, rest)
              | '\x7d' :: rest => some ([(String.ofList key, item)], rest)
              | _ => none
          | _ => none
      | _ => none

end

/-! ## What the reader does, by the next mark -/

section Equations

variable {d : Dialect} {n : Nat} {cs t rest : List Char}

theorem readValue_null (h : d.skip cs = 'n' :: 'u' :: 'l' :: 'l' :: rest) :
    d.readValue (n + 1) cs = some (.null, rest) := by
  rw [readValue, h]
  rfl

theorem readValue_text {s : List Char} (h : d.skip cs = '"' :: t)
    (hs : d.readText n t = some (s, rest)) :
    d.readValue (n + 1) cs = some (.text (String.ofList s), rest) := by
  rw [readValue, h]
  simp [hs]

theorem readValue_emptyList (h : d.skip cs = '[' :: t) (ht : d.skip t = ']' :: rest) :
    d.readValue (n + 1) cs = some (.list [], rest) := by
  rw [readValue, h]
  simp [ht]

theorem readValue_list {c : Char} {u : List Char} {items : List Value}
    (h : d.skip cs = '[' :: t) (ht : d.skip t = c :: u) (hc : c ≠ ']')
    (hitems : d.readItems n (c :: u) = some (items, rest)) :
    d.readValue (n + 1) cs = some (.list items, rest) := by
  rw [readValue, h]
  simp [ht, hc, hitems]

theorem readValue_emptyObject (h : d.skip cs = '\x7b' :: t) (ht : d.skip t = '\x7d' :: rest) :
    d.readValue (n + 1) cs = some (.object [], rest) := by
  rw [readValue, h]
  simp [ht]

theorem readValue_object {c : Char} {u : List Char} {entries : List (String × Value)}
    (h : d.skip cs = '\x7b' :: t) (ht : d.skip t = c :: u) (hc : c ≠ '\x7d')
    (hentries : d.readEntries n (c :: u) = some (entries, rest)) :
    d.readValue (n + 1) cs = some (.object entries, rest) := by
  rw [readValue, h]
  simp [ht, hc, hentries]

theorem readItems_last {item : Value} (hitem : d.readValue n cs = some (item, t))
    (ht : d.skip t = ']' :: rest) : d.readItems (n + 1) cs = some ([item], rest) := by
  rw [readItems, hitem]
  simp [ht]

theorem readItems_cons {item : Value} {items : List Value} {u : List Char}
    (hitem : d.readValue n cs = some (item, t)) (ht : d.skip t = ',' :: u)
    (hitems : d.readItems n u = some (items, rest)) :
    d.readItems (n + 1) cs = some (item :: items, rest) := by
  rw [readItems, hitem]
  simp [ht, hitems]

theorem readEntries_last {key : List Char} {item : Value} {u v w : List Char}
    (h : d.skip cs = '"' :: t) (hkey : d.readText n t = some (key, u)) (hu : d.skip u = ':' :: v)
    (hitem : d.readValue n v = some (item, w)) (hw : d.skip w = '\x7d' :: rest) :
    d.readEntries (n + 1) cs = some ([(String.ofList key, item)], rest) := by
  rw [readEntries, h]
  simp [hkey, hu, hitem, hw]

theorem readEntries_cons {key : List Char} {item : Value} {u v w x : List Char}
    {entries : List (String × Value)}
    (h : d.skip cs = '"' :: t) (hkey : d.readText n t = some (key, u)) (hu : d.skip u = ':' :: v)
    (hitem : d.readValue n v = some (item, w)) (hw : d.skip w = ',' :: x)
    (hentries : d.readEntries n x = some (entries, rest)) :
    d.readEntries (n + 1) cs = some ((String.ofList key, item) :: entries, rest) := by
  rw [readEntries, h]
  simp [hkey, hu, hitem, hw, hentries]

end Equations

/-- Reads a text that holds one value and nothing else. -/
def read (d : Dialect) (text : List Char) : Option Value := do
  let (v, rest) ← d.readValue (text.length + 1) text
  if (d.skip rest).isEmpty then some v else none

end Dialect

end StyleLookup
