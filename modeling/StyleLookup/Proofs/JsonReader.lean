import StyleLookup.Proofs.LiteralReader

/-!
# Reading JSON documents

A reader of JSON (RFC 8259) as a whole: with numbers and truth values, which no resolution holds,
beside what a resolution can be written with. Objects keep their entries in order, repeated keys
included. Numbers are kept as they are written, since nothing here computes with them.

White space and strings are those of the dialect `Dialect.json`. The dialect's own reader of values
knows no numbers and no truth values. `Json.read_of_dialect` says that the one follows the other:
what the dialect reads as a value, the reader of documents reads as the same tree. So a layout that
the dialect understands is JSON.
-/

namespace StyleLookup

namespace Dialect

/-- Reads an escape of a JSON string. Letters that mean nothing are refused. -/
def unescapeJson : List Char → Option (List Char × List Char)
  | 'b' :: rest => some (['\x08'], rest)
  | 'f' :: rest => some (['\x0c'], rest)
  | 'n' :: rest => some (['\n'], rest)
  | 'r' :: rest => some (['\r'], rest)
  | 't' :: rest => some (['\t'], rest)
  | 'u' :: rest => utf16Unit rest
  | c :: rest => if c = '"' ∨ c = '\\' ∨ c = '/' then some ([c], rest) else none
  | [] => none

/-- JSON. Control characters of C0 cannot stand in a string as themselves; all others can. -/
def json : Dialect where
  isGap c := c == ' ' || c == '\t' || c == '\n' || c == '\r'
  isPlain c := decide (0x20 ≤ c.toNat)
  unescape := unescapeJson

end Dialect

/-- A JSON value. -/
inductive Json where
  | null
  | boolean (isTrue : Bool)
  | number (written : String)
  | string (content : String)
  | array (items : List Json)
  | object (entries : List (String × Json))

namespace Json

/-! ## Numbers -/

/-- Reads one digit or more. -/
def digits (cs : List Char) : Option (List Char × List Char) :=
  if (cs.takeWhile Char.isDigit).isEmpty then none
  else some (cs.takeWhile Char.isDigit, cs.dropWhile Char.isDigit)

/-- Reads a minus, if there is one. -/
def minus : List Char → List Char × List Char
  | '-' :: rest => (['-'], rest)
  | cs => ([], cs)

/-- Reads the digits in front of the point. A zero stands alone there. -/
def whole : List Char → Option (List Char × List Char)
  | '0' :: rest => some (['0'], rest)
  | cs => digits cs

/-- Reads a point and the digits behind it, if there is a point. -/
def fraction : List Char → Option (List Char × List Char)
  | '.' :: rest => (digits rest).map fun (ds, rest) => ('.' :: ds, rest)
  | cs => some ([], cs)

/-- Reads an exponent, if there is one; it may have a sign of either kind. -/
def exponent : List Char → Option (List Char × List Char)
  | [] => some ([], [])
  | e :: cs =>
      if e = 'e' ∨ e = 'E' then
        match cs with
        | '+' :: rest => (digits rest).map fun (ds, rest) => (e :: '+' :: ds, rest)
        | rest =>
            let (sign, rest) := minus rest
            (digits rest).map fun (ds, rest) => (e :: sign ++ ds, rest)
      else some ([], e :: cs)

/-- Reads a number. -/
def readNumber (cs : List Char) : Option (Json × List Char) := do
  let (sign, rest) := minus cs
  let (whole, rest) ← whole rest
  let (fraction, rest) ← fraction rest
  let (exponent, rest) ← exponent rest
  some (.number (String.ofList (sign ++ whole ++ fraction ++ exponent)), rest)

/-! ## Values -/

mutual

/-- Reads a value. The number bounds the steps, as in the readers of dialects. -/
def readValue : Nat → List Char → Option (Json × List Char)
  | 0, _ => none
  | n + 1, cs =>
      match Dialect.json.skip cs with
      | 'n' :: 'u' :: 'l' :: 'l' :: rest => some (.null, rest)
      | 't' :: 'r' :: 'u' :: 'e' :: rest => some (.boolean true, rest)
      | 'f' :: 'a' :: 'l' :: 's' :: 'e' :: rest => some (.boolean false, rest)
      | '"' :: rest => do
          let (content, rest) ← Dialect.json.readText n rest
          some (.string (String.ofList content), rest)
      | '[' :: rest =>
          match Dialect.json.skip rest with
          | ']' :: rest => some (.array [], rest)
          | rest => do
              let (items, rest) ← readItems n rest
              some (.array items, rest)
      | '\x7b' :: rest =>
          match Dialect.json.skip rest with
          | '\x7d' :: rest => some (.object [], rest)
          | rest => do
              let (entries, rest) ← readEntries n rest
              some (.object entries, rest)
      | rest => readNumber rest

/-- Reads the items of an array, through its closing bracket. -/
def readItems : Nat → List Char → Option (List Json × List Char)
  | 0, _ => none
  | n + 1, cs => do
      let (item, rest) ← readValue n cs
      match Dialect.json.skip rest with
      | ',' :: rest =>
          let (items, rest) ← readItems n rest
          some (item :: items, rest)
      | ']' :: rest => some ([item], rest)
      | _ => none

/-- Reads the entries of an object, through its closing brace. -/
def readEntries : Nat → List Char → Option (List (String × Json) × List Char)
  | 0, _ => none
  | n + 1, cs =>
      match Dialect.json.skip cs with
      | '"' :: rest => do
          let (key, rest) ← Dialect.json.readText n rest
          match Dialect.json.skip rest with
          | ':' :: rest =>
              let (item, rest) ← readValue n rest
              match Dialect.json.skip rest with
              | ',' :: rest =>
                  let (entries, rest) ← readEntries n rest
                  some ((String.ofList key, item) :: entries, rest)
              | '\x7d' :: rest => some ([(String.ofList key, item)], rest)
              | _ => none
          | _ => none
      | _ => none

end

/-- Reads a document: one value, with white space around it. -/
def read (text : List Char) : Option Json := do
  let (v, rest) ← readValue (text.length + 1) text
  if (Dialect.json.skip rest).isEmpty then some v else none

example : read "[ 1.5e+3 ]\n".toList = some (.array [.number "1.5e+3"]) := by cbv
example : read "[01]".toList = none := by cbv

end Json

mutual

/-- A plain value as a JSON value. -/
def Value.json : Value → Json
  | .null => .null
  | .text content => .string content
  | .list items => .array (jsonItems items)
  | .object entries => .object (jsonEntries entries)

/-- The items of a list as JSON values. -/
def Value.jsonItems : List Value → List Json
  | [] => []
  | item :: items => item.json :: jsonItems items

/-- The entries of an object, under the same keys. -/
def Value.jsonEntries : List (String × Value) → List (String × Json)
  | [] => []
  | (key, item) :: entries => (key, item.json) :: jsonEntries entries

end

namespace Json

/-! ## What a dialect reads is JSON -/

/-- In so many steps, the reader of documents reads whatever the dialect's reader reads. -/
structure Follows (n : Nat) : Prop where
  value : ∀ {cs v rest}, Dialect.json.readValue n cs = some (v, rest) →
    readValue n cs = some (v.json, rest)
  items : ∀ {cs items rest}, Dialect.json.readItems n cs = some (items, rest) →
    readItems n cs = some (Value.jsonItems items, rest)
  entries : ∀ {cs entries rest}, Dialect.json.readEntries n cs = some (entries, rest) →
    readEntries n cs = some (Value.jsonEntries entries, rest)

variable {n : Nat} {cs rest : List Char}

/-- Both readers look at the same mark, so a case of the one is a case of the other. -/
theorem Follows.value_succ (ih : Follows n) {v : Value}
    (h : Dialect.json.readValue (n + 1) cs = some (v, rest)) :
    readValue (n + 1) cs = some (v.json, rest) := by
  rw [Dialect.readValue] at h
  split at h
  · rename_i hmark
    obtain ⟨rfl, rfl⟩ := h
    rw [readValue, hmark]
    rfl
  · rename_i hmark
    simp only [Option.bind_eq_bind, Option.bind_eq_some_iff] at h
    obtain ⟨⟨content, t⟩, hcontent, h⟩ := h
    obtain ⟨rfl, rfl⟩ := h
    simp only [readValue, hmark, hcontent]
    rfl
  · rename_i hmark
    split at h
    · rename_i hclose
      obtain ⟨rfl, rfl⟩ := h
      simp only [readValue, hmark, hclose]
      rfl
    · rename_i hopen
      simp only [Option.bind_eq_bind, Option.bind_eq_some_iff] at h
      obtain ⟨⟨items, t⟩, hitems, h⟩ := h
      obtain ⟨rfl, rfl⟩ := h
      -- neither reader finds the row closed at once
      simp only [readValue, hmark]
      rw [ih.items hitems]
      rfl
  · rename_i hmark
    split at h
    · rename_i hclose
      obtain ⟨rfl, rfl⟩ := h
      simp only [readValue, hmark, hclose]
      rfl
    · rename_i hopen
      simp only [Option.bind_eq_bind, Option.bind_eq_some_iff] at h
      obtain ⟨⟨entries, t⟩, hentries, h⟩ := h
      obtain ⟨rfl, rfl⟩ := h
      -- neither reader finds the row closed at once
      simp only [readValue, hmark]
      rw [ih.entries hentries]
      rfl
  · cases h

theorem Follows.items_succ (ih : Follows n) {items : List Value}
    (h : Dialect.json.readItems (n + 1) cs = some (items, rest)) :
    readItems (n + 1) cs = some (Value.jsonItems items, rest) := by
  rw [Dialect.readItems] at h
  simp only [Option.bind_eq_bind, Option.bind_eq_some_iff] at h
  obtain ⟨⟨item, t⟩, hitem, h⟩ := h
  rw [readItems, ih.value hitem]
  simp only [Option.bind_eq_bind, Option.bind_some]
  split at h
  · rename_i hcomma
    simp only [Option.bind_eq_some_iff] at h
    obtain ⟨⟨more, u⟩, hmore, h⟩ := h
    obtain ⟨rfl, rfl⟩ := h
    simp only [hcomma, ih.items hmore]
    rfl
  · rename_i hclose
    obtain ⟨rfl, rfl⟩ := h
    rw [hclose]
    rfl
  · cases h

theorem Follows.entries_succ (ih : Follows n) {entries : List (String × Value)}
    (h : Dialect.json.readEntries (n + 1) cs = some (entries, rest)) :
    readEntries (n + 1) cs = some (Value.jsonEntries entries, rest) := by
  rw [Dialect.readEntries] at h
  split at h
  · rename_i hquote
    simp only [Option.bind_eq_bind, Option.bind_eq_some_iff] at h
    obtain ⟨⟨key, t⟩, hkey, h⟩ := h
    simp only [readEntries, hquote, hkey, Option.bind_eq_bind, Option.bind_some]
    split at h
    · rename_i hcolon
      simp only [Option.bind_eq_some_iff] at h
      obtain ⟨⟨item, u⟩, hitem, h⟩ := h
      simp only [hcolon, ih.value hitem, Option.bind_some]
      split at h
      · rename_i hcomma
        simp only [Option.bind_eq_some_iff] at h
        obtain ⟨⟨more, w⟩, hmore, h⟩ := h
        obtain ⟨rfl, rfl⟩ := h
        simp only [hcomma, ih.entries hmore]
        rfl
      · rename_i hclose
        obtain ⟨rfl, rfl⟩ := h
        rw [hclose]
        rfl
      · cases h
    · cases h
  · cases h

theorem follows (n : Nat) : Follows n := by
  induction n with
  | zero =>
      refine ⟨?_, ?_, ?_⟩
      · intro cs v rest h
        rw [Dialect.readValue] at h
        cases h
      · intro cs items rest h
        rw [Dialect.readItems] at h
        cases h
      · intro cs entries rest h
        rw [Dialect.readEntries] at h
        cases h
  | succ n ih => exact ⟨ih.value_succ, ih.items_succ, ih.entries_succ⟩

/-- **A text that the dialect reads as a value is a document with the same tree.** -/
theorem read_of_dialect {text : List Char} {v : Value} (h : Dialect.json.read text = some v) :
    read text = some v.json := by
  rw [Dialect.read] at h
  simp only [Option.bind_eq_bind, Option.bind_eq_some_iff] at h
  obtain ⟨⟨v', rest⟩, hv, h⟩ := h
  rw [read, (follows _).value hv]
  simp only [Option.bind_eq_bind, Option.bind_some]
  split at h
  · rename_i hend
    injection h with h
    rw [if_pos hend, ← h]
  · cases h

end Json

end StyleLookup
