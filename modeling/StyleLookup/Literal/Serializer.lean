import StyleLookup.Literal.Layout

/-!
# Serializers

A resolution is handed over part by part to what makes data of it. The parts are few: nothing, a
text, a sequence, and a map whose entries come in order, repeated keys included. What is made of
them is up to the serializer. A layout makes text; a host makes values of its own; and one that
makes nothing of them keeps the tree that it was handed.
-/

namespace StyleLookup

/-- What is made of each kind of part, given what was made of the parts in it. -/
structure Serializer (α : Type) where
  nothing : α
  text (content : String) : α
  sequence (items : List α) : α
  map (entries : List (String × α)) : α

variable {α : Type}

/-- Hands over a formatted rule. -/
def Formatted.serialize (s : Serializer α) : Formatted → α
  | .text lines => s.text lines
  | .object entries => s.map (entries.map fun (key, content) => (key, s.text content))

/-- Hands over a result. One that is there is handed over as itself. -/
def serializeResult (s : Serializer α) : Option Formatted → α
  | none => s.nothing
  | some f => f.serialize s

/-- Hands over a resolution. -/
def Resolution.serialize (s : Serializer α) : Resolution → α
  | .single result => serializeResult s result
  | .sequence results => s.sequence (results.map (serializeResult s))
  | .mapping entries => s.map (entries.map fun (key, result) => (key, serializeResult s result))

/-- Keeps the tree. -/
def Serializer.tree : Serializer Value where
  nothing := .null
  text := .text
  sequence := .list
  map := .object

/-- Writes data in a layout. A part is written once its depth is known. -/
def Layout.serializer (l : Layout) : Serializer (Nat → List Char) where
  nothing _ := ['n', 'u', 'l', 'l']
  text content _ := l.quote content.toList
  sequence items depth :=
    l.enclose l.listGap depth '[' ']' (items.map fun item => item (depth + 1))
  map entries depth :=
    l.enclose l.objectGap depth '{' '}'
      (entries.map fun (key, item) =>
        l.quote key.toList ++ [':'] ++ l.colonGap ++ item (depth + 1))

/-- A resolution as data in a layout. -/
def Resolution.data (l : Layout) (r : Resolution) : String :=
  String.ofList (r.serialize l.serializer 0)

end StyleLookup
