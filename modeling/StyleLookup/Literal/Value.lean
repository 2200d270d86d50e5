import StyleLookup.Resolution

/-!
# Values

A resolution as a tree of plain values, which is what all written forms are to say. An object
keeps its entries in order, and may have a key more than once.
-/

namespace StyleLookup

/-- A plain value. -/
inductive Value where
  | null
  | text (content : String)
  | list (items : List Value)
  | object (entries : List (String × Value))

/-- The value of a rule that was formatted. -/
def Formatted.value : Formatted → Value
  | .text lines => .text lines
  | .object entries => .object (entries.map fun (key, content) => (key, .text content))

/-- The value of a result; absence is null. -/
def Value.ofResult (result : Option Formatted) : Value :=
  match result with
  | none => .null
  | some f => f.value

/-- The value of a resolution. -/
def Resolution.value : Resolution → Value
  | .single result => Value.ofResult result
  | .sequence results => .list (results.map Value.ofResult)
  | .mapping entries => .object (entries.map fun (key, result) => (key, Value.ofResult result))

end StyleLookup
