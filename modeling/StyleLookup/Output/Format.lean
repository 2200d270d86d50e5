/-!
# Formats

The declarations of a rule are handed over as text or as an object. Which of the two is either
named outright or follows from the accessor through which the import was called.
-/

namespace StyleLookup

/-- How the declarations of a rule are handed over. -/
inductive Format where
  | string
  | object
deriving Repr, DecidableEq

namespace Format

/-- The name of a format. -/
def name : Format → String
  | .string => "string"
  | .object => "object"

/-- The format of a name. -/
def ofName? (text : String) : Option Format :=
  if text = "string" then some .string
  else if text = "object" then some .object
  else none

/-- The wording for a name that no format has. -/
def unknownMessage (text : String) : String :=
  "unknown format '" ++ text ++ "', expected 'string' or 'object'"

/-- A call without accessor, or through the accessor `string`, wants text. -/
def ofAccessor : Option String → Format
  | none => .string
  | some accessor => if accessor = "string" then .string else .object

theorem ofName?_name (f : Format) : ofName? f.name = some f := by cases f <;> decide

end Format

end StyleLookup
