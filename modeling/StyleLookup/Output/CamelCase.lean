import StyleLookup.Unicode.Uppercase

/-!
# Camel case

The names of properties are written with hyphens in a stylesheet and with capitals as keys of an
object. A hyphen takes the character behind it along, whatever that is, and leaves its upper case.
-/

namespace StyleLookup

open Unicode

/-- A name in camel case. A hyphen at the very end has nothing to take along and stays. -/
def camelCase : List Char → List Char
  | [] => []
  | c :: cs =>
      if c = '-' then
        match cs with
        | [] => ['-']
        | next :: rest => upper next ++ camelCase rest
      else c :: camelCase cs

example : camelCase "-ms-grid--a-".toList = "MsGrid-a-".toList := by cbv

end StyleLookup
