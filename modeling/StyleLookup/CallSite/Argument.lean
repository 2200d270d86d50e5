import StyleLookup.Matcher.Basic

/-!
# Arguments of a call

A script names what it wants by the value that it passes: a text, an array of texts, a regular
expression, or an object whose values are texts. No other value is a matcher.
-/

namespace StyleLookup.CallSite

/-- A value of a script, as far as it can tell matchers apart. -/
inductive Argument where
  | string (text : String)
  | array (items : List Argument)
  | regExp (source flags : String)
  /-- Entries in the order in which the script would list them. -/
  | object (entries : List (String × Argument))
  | number
  | boolean
  | bigint
  | symbol
  | function
  | undefined
  | null
deriving Inhabited

/-- Why an argument is no matcher. -/
inductive ShapeFault where
  | itemNotText
  | entryNotText
  | noMatcher (typeName : String)
deriving Repr, DecidableEq

/-- The wording of a fault of shape. -/
def ShapeFault.message (f : ShapeFault) : String :=
  "unrecognized matcher: " ++ match f with
    | .itemNotText => "list items must be strings"
    | .entryNotText => "map values must be strings"
    | .noMatcher typeName => "expected a string, array, RegExp, or object, got " ++ typeName

namespace Argument

/-- The name that a script has for the type of a value. -/
def typeName : Argument → String
  | .string _ => "string"
  | .array _ | .regExp _ _ | .object _ | .null => "object"
  | .number => "number"
  | .boolean => "boolean"
  | .bigint => "bigint"
  | .symbol => "symbol"
  | .function => "function"
  | .undefined => "undefined"

/-- The text of a value that is one. -/
def text? : Argument → Option String
  | .string text => some text
  | _ => none

/-- The texts of the items of an array, if all are texts. -/
def texts? : List Argument → Option (List String)
  | [] => some []
  | item :: items =>
      match item.text?, texts? items with
      | some text, some texts => some (text :: texts)
      | _, _ => none

/-- The entries of an object with the texts of their values, if all are texts. -/
def textEntries? : List (String × Argument) → Option (List (String × String))
  | [] => some []
  | (key, item) :: entries =>
      match item.text?, textEntries? entries with
      | some text, some entries => some ((key, text) :: entries)
      | _, _ => none

/-- The matcher that an argument stands for. -/
def matcher : Argument → Except ShapeFault Matcher
  | .string text => .ok (.selector text)
  | .array items =>
      match texts? items with
      | some texts => .ok (.list texts)
      | none => .error .itemNotText
  | .regExp source flags => .ok (.pattern source flags)
  | .object entries =>
      match textEntries? entries with
      | some entries => .ok (.map entries)
      | none => .error .entryNotText
  | other => .error (.noMatcher other.typeName)

end Argument

end StyleLookup.CallSite
