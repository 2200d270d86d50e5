import StyleLookup.Matcher.Flags

/-!
# Matchers

A matcher says which rules of a stylesheet are wanted: those with one selector, those with each
selector of a list or a map in turn, or those with a selector that a pattern is found in.
-/

namespace StyleLookup

/-- Which rules are wanted. -/
inductive Matcher where
  /-- The first rule with this selector. -/
  | selector (text : String)
  /-- For each item, the first rule with it. -/
  | list (items : List String)
  /-- The first rule with a selector in which the pattern is found, or all such rules. -/
  | pattern (text flags : String)
  /-- For each key, the first rule with its selector. -/
  | map (entries : List (String × String))
deriving Repr, DecidableEq

namespace Matcher

/-- The name of a matcher's shape. -/
def kind : Matcher → String
  | .selector _ => "selector"
  | .list _ => "list"
  | .pattern _ _ => "pattern"
  | .map _ => "map"

/-- Why a matcher cannot be used. -/
inductive Problem where
  | invalidFlags (flags : String) (fault : FlagFault)
  /-- The pattern, and the text that was compiled for it. -/
  | invalidPattern (text compiled : String) (refusal : Pattern.Refusal)
deriving Repr, DecidableEq

/-- The wording of a problem. The pattern's own message shows the text that was compiled. -/
def Problem.message : Problem → String
  | .invalidFlags flags fault => "invalid regex flags '" ++ flags ++ "': " ++ fault.reason
  | .invalidPattern text compiled refusal =>
      "invalid regex pattern /" ++ text ++ "/: " ++ refusal.message compiled.toList

/-- Reads flags and compiles a pattern under them; flags come first. -/
def compile [Platform] (text flags : String) :
    Except Problem (Flags × Pattern.Regex Pattern.Atom) :=
  match Flags.read flags.toList with
  | .error fault => .error (.invalidFlags flags fault)
  | .ok f =>
      match f.compile text.toList with
      | .error refusal =>
          .error (.invalidPattern text (String.ofList (f.source text.toList)) refusal)
      | .ok e => .ok (f, e)

end Matcher

end StyleLookup
