import StyleLookup.Matcher.Basic
import StyleLookup.Output.Formatted

/-!
# Resolutions

What a matcher finds in a stylesheet. A rule that is looked for and not found is absent, in the
place where it would have stood; only a matcher that makes no sense is a failure. A global pattern
asks for as many rules as there are, so none of its results is absent.
-/

namespace StyleLookup

open Css

/-- What a matcher finds. -/
inductive Resolution where
  | single (result : Option Formatted)
  | sequence (results : List (Option Formatted))
  | mapping (entries : List (String × Option Formatted))
deriving Repr, DecidableEq

/-- The number of results that are not absent. -/
def Resolution.found : Resolution → Nat
  | .single result => result.toList.length
  | .sequence results => results.countP Option.isSome
  | .mapping entries => entries.countP (fun e => e.2.isSome)

namespace Css.Stylesheet

/-- The first rule with a selector, in a format. -/
def lookup (s : Stylesheet) (format : Format) (selector : String) : Option Formatted :=
  (s.first? (· == selector)).map (Formatted.ofRule format)

/-- The rules in which a pattern is found: all of them if it is global, and the first if not. -/
def search (s : Stylesheet) (format : Format) (global : Bool)
    (e : Pattern.Regex Pattern.Atom) : Resolution :=
  let test := fun (selector : String) => e.foundIn selector.toList
  if global then .sequence ((s.all test).map fun r => some (Formatted.ofRule format r))
  else .single ((s.first? test).map (Formatted.ofRule format))

/-- Looks up what a matcher asks for. -/
def resolve [Platform] (s : Stylesheet) (format : Format) :
    Matcher → Except Matcher.Problem Resolution
  | .selector text => .ok (.single (s.lookup format text))
  | .list items => .ok (.sequence (items.map (s.lookup format)))
  | .pattern text flags =>
      (Matcher.compile text flags).map fun (flags, e) => s.search format flags.global e
  | .map entries => .ok (.mapping (entries.map fun (key, text) => (key, s.lookup format text)))

end Css.Stylesheet

end StyleLookup
