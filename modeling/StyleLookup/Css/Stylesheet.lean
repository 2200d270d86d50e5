/-!
# Stylesheets

A stylesheet is a list of rules in the order of its text. A rule has selectors and declarations,
all as they are written; nothing is merged, so a rule that sets a property twice holds both
declarations.

Rules are looked up by a test on selectors: a rule passes when one of its selectors does, and
counts once however many do.
-/

namespace StyleLookup.Css

/-- A property and its value. -/
structure Declaration where
  property : String
  value : String
deriving Repr, DecidableEq

/-- Selectors and the declarations that they share. -/
structure Rule where
  selectors : List String
  declarations : List Declaration
deriving Repr, DecidableEq

/-- The rules of a text, with a name for where the text came from. -/
structure Stylesheet where
  source : String
  rules : List Rule
deriving Repr, DecidableEq

/-- Whether one of the rule's selectors passes the test. -/
def Rule.passes (test : String → Bool) (r : Rule) : Bool := r.selectors.any test

namespace Stylesheet

/-- All selectors of all rules, in order. -/
def selectors (s : Stylesheet) : List String := s.rules.flatMap Rule.selectors

/-- The first rule with a selector that passes the test. -/
def first? (s : Stylesheet) (test : String → Bool) : Option Rule :=
  s.rules.find? (Rule.passes test)

/-- Every rule with a selector that passes the test, in order. -/
def all (s : Stylesheet) (test : String → Bool) : List Rule :=
  s.rules.filter (Rule.passes test)

theorem head?_all (s : Stylesheet) (test : String → Bool) : (s.all test).head? = s.first? test := by
  simp [all, first?]

end Stylesheet

end StyleLookup.Css
