import StyleLookup.Output.CamelCase
import StyleLookup.Output.Format
import StyleLookup.Css.Stylesheet
import StyleLookup.Text.Pieces

/-!
# Formatted rules

The declarations of one rule in the format that was asked for. As text they are lines that can be
put into a rule again; as an object they are keys with values, in order, and a property that is
set twice is a key twice.
-/

namespace StyleLookup

open Css Text

/-- The declarations of a rule as they are handed over. -/
inductive Formatted where
  | text (lines : String)
  | object (entries : List (String × String))
deriving Repr, DecidableEq

/-- A declaration as a line. -/
def declarationLine (d : Declaration) : List Char :=
  d.property.toList ++ [':', ' '] ++ d.value.toList ++ [';']

/-- Declarations as lines, with line feeds between them. -/
def declarationLines (ds : List Declaration) : String :=
  String.ofList (joinWith ['\n'] (ds.map declarationLine))

/-- Declarations as keys in camel case with values. -/
def declarationEntries (ds : List Declaration) : List (String × String) :=
  ds.map fun d => (String.ofList (camelCase d.property.toList), d.value)

/-- Declarations in a format. -/
def Formatted.ofDeclarations (format : Format) (ds : List Declaration) : Formatted :=
  match format with
  | .string => .text (declarationLines ds)
  | .object => .object (declarationEntries ds)

/-- A rule in a format. Its selectors are left out. -/
def Formatted.ofRule (format : Format) (r : Rule) : Formatted :=
  ofDeclarations format r.declarations

end StyleLookup
