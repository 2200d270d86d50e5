import StyleLookup.Unicode.Age
import StyleLookup.Unicode.Segmentation

/-!
# Property queries

A query asks for a set of characters by a name (`Greek`, `Lu`, `Alphabetic`) or by a property and
a value (`Script=Greek`, `Age=6.0`), which may be one that the characters must not have
(`Script!=Greek`). Names are compared loosely: case, spaces, hyphens, underscores and a leading
`is` do not count.
-/

namespace StyleLookup.Unicode

/-- What a query asks for. -/
inductive Query where
  | named (text : List Char)
  | valued (property value : List Char)
  /-- Every character whose value differs. -/
  | differing (property value : List Char)
deriving Repr, DecidableEq

/-- Why a query has no answer. -/
inductive QueryError where
  | unknownProperty
  | unknownValue
deriving Repr, DecidableEq

/--
The form of a name in which names are compared: small letters, without spaces, hyphens,
underscores, a leading `is`, and whatever is not ASCII. What would shrink to `c` by losing its
`is` is the name `isc` itself.
-/
def looseName (name : List Char) : List Char :=
  let isPrefixed := (name.take 2).map Char.toLower == ['i', 's']
  let kept := ((if isPrefixed then name.drop 2 else name).filter
    (fun c => c.toNat < 128 && c != ' ' && c != '_' && c != '-')).map Char.toLower
  if isPrefixed && kept == ['c'] then ['i', 's', 'c'] else kept

/-- Whether a loose name is one of the listed names. -/
def namedBy (loose : List Char) (names : List String) : Bool :=
  names.any fun n => looseName n.toList == loose

/--
General categories and their groups: their names, and the categories they hold. No character is
a surrogate.
-/
def categoryNames : List (List String × List String) :=
  [ (["C", "Other"], ["Cc", "Cf", "Cn", "Co", "Cs"]),
    (["Cc", "Control", "cntrl"], ["Cc"]),
    (["Cf", "Format"], ["Cf"]),
    (["Cn", "Unassigned"], ["Cn"]),
    (["Co", "Private_Use"], ["Co"]),
    (["Cs", "Surrogate"], []),
    (["L", "Letter"], ["Lu", "Ll", "Lt", "Lm", "Lo"]),
    (["LC", "Cased_Letter"], ["Lu", "Ll", "Lt"]),
    (["Ll", "Lowercase_Letter"], ["Ll"]),
    (["Lm", "Modifier_Letter"], ["Lm"]),
    (["Lo", "Other_Letter"], ["Lo"]),
    (["Lt", "Titlecase_Letter"], ["Lt"]),
    (["Lu", "Uppercase_Letter"], ["Lu"]),
    (["M", "Mark", "Combining_Mark"], ["Mn", "Mc", "Me"]),
    (["Mc", "Spacing_Mark"], ["Mc"]),
    (["Me", "Enclosing_Mark"], ["Me"]),
    (["Mn", "Nonspacing_Mark"], ["Mn"]),
    (["N", "Number"], ["Nd", "Nl", "No"]),
    (["Nd", "Decimal_Number", "digit"], ["Nd"]),
    (["Nl", "Letter_Number"], ["Nl"]),
    (["No", "Other_Number"], ["No"]),
    (["P", "Punctuation", "punct"], ["Pc", "Pd", "Pe", "Pf", "Pi", "Po", "Ps"]),
    (["Pc", "Connector_Punctuation"], ["Pc"]),
    (["Pd", "Dash_Punctuation"], ["Pd"]),
    (["Pe", "Close_Punctuation"], ["Pe"]),
    (["Pf", "Final_Punctuation"], ["Pf"]),
    (["Pi", "Initial_Punctuation"], ["Pi"]),
    (["Po", "Other_Punctuation"], ["Po"]),
    (["Ps", "Open_Punctuation"], ["Ps"]),
    (["S", "Symbol"], ["Sc", "Sk", "Sm", "So"]),
    (["Sc", "Currency_Symbol"], ["Sc"]),
    (["Sk", "Modifier_Symbol"], ["Sk"]),
    (["Sm", "Math_Symbol"], ["Sm"]),
    (["So", "Other_Symbol"], ["So"]),
    (["Z", "Separator"], ["Zl", "Zp", "Zs"]),
    (["Zl", "Line_Separator"], ["Zl"]),
    (["Zp", "Paragraph_Separator"], ["Zp"]),
    (["Zs", "Space_Separator"], ["Zs"]) ]

/-- The characters of a category or group of categories, and of the three names beside them. -/
def category? (loose : List Char) : Option Scalars :=
  if loose == "any".toList then some [⟨0, lastScalar⟩]
  else if loose == "assigned".toList then some (Scalars.complement (inCategories ["Cn"]))
  else if loose == "ascii".toList then some [⟨0, 127⟩]
  else (categoryNames.find? (fun e => namedBy loose e.1)).map fun e => inCategories e.2

/-- A set that must have members: without any, the name stands for no set. -/
def inhabited (a : Scalars) : Except QueryError Scalars :=
  if a.isEmpty then .error .unknownValue else .ok a

/-- The code of a script that is named by its code or by a long name. -/
def scriptCode? (loose : List Char) : Option String :=
  (scriptNames.find? (fun e => namedBy loose (e.1 :: e.2))).map Prod.fst

/-- The characters of a script, by a function that gives the set of a script's code. -/
def ofScript (set : String → Scalars) (loose : List Char) : Except QueryError Scalars :=
  match scriptCode? loose with
  | some "Zzzz" | none => .error .unknownValue
  | some code => inhabited (set code)

/-- The code points known at a version of the standard, which is named by either of its names. -/
def ofVersion (loose : List Char) : Except QueryError Scalars :=
  match versions.find? (fun v => namedBy loose [v.1, v.2]) with
  | some v => .ok (knownAt v.1)
  | none => .error .unknownValue

/-- The code points of one of the named classes of a property. -/
def ofClass (classes : List (List String × Scalars)) (loose : List Char) :
    Except QueryError Scalars :=
  match classes.find? (fun e => namedBy loose e.1) with
  | some e => .ok e.2
  | none => .error .unknownValue

/-- Names that abbreviate both a category and a property; the category is meant. -/
def isCategoryFirst (loose : List Char) : Bool :=
  ["cf", "sc", "lc"].any fun n => n.toList == loose

/-- Answers a query by a single name: a binary property, a category or a script, in this order. -/
def Query.byName (loose : List Char) : Except QueryError Scalars :=
  match binaryProperties.find? (fun e => namedBy loose e.1) with
  | some e => .ok e.2
  | none =>
      if namedBy loose otherPropertyNames && !isCategoryFirst loose then .error .unknownProperty
      else
        match category? loose, scriptCode? loose with
        | some set, _ => inhabited set
        | none, some _ => ofScript inScript loose
        | none, none => .error .unknownProperty

/-- Answers a query by property and value. -/
def Query.byValue (property value : List Char) : Except QueryError Scalars :=
  if namedBy property ["General_Category", "gc"] then
    match category? value with
    | some set => inhabited set
    | none => .error .unknownValue
  else if namedBy property ["Script", "sc"] then ofScript inScript value
  else if namedBy property ["Script_Extensions", "scx"] then ofScript usedWithScript value
  else if namedBy property ["Age"] then ofVersion value
  else if namedBy property ["Grapheme_Cluster_Break", "GCB"] then
    ofClass graphemeClusterBreaks value
  else if namedBy property ["Word_Break", "WB"] then ofClass wordBreaks value
  else if namedBy property ["Sentence_Break", "SB"] then ofClass sentenceBreaks value
  else if namedBy property (binaryProperties.flatMap Prod.fst ++ otherPropertyNames) then
    .error .unknownValue
  else .error .unknownProperty

/-- Whether a query asks for the characters outside of the set that it names. -/
def Query.isExclusion : Query → Bool
  | .differing _ _ => true
  | .named _ | .valued _ _ => false

/-- The set that a query names. -/
def Query.answer : Query → Except QueryError Scalars
  | .named text => Query.byName (looseName text)
  | .valued property value | .differing property value =>
      Query.byValue (looseName property) (looseName value)

end StyleLookup.Unicode
