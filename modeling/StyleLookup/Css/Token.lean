import StyleLookup.Css.Numeral
import StyleLookup.Text.Quoted

/-!
# Tokens of stylesheets

A token is a kind with what it means, together with the text that it was read from. Names and
strings in a kind have their escapes resolved; the text is untouched, so that the texts of all
tokens make up the stylesheet.
-/

namespace StyleLookup.Css

/-- What a token is. -/
inductive Kind where
  | blank
  | comment
  | ident (name : List Char)
  | atKeyword (name : List Char)
  /-- A `#` with a name that could stand alone. -/
  | idHash (name : List Char)
  /-- A `#` with any other name. -/
  | hash (name : List Char)
  | string (value : List Char)
  /-- A string that is cut by a line end. -/
  | badString (value : List Char)
  | url (value : List Char)
  | badUrl (text : List Char)
  /-- A name with its opening parenthesis. -/
  | function (name : List Char)
  | number (n : Numeral)
  | percentage (n : Numeral)
  | dimension (n : Numeral) (unit : List Char)
  | delim (c : Char)
  | colon
  | semicolon
  | comma
  | includeMatch
  | dashMatch
  | prefixMatch
  | suffixMatch
  | substringMatch
  /-- The text `<!--`. -/
  | markupOpen
  /-- The text `-->`. -/
  | markupClose
  | openParen
  | openSquare
  | openCurly
  | closeParen
  | closeSquare
  | closeCurly
deriving Repr, DecidableEq

/-- A token: its kind and its text. -/
structure Token where
  kind : Kind
  text : List Char
deriving Repr, DecidableEq

namespace Kind

/-- The kind that closes a block, for the kinds that open one. -/
def closer? : Kind → Option Kind
  | .function _ | .openParen => some .closeParen
  | .openSquare => some .closeSquare
  | .openCurly => some .closeCurly
  | _ => none

/-- Whether a token only lays out the text: white space or a comment. -/
def isLayout : Kind → Bool
  | .blank | .comment => true
  | _ => false

/-! ## Kinds in messages -/

/-- A kind with one text. -/
def named (name : String) (text : List Char) : String :=
  name ++ "(" ++ String.ofList (Text.quotedText text) ++ ")"

/-- The field of a number that tells whether it is a whole number, and which. -/
def integerText : Option Int → String
  | some n => "Some(" ++ String.ofList (Decimal.intText n) ++ ")"
  | none => "None"

/-- A numeric kind with its fields. -/
def numeric (name valueName : String) (value : Float) (n : Numeral) (more : String) : String :=
  name ++ " \x7b has_sign: " ++ (if n.isSigned then "true" else "false") ++ ", " ++ valueName
    ++ ": " ++ String.ofList (Decimal.float32Text value.toFloat32)
    ++ ", int_value: " ++ integerText n.integer? ++ more ++ " \x7d"

/-- The name of a kind in messages, with its value. -/
def describe : Kind → String
  | .blank => "WhiteSpace"
  | .comment => "Comment"
  | .ident name => named "Ident" name
  | .atKeyword name => named "AtKeyword" name
  | .idHash name => named "IDHash" name
  | .hash name => named "Hash" name
  | .string value => named "QuotedString" value
  | .badString value => named "BadString" value
  | .url value => named "UnquotedUrl" value
  | .badUrl text => named "BadUrl" text
  | .function name => named "Function" name
  | .number n => numeric "Number" "value" n.value n ""
  | .percentage n => numeric "Percentage" "unit_value" (n.value / 100) n ""
  | .dimension n unit =>
      numeric "Dimension" "value" n.value n
        (", unit: " ++ String.ofList (Text.quotedText unit))
  | .delim c => "Delim(" ++ String.ofList (Text.quotedChar c) ++ ")"
  | .colon => "Colon"
  | .semicolon => "Semicolon"
  | .comma => "Comma"
  | .includeMatch => "IncludeMatch"
  | .dashMatch => "DashMatch"
  | .prefixMatch => "PrefixMatch"
  | .suffixMatch => "SuffixMatch"
  | .substringMatch => "SubstringMatch"
  | .markupOpen => "CDO"
  | .markupClose => "CDC"
  | .openParen => "ParenthesisBlock"
  | .openSquare => "SquareBracketBlock"
  | .openCurly => "CurlyBracketBlock"
  | .closeParen => "CloseParenthesis"
  | .closeSquare => "CloseSquareBracket"
  | .closeCurly => "CloseCurlyBracket"

end Kind

end StyleLookup.Css
