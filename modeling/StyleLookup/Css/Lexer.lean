import StyleLookup.Css.Token

/-!
# Reading tokens

A text is cut into tokens from left to right. Each scanner takes what follows the characters
already recognised and returns what it read together with the rest; the rest is always a suffix
(`..._suffix`), which is why reading ends and why no character is lost (`flatMap_text_tokenize`).

Whatever is not closed at the end of the text, a string, a comment or a url, ends there silently.
-/

namespace StyleLookup.Css

open StyleLookup.Text

namespace Lexer

/-! ## Character classes -/

/-- Characters that end a line. -/
def isNewline (c : Char) : Bool := c == '\n' || c == '\r' || c == '\x0c'

/-- White space of stylesheets: five characters of ASCII. -/
def isSpace (c : Char) : Bool := c == ' ' || c == '\t' || isNewline c

/-- Decimal digits. -/
def isDigit (c : Char) : Bool := '0' ≤ c && c ≤ '9'

/-- Letters, the underscore, NUL, and all characters outside ASCII. -/
def isNameStart (c : Char) : Bool :=
  ('a' ≤ c && c ≤ 'z') || ('A' ≤ c && c ≤ 'Z') || c == '_' || c == '\x00' || 128 ≤ c.toNat

/-- Characters that a name may hold without an escape. -/
def isNameChar (c : Char) : Bool := isNameStart c || isDigit c || c == '-'

/-- Control characters that may not stand in a url. -/
def isUnprintable (c : Char) : Bool :=
  let n := c.toNat
  (1 ≤ n && n ≤ 8) || n == 0xB || (0xE ≤ n && n ≤ 0x1F) || n == 0x7F

/-- The character that stands for one which cannot be kept. -/
def replacement : Char := '\ufffd'

/-- A character as it counts in a name or string: NUL is replaced. -/
def plainChar (c : Char) : Char := if c = '\x00' then replacement else c

/-- Whether a line ends right here. -/
def atNewline : List Char → Bool
  | c :: _ => isNewline c
  | [] => false

/-- Whether a digit, or a point and a digit, stands here. -/
def atNumber : List Char → Bool
  | '.' :: c :: _ => isDigit c
  | c :: _ => isDigit c
  | [] => false

/-- Whether an identifier starts here. -/
def atIdent : List Char → Bool
  | '-' :: c :: _ => isNameStart c || c == '-' || c == '\\'
  | '\\' :: cs => !atNewline cs
  | c :: _ => isNameStart c
  | [] => false

/-! ## Escapes and names -/

/-- The character with a number, unless there is none or the number is zero. -/
def scalar (n : Nat) : Char :=
  if n.isValidChar ∧ n ≠ 0 then Char.ofNat n else replacement

/-- Drops one white space character after a hexadecimal escape; a CR LF pair counts as one. -/
def dropOneSpace : List Char → List Char
  | '\r' :: '\n' :: cs => cs
  | c :: cs => if isSpace c then cs else c :: cs
  | [] => []

/-- Reads what follows a backslash: up to six hexadecimal digits, or any one character. -/
def escape : List Char → Char × List Char
  | [] => (replacement, [])
  | c :: cs =>
      if Hexadecimal.isDigit c then
        let digits := ((c :: cs).take 6).takeWhile Hexadecimal.isDigit
        (scalar (Hexadecimal.value digits), dropOneSpace ((c :: cs).drop digits.length))
      else (plainChar c, cs)

theorem dropOneSpace_suffix (s : List Char) : dropOneSpace s <:+ s := by
  unfold dropOneSpace
  split
  · exact ⟨['\r', '\n'], rfl⟩
  · split
    · exact List.suffix_cons _ _
    · exact List.suffix_refl _
  · exact List.suffix_refl _

theorem escape_suffix (s : List Char) : (escape s).2 <:+ s := by
  unfold escape
  split
  · exact List.suffix_refl _
  · split
    · exact (dropOneSpace_suffix _).trans (List.drop_suffix _ _)
    · exact List.suffix_cons _ _

/-- Reads a name: plain characters and escapes, as far as they go. -/
def name : List Char → List Char × List Char
  | [] => ([], [])
  | c :: cs =>
      if isNameChar c then
        let (more, rest) := name cs
        (plainChar c :: more, rest)
      else if c = '\\' ∧ atNewline cs = false then
        let (more, rest) := name (escape cs).2
        ((escape cs).1 :: more, rest)
      else ([], c :: cs)
termination_by s => s.length
decreasing_by
  · exact Nat.lt_succ_self _
  · exact Nat.lt_succ_of_le (escape_suffix cs).length_le

theorem name_suffix (s : List Char) : (name s).2 <:+ s := by
  fun_induction name s with
  | case1 => exact List.suffix_refl _
  | case2 c cs _ more rest h ih => exact (h ▸ ih).trans (List.suffix_cons _ _)
  | case3 c cs _ _ more rest h ih =>
      exact (h ▸ ih).trans ((escape_suffix cs).trans (List.suffix_cons _ _))
  | case4 => exact List.suffix_refl _

/-! ## Strings -/

/-- Drops one line end; a CR LF pair counts as one. -/
def dropNewline : List Char → List Char
  | '\r' :: '\n' :: cs => cs
  | _ :: cs => cs
  | [] => []

theorem dropNewline_suffix (s : List Char) : dropNewline s <:+ s := by
  unfold dropNewline
  split
  · exact ⟨['\r', '\n'], rfl⟩
  · exact List.suffix_cons _ _
  · exact List.suffix_refl _

/--
Reads a string after its opening quote. An escaped line end adds nothing, and a bare one cuts the
string: then the flag is `false` and the line end is left.
-/
def string (quote : Char) : List Char → List Char × Bool × List Char
  | [] => ([], true, [])
  | c :: cs =>
      if c = quote then ([], true, cs)
      else if isNewline c then ([], false, c :: cs)
      else if c = '\\' then
        if atNewline cs then string quote (dropNewline cs)
        else if cs.isEmpty then ([], true, [])
        else
          let (more, closed, rest) := string quote (escape cs).2
          ((escape cs).1 :: more, closed, rest)
      else
        let (more, closed, rest) := string quote cs
        (plainChar c :: more, closed, rest)
termination_by s => s.length
decreasing_by
  · exact Nat.lt_succ_of_le (dropNewline_suffix cs).length_le
  · exact Nat.lt_succ_of_le (escape_suffix cs).length_le
  · exact Nat.lt_succ_self _

theorem string_suffix (quote : Char) (s : List Char) : (string quote s).2.2 <:+ s := by
  fun_induction string quote s with
  | case1 => exact List.suffix_refl _
  | case2 => exact List.suffix_cons _ _
  | case3 => exact List.suffix_refl _
  | case4 _ _ _ _ ih => exact ih.trans ((dropNewline_suffix _).trans (List.suffix_cons _ _))
  | case5 => exact List.nil_suffix
  | case6 =>
      rename_i h _ _ ih
      rw [h] at ih
      exact ih.trans ((escape_suffix _).trans (List.suffix_cons _ _))
  | case7 c cs _ _ _ more closed rest h ih =>
      have ih := h ▸ ih
      exact ih.trans (List.suffix_cons _ _)

/-! ## Urls -/

/--
Passes over a url that is not one, through its closing parenthesis, and returns the text before
that. A backslash takes a parenthesis or a backslash after it along.
-/
def badUrl : List Char → List Char × List Char
  | [] => ([], [])
  | ')' :: cs => ([], cs)
  | '\\' :: c :: cs =>
      if c = ')' ∨ c = '\\' then
        let (more, rest) := badUrl cs
        ('\\' :: c :: more, rest)
      else
        let (more, rest) := badUrl (c :: cs)
        ('\\' :: more, rest)
  | c :: cs =>
      let (more, rest) := badUrl cs
      (c :: more, rest)

/-- Where a url stops. -/
inductive UrlEnd where
  /-- At its closing parenthesis or at the end of the text. -/
  | closed
  /-- At something that no url may hold. -/
  | spoiled
deriving Repr, DecidableEq

/--
Reads the characters of a url up to its end. White space may only stand in front of the closing
parenthesis. The rest starts after the parenthesis, or after the character that spoils the url.
-/
def urlChars : List Char → List Char × UrlEnd × List Char
  | [] => ([], .closed, [])
  | c :: cs =>
      if c = ')' then ([], .closed, cs)
      else if isSpace c then
        match cs.dropWhile isSpace with
        | [] => ([], .closed, [])
        | d :: ds => ([], if d = ')' then .closed else .spoiled, ds)
      else if isUnprintable c ∨ c = '"' ∨ c = '\'' ∨ c = '(' then ([], .spoiled, cs)
      else if c = '\\' then
        if atNewline cs then ([], .spoiled, cs)
        else
          let (more, stop, rest) := urlChars (escape cs).2
          ((escape cs).1 :: more, stop, rest)
      else
        let (more, stop, rest) := urlChars cs
        (plainChar c :: more, stop, rest)
termination_by s => s.length
decreasing_by
  · exact Nat.lt_succ_of_le (escape_suffix cs).length_le
  · exact Nat.lt_succ_self _

theorem badUrl_suffix (s : List Char) : (badUrl s).2 <:+ s := by
  fun_induction badUrl s with
  | case1 => exact List.suffix_refl _
  | case2 => exact List.suffix_cons _ _
  | case3 c cs _ more rest h ih =>
      have ih := h ▸ ih
      exact ih.trans ((List.suffix_cons _ _).trans (List.suffix_cons _ _))
  | case4 c cs _ more rest h ih =>
      have ih := h ▸ ih
      exact ih.trans (List.suffix_cons _ _)
  | case5 c cs _ _ more rest h ih =>
      have ih := h ▸ ih
      exact ih.trans (List.suffix_cons _ _)

theorem urlChars_suffix (s : List Char) : (urlChars s).2.2 <:+ s := by
  fun_induction urlChars s with
  | case1 => exact List.suffix_refl _
  | case2 => exact List.suffix_cons _ _
  | case3 => exact List.nil_suffix
  | case4 c cs _ _ d ds h =>
      have : d :: ds <:+ cs := h ▸ List.dropWhile_suffix _
      exact ((List.suffix_cons _ _).trans this).trans (List.suffix_cons _ _)
  | case5 => exact List.suffix_cons _ _
  | case6 => exact List.suffix_cons _ _
  | case7 =>
      rename_i h _ _ _ ih
      rw [h] at ih
      exact ih.trans ((escape_suffix _).trans (List.suffix_cons _ _))
  | case8 c cs _ _ _ _ more stop rest h ih =>
      have ih := h ▸ ih
      exact ih.trans (List.suffix_cons _ _)

/--
Reads what follows `url(`: a url without quotes, unless a quote comes first; then the name is that
of a function. A url that is spoiled runs to its closing parenthesis, and its text counts from the
first character after the white space in front.
-/
def url (functionName : List Char) (s : List Char) : Kind × List Char :=
  match s.dropWhile isSpace with
  | [] => (.url [], [])
  | c :: cs =>
      if c = '"' ∨ c = '\'' then (.function functionName, s)
      else
        match urlChars (c :: cs) with
        | (value, .closed, rest) => (.url value, rest)
        | (_, .spoiled, rest) =>
            let (more, rest') := badUrl rest
            (.badUrl ((c :: cs).take ((c :: cs).length - rest.length) ++ more), rest')

theorem url_suffix (functionName s : List Char) : (url functionName s).2 <:+ s := by
  have skipped : s.dropWhile isSpace <:+ s := List.dropWhile_suffix _
  unfold url
  split
  · exact List.nil_suffix
  · rename_i c cs h
    rw [h] at skipped
    split
    · exact List.suffix_refl _
    · have chars := urlChars_suffix (c :: cs)
      split
      · rename_i h'
        rw [h'] at chars
        exact chars.trans skipped
      · rename_i h'
        rw [h'] at chars
        exact ((badUrl_suffix _).trans chars).trans skipped

/-! ## Comments and numbers -/

/-- Passes over a comment after its opening, through its closing. -/
def comment : List Char → List Char
  | [] => []
  | '*' :: '/' :: cs => cs
  | _ :: cs => comment cs

theorem comment_suffix (s : List Char) : comment s <:+ s := by
  fun_induction comment s with
  | case1 => exact List.suffix_refl _
  | case2 cs => exact (List.suffix_cons _ _).trans (List.suffix_cons _ _)
  | case3 c cs _ ih => exact ih.trans (List.suffix_cons _ _)

/-- Reads an optional sign. -/
def sign : List Char → Option Bool × List Char
  | '-' :: cs => (some true, cs)
  | '+' :: cs => (some false, cs)
  | cs => (none, cs)

/-- Reads a fraction: a point with at least one digit after it. -/
def fraction : List Char → Option (List Char) × List Char
  | '.' :: c :: cs =>
      if isDigit c then (some ((c :: cs).takeWhile isDigit), (c :: cs).dropWhile isDigit)
      else (none, '.' :: c :: cs)
  | cs => (none, cs)

/-- Reads an exponent: the letter, an optional sign, and at least one digit. -/
def exponent : List Char → Option (Bool × List Char) × List Char
  | c :: cs =>
      let (negative, digits) := sign cs
      if (c = 'e' ∨ c = 'E') ∧ digits.head?.any isDigit then
        (some (negative == some true, digits.takeWhile isDigit), digits.dropWhile isDigit)
      else (none, c :: cs)
  | [] => (none, [])

/-- Reads a number. -/
def numeral (s : List Char) : Numeral × List Char :=
  let (sign, s) := sign s
  let (fraction, t) := fraction (s.dropWhile isDigit)
  let (exponent, rest) := exponent t
  (⟨sign, s.takeWhile isDigit, fraction, exponent⟩, rest)

theorem sign_suffix (s : List Char) : (sign s).2 <:+ s := by
  unfold sign
  split
  · exact List.suffix_cons _ _
  · exact List.suffix_cons _ _
  · exact List.suffix_refl _

theorem fraction_suffix (s : List Char) : (fraction s).2 <:+ s := by
  unfold fraction
  split
  · split
    · exact (List.dropWhile_suffix _).trans (List.suffix_cons _ _)
    · exact List.suffix_refl _
  · exact List.suffix_refl _

theorem exponent_suffix (s : List Char) : (exponent s).2 <:+ s := by
  unfold exponent
  split
  · rename_i c cs
    dsimp only
    split
    · exact ((List.dropWhile_suffix _).trans (sign_suffix cs)).trans (List.suffix_cons _ _)
    · exact List.suffix_refl _
  · exact List.suffix_refl _

theorem numeral_suffix (s : List Char) : (numeral s).2 <:+ s :=
  ((exponent_suffix _).trans (fraction_suffix _)).trans
    ((List.dropWhile_suffix _).trans (sign_suffix s))

/-- Reads a number and the percent sign or unit that follows it. -/
def numeric (s : List Char) : Kind × List Char :=
  let (n, rest) := numeral s
  match rest with
  | '%' :: rest => (.percentage n, rest)
  | rest =>
      if atIdent rest then
        let (unit, rest) := name rest
        (.dimension n unit, rest)
      else (.number n, rest)

/-- The percent sign and the unit stand behind the number. -/
theorem numeric_suffix_numeral (s : List Char) : (numeric s).2 <:+ (numeral s).2 := by
  unfold numeric
  dsimp only
  split
  · rename_i h
    rw [h]
    exact List.suffix_cons _ _
  · split
    · exact name_suffix _
    · exact List.suffix_refl _

/-! ## Tokens -/

/-- Whether a name is `url` without regard to case. -/
def isUrlName (name : List Char) : Bool := name.map Char.toLower == ['u', 'r', 'l']

/-- Reads an identifier, or a function or url if a parenthesis follows it. -/
def identLike (s : List Char) : Kind × List Char :=
  match name s with
  | (name, '(' :: rest) => if isUrlName name then url name rest else (.function name, rest)
  | (name, rest) => (.ident name, rest)

/-- Reads a kind after `#`. -/
def afterHash (cs : List Char) : Kind × List Char :=
  let (text, rest) := name cs
  if atIdent cs then (.idHash text, rest)
  else if cs.head?.any (fun c => isDigit c || c == '-') then (.hash text, rest)
  else (.delim '#', cs)

/-- A kind that a character forms with an equals sign after it. -/
def matchOperator (c : Char) (kind : Kind) : List Char → Kind × List Char
  | '=' :: cs => (kind, cs)
  | cs => (.delim c, cs)

/-- Reads what follows a minus sign that starts no number. -/
def afterMinus : List Char → Kind × List Char
  | '-' :: '>' :: rest => (.markupClose, rest)
  | cs => if atIdent ('-' :: cs) then identLike ('-' :: cs) else (.delim '-', cs)

/-- Reads what follows a slash. -/
def afterSlash : List Char → Kind × List Char
  | '*' :: rest => (.comment, comment rest)
  | cs => (.delim '/', cs)

/-- Reads what follows a less-than sign. -/
def afterLess : List Char → Kind × List Char
  | '!' :: '-' :: '-' :: rest => (.markupOpen, rest)
  | cs => (.delim '<', cs)

/-- Reads what follows an at sign. -/
def afterAt (cs : List Char) : Kind × List Char :=
  if atIdent cs then
    let (text, rest) := name cs
    (.atKeyword text, rest)
  else (.delim '@', cs)

/-- Reads what follows a quote. -/
def afterQuote (quote : Char) (cs : List Char) : Kind × List Char :=
  let (value, closed, rest) := string quote cs
  (if closed then .string value else .badString value, rest)

/-- Whether a number starts with `c`. -/
def startsNumber (c : Char) (cs : List Char) : Bool :=
  isDigit c || (c == '.' && cs.head?.any isDigit) || ((c == '+' || c == '-') && atNumber cs)

/-- Reads the token that starts with `c`: its kind and the rest of the text. -/
def next (c : Char) (cs : List Char) : Kind × List Char :=
  if isSpace c then (.blank, cs.dropWhile isSpace)
  else if isNameStart c || (c == '\\' && !atNewline cs) then identLike (c :: cs)
  else if startsNumber c cs then numeric (c :: cs)
  else if c = '"' ∨ c = '\'' then afterQuote c cs
  else match c with
    | '#' => afterHash cs
    | '-' => afterMinus cs
    | '/' => afterSlash cs
    | '<' => afterLess cs
    | '@' => afterAt cs
    | '$' => matchOperator c .suffixMatch cs
    | '*' => matchOperator c .substringMatch cs
    | '^' => matchOperator c .prefixMatch cs
    | '|' => matchOperator c .dashMatch cs
    | '~' => matchOperator c .includeMatch cs
    | '(' => (.openParen, cs)
    | ')' => (.closeParen, cs)
    | '[' => (.openSquare, cs)
    | ']' => (.closeSquare, cs)
    | '\x7b' => (.openCurly, cs)
    | '\x7d' => (.closeCurly, cs)
    | ',' => (.comma, cs)
    | ':' => (.colon, cs)
    | ';' => (.semicolon, cs)
    | c => (.delim c, cs)

/-! ## Progress -/

/-- A name that starts with `c` takes `c`. -/
theorem name_cons_suffix {c : Char} {cs : List Char}
    (h : isNameChar c = true ∨ (c = '\\' ∧ atNewline cs = false)) :
    (name (c :: cs)).2 <:+ cs := by
  rw [name]
  split
  · exact name_suffix cs
  · rename_i hc
    rw [if_pos (h.resolve_left hc)]
    exact (name_suffix _).trans (escape_suffix cs)

theorem identLike_cons_suffix {c : Char} {cs : List Char}
    (h : isNameChar c = true ∨ (c = '\\' ∧ atNewline cs = false)) :
    (identLike (c :: cs)).2 <:+ cs := by
  have h := name_cons_suffix h
  unfold identLike
  split
  · rename_i h'
    rw [h'] at h
    have h := (List.suffix_cons _ _).trans h
    split
    · exact (url_suffix _ _).trans h
    · exact h
  · rename_i h'
    rw [h'] at h
    exact h

theorem isNameChar_of_isNameStart {c : Char} (h : isNameStart c = true) :
    isNameChar c = true := by
  simp [isNameChar, h]

/-- A number that starts with `c` takes `c`. -/
theorem numeral_cons_suffix {c : Char} {cs : List Char} (h : startsNumber c cs = true) :
    (numeral (c :: cs)).2 <:+ cs := by
  by_cases hd : isDigit c = true
  · -- The first digit is dropped with the others.
    have hs : sign (c :: cs) = (none, c :: cs) := by
      unfold sign
      split <;> simp_all [isDigit]
    simp only [numeral, hs, List.dropWhile_cons, hd, if_true]
    exact ((exponent_suffix _).trans (fraction_suffix _)).trans (List.dropWhile_suffix _)
  · by_cases hp : c = '.'
    · subst hp
      have hs : sign ('.' :: cs) = (none, '.' :: cs) := rfl
      cases cs with
      | nil => simp [startsNumber, isDigit, atNumber] at h
      | cons d ds =>
          have hd' : isDigit d = true := by
            simpa [startsNumber, isDigit] using h
          simp only [numeral, hs, List.dropWhile_cons, hd, fraction, hd', if_true]
          exact (exponent_suffix _).trans (by
            simpa [List.dropWhile_cons, hd'] using
              (List.dropWhile_suffix (l := ds) isDigit).trans (List.suffix_cons d ds))
    · have hs : (sign (c :: cs)).2 = cs := by
        have : c = '+' ∨ c = '-' := by
          simp [startsNumber, hd, hp] at h
          exact h.1
        rcases this with rfl | rfl <;> rfl
      simp only [numeral, hs]
      exact ((exponent_suffix _).trans (fraction_suffix _)).trans (List.dropWhile_suffix _)

theorem numeric_cons_suffix {c : Char} {cs : List Char} (h : startsNumber c cs = true) :
    (numeric (c :: cs)).2 <:+ cs :=
  (numeric_suffix_numeral _).trans (numeral_cons_suffix h)

theorem matchOperator_suffix (c : Char) (kind : Kind) (cs : List Char) :
    (matchOperator c kind cs).2 <:+ cs := by
  unfold matchOperator
  split
  · exact List.suffix_cons _ _
  · exact List.suffix_refl _

theorem afterHash_suffix (cs : List Char) : (afterHash cs).2 <:+ cs := by
  unfold afterHash
  dsimp only
  split
  · exact name_suffix cs
  · split
    · exact name_suffix cs
    · exact List.suffix_refl _

theorem afterMinus_suffix (cs : List Char) : (afterMinus cs).2 <:+ cs := by
  unfold afterMinus
  split
  · exact ⟨['-', '>'], rfl⟩
  · split
    · exact identLike_cons_suffix (.inl (by decide))
    · exact List.suffix_refl _

theorem afterSlash_suffix (cs : List Char) : (afterSlash cs).2 <:+ cs := by
  unfold afterSlash
  split
  · exact (comment_suffix _).trans (List.suffix_cons _ _)
  · exact List.suffix_refl _

theorem afterLess_suffix (cs : List Char) : (afterLess cs).2 <:+ cs := by
  unfold afterLess
  split
  · exact ⟨['!', '-', '-'], rfl⟩
  · exact List.suffix_refl _

theorem afterAt_suffix (cs : List Char) : (afterAt cs).2 <:+ cs := by
  unfold afterAt
  split
  · exact name_suffix cs
  · exact List.suffix_refl _

/-- Every token takes at least the character that it starts with. -/
theorem next_suffix (c : Char) (cs : List Char) : (next c cs).2 <:+ cs := by
  unfold next
  split
  · exact List.dropWhile_suffix _
  · split
    · rename_i h
      refine identLike_cons_suffix ?_
      rcases Bool.or_eq_true_iff.1 h with h | h
      · exact .inl (isNameChar_of_isNameStart h)
      · exact .inr (by simpa using h)
    · split
      · rename_i h
        exact numeric_cons_suffix h
      · split
        · exact string_suffix c cs
        · split <;> first
            | exact List.suffix_refl _
            | exact matchOperator_suffix _ _ _
            | exact afterHash_suffix _
            | exact afterMinus_suffix _
            | exact afterSlash_suffix _
            | exact afterLess_suffix _
            | exact afterAt_suffix _

end Lexer

/-! ## The tokens of a text -/

/-- Cuts a text into tokens. -/
def tokenize : List Char → List Token
  | [] => []
  | c :: cs =>
      let rest := (Lexer.next c cs).2
      ⟨(Lexer.next c cs).1, (c :: cs).take ((c :: cs).length - rest.length)⟩ :: tokenize rest
termination_by s => s.length
decreasing_by exact Nat.lt_succ_of_le (Lexer.next_suffix c cs).length_le

/-- The texts of the tokens make up the text. -/
theorem flatMap_text_tokenize (s : List Char) : (tokenize s).flatMap Token.text = s := by
  fun_induction tokenize s with
  | case1 => rfl
  | case2 c cs rest ih =>
      have suffix : rest <:+ c :: cs := (Lexer.next_suffix c cs).trans (List.suffix_cons c cs)
      obtain ⟨front, hfront⟩ := suffix
      rw [List.flatMap_cons, ih, ← hfront]
      simp

end StyleLookup.Css
