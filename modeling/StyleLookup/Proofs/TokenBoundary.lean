import StyleLookup.Proofs.LookaheadQuoted

/-!
# Tokens that may be moved

A token that ends before one boundary ends before every other (`next_joins`; where no white space
can be taken, `next_moves`), and a token with a text of its own ends before any text at all. From
this it follows when a row of tokens, printed somewhere else, is read as the same row again:
`Stands ts x` says that in front of `x` the tokens `ts` are what is read.
-/

namespace StyleLookup.Css

open StyleLookup.Text

/-- Whether tokens of a kind look for an end of their own, and without it take what follows. -/
def Kind.seeksEnd : Kind → Bool
  | .string _ | .url _ | .badUrl _ | .comment => true
  | _ => false

namespace Lexer

/-! ## Tokens -/

/-- What does not stand next is not brought there by a boundary. -/
theorem head?_append_ne {c : Char} {u x : List Char} (hu : u.head? ≠ some c) (hx : AtBoundary x)
    (hc : isBoundary c = false) : ∀ d ∈ (u ++ x).head?, d ≠ c := by
  intro d hd h
  subst h
  cases u with
  | nil =>
      have hb := hx d hd
      rw [hc] at hb
      exact Bool.false_ne_true hb
  | cons e u => exact hu hd

theorem numeric_of_percent {s rest : List Char} {n : Numeral} (h : numeral s = (n, '%' :: rest)) :
    numeric s = (.percentage n, rest) := by
  unfold numeric
  rw [h]
  rfl

theorem numeric_of_ne_percent {s rest : List Char} {n : Numeral} (h : numeral s = (n, rest))
    (hrest : ∀ d ∈ rest.head?, d ≠ '%') :
    numeric s = if atIdent rest then (.dimension n (name rest).1, (name rest).2)
      else (.number n, rest) := by
  rw [numeric, h]
  dsimp only
  split
  · exact absurd rfl (hrest '%' rfl)
  · rfl

/-- No token ends behind a backslash that would take the next character. -/
theorem absurd_of_backslash {w x y : List Char} (hm : Joins ['\\'] w x y) (hw : w ≠ ['\\'])
    (h : (if atIdent ('\\' :: x) then (name ('\\' :: x)).2 else '\\' :: x) = w ++ x) : False := by
  split at h
  · exact ne_backslash_of_name hm hw h rfl
  · have hback : ['\\'] = w := List.append_cancel_right h
    exact hw hback.symm

/-- A name that is read on a condition does not see what follows, nor does what else is read. -/
theorem nameIf_joins {u w x y : List Char} (hm : Joins u w x y) (hw : w ≠ ['\\'])
    {p : Prop} [Decidable p] {named : List Char → Kind} {bare : Kind}
    (h : (if p then (named (name (u ++ x)).1, (name (u ++ x)).2) else (bare, u ++ x)).2 = w ++ x) :
    ∃ r, Skips w y r
      ∧ (if p then (named (name (u ++ y)).1, (name (u ++ y)).2) else (bare, u ++ y))
        = ((if p then (named (name (u ++ x)).1, (name (u ++ x)).2) else (bare, u ++ x)).1,
          w ++ r) := by
  by_cases hp : p
  · rw [if_pos hp] at h ⊢
    obtain ⟨r, hr, hread⟩ := name_joins hm hw h
    rw [if_pos hp, hread]
    exact ⟨r, hr, rfl⟩
  · rw [if_neg hp] at h ⊢
    rw [if_neg hp, List.append_cancel_right h]
    exact ⟨y, .refl _ _, rfl⟩

theorem numeric_joins {u w x y : List Char} (hm : Joins u w x y) (hw : w ≠ ['\\'])
    (h : (numeric (u ++ x)).2 = w ++ x) :
    ∃ r, Skips w y r ∧ numeric (u ++ y) = ((numeric (u ++ x)).1, w ++ r) := by
  -- the number ends within `u`; a percent sign or a unit behind it is found in `u` or not at all
  have hnumeral : ∀ z, AtBoundary z → numeral (u ++ z) = ((numeral u).1, (numeral u).2 ++ z) :=
    fun z hz => numeral_append hz
  have hrest := hm.of_suffix (numeral_suffix u)
  generalize (numeral u).1 = n at hnumeral
  generalize (numeral u).2 = rest at hnumeral hrest
  by_cases hpercent : rest.head? = some '%'
  · obtain ⟨ds, rfl⟩ := List.head?_eq_some_iff.mp hpercent
    rw [numeric_of_percent (hnumeral x hm.source)] at h ⊢
    rw [numeric_of_percent (hnumeral y hm.target)]
    have hds : ds = w := List.append_cancel_right h
    rw [hds]
    exact ⟨y, .refl _ _, rfl⟩
  · have hne : ∀ z, AtBoundary z → ∀ d ∈ (rest ++ z).head?, d ≠ '%' :=
      fun z hz => head?_append_ne hpercent hz rfl
    rw [numeric_of_ne_percent (hnumeral x hm.source) (hne x hm.source)] at h ⊢
    have hlone : rest ≠ ['\\'] := by
      intro hback
      subst hback
      refine absurd_of_backslash hrest hw ?_
      rw [← h, apply_ite Prod.snd]
      rfl
    rw [atIdent_append hlone hm.source] at h ⊢
    rw [numeric_of_ne_percent (hnumeral y hm.target) (hne y hm.target),
      atIdent_append hlone hm.target]
    exact nameIf_joins hrest hw h

theorem identLike_of_paren {s m rest : List Char} (h : name s = (m, '(' :: rest)) :
    identLike s = if isUrlName m then url m rest else (.function m, rest) := by
  unfold identLike
  rw [h]
  rfl

theorem identLike_of_ne_paren {s m rest : List Char} (h : name s = (m, rest))
    (hrest : ∀ d ∈ rest.head?, d ≠ '(') : identLike s = (.ident m, rest) := by
  rw [identLike, h]
  split
  · rename_i heq
    injection heq with _ heq
    subst heq
    exact absurd rfl (hrest '(' rfl)
  · rename_i heq
    injection heq with h1 h2
    rw [h1, h2]

theorem identLike_suffix_name (s : List Char) : (identLike s).2 <:+ (name s).2 := by
  unfold identLike
  split
  · rename_i h
    rw [h]
    split
    · exact (url_suffix _ _).trans (List.suffix_cons _ _)
    · exact List.suffix_cons _ _
  · rename_i h
    exact h ▸ List.suffix_refl _

/-- What is read behind `url(` looks for its end, unless it is a function. -/
theorem url_cases (functionName s : List Char) :
    (url functionName s).1 = .function functionName ∨ (url functionName s).1.seeksEnd = true := by
  unfold url
  split
  · exact .inr rfl
  · split
    · exact .inl rfl
    · split
      · exact .inr rfl
      · exact .inr rfl

theorem identLike_joins {u w x y : List Char} (hm : Joins u w x y) (hw : w ≠ ['\\'])
    (hend : w ≠ [] ∨ x ≠ [] ∨ (identLike (u ++ x)).1.seeksEnd = false)
    (hfunction : SeesQuote w x ∨ ∀ name, (identLike (u ++ x)).1 ≠ .function name)
    (h : (identLike (u ++ x)).2 = w ++ x) :
    ∃ r, Skips w y r ∧ identLike (u ++ y) = ((identLike (u ++ x)).1, w ++ r) := by
  -- the name leaves `v`, from which a url may go on to `w`
  obtain ⟨v, hv, hvu, hwv⟩ :=
    exists_between (name_suffix (u ++ x)) (h ▸ identLike_suffix_name (u ++ x))
  have hnamex : name (u ++ x) = ((name (u ++ x)).1, v ++ x) := by rw [← hv]
  by_cases hparen : v.head? = some '('
  · obtain ⟨rest, rfl⟩ := List.head?_eq_some_iff.mp hparen
    obtain ⟨r, hr, hnamey⟩ := name_joins (hm.leave hwv) (by simp) hv
    rw [hr.eq (List.cons_ne_nil _ _)] at hnamey
    generalize (name (u ++ x)).1 = m at hnamex hnamey
    rw [identLike_of_paren hnamex] at h hend hfunction ⊢
    rw [identLike_of_paren hnamey]
    have hrest : rest <:+ u := (List.suffix_cons _ _).trans hvu
    refine ⟨y, .refl _ _, ?_⟩
    by_cases hurl : isUrlName m = true
    · rw [if_pos hurl] at h hend hfunction ⊢
      rw [if_pos hurl]
      refine url_joins (hm.of_suffix hrest) ?_ hfunction h
      rcases hend with hne | hne | hend
      · exact .inl hne
      · exact .inr hne
      · have hkind := (url_cases m (rest ++ x)).resolve_right
          fun hseeks => Bool.false_ne_true (hend.symm.trans hseeks)
        have hseen := hfunction.resolve_right fun h => h m hkind
        exact .inl (hseen.elim (fun hw h => hw (by rw [h]; rfl)) And.left)
    · rw [if_neg hurl] at h ⊢
      have hw : rest = w := List.append_cancel_right h
      rw [if_neg hurl, hw]
      rfl
  · have hne : ∀ z, AtBoundary z → ∀ d ∈ (v ++ z).head?, d ≠ '(' :=
      fun z hz => head?_append_ne hparen hz rfl
    rw [identLike_of_ne_paren hnamex (hne x hm.source)] at h ⊢
    have hvw : v = w := List.append_cancel_right h
    subst hvw
    obtain ⟨r, hr, hnamey⟩ := name_joins hm hw hv
    refine ⟨r, hr, ?_⟩
    rw [identLike_of_ne_paren hnamey (hne r (hm.atBoundary hr))]

theorem afterHash_joins {u w x y : List Char} (hm : Joins u w x y) (hw : w ≠ ['\\'])
    (h : (afterHash (u ++ x)).2 = w ++ x) :
    ∃ r, Skips w y r ∧ afterHash (u ++ y) = ((afterHash (u ++ x)).1, w ++ r) := by
  have hahead : ∀ d, isBoundary d = true → (isDigit d || d == '-') = false := by
    intro d hd
    have hname := isNameChar_of_isBoundary hd
    rw [isNameChar, Bool.or_eq_false_iff, Bool.or_eq_false_iff] at hname
    rw [hname.1.2, hname.2]
    rfl
  have hlone : u ≠ ['\\'] := by
    intro hback
    subst hback
    refine absurd_of_backslash hm hw ?_
    rw [← h, afterHash, apply_ite Prod.snd]
    rfl
  have hkind : ∀ z, AtBoundary z → afterHash (u ++ z)
      = if atIdent u then (.idHash (name (u ++ z)).1, (name (u ++ z)).2)
        else if u.head?.any (fun d => isDigit d || d == '-') then
          (.hash (name (u ++ z)).1, (name (u ++ z)).2)
        else (.delim '#', u ++ z) := by
    intro z hz
    rw [afterHash, atIdent_append hlone hz, any_head?_append hahead hz]
  rw [hkind x hm.source] at h ⊢
  rw [hkind y hm.target]
  by_cases hident : atIdent u = true
  · rw [if_pos hident] at h ⊢
    obtain ⟨r, hr, hread⟩ := name_joins hm hw h
    rw [if_pos hident, hread]
    exact ⟨r, hr, rfl⟩
  · rw [if_neg hident] at h ⊢
    rw [if_neg hident]
    exact nameIf_joins hm hw h

theorem afterAt_joins {u w x y : List Char} (hm : Joins u w x y) (hw : w ≠ ['\\'])
    (h : (afterAt (u ++ x)).2 = w ++ x) :
    ∃ r, Skips w y r ∧ afterAt (u ++ y) = ((afterAt (u ++ x)).1, w ++ r) := by
  have hlone : u ≠ ['\\'] := by
    intro hback
    subst hback
    refine absurd_of_backslash hm hw ?_
    rw [← h, afterAt, apply_ite Prod.snd]
    rfl
  have hkind : ∀ z, AtBoundary z → afterAt (u ++ z)
      = if atIdent u then (.atKeyword (name (u ++ z)).1, (name (u ++ z)).2)
        else (.delim '@', u ++ z) := by
    intro z hz
    rw [afterAt, atIdent_append hlone hz]
  rw [hkind x hm.source] at h ⊢
  rw [hkind y hm.target]
  exact nameIf_joins hm hw h

/-- What is read behind a quote looks for its end, unless it is cut. -/
theorem afterQuote_cases (quote : Char) (s : List Char) :
    (∃ value, (afterQuote quote s).1 = .badString value)
      ∨ (afterQuote quote s).1.seeksEnd = true := by
  unfold afterQuote
  dsimp only
  split
  · exact .inr rfl
  · exact .inl ⟨_, rfl⟩

theorem afterQuote_joins {quote : Char} {u w x y : List Char} (hm : Joins u w x y)
    (hquote : isBoundary quote = false)
    (hend : w ≠ [] ∨ x ≠ [] ∨ (afterQuote quote (u ++ x)).1.seeksEnd = false)
    (hcut : w ≠ [] ∨ ∀ value, (afterQuote quote (u ++ x)).1 ≠ .badString value)
    (h : (afterQuote quote (u ++ x)).2 = w ++ x) :
    afterQuote quote (u ++ y) = ((afterQuote quote (u ++ x)).1, w ++ y) := by
  have hclosed : w ≠ [] ∨ x ≠ [] ∧ (string quote (u ++ x)).2.1 = true := by
    by_cases hw : w = []
    · have hkind := hcut.resolve_left fun h => h hw
      have hseeks := (afterQuote_cases quote (u ++ x)).resolve_left fun ⟨v, hv⟩ => hkind v hv
      rw [hseeks] at hend
      refine .inr ⟨(hend.resolve_left fun h => h hw).resolve_right Bool.noConfusion, ?_⟩
      by_contra hopen
      unfold afterQuote at hkind
      dsimp only at hkind
      rw [if_neg hopen] at hkind
      exact hkind _ rfl
    · exact .inl hw
  unfold afterQuote at h ⊢
  dsimp only at h ⊢
  rw [string_joins hm hquote hclosed h]

/-- A scanner that looks at few characters reads the same in front of every boundary. -/
theorem matchOperator_append {c : Char} {kind : Kind} {u x : List Char} (hx : AtBoundary x) :
    matchOperator c kind (u ++ x)
      = ((matchOperator c kind u).1, (matchOperator c kind u).2 ++ x) := by
  cases u with
  | cons d u => unfold matchOperator; split <;> split <;> simp_all
  | nil =>
      cases x with
      | nil => rfl
      | cons b x =>
          have hb : b ≠ '=' := hx.ne rfl
          unfold matchOperator
          split <;> simp_all

theorem afterLess_append {u x : List Char} (hx : AtBoundary x) :
    afterLess (u ++ x) = ((afterLess u).1, (afterLess u).2 ++ x) := by
  cases x with
  | nil => simp
  | cons b x =>
      have hbang : b ≠ '!' := hx.ne rfl
      have hminus : b ≠ '-' := hx.ne rfl
      match u with
      | [] => unfold afterLess; split <;> simp_all
      | [c] => unfold afterLess; split <;> simp_all
      | [c, d] => unfold afterLess; split <;> simp_all
      | c :: d :: e :: u => unfold afterLess; split <;> split <;> simp_all

theorem afterSlash_joins {u w x y : List Char} (hm : Joins u w x y)
    (hend : w ≠ [] ∨ x ≠ [] ∨ (afterSlash (u ++ x)).1.seeksEnd = false)
    (h : (afterSlash (u ++ x)).2 = w ++ x) :
    afterSlash (u ++ y) = ((afterSlash (u ++ x)).1, w ++ y) := by
  have hne : ∀ s, (∀ c ∈ s.head?, c ≠ '*') → afterSlash s = (.delim '/', s) := by
    intro s hs
    unfold afterSlash
    split
    · exact absurd rfl (hs '*' rfl)
    · rfl
  by_cases hstar : u.head? = some '*'
  · obtain ⟨cs, rfl⟩ := List.head?_eq_some_iff.mp hstar
    rw [List.cons_append, afterSlash] at h hend ⊢
    have hend : w ≠ [] ∨ x ≠ [] := hend.imp_right fun h => h.resolve_right Bool.noConfusion
    rw [List.cons_append, afterSlash, comment_joins hend h]
  · have hahead : ∀ z, AtBoundary z → ∀ d ∈ (u ++ z).head?, d ≠ '*' :=
      fun z hz => head?_append_ne hstar hz rfl
    rw [hne _ (hahead x hm.source)] at h ⊢
    rw [hne _ (hahead y hm.target), List.append_cancel_right h]

theorem afterMinus_of_ne {s : List Char} (h : ∀ rest, s ≠ '-' :: '>' :: rest) :
    afterMinus s = if atIdent ('-' :: s) then identLike ('-' :: s) else (.delim '-', s) := by
  unfold afterMinus
  split
  · exact absurd rfl (h _)
  · rfl

theorem afterMinus_joins {u w x y : List Char} (hm : Joins ('-' :: u) w x y) (hw : w ≠ ['\\'])
    (hend : w ≠ [] ∨ x ≠ [] ∨ (afterMinus (u ++ x)).1.seeksEnd = false)
    (hfunction : SeesQuote w x ∨ ∀ name, (afterMinus (u ++ x)).1 ≠ .function name)
    (h : (afterMinus (u ++ x)).2 = w ++ x) :
    ∃ r, Skips w y r ∧ afterMinus (u ++ y) = ((afterMinus (u ++ x)).1, w ++ r) := by
  by_cases harrow : ∃ rest, u = '-' :: '>' :: rest
  · obtain ⟨rest, rfl⟩ := harrow
    have hw : rest = w := List.append_cancel_right h
    rw [← hw]
    exact ⟨y, .refl _ _, rfl⟩
  · -- neither character of an arrow is a boundary
    have hahead : ∀ z, AtBoundary z → ∀ rest, u ++ z ≠ '-' :: '>' :: rest := by
      intro z hz rest heq
      match u with
      | [] =>
          rw [List.nil_append] at heq
          rw [heq] at hz
          have hminus : '-' ≠ '-' := hz.ne rfl
          exact hminus rfl
      | [c] =>
          injection heq with _ heq
          rw [show z = '>' :: rest from heq] at hz
          have harrow : '>' ≠ '>' := hz.ne rfl
          exact harrow rfl
      | c :: d :: ds =>
          injection heq with h1 heq
          injection heq with h2 heq
          exact harrow ⟨ds, by rw [h1, h2]⟩
    have hident : ∀ z, AtBoundary z → atIdent ('-' :: (u ++ z)) = atIdent ('-' :: u) :=
      fun z hz => atIdent_append (u := '-' :: u) (by simp) hz
    rw [afterMinus_of_ne (hahead x hm.source), hident x hm.source] at h hend hfunction ⊢
    rw [afterMinus_of_ne (hahead y hm.target), hident y hm.target]
    by_cases hname : atIdent ('-' :: u) = true
    · rw [if_pos hname] at h hend hfunction ⊢
      rw [if_pos hname]
      exact identLike_joins hm hw hend hfunction h
    · rw [if_neg hname] at h ⊢
      rw [if_neg hname, List.append_cancel_right h]
      exact ⟨y, .refl _ _, rfl⟩

/-- What a character starts that starts no white space, name, number or string. -/
def mark (c : Char) (cs : List Char) : Kind × List Char :=
  match c with
  | '#' => afterHash cs
  | '-' => afterMinus cs
  | '/' => afterSlash cs
  | '<' => afterLess cs
  | '@' => afterAt cs
  | '$' => matchOperator c .suffixMatch cs
  | '*' => matchOperator c .substringMatch cs
  | '^' => matchOperator c .prefixMatch cs
  | '|' => matchOperator c .dashMatch cs
  | '~' => matchOperator c .includeMatch cs
  | '(' => (.openParen, cs)
  | ')' => (.closeParen, cs)
  | '[' => (.openSquare, cs)
  | ']' => (.closeSquare, cs)
  | '\x7b' => (.openCurly, cs)
  | '\x7d' => (.closeCurly, cs)
  | ',' => (.comma, cs)
  | ':' => (.colon, cs)
  | ';' => (.semicolon, cs)
  | c => (.delim c, cs)

theorem next_eq (c : Char) (cs : List Char) :
    next c cs = if isSpace c then (.blank, cs.dropWhile isSpace)
      else if isNameStart c || (c == '\\' && !atNewline cs) then identLike (c :: cs)
      else if startsNumber c cs then numeric (c :: cs)
      else if c = '"' ∨ c = '\'' then afterQuote c cs
      else mark c cs := rfl

theorem mark_joins {c : Char} {u w x y : List Char} (hm : Joins (c :: u) w x y) (hw : w ≠ ['\\'])
    (hend : w ≠ [] ∨ x ≠ [] ∨ (mark c (u ++ x)).1.seeksEnd = false)
    (hfunction : SeesQuote w x ∨ ∀ name, (mark c (u ++ x)).1 ≠ .function name)
    (h : (mark c (u ++ x)).2 = w ++ x) :
    ∃ r, Skips w y r ∧ mark c (u ++ y) = ((mark c (u ++ x)).1, w ++ r) := by
  have happend : ∀ f : List Char → Kind × List Char,
      (∀ z, AtBoundary z → f (u ++ z) = ((f u).1, (f u).2 ++ z)) → (f (u ++ x)).2 = w ++ x →
      ∃ r, Skips w y r ∧ f (u ++ y) = ((f (u ++ x)).1, w ++ r) := by
    intro f hf hw
    rw [hf x hm.source] at hw ⊢
    rw [hf y hm.target, List.append_cancel_right hw]
    exact ⟨y, .refl _ _, rfl⟩
  unfold mark at h hend hfunction ⊢
  split at h
  · exact afterHash_joins hm.tail hw h
  · exact afterMinus_joins hm hw hend hfunction h
  · exact ⟨y, .refl _ _, afterSlash_joins hm.tail hend h⟩
  · exact happend afterLess (fun _ => afterLess_append) h
  · exact afterAt_joins hm.tail hw h
  · exact happend _ (fun _ => matchOperator_append) h
  · exact happend _ (fun _ => matchOperator_append) h
  · exact happend _ (fun _ => matchOperator_append) h
  · exact happend _ (fun _ => matchOperator_append) h
  · exact happend _ (fun _ => matchOperator_append) h
  -- every other character is a token of its own
  all_goals exact happend (fun cs => (_, cs)) (fun _ _ => rfl) h

/-- A token that starts with a backslash takes what the backslash takes. -/
theorem next_backslash_suffix {x : List Char} (hx : AtBoundary x) (hline : atNewline x = false) :
    (next '\\' x).2 <:+ x.tail := by
  rw [next_eq, if_neg (by decide), if_pos (by rw [hline]; rfl)]
  exact (identLike_suffix_name _).trans (name_backslash_suffix hx hline)

/--
**A token that ends before a boundary ends before every boundary,** except that it may take white
space there. A token that looks for an end of its own has found it if a text follows or the scanner
leaves one. A function looks for a quote behind the white space that follows it, and a cut string
ends at a line end; what follows them must be there already.
-/
theorem next_joins {c : Char} {u w x y : List Char} (hm : Joins (c :: u) w x y) (hw : w ≠ ['\\'])
    (hlone : atNewline x = true → c :: u ≠ ['\\'])
    (hend : w ≠ [] ∨ x ≠ [] ∨ (next c (u ++ x)).1.seeksEnd = false)
    (hfunction : SeesQuote w x ∨ ∀ name, (next c (u ++ x)).1 ≠ .function name)
    (hcut : w ≠ [] ∨ ∀ value, (next c (u ++ x)).1 ≠ .badString value)
    (h : (next c (u ++ x)).2 = w ++ x) :
    ∃ r, Skips w y r ∧ next c (u ++ y) = ((next c (u ++ x)).1, w ++ r) := by
  have hne : c = '\\' → u ≠ [] := by
    intro hc hu
    subst hc hu
    have hline : atNewline x = false := by
      rw [← Bool.not_eq_true]
      exact fun hline => hlone hline rfl
    exact absurd_of_suffix_tail (.inr fun hx => hm.whole hx rfl)
      (next_backslash_suffix hm.source hline) h
  have hback : ∀ z, (c == '\\' && !atNewline (u ++ z)) = (c == '\\' && !atNewline u) := by
    intro z
    by_cases hc : c = '\\'
    · rw [atNewline_append (hne hc)]
    · rw [beq_eq_false_iff_ne.mpr hc, Bool.false_and, Bool.false_and]
  -- which scanner reads the token is decided within `c :: u`
  have hnext : ∀ z, AtBoundary z → next c (u ++ z)
      = if isSpace c then (.blank, (u ++ z).dropWhile isSpace)
        else if isNameStart c || (c == '\\' && !atNewline u) then identLike (c :: u ++ z)
        else if startsNumber c u then numeric (c :: u ++ z)
        else if c = '"' ∨ c = '\'' then afterQuote c (u ++ z)
        else mark c (u ++ z) := by
    intro z hz
    rw [next_eq, hback, startsNumber_append hz]
    rfl
  rw [hnext x hm.source] at h hend hfunction hcut ⊢
  rw [hnext y hm.target]
  by_cases hspace : isSpace c = true
  · rw [if_pos hspace] at h ⊢
    obtain ⟨r, hr, hdrop⟩ := dropWhile_isSpace_joins h y
    rw [if_pos hspace, hdrop]
    exact ⟨r, hr, rfl⟩
  rw [if_neg hspace] at h hend hfunction hcut ⊢
  rw [if_neg hspace]
  by_cases hname : (isNameStart c || (c == '\\' && !atNewline u)) = true
  · rw [if_pos hname] at h hend hfunction ⊢
    rw [if_pos hname]
    exact identLike_joins hm hw hend hfunction h
  rw [if_neg hname] at h hend hfunction hcut ⊢
  rw [if_neg hname]
  by_cases hnumber : startsNumber c u = true
  · rw [if_pos hnumber] at h ⊢
    rw [if_pos hnumber]
    exact numeric_joins hm hw h
  rw [if_neg hnumber] at h hend hfunction hcut ⊢
  rw [if_neg hnumber]
  by_cases hquote : c = '"' ∨ c = '\''
  · rw [if_pos hquote] at h hend hcut ⊢
    rw [if_pos hquote]
    have hc : isBoundary c = false := by
      rcases hquote with hc | hc
      · rw [hc]; rfl
      · rw [hc]; rfl
    exact ⟨y, .refl _ _, afterQuote_joins hm.tail hc hend hcut h⟩
  · rw [if_neg hquote] at h hend hfunction ⊢
    rw [if_neg hquote]
    exact mark_joins hm hw hend hfunction h

theorem Moves.joins {u w x y : List Char} (h : Moves u w x y) : Joins u w x y := by
  refine ⟨h.source, h.target, ?_, ?_⟩
  · refine h.apart.imp_right ?_
    intro hx
    cases y with
    | nil => exact h.target
    | cons c y =>
        rw [List.dropWhile_cons_of_neg (by rw [hx.2 c rfl]; exact Bool.false_ne_true)]
        exact h.target
  · intro _ hlast
    exact (h.solid _ hlast).2 rfl

/--
**A token that ends before a boundary ends before every boundary.**

The two kinds that are left out look for a character behind the white space that follows, or end at
it.
-/
theorem next_moves {c : Char} {u w x y : List Char} (hm : Moves (c :: u) w x y)
    (hkind : w ≠ [] ∨ (∀ name, (next c (u ++ x)).1 ≠ .function name)
      ∧ ∀ value, (next c (u ++ x)).1 ≠ .badString value)
    (h : (next c (u ++ x)).2 = w ++ x) :
    next c (u ++ y) = ((next c (u ++ x)).1, w ++ y) := by
  have hsuffix : w <:+ c :: u :=
    (suffix_of_append_suffix (h ▸ next_suffix c (u ++ x))).trans (List.suffix_cons c u)
  have hw : Solid w := hm.solid.of_suffix hsuffix
  have hback : ∀ v, Solid v → v ≠ ['\\'] := by
    intro v hv heq
    subst heq
    exact (hv '\\' rfl).2 rfl
  obtain ⟨r, hr, hread⟩ := next_joins hm.joins (hback w hw) (fun _ => hback _ hm.solid)
    (hm.apart.imp_right fun hx => .inl hx.1)
    (hkind.imp (fun hne => .inl (hw.dropWhile_ne_nil hne)) And.left) (hkind.imp_right And.right) h
  have hry : r = y := by
    rcases hm.apart with hne | hx
    · exact hr.eq hne
    · exact hr.eq_of_head? hx.2
  rw [hread, hry]

end Lexer

open Lexer

/-! ## One token -/

/-- In front of `s` the token is what its text is read as. -/
def Token.Stands (t : Token) (s : List Char) : Prop :=
  ∃ c u, t.text = c :: u ∧ next c (u ++ s) = (t.kind, s)

/-- The text of a row of tokens. -/
def textOfTokens (ts : List Token) : List Char := ts.flatMap Token.text

/-- In front of `x` the tokens are what their texts are read as, one after the other. -/
def Stand : List Token → List Char → Prop
  | [], _ => True
  | t :: ts, x => t.Stands (textOfTokens ts ++ x) ∧ Stand ts x

theorem textOfTokens_cons (t : Token) (ts : List Token) :
    textOfTokens (t :: ts) = t.text ++ textOfTokens ts := List.flatMap_cons

theorem textOfTokens_append (ts us : List Token) :
    textOfTokens (ts ++ us) = textOfTokens ts ++ textOfTokens us := List.flatMap_append

theorem textOfTokens_concat (ts : List Token) (t : Token) :
    textOfTokens (ts ++ [t]) = textOfTokens ts ++ t.text := by
  rw [textOfTokens_append, textOfTokens_cons]
  exact congrArg _ (List.append_nil _)

theorem Token.Stands.text_ne_nil {t : Token} {s : List Char} (h : t.Stands s) : t.text ≠ [] := by
  obtain ⟨c, u, ht, _⟩ := h
  rw [ht]
  exact List.cons_ne_nil c u

/-- The first token of a text, and what is left to read. -/
theorem tokenize_eq_cons_iff {s : List Char} {t : Token} {ts : List Token} :
    tokenize s = t :: ts ↔ ∃ x, s = t.text ++ x ∧ t.Stands x ∧ tokenize x = ts := by
  refine ⟨?_, ?_⟩
  · intro h
    cases s with
    | nil => rw [tokenize] at h; cases h
    | cons c cs =>
        rw [tokenize] at h
        injection h with ht hts
        obtain ⟨u, hu⟩ := next_suffix c cs
        have htext : t.text = c :: u := by
          rw [← ht]
          show (c :: cs).take ((c :: cs).length - (next c cs).2.length) = c :: u
          generalize (next c cs).2 = rest at hu
          rw [← hu, ← List.cons_append, List.length_append, Nat.add_sub_cancel, List.take_left]
        refine ⟨(next c cs).2, ?_, ⟨c, u, htext, ?_⟩, hts⟩
        · rw [htext, List.cons_append, hu]
        · rw [hu, ← ht]
  · intro h
    obtain ⟨x, rfl, ⟨c, u, ht, hnext⟩, rfl⟩ := h
    rw [ht, List.cons_append, tokenize, hnext]
    dsimp only
    rw [← List.cons_append, List.length_append, Nat.add_sub_cancel, List.take_left, ← ht]

/-- The first tokens of a text, and what is left to read. -/
theorem tokenize_eq_append_iff {s : List Char} {ts us : List Token} :
    tokenize s = ts ++ us ↔ ∃ x, s = textOfTokens ts ++ x ∧ Stand ts x ∧ tokenize x = us := by
  induction ts generalizing s with
  | nil =>
      refine ⟨?_, ?_⟩
      · intro h; exact ⟨s, rfl, trivial, h⟩
      · intro h
        obtain ⟨x, rfl, _, hx⟩ := h
        exact hx
  | cons t ts ih =>
      rw [List.cons_append, tokenize_eq_cons_iff]
      refine ⟨?_, ?_⟩
      · intro h
        obtain ⟨x, rfl, ht, hx⟩ := h
        obtain ⟨y, rfl, hts, hy⟩ := ih.mp hx
        exact ⟨y, by rw [textOfTokens_cons, List.append_assoc], ⟨ht, hts⟩, hy⟩
      · intro h
        obtain ⟨y, rfl, ⟨ht, hts⟩, hy⟩ := h
        refine ⟨textOfTokens ts ++ y, by rw [textOfTokens_cons, List.append_assoc], ht, ?_⟩
        exact ih.mpr ⟨y, rfl, hts, hy⟩

theorem tokenize_append {ts : List Token} {x : List Char} (h : Stand ts x) :
    tokenize (textOfTokens ts ++ x) = ts ++ tokenize x :=
  tokenize_eq_append_iff.mpr ⟨x, rfl, h, rfl⟩

/-- A stretch of the tokens of a text, in the text. -/
theorem exists_stand_of_tokenize {s : List Char} {before ts after : List Token}
    (h : tokenize s = before ++ (ts ++ after)) :
    ∃ x, Stand ts x ∧ tokenize x = after ∧ textOfTokens ts ++ x <:+ s := by
  obtain ⟨y, rfl, _, hy⟩ := tokenize_eq_append_iff.mp h
  obtain ⟨x, rfl, hts, hx⟩ := tokenize_eq_append_iff.mp hy
  exact ⟨x, hts, hx, List.suffix_append _ _⟩

theorem stand_append {ts us : List Token} {x : List Char} :
    Stand (ts ++ us) x ↔ Stand ts (textOfTokens us ++ x) ∧ Stand us x := by
  induction ts with
  | nil => exact ⟨fun h => ⟨trivial, h⟩, And.right⟩
  | cons t ts ih =>
      rw [List.cons_append, Stand, Stand, ih, textOfTokens_append, List.append_assoc, and_assoc]

/-! ## Moving tokens -/

/-- In front of other tokens a token does not see what follows those. -/
theorem Token.Stands.move_behind {t : Token} {w x y : List Char} (h : t.Stands (w ++ x))
    (hne : w ≠ []) (hw : Solid w) (hx : AtBoundary x) (hy : AtBoundary y) : t.Stands (w ++ y) := by
  obtain ⟨c, u, ht, hnext⟩ := h
  rw [← List.append_assoc] at hnext
  refine ⟨c, u, ht, ?_⟩
  have hm : Moves (c :: (u ++ w)) w x y := ⟨Solid.append (u := c :: u) hw hne, hx, hy, .inl hne⟩
  have hmoved := next_moves hm (.inl hne) (by rw [hnext])
  rw [hnext, List.append_assoc] at hmoved
  exact hmoved

/-- A token that ends for the sake of a boundary ends at any that is no white space. -/
theorem Token.Stands.move {t : Token} {x y : List Char} (h : t.Stands x) (ht : Solid t.text)
    (hfunction : ∀ name, t.kind ≠ .function name) (hcut : ∀ value, t.kind ≠ .badString value)
    (hne : x ≠ []) (hx : AtBoundary x) (hy : AtBoundary y)
    (hspace : ∀ c ∈ y.head?, isSpace c = false) : t.Stands y := by
  obtain ⟨c, u, htext, hnext⟩ := h
  rw [htext] at ht
  refine ⟨c, u, htext, ?_⟩
  have hm : Moves (c :: u) [] x y := ⟨ht, hx, hy, .inr ⟨hne, hspace⟩⟩
  have hkind : ([] : List Char) ≠ [] ∨ (∀ name, (next c (u ++ x)).1 ≠ .function name)
      ∧ ∀ value, (next c (u ++ x)).1 ≠ .badString value := by
    rw [hnext]
    exact .inr ⟨hfunction, hcut⟩
  have hmoved := next_moves hm hkind (by rw [hnext]; rfl)
  rw [hnext] at hmoved
  exact hmoved

/-- **A row of tokens may be moved if its last token may.** -/
theorem Stand.move {ts : List Token} {t : Token} {x y : List Char} (h : Stand (ts ++ [t]) x)
    (ht : Solid t.text) (hx : AtBoundary x) (hy : AtBoundary y) (hlast : t.Stands y) :
    Stand (ts ++ [t]) y := by
  induction ts with
  | nil => exact ⟨hlast, trivial⟩
  | cons s ts ih =>
      rw [List.cons_append] at h ⊢
      obtain ⟨hs, hrest⟩ := h
      have hlasttext := hlast.text_ne_nil
      -- a token in front of others sees at most the first of them
      refine ⟨?_, ih hrest⟩
      rw [textOfTokens_concat] at hs ⊢
      exact hs.move_behind (List.append_ne_nil_of_right_ne_nil _ hlasttext)
        (ht.append hlasttext) hx hy

/-! ## Tokens with a text of their own -/

/-- The text of a kind that has only one. -/
def Kind.fixed? : Kind → Option (List Char)
  | .colon => some [':']
  | .semicolon => some [';']
  | .comma => some [',']
  | .includeMatch => some ['~', '=']
  | .dashMatch => some ['|', '=']
  | .prefixMatch => some ['^', '=']
  | .suffixMatch => some ['$', '=']
  | .substringMatch => some ['*', '=']
  | .markupOpen => some ['<', '!', '-', '-']
  | .markupClose => some ['-', '-', '>']
  | .openParen => some ['(']
  | .openSquare => some ['[']
  | .openCurly => some ['\x7b']
  | .closeParen => some [')']
  | .closeSquare => some [']']
  | .closeCurly => some ['\x7d']
  | _ => none

/-- The kinds by what reads them. -/
inductive Family where
  | blank
  /-- What starts with a name. -/
  | word
  | number
  | quoted
  /-- What has only one text. -/
  | fixed
  /-- What starts with a mark and has no fixed text. -/
  | mark
deriving DecidableEq

/-- The family of a kind. -/
def Kind.family : Kind → Family
  | .blank => .blank
  | .ident _ | .function _ | .url _ | .badUrl _ => .word
  | .number _ | .percentage _ | .dimension _ _ => .number
  | .string _ | .badString _ => .quoted
  | .comment | .idHash _ | .hash _ | .atKeyword _ | .delim _ => .mark
  | _ => .fixed

theorem Kind.family_of_fixed {k : Kind} {w : List Char} (h : k.fixed? = some w) :
    k.family = .fixed := by
  unfold Kind.fixed? at h
  split at h
  all_goals first
    | rfl
    | cases h

/-- A fixed text is read as its kind, whatever follows. -/
theorem stands_of_fixed {t : Token} (h : t.kind.fixed? = some t.text) (s : List Char) :
    t.Stands s := by
  obtain ⟨kind, text⟩ := t
  unfold Kind.fixed? at h
  dsimp only at h
  split at h
  all_goals first
    | (injection h with h; subst h; exact ⟨_, _, rfl, rfl⟩)
    | cases h

namespace Lexer

theorem family_url (functionName s : List Char) : (url functionName s).1.family = .word := by
  unfold url
  split
  · rfl
  · split
    · rfl
    · split
      · rfl
      · rfl

theorem family_identLike (s : List Char) : (identLike s).1.family = .word := by
  unfold identLike
  split
  · split
    · exact family_url _ _
    · rfl
  · rfl

theorem family_numeric (s : List Char) : (numeric s).1.family = .number := by
  unfold numeric
  dsimp only
  split
  · rfl
  · split
    · rfl
    · rfl

theorem family_afterQuote (quote : Char) (s : List Char) :
    (afterQuote quote s).1.family = .quoted := by
  unfold afterQuote
  dsimp only
  split
  · rfl
  · rfl

/-- A match operator has a fixed text, or its character stands alone. -/
theorem matchOperator_cases {c : Char} {kind : Kind} (hkind : kind.fixed? = some [c, '='])
    (cs : List Char) :
    (∃ w, (matchOperator c kind cs).1.fixed? = some w
        ∧ c :: cs = w ++ (matchOperator c kind cs).2)
      ∨ (matchOperator c kind cs).1.family = .mark := by
  unfold matchOperator
  split
  · exact .inl ⟨_, hkind, rfl⟩
  · exact .inr rfl

/-- A mark starts a name after all, or it belongs to a fixed text, or to neither. -/
theorem mark_cases (c : Char) (cs : List Char) :
    (c = '-' ∧ atIdent ('-' :: cs) = true ∧ mark c cs = identLike ('-' :: cs))
      ∨ (∃ w, (mark c cs).1.fixed? = some w ∧ c :: cs = w ++ (mark c cs).2)
      ∨ (mark c cs).1.family = .mark := by
  unfold mark
  split
  · right; right
    unfold afterHash
    dsimp only
    split
    · rfl
    · split
      · rfl
      · rfl
  · unfold afterMinus
    split
    · exact .inr (.inl ⟨_, rfl, rfl⟩)
    · split
      · exact .inl ⟨rfl, ‹_›, rfl⟩
      · exact .inr (.inr rfl)
  · right; right
    unfold afterSlash
    split
    · rfl
    · rfl
  · right
    unfold afterLess
    split
    · exact .inl ⟨_, rfl, rfl⟩
    · exact .inr rfl
  · right; right
    unfold afterAt
    split
    · rfl
    · rfl
  · exact .inr (matchOperator_cases rfl cs)
  · exact .inr (matchOperator_cases rfl cs)
  · exact .inr (matchOperator_cases rfl cs)
  · exact .inr (matchOperator_cases rfl cs)
  · exact .inr (matchOperator_cases rfl cs)
  all_goals first
    | exact .inr (.inl ⟨_, rfl, rfl⟩)
    | exact .inr (.inr rfl)

/-- What is read, by the first characters. -/
inductive Reading (c : Char) (cs : List Char) : Prop where
  | blank : isSpace c = true → next c cs = (.blank, cs.dropWhile isSpace) → Reading c cs
  | word : atIdent (c :: cs) = true → next c cs = identLike (c :: cs) → Reading c cs
  | number : startsNumber c cs = true → next c cs = numeric (c :: cs) → Reading c cs
  | quoted : c = '"' ∨ c = '\'' → next c cs = afterQuote c cs → Reading c cs
  | fixed {w : List Char} : (next c cs).1.fixed? = some w → c :: cs = w ++ (next c cs).2 →
      Reading c cs
  | mark : (next c cs).1.family = .mark → next c cs = mark c cs → Reading c cs

theorem reading (c : Char) (cs : List Char) : Reading c cs := by
  have hnext := next_eq c cs
  split at hnext
  · exact .blank ‹_› hnext
  split at hnext
  · -- what starts a name here starts an identifier; only a minus sign takes longer to tell
    rename_i hname
    refine .word ?_ hnext
    rw [atIdent_cons]
    by_cases hback : c = '\\'
    · subst hback
      have hplain : isNameStart '\\' = false := by decide
      rw [hplain, beq_self_eq_true, Bool.true_and, Bool.false_or] at hname
      rw [if_neg (by decide), if_pos rfl, hname]
    · rw [beq_eq_false_iff_ne.mpr hback, Bool.false_and, Bool.or_false] at hname
      have hminus : c ≠ '-' := by
        intro hc
        rw [hc] at hname
        exact absurd hname (by decide)
      rw [if_neg hminus, if_neg hback, hname]
  split at hnext
  · exact .number ‹_› hnext
  split at hnext
  · exact .quoted ‹_› hnext
  rcases mark_cases c cs with ⟨hc, hident, heq⟩ | ⟨w, hw, heq⟩ | hmark
  · subst hc
    exact .word hident (hnext.trans heq)
  · rw [← hnext] at hw heq
    exact .fixed hw heq
  · rw [← hnext] at hmark
    exact .mark hmark hnext

/-- **The family of a token tells how it was read.** -/
theorem reading_by_family (c : Char) (cs : List Char) :
    match (next c cs).1.family with
    | .blank => isSpace c = true ∧ next c cs = (.blank, cs.dropWhile isSpace)
    | .word => atIdent (c :: cs) = true ∧ next c cs = identLike (c :: cs)
    | .number => startsNumber c cs = true ∧ next c cs = numeric (c :: cs)
    | .quoted => (c = '"' ∨ c = '\'') ∧ next c cs = afterQuote c cs
    | .fixed => ∃ w, (next c cs).1.fixed? = some w ∧ c :: cs = w ++ (next c cs).2
    | .mark => next c cs = mark c cs := by
  cases reading c cs with
  | blank hc heq =>
      rw [heq]
      exact ⟨hc, rfl⟩
  | word hident heq =>
      rw [heq, family_identLike]
      exact ⟨hident, rfl⟩
  | number hnumber heq =>
      rw [heq, family_numeric]
      exact ⟨hnumber, rfl⟩
  | quoted hquote heq =>
      rw [heq, family_afterQuote]
      exact ⟨hquote, rfl⟩
  | @fixed w hw heq =>
      rw [Kind.family_of_fixed hw]
      exact ⟨w, hw, heq⟩
  | mark hmark heq =>
      rw [hmark]
      exact heq

/-- A kind with a fixed text is read from that text. -/
theorem eq_append_of_fixed {c : Char} {cs w : List Char}
    (h : (next c cs).1.fixed? = some w) : c :: cs = w ++ (next c cs).2 := by
  have hread := reading_by_family c cs
  rw [Kind.family_of_fixed h] at hread
  obtain ⟨w', hw, heq⟩ := hread
  rwa [Option.some.inj (hw.symm.trans h)] at heq

/-- White space is read from white space. -/
theorem eq_blank_of_kind {c : Char} {cs : List Char} (h : (next c cs).1 = .blank) :
    isSpace c = true ∧ next c cs = (.blank, cs.dropWhile isSpace) := by
  have hread := reading_by_family c cs
  rwa [h] at hread

end Lexer

theorem Token.Stands.text_eq {t : Token} {s w : List Char} (h : t.Stands s)
    (hw : t.kind.fixed? = some w) : t.text = w := by
  obtain ⟨c, u, ht, hnext⟩ := h
  have hfixed : (next c (u ++ s)).1.fixed? = some w := by rw [hnext]; exact hw
  have htext := eq_append_of_fixed hfixed
  rw [hnext, ← List.cons_append] at htext
  rw [ht]
  exact List.append_cancel_right htext

theorem Token.Stands.isSpace_of_blank {t : Token} {s : List Char} (h : t.Stands s)
    (ht : t.kind = .blank) : ∀ c ∈ t.text, isSpace c = true := by
  obtain ⟨c, u, htext, hnext⟩ := h
  have hkind : (next c (u ++ s)).1 = .blank := by rw [hnext]; exact ht
  obtain ⟨hc, heq⟩ := eq_blank_of_kind hkind
  rw [hnext] at heq
  injection heq with _ hrest
  have hu : (u ++ s).takeWhile isSpace = u := by
    have hsplit := List.takeWhile_append_dropWhile (p := isSpace) (l := u ++ s)
    rw [← hrest] at hsplit
    exact List.append_cancel_right hsplit
  intro d hd
  rw [htext] at hd
  rcases List.mem_cons.mp hd with h | h
  · rw [h]; exact hc
  · rw [← hu] at h
    exact List.mem_takeWhile_imp h

theorem stands_blank {c : Char} {cs : List Char} (hc : isSpace c = true) :
    (⟨.blank, c :: cs.takeWhile isSpace⟩ : Token).Stands (cs.dropWhile isSpace) := by
  refine ⟨c, _, rfl, ?_⟩
  rw [List.takeWhile_append_dropWhile, next_eq, if_pos hc]

/-! ## Tokens that see nothing of what follows -/

/-- A token that is read the same in front of any text. -/
structure Token.IsSealed (t : Token) : Prop where
  solid : Solid t.text
  stands : ∀ s, t.Stands s

/-- A comment that ends before the text does. -/
def Token.ClosesComment (t : Token) : Prop := ∃ body, t.text = '/' :: '*' :: (body ++ ['*', '/'])

theorem solid_of_fixed {k : Kind} {w : List Char} (h : k.fixed? = some w) : Solid w := by
  unfold Kind.fixed? at h
  split at h
  all_goals first
    | (injection h with h; subst h; intro c hc; rw [← Option.some.inj hc]; exact ⟨rfl, by decide⟩)
    | cases h

theorem Token.Stands.isSealed_of_fixed {t : Token} {s w : List Char} (h : t.Stands s)
    (hw : t.kind.fixed? = some w) : t.IsSealed := by
  have hsolid := solid_of_fixed hw
  have ht := h.text_eq hw
  rw [← ht] at hw hsolid
  exact ⟨hsolid, stands_of_fixed hw⟩

/-- The closing of a comment ends it, whatever follows. -/
theorem Lexer.comment_of_closed {body x : List Char} (y : List Char)
    (h : comment (body ++ '*' :: '/' :: x) = x) : comment (body ++ '*' :: '/' :: y) = y := by
  induction body with
  | nil => rfl
  | cons c cs ih =>
      rw [List.cons_append, comment_cons] at h ⊢
      have hhead : ∀ z, (cs ++ '*' :: '/' :: z).head? = (cs ++ ['*']).head? := by
        intro z
        cases cs with
        | nil => rfl
        | cons d ds => rfl
      by_cases hend : c = '*' ∧ (cs ++ ['*']).head? = some '/'
      · -- a comment that ends earlier leaves more than `x`
        exfalso
        rw [hhead x, if_pos hend] at h
        have hlength := congrArg List.length h
        cases cs with
        | nil => simp at hlength
        | cons d ds => simp at hlength; omega
      · rw [hhead, if_neg hend] at h ⊢
        exact ih h

theorem Token.Stands.isSealed_of_comment {t : Token} {s : List Char} (h : t.Stands s)
    (hkind : t.kind = .comment) (hclosed : t.ClosesComment) : t.IsSealed := by
  obtain ⟨body, htext⟩ := hclosed
  refine ⟨?_, ?_⟩
  · intro c hc
    rw [htext,
      show '/' :: '*' :: (body ++ ['*', '/']) = ('/' :: '*' :: body ++ ['*']) ++ ['/'] by simp,
      List.getLast?_concat, Option.mem_def] at hc
    rw [← Option.some.inj hc]
    decide
  · -- read in front of `s`, the comment ends at its last two characters and at no earlier ones
    intro y
    obtain ⟨c, u, ht, hnext⟩ := h
    rw [htext] at ht
    injection ht with hc hu
    subst hc; subst hu
    have hread : ∀ r, next '/' ('*' :: r) = (.comment, comment r) := fun _ => rfl
    refine ⟨_, _, htext, ?_⟩
    rw [List.cons_append, hread, List.append_assoc] at hnext ⊢
    injection hnext with _ hrest
    rw [hkind]
    exact congrArg (Prod.mk Kind.comment) (comment_of_closed y hrest)

end StyleLookup.Css
