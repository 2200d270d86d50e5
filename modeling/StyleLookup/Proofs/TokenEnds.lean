import StyleLookup.Proofs.TokenBoundary
import StyleLookup.Text.Blank

/-!
# How tokens end

Values are trimmed, and then printed between a blank and a semicolon. Trimming must not cut into a
token. Where no backslash stands it does not: a token that ends in white space is white space
(`Token.Stands.white_of_last`), unless a line end cuts it or the text ends in it. The
vertical tabulator counts as white space here, though it is read as a token of its own.

Names are not kept as they are written, but without backslashes all that changes is NUL. A name
printed again is read as itself (`IsName.stands`).
-/

namespace StyleLookup.Css

open StyleLookup.Text

namespace Lexer

/-- White space of ASCII: what separates tokens, and the vertical tabulator. -/
def isWhite (c : Char) : Bool := isSpace c || c == '\x0b'

theorem isBoundary_of_isWhite {c : Char} (h : isWhite c = true) : isBoundary c = true := by
  rw [isWhite, Bool.or_eq_true, beq_iff_eq] at h
  rcases h with h | h
  · exact isBoundary_of_isSpace h
  · rw [h]
    rfl

/-! ## Names without escapes -/

/-- Without backslashes a name is a stretch of characters. -/
theorem name_of_no_escape {s : List Char} (h : '\\' ∉ s) :
    name s = ((s.takeWhile isNameChar).map plainChar, s.dropWhile isNameChar) := by
  induction s with
  | nil => rw [name]; rfl
  | cons c cs ih =>
      have hc : ¬ (c = '\\' ∧ atNewline cs = false) :=
        fun hback => h (by rw [hback.1]; exact List.mem_cons_self)
      rw [name, List.takeWhile_cons, List.dropWhile_cons, if_neg hc,
        ih fun hmem => h (List.mem_cons_of_mem c hmem)]
      split
      · rfl
      · rfl

theorem name_stops {u x : List Char} (h : '\\' ∉ u ++ x) (hx : AtBoundary x) :
    x <:+ (name (u ++ x)).2 := by
  rw [name_of_no_escape h]
  have hdrop : x.dropWhile isNameChar = x := by
    cases x with
    | nil => rfl
    | cons b x =>
        refine List.dropWhile_cons_of_neg ?_
        rw [isNameChar_of_isBoundary (hx b rfl)]
        exact Bool.false_ne_true
  show x <:+ (u ++ x).dropWhile isNameChar
  rw [List.dropWhile_append]
  split
  · exact hdrop.symm ▸ List.suffix_refl x
  · exact List.suffix_append _ _

/-- Plain characters are a name as they stand. -/
theorem name_append_of_all {n y : List Char} (h : ∀ c ∈ n, isNameChar c = true ∧ c ≠ '\x00')
    (hy : AtBoundary y) : name (n ++ y) = (n, y) := by
  induction n with
  | nil => exact name_of_atBoundary hy
  | cons c cs ih =>
      obtain ⟨hc, hzero⟩ := h c List.mem_cons_self
      rw [List.cons_append, name, if_pos hc, ih fun d hd => h d (List.mem_cons_of_mem c hd),
        plainChar, if_neg hzero]

theorem isNameStart_plainChar {c : Char} (h : isNameStart c = true) :
    isNameStart (plainChar c) = true := by
  unfold plainChar
  split
  · decide
  · exact h

theorem isNameChar_plainChar {c : Char} (h : isNameChar c = true) :
    isNameChar (plainChar c) = true ∧ plainChar c ≠ '\x00' := by
  unfold plainChar
  split
  · exact ⟨by decide, by decide⟩
  · exact ⟨h, ‹_›⟩

/-! ## Scanners that look for an end -/

/-- A string that is closed before the text ends takes its quote. -/
theorem string_ends {quote : Char} {s : List Char} (hclosed : (string quote s).2.1 = true)
    (hne : (string quote s).2.2 ≠ []) : quote :: (string quote s).2.2 <:+ s := by
  fun_induction string quote s with
  | case1 => exact absurd rfl hne
  | case2 => exact List.suffix_refl _
  | case3 => exact absurd hclosed Bool.false_ne_true
  | case4 _ _ _ _ ih =>
      exact (ih hclosed hne).trans ((dropNewline_suffix _).trans (List.suffix_cons _ _))
  | case5 => exact absurd rfl hne
  | case6 =>
      rename_i h _ _ ih
      rw [h] at ih
      exact (ih hclosed hne).trans ((escape_suffix _).trans (List.suffix_cons _ _))
  | case7 c cs _ _ _ more closed rest h ih =>
      rw [h] at ih
      exact (ih hclosed hne).trans (List.suffix_cons _ _)

theorem badUrl_ends {s : List Char} (hne : (badUrl s).2 ≠ []) : ')' :: (badUrl s).2 <:+ s := by
  fun_induction badUrl s with
  | case1 => exact absurd rfl hne
  | case2 => exact List.suffix_refl _
  | case3 c cs _ more rest h ih =>
      rw [h] at ih
      exact (ih hne).trans ((List.suffix_cons _ _).trans (List.suffix_cons _ _))
  | case4 c cs _ more rest h ih =>
      rw [h] at ih
      exact (ih hne).trans (List.suffix_cons _ _)
  | case5 c cs _ _ more rest h ih =>
      rw [h] at ih
      exact (ih hne).trans (List.suffix_cons _ _)

theorem urlChars_ends {s : List Char} (hclosed : (urlChars s).2.1 = .closed)
    (hne : (urlChars s).2.2 ≠ []) : ')' :: (urlChars s).2.2 <:+ s := by
  fun_induction urlChars s with
  | case1 => exact absurd rfl hne
  | case2 => exact List.suffix_refl _
  | case3 => exact absurd rfl hne
  | case4 c cs _ _ d ds h =>
      have hd : d = ')' := by
        by_contra hd
        rw [if_neg hd] at hclosed
        cases hclosed
      have hsuffix : d :: ds <:+ cs := h ▸ List.dropWhile_suffix _
      rw [hd] at hsuffix
      exact hsuffix.trans (List.suffix_cons _ _)
  | case5 => cases hclosed
  | case6 => cases hclosed
  | case7 =>
      rename_i h _ _ _ ih
      rw [h] at ih
      exact (ih hclosed hne).trans ((escape_suffix _).trans (List.suffix_cons _ _))
  | case8 c cs _ _ _ _ more stop rest h ih =>
      rw [h] at ih
      exact (ih hclosed hne).trans (List.suffix_cons _ _)

theorem url_ends {functionName s : List Char} (hne : (url functionName s).2 ≠ []) :
    url functionName s = (.function functionName, s) ∨ ')' :: (url functionName s).2 <:+ s := by
  cases hs : s.dropWhile isSpace with
  | nil => exact absurd (by rw [url, hs]) hne
  | cons c cs =>
      have hsuffix : c :: cs <:+ s := hs ▸ List.dropWhile_suffix _
      by_cases hc : c = '"' ∨ c = '\''
      · exact .inl (url_of_quote hs hc)
      · right
        rcases hchars : urlChars (c :: cs) with ⟨value, stop, rest⟩
        cases stop with
        | closed =>
            rw [url_of_closed hs hc hchars] at hne ⊢
            have hends := urlChars_ends (s := c :: cs) (by rw [hchars]) (by rw [hchars]; exact hne)
            rw [hchars] at hends
            exact hends.trans hsuffix
        | spoiled =>
            have hrest := urlChars_suffix (c :: cs)
            rw [hchars] at hrest
            rw [url_of_spoiled hs hc hchars] at hne ⊢
            exact ((badUrl_ends hne).trans hrest).trans hsuffix

theorem comment_ends {s : List Char} (hne : comment s ≠ []) : '/' :: comment s <:+ s := by
  fun_induction comment s with
  | case1 => exact absurd rfl hne
  | case2 cs => exact List.suffix_cons _ _
  | case3 c cs _ ih => exact (ih hne).trans (List.suffix_cons _ _)

/-! ## No token ends in white space -/

/-- What leaves more than a text does not leave the text. -/
theorem absurd_of_suffix_cons {b : Char} {s r : List Char} (h : b :: s <:+ r) (hr : r = s) :
    False := by
  have hlength := h.length_le
  rw [hr, List.length_cons] at hlength
  omega

/-- The last character of what was taken. -/
theorem eq_of_cons_suffix {b c : Char} {u s : List Char} (h : c :: s <:+ u ++ b :: s) : c = b := by
  have h : [c] ++ s <:+ (u ++ [b]) ++ s := by
    rw [List.append_assoc]
    exact h
  obtain ⟨front, hfront⟩ := suffix_of_append_suffix h
  injection (List.append_inj' hfront rfl).2

theorem numeric_stops {u x : List Char} (h : '\\' ∉ u ++ x) (hx : AtBoundary x) :
    x <:+ (numeric (u ++ x)).2 := by
  have hnumeral := numeral_append (u := u) hx
  have hrest : '\\' ∉ (numeral u).2 ++ x := by
    obtain ⟨front, hfront⟩ := numeral_suffix u
    rw [← hfront, List.append_assoc] at h
    exact fun hmem => h (List.mem_append_right _ hmem)
  generalize (numeral u).1 = n at hnumeral
  generalize (numeral u).2 = rest at hnumeral hrest
  by_cases hpercent : rest.head? = some '%'
  · obtain ⟨ds, rfl⟩ := List.head?_eq_some_iff.mp hpercent
    rw [numeric_of_percent hnumeral]
    exact List.suffix_append _ _
  · rw [numeric_of_ne_percent hnumeral (head?_append_ne hpercent hx rfl)]
    split
    · exact name_stops hrest hx
    · exact List.suffix_append _ _

theorem not_isWhite_of_ends {b c : Char} {u s : List Char} (h : c :: s <:+ u ++ b :: s)
    (hc : isWhite c = false) (hb : isWhite b = true) : False := by
  rw [← eq_of_cons_suffix h, hc] at hb
  exact Bool.false_ne_true hb

theorem identLike_ends {b : Char} {u s : List Char} (h : '\\' ∉ u ++ b :: s)
    (hb : isWhite b = true) (hs : s ≠ []) : (identLike (u ++ b :: s)).2 ≠ s := by
  intro hrest
  have hx : AtBoundary (b :: s) := atBoundary_cons (isBoundary_of_isWhite hb)
  obtain ⟨v, hv⟩ := name_stops h hx
  have hname : name (u ++ b :: s) = ((name (u ++ b :: s)).1, v ++ b :: s) := by rw [hv]
  generalize (name (u ++ b :: s)).1 = m at hname
  by_cases hparen : v.head? = some '('
  · obtain ⟨rest, rfl⟩ := List.head?_eq_some_iff.mp hparen
    rw [identLike_of_paren hname] at hrest
    split at hrest
    · have hrest : (url m (rest ++ b :: s)).2 = s := hrest
      rcases url_ends (by rw [hrest]; exact hs) with hfunction | hends
      · rw [hfunction] at hrest
        exact absurd_of_suffix_cons (List.suffix_append rest (b :: s)) hrest
      · rw [hrest] at hends
        exact not_isWhite_of_ends hends rfl hb
    · exact absurd_of_suffix_cons (List.suffix_append rest (b :: s)) hrest
  · rw [identLike_of_ne_paren hname (head?_append_ne hparen hx rfl)] at hrest
    exact absurd_of_suffix_cons (List.suffix_append v (b :: s)) hrest

theorem matchOperator_stops {c : Char} {kind : Kind} {input : List Char}
    (hkind : kind.family = .fixed) (hmark : (matchOperator c kind input).1.family = .mark) :
    (matchOperator c kind input).2 = input := by
  unfold matchOperator at hmark ⊢
  split at hmark
  · rw [hkind] at hmark
    cases hmark
  · rfl

theorem afterHash_stops (input : List Char) :
    (afterHash input).2 = (name input).2 ∨ (afterHash input).2 = input := by
  unfold afterHash
  dsimp only
  split
  · exact .inl rfl
  · split
    · exact .inl rfl
    · exact .inr rfl

theorem afterAt_stops (input : List Char) :
    (afterAt input).2 = (name input).2 ∨ (afterAt input).2 = input := by
  unfold afterAt
  split
  · exact .inl rfl
  · exact .inr rfl

/-- Where a mark that is neither a name nor a fixed text stops. -/
theorem mark_stops {c : Char} {input : List Char} (h : (mark c input).1.family = .mark) :
    (mark c input).2 = (name input).2 ∨ (mark c input).2 = input
      ∨ ∃ rest, input = '*' :: rest ∧ (mark c input).2 = comment rest := by
  unfold mark at h ⊢
  split at h
  · exact (afterHash_stops input).imp_right .inl
  · right; left
    unfold afterMinus at h ⊢
    split at h
    · cases h
    · split at h
      · rw [family_identLike] at h
        cases h
      · rw [if_neg ‹_›]
  · right
    unfold afterSlash
    split
    · exact .inr ⟨_, rfl, rfl⟩
    · exact .inl rfl
  · right; left
    unfold afterLess at h ⊢
    split at h
    · cases h
    · rfl
  · exact (afterAt_stops input).imp_right .inl
  · exact .inr (.inl (matchOperator_stops rfl h))
  · exact .inr (.inl (matchOperator_stops rfl h))
  · exact .inr (.inl (matchOperator_stops rfl h))
  · exact .inr (.inl (matchOperator_stops rfl h))
  · exact .inr (.inl (matchOperator_stops rfl h))
  all_goals exact .inr (.inl rfl)

theorem mark_ends {b c : Char} {u s : List Char} (h : '\\' ∉ u ++ b :: s)
    (hb : isWhite b = true) (hs : s ≠ []) (hmark : (mark c (u ++ b :: s)).1.family = .mark) :
    (mark c (u ++ b :: s)).2 ≠ s := by
  intro hrest
  rcases mark_stops hmark with hname | hall | ⟨rest, hinput, hcomment⟩
  · have hstops := name_stops h (atBoundary_cons (isBoundary_of_isWhite hb))
    exact absurd_of_suffix_cons hstops (hname.symm.trans hrest)
  · exact absurd_of_suffix_cons (List.suffix_append u (b :: s)) (hall.symm.trans hrest)
  · rw [hcomment] at hrest
    have hends : '/' :: comment rest <:+ u ++ b :: s := by
      rw [hinput]
      exact (comment_ends (by rw [hrest]; exact hs)).trans (List.suffix_cons _ _)
    rw [hrest] at hends
    exact not_isWhite_of_ends hends rfl hb

theorem afterQuote_ends {b quote : Char} {u s : List Char} (hquote : quote = '"' ∨ quote = '\'')
    (hb : isWhite b = true) (hs : s ≠ [])
    (hcut : ∀ value, (afterQuote quote (u ++ b :: s)).1 ≠ .badString value) :
    (afterQuote quote (u ++ b :: s)).2 ≠ s := by
  intro hrest
  unfold afterQuote at hrest hcut
  dsimp only at hrest hcut
  have hclosed : (string quote (u ++ b :: s)).2.1 = true := by
    by_contra hopen
    rw [if_neg hopen] at hcut
    exact hcut _ rfl
  have hends := string_ends hclosed (by rw [hrest]; exact hs)
  rw [hrest] at hends
  have hwhite : isWhite quote = false := by
    rcases hquote with h | h
    · rw [h]; rfl
    · rw [h]; rfl
  exact not_isWhite_of_ends hends hwhite hb

/-- A fixed text has no white space at its end. -/
theorem isWhite_of_fixed {k : Kind} {w : List Char} (h : k.fixed? = some w) :
    ∀ b ∈ w.getLast?, isWhite b = false := by
  unfold Kind.fixed? at h
  split at h
  all_goals first
    | (injection h with h; subst h; intro b hb; rw [← Option.some.inj hb]; rfl)
    | cases h

end Lexer

open Lexer

/-- **A token that ends in white space is white space.** -/
theorem Token.Stands.white_of_last {t : Token} {s front : List Char} {b : Char}
    (h : t.Stands s) (hescape : '\\' ∉ t.text ++ s) (hs : s ≠ [])
    (hcut : ∀ value, t.kind ≠ .badString value) (htext : t.text = front ++ [b])
    (hb : isWhite b = true) : ∀ c ∈ t.text, isWhite c = true := by
  cases front with
  | nil =>
      intro c hc
      rw [htext, List.nil_append, List.mem_singleton] at hc
      rw [hc]
      exact hb
  | cons c u =>
      obtain ⟨c', u', htext', hnext⟩ := id h
      rw [htext'] at htext
      injection htext with h1 h2
      have h2 : u' = u ++ [b] := h2
      subst h1; subst h2
      rw [List.append_assoc, List.singleton_append] at hnext
      have hword : '\\' ∉ c' :: u ++ b :: s := by
        rw [htext', ← List.cons_append, List.append_assoc, List.singleton_append] at hescape
        exact hescape
      have hrest : '\\' ∉ u ++ b :: s := fun hmem => hword (List.mem_cons_of_mem _ hmem)
      have hkind : t.kind = (next c' (u ++ b :: s)).1 := by rw [hnext]
      have hleft : (next c' (u ++ b :: s)).2 = s := by rw [hnext]
      have hx : AtBoundary (b :: s) := atBoundary_cons (isBoundary_of_isWhite hb)
      -- every other way to read a token leaves the white space, or takes more than it
      cases reading c' (u ++ b :: s) with
      | blank _ heq =>
          intro d hd
          have hspace := h.isSpace_of_blank (by rw [hkind, heq]) d hd
          rw [isWhite, hspace]
          rfl
      | word _ heq =>
          rw [heq] at hleft
          exact absurd hleft (identLike_ends hword hb hs)
      | number _ heq =>
          rw [heq] at hleft
          exact (absurd_of_suffix_cons (numeric_stops hword hx) hleft).elim
      | quoted hquote heq =>
          rw [heq] at hleft hkind
          rw [hkind] at hcut
          exact absurd hleft (afterQuote_ends hquote hb hs hcut)
      | @fixed w hw heq =>
          rw [hleft] at heq
          have hall : (c' :: u ++ [b]) ++ s = w ++ s := by
            rw [List.append_assoc]
            exact heq
          have hlast := isWhite_of_fixed hw b
          rw [← List.append_cancel_right hall, List.getLast?_concat, hb] at hlast
          exact absurd (hlast rfl).symm Bool.false_ne_true
      | mark hmark heq =>
          rw [heq] at hleft hmark
          exact absurd hleft (mark_ends hrest hb hs hmark)

/-- A token that starts with white space is white space, and no bracket. -/
theorem Token.Stands.white_of_first {t : Token} {s u : List Char} {b : Char}
    (h : t.Stands s) (htext : t.text = b :: u) (hb : isWhite b = true) :
    t.kind.closer? = none ∧ ∀ c ∈ t.text, isWhite c = true := by
  obtain ⟨c, u', htext', hnext⟩ := id h
  rw [htext'] at htext
  injection htext with h1 h2
  subst h1; subst h2
  by_cases hspace : isSpace c = true
  · rw [next_eq, if_pos hspace] at hnext
    have hkind : t.kind = .blank := (congrArg Prod.fst hnext).symm
    refine ⟨by rw [hkind]; rfl, ?_⟩
    intro d hd
    rw [isWhite, h.isSpace_of_blank hkind d hd]
    rfl
  · -- the vertical tabulator stands for itself
    have hc : c = '\x0b' := by
      rw [isWhite, Bool.or_eq_true, beq_iff_eq] at hb
      exact hb.resolve_left hspace
    subst hc
    have hread : ∀ cs, next '\x0b' cs = (.delim '\x0b', cs) := fun _ => rfl
    rw [hread] at hnext
    injection hnext with hkind hrest
    have hu : u' = [] := List.append_left_eq_self.mp hrest
    refine ⟨by rw [← hkind]; rfl, ?_⟩
    intro d hd
    rw [htext', hu, List.mem_singleton] at hd
    rw [hd]
    decide

/-! ## Names that are printed again -/

namespace Lexer

/-- The characters of a name as they are kept. -/
def IsName (n : List Char) : Prop :=
  atIdent n = true ∧ ∀ c ∈ n, isNameChar c = true ∧ c ≠ '\x00'

theorem isSpace_of_isNameChar {c : Char} (h : isNameChar c = true) : isSpace c = false := by
  by_contra hspace
  rw [Bool.not_eq_false] at hspace
  have hwhite : isWhite c = true := by rw [isWhite, hspace]; rfl
  rw [isNameChar_of_isBoundary (isBoundary_of_isWhite hwhite)] at h
  exact Bool.false_ne_true h

theorem isDigit_of_isNameStart {c : Char} (h : isNameStart c = true) : isDigit c = false := by
  by_contra hdigit
  rw [Bool.not_eq_false, isDigit, Bool.and_eq_true, decide_eq_true_iff, decide_eq_true_iff]
    at hdigit
  have h1 : 48 ≤ c.toNat := UInt32.le_iff_toNat_le.mp hdigit.1
  have h2 : c.toNat ≤ 57 := UInt32.le_iff_toNat_le.mp hdigit.2
  simp only [isNameStart, Bool.or_eq_true, Bool.and_eq_true, decide_eq_true_iff, beq_iff_eq] at h
  rcases h with (((h | h) | h) | h) | h
  · have h3 : 97 ≤ c.toNat := UInt32.le_iff_toNat_le.mp h.1
    omega
  · have h3 : 65 ≤ c.toNat := UInt32.le_iff_toNat_le.mp h.1
    omega
  · rw [h] at h1 h2
    exact absurd h2 (by decide)
  · rw [h] at h1
    exact absurd h1 (by decide)
  · omega

/-- A name that starts with a minus sign goes on like a name. -/
theorem IsName.second {u : List Char} (h : IsName ('-' :: u)) :
    ∃ d ds, u = d :: ds ∧ (isNameStart d = true ∨ d = '-') := by
  obtain ⟨hident, hall⟩ := h
  rw [atIdent_cons, if_pos rfl] at hident
  cases u with
  | nil => exact absurd hident Bool.false_ne_true
  | cons d ds =>
      refine ⟨d, ds, rfl, ?_⟩
      have hback : d ≠ '\\' := by
        intro hd
        have hchar := (hall d (by simp)).1
        rw [hd] at hchar
        exact absurd hchar (by decide)
      rw [List.head?_cons, Option.any_some, beq_eq_false_iff_ne.mpr hback, Bool.or_false,
        Bool.or_eq_true, beq_iff_eq] at hident
      exact hident

/-- The first character of a name is a minus sign if it does not start names. -/
theorem IsName.first {c : Char} {u : List Char} (h : IsName (c :: u)) :
    isNameStart c = true ∨ c = '-' := by
  obtain ⟨hident, hall⟩ := h
  rw [atIdent_cons] at hident
  by_cases hminus : c = '-'
  · exact .inr hminus
  · have hback : c ≠ '\\' := by
      intro hback
      have hchar := (hall c List.mem_cons_self).1
      rw [hback] at hchar
      exact absurd hchar (by decide)
    rw [if_neg hminus, if_neg hback] at hident
    exact .inl hident

/-- A name that starts with a minus sign does not start a number. -/
theorem IsName.startsNumber_eq_false {u : List Char} (h : IsName ('-' :: u)) (y : List Char) :
    startsNumber '-' (u ++ y) = false := by
  obtain ⟨d, ds, rfl, hd⟩ := h.second
  have hpoint : d ≠ '.' := by
    intro hpoint
    rw [hpoint] at hd
    exact absurd hd (by decide)
  have hdigit : isDigit d = false := by
    rcases hd with hd | hd
    · exact isDigit_of_isNameStart hd
    · rw [hd]; rfl
  rw [startsNumber, List.cons_append, atNumber_cons, if_neg hpoint, hdigit]
  rfl

/-- A name that starts with a minus sign does not close a mark of embedding. -/
theorem IsName.ne_arrow {u y : List Char} (h : IsName ('-' :: u)) (hy : AtBoundary y)
    (rest : List Char) : u ++ y ≠ '-' :: '>' :: rest := by
  obtain ⟨d, ds, rfl, _⟩ := h.second
  intro heq
  injection heq with _ heq
  cases ds with
  | nil =>
      rw [show y = '>' :: rest from heq] at hy
      have hself : '>' ≠ '>' := hy.ne rfl
      exact hself rfl
  | cons e es =>
      injection heq with he _
      have hchar := (h.2 e (by simp)).1
      rw [he] at hchar
      exact absurd hchar (by decide)

/-- A name is read as itself in front of a boundary. -/
theorem IsName.stands {n y : List Char} (h : IsName n) (hy : AtBoundary y) :
    (⟨.ident n, n⟩ : Token).Stands y := by
  cases n with
  | nil => exact absurd h.1 Bool.false_ne_true
  | cons c u =>
      have hname : identLike (c :: u ++ y) = (.ident (c :: u), y) :=
        identLike_of_ne_paren (name_append_of_all h.2 hy)
          (head?_append_ne (u := []) (by simp) hy rfl)
      have hspace := isSpace_of_isNameChar (h.2 c List.mem_cons_self).1
      refine ⟨c, u, rfl, ?_⟩
      rw [next_eq, hspace, if_neg Bool.false_ne_true]
      rcases h.first with hstart | rfl
      · rw [hstart, Bool.true_or, if_pos rfl]
        exact hname
      · have hident : atIdent ('-' :: (u ++ y)) = true := by
          obtain ⟨d, ds, rfl, _⟩ := h.second
          have hself := h.1
          rw [atIdent_cons] at hself ⊢
          exact hself
        have hplain : (isNameStart '-' || ('-' == '\\' && !atNewline (u ++ y))) = false := rfl
        rw [hplain, h.startsNumber_eq_false y, if_neg Bool.false_ne_true, if_neg Bool.false_ne_true,
          if_neg (by decide)]
        show afterMinus (u ++ y) = _
        rw [afterMinus_of_ne (h.ne_arrow hy), if_pos hident]
        exact hname

theorem url_ne_ident (functionName s n : List Char) : (url functionName s).1 ≠ .ident n := by
  unfold url
  split
  · exact fun h => Kind.noConfusion h
  · split
    · exact fun h => Kind.noConfusion h
    · split
      · exact fun h => Kind.noConfusion h
      · exact fun h => Kind.noConfusion h

theorem name_of_identLike {s n rest : List Char} (h : identLike s = (.ident n, rest)) :
    name s = (n, rest) := by
  rcases hname : name s with ⟨m, r⟩
  by_cases hparen : r.head? = some '('
  · exfalso
    obtain ⟨cs, rfl⟩ := List.head?_eq_some_iff.mp hparen
    rw [identLike_of_paren hname] at h
    split at h
    · exact url_ne_ident m cs n (congrArg Prod.fst h)
    · cases h
  · have hne : ∀ d ∈ r.head?, d ≠ '(' := by
      intro d hd hd'
      rw [hd'] at hd
      exact hparen hd
    rw [identLike_of_ne_paren hname hne] at h
    injection h with hkind hrest
    rw [Kind.ident.inj hkind, hrest]

/-- Whether a name starts is seen on the characters that are kept. -/
theorem atIdent_map_plainChar {c : Char} {u s : List Char}
    (h : atIdent (c :: u ++ s) = true) (hescape : '\\' ∉ c :: u ++ s)
    (hs : ∀ e ∈ s.head?, isNameChar e = false) : atIdent ((c :: u).map plainChar) = true := by
  rw [List.cons_append, atIdent_cons] at h
  rw [List.map_cons, atIdent_cons]
  by_cases hminus : c = '-'
  · subst hminus
    have hplain : plainChar '-' = '-' := by decide
    rw [if_pos rfl] at h
    rw [hplain, if_pos rfl]
    -- the second character is one of the name, because the name did not stop there
    cases u with
    | nil =>
        exfalso
        obtain ⟨e, he, hsecond⟩ := (Option.any_eq_true _ _).mp h
        rw [Bool.or_eq_true, Bool.or_eq_true, beq_iff_eq, beq_iff_eq] at hsecond
        have hchar := hs e he
        rcases hsecond with (hstart | hself) | hback
        · rw [isNameChar_of_isNameStart hstart] at hchar
          exact Bool.false_ne_true hchar.symm
        · rw [hself] at hchar
          exact absurd hchar (by decide)
        · rw [hback] at he
          exact hescape (List.mem_append_right _ (List.mem_of_mem_head? he))
    | cons d ds =>
        rw [List.cons_append, List.head?_cons, Option.any_some, Bool.or_eq_true, Bool.or_eq_true,
          beq_iff_eq, beq_iff_eq] at h
        rw [List.map_cons, List.head?_cons, Option.any_some]
        rcases h with (hstart | hself) | hback
        · rw [isNameStart_plainChar hstart]
          rfl
        · rw [hself]
          decide
        · exact absurd (by rw [hback]; simp) hescape
  · have hback : c ≠ '\\' := fun hback => hescape (by rw [hback]; simp)
    rw [if_neg hminus, if_neg hback] at h
    have hstart := isNameStart_plainChar h
    have hne : ∀ d, isNameStart d = false → plainChar c ≠ d := by
      intro d hd hself
      rw [hself, hd] at hstart
      exact Bool.false_ne_true hstart
    rw [if_neg (hne '-' rfl), if_neg (hne '\\' rfl), hstart]

end Lexer

/-- An identifier is a name. -/
theorem Token.Stands.name_eq {t : Token} {s n : List Char} (h : t.Stands s)
    (hkind : t.kind = .ident n) : name (t.text ++ s) = (n, s) ∧ atIdent (t.text ++ s) = true := by
  obtain ⟨c, u, htext, hnext⟩ := h
  have hread := reading_by_family c (u ++ s)
  rw [hnext, hkind] at hread
  rw [htext]
  exact ⟨name_of_identLike hread.2.symm, hread.1⟩

/-- **Where no backslash stands, identifiers are names as they stand.** -/
theorem Token.Stands.isName {t : Token} {s n : List Char} (h : t.Stands s)
    (hkind : t.kind = .ident n) (hescape : '\\' ∉ t.text ++ s) : IsName n := by
  obtain ⟨hname, hident⟩ := h.name_eq hkind
  obtain ⟨c, u, htext, _⟩ := h
  rw [name_of_no_escape hescape] at hname
  injection hname with hn hs
  have hchars : (t.text ++ s).takeWhile isNameChar = t.text := by
    have hsplit := List.takeWhile_append_dropWhile (p := isNameChar) (l := t.text ++ s)
    rw [hs] at hsplit
    exact List.append_cancel_right hsplit
  have hall : ∀ d ∈ t.text, isNameChar d = true := by
    intro d hd
    rw [← hchars] at hd
    exact List.mem_takeWhile_imp hd
  rw [hchars] at hn
  subst hn
  refine ⟨?_, ?_⟩
  · have hstop : ∀ e ∈ s.head?, isNameChar e = false := by
      intro e he
      have hhead := List.head?_dropWhile_not isNameChar (t.text ++ s)
      rw [hs, he] at hhead
      simpa using hhead
    rw [htext] at hident hescape ⊢
    exact atIdent_map_plainChar hident hescape hstop
  · intro d hd
    obtain ⟨e, he, rfl⟩ := List.mem_map.mp hd
    exact isNameChar_plainChar (hall e he)

end StyleLookup.Css
