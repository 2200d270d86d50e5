import StyleLookup.Proofs.Lookahead

/-!
# How far strings, urls and comments look ahead

These are the scanners that look for an end of their own. They stop before a boundary only if they
found it, with one exception each: a line end cuts a string, and a quote makes a url a function.
-/

namespace StyleLookup.Css

open StyleLookup.Text

namespace Lexer

/-! ## Strings -/

theorem dropNewline_cons_cons (c d : Char) (s : List Char) :
    dropNewline (c :: d :: s) = if c = '\r' ∧ d = '\n' then s else d :: s := by
  by_cases hpair : c = '\r' ∧ d = '\n'
  · obtain ⟨rfl, rfl⟩ := hpair
    rfl
  · rw [if_neg hpair]
    unfold dropNewline
    split
    · rename_i h
      injection h with h1 h2
      injection h2 with h2 _
      exact absurd ⟨h1, h2⟩ hpair
    · rename_i h
      injection h with _ h2
      exact h2.symm
    · rename_i h
      exact absurd h (List.cons_ne_nil _ _)

theorem dropNewline_suffix_tail (x : List Char) : dropNewline x <:+ x.tail := by
  unfold dropNewline
  split
  · exact List.suffix_cons _ _
  · exact List.suffix_refl _
  · exact List.suffix_refl _

/-- A line end that leaves something of `u` lies within `u`. -/
theorem dropNewline_append {u v x : List Char} (hv : v ≠ []) (h : dropNewline (u ++ x) = v ++ x)
    (y : List Char) : dropNewline (u ++ y) = v ++ y := by
  match u with
  | [] => exact absurd (eq_nil_of_suffix (h ▸ dropNewline_suffix x)) hv
  | [c] => exact absurd (eq_nil_of_suffix (h ▸ dropNewline_suffix_tail (c :: x))) hv
  | c :: d :: u =>
      rw [List.cons_append, List.cons_append, dropNewline_cons_cons] at h ⊢
      split at h
      · rw [if_pos ‹_›, List.append_cancel_right h]
      · have hv : d :: u = v := List.append_cancel_right h
        rw [if_neg ‹_›, ← hv, List.cons_append]

/-- A string that no line end cuts takes the first character. -/
theorem string_of_atBoundary {quote : Char} {x : List Char} (hx : AtBoundary x)
    (hquote : isBoundary quote = false) :
    string quote x = ([], false, x) ∨ (string quote x).2.2 <:+ x.tail := by
  cases x with
  | nil => exact .inr (string_suffix quote [])
  | cons b x =>
      have hb : b ≠ quote := hx.ne hquote
      have hback : b ≠ '\\' := hx.ne rfl
      rw [string, if_neg hb, if_neg hback]
      by_cases hline : isNewline b = true
      · rw [if_pos hline]
        exact .inl rfl
      · rw [if_neg hline]
        exact .inr (string_suffix quote x)

/-- A string with nothing of `u` to read goes into `x`, or a line end cuts it there. -/
theorem string_absurd {quote : Char} {w x : List Char} (hx : AtBoundary x)
    (hquote : isBoundary quote = false)
    (hend : w ≠ [] ∨ x ≠ [] ∧ (string quote x).2.1 = true)
    (h : (string quote x).2.2 = w ++ x) : False := by
  have hw : w = [] := eq_nil_of_suffix (h ▸ string_suffix quote x)
  obtain ⟨hne, hclosed⟩ := hend.resolve_left fun h => h hw
  rcases string_of_atBoundary hx hquote with hstop | hover
  · rw [hstop] at hclosed
    exact Bool.false_ne_true hclosed
  · exact absurd_of_suffix_tail (.inr hne) hover h

/-- A backslash in a string takes a character. -/
theorem string_backslash_suffix {quote : Char} {x : List Char} (hquote : '\\' ≠ quote)
    (hx : AtBoundary x) : (string quote ('\\' :: x)).2.2 <:+ x.tail := by
  rw [string, if_neg hquote, if_neg (by decide), if_pos rfl]
  split
  · exact (string_suffix quote _).trans (dropNewline_suffix_tail x)
  · split
    · exact List.nil_suffix
    · exact (string_suffix quote _).trans (escape_suffix_tail hx)

/-- An escape that stops before the end of a text does not see what follows the text. -/
theorem escape_between {cs w x y : List Char} (hx : AtBoundary x) (hy : AtBoundary y)
    (hcs : cs ≠ []) (hrest : w ++ x <:+ (escape (cs ++ x)).2) (hne : (escape (cs ++ x)).2 ≠ x) :
    ∃ v, v <:+ cs ∧ (escape (cs ++ x)).2 = v ++ x
      ∧ escape (cs ++ y) = ((escape (cs ++ x)).1, v ++ y) := by
  obtain ⟨v, hv, hvcs, _⟩ := exists_between (escape_suffix (cs ++ x)) hrest
  obtain ⟨r, hr, hescape⟩ := escape_joins hx hy hcs hv
  have hvnil : v ≠ [] := by
    rintro rfl
    exact hne hv
  rw [hr.eq hvnil] at hescape
  exact ⟨v, hvcs, hv, hescape⟩

theorem string_joins {quote : Char} {u w x y : List Char} (hm : Joins u w x y)
    (hquote : isBoundary quote = false)
    (hend : w ≠ [] ∨ x ≠ [] ∧ (string quote (u ++ x)).2.1 = true)
    (h : (string quote (u ++ x)).2.2 = w ++ x) :
    string quote (u ++ y)
      = ((string quote (u ++ x)).1, (string quote (u ++ x)).2.1, w ++ y) := by
  induction hn : u.length using Nat.strongRecOn generalizing u with
  | ind n ih =>
    cases u with
    | nil => exact (string_absurd hm.source hquote hend h).elim
    | cons c cs =>
        have hlone : c ≠ quote → c = '\\' → cs ≠ [] := by
          intro hc hback hcs
          subst hback hcs
          exact absurd_of_suffix_tail (hend.imp_right And.left)
            (string_backslash_suffix hc hm.source) h
        rw [List.length_cons] at hn
        rw [List.cons_append, string] at h hend ⊢
        rw [List.cons_append, string]
        by_cases hc : c = quote
        · rw [if_pos hc] at h ⊢
          rw [if_pos hc, List.append_cancel_right h]
        rw [if_neg hc] at h hend ⊢
        rw [if_neg hc]
        by_cases hline : isNewline c = true
        · rw [if_pos hline] at h ⊢
          have hw : c :: cs = w := List.append_cancel_right h
          rw [if_pos hline, ← hw, List.cons_append]
        rw [if_neg hline] at h hend ⊢
        rw [if_neg hline]
        by_cases hback : c = '\\'
        · subst hback
          have hcs := hlone hc rfl
          have hempty : ∀ z, (cs ++ z).isEmpty = false := by
            intro z
            rw [List.isEmpty_eq_false_iff]
            exact List.append_ne_nil_of_left_ne_nil hcs z
          rw [if_pos rfl, atNewline_append hcs, hempty] at h hend ⊢
          rw [if_pos rfl, atNewline_append hcs, hempty]
          -- what the backslash takes ends within `cs`, for the string does not end in `x`
          by_cases hnext : atNewline cs = true
          · rw [if_pos hnext] at h hend ⊢
            rw [if_pos hnext]
            obtain ⟨v, hv, hvcs, hwv⟩ :=
              exists_between (dropNewline_suffix (cs ++ x)) (h ▸ string_suffix quote _)
            have hlength := hvcs.length_le
            rw [hv] at h hend ⊢
            have hvnil : v ≠ [] := by
              intro hvnil
              subst hvnil
              exact string_absurd hm.source hquote hend h
            rw [dropNewline_append hvnil hv]
            exact ih _ (by omega) (hm.tail.of_suffix hvcs) hend h rfl
          · rw [if_neg hnext, if_neg Bool.false_ne_true] at h hend ⊢
            rw [if_neg hnext, if_neg Bool.false_ne_true]
            dsimp only at h hend ⊢
            have hne : (escape (cs ++ x)).2 ≠ x := by
              intro hx
              rw [hx] at h hend
              exact string_absurd hm.source hquote hend h
            obtain ⟨v, hvcs, hv, hescape⟩ :=
              escape_between hm.source hm.target hcs (h ▸ string_suffix quote _) hne
            have hlength := hvcs.length_le
            rw [hv] at h hend
            rw [hescape]
            dsimp only
            rw [ih v.length (by omega) (hm.tail.of_suffix hvcs) hend h rfl, hv]
        · rw [if_neg hback] at h hend ⊢
          rw [if_neg hback]
          dsimp only at h hend ⊢
          rw [ih cs.length (by omega) hm.tail hend h rfl]

/-! ## Urls -/

theorem badUrl_of_ne {c : Char} (hparen : c ≠ ')') (hback : c ≠ '\\') (cs : List Char) :
    badUrl (c :: cs) = (c :: (badUrl cs).1, (badUrl cs).2) := by
  rw [badUrl]
  · exact hparen
  · intro d ds h; exact absurd h hback

theorem badUrl_suffix_tail (x : List Char) : (badUrl x).2 <:+ x.tail := by
  unfold badUrl
  split
  · exact List.suffix_refl _
  · exact List.suffix_refl _
  · split
    · exact (badUrl_suffix _).trans (List.suffix_cons _ _)
    · exact badUrl_suffix _
  · exact badUrl_suffix _

theorem badUrl_backslash_suffix (x : List Char) : (badUrl ('\\' :: x)).2 <:+ x.tail := by
  cases x with
  | nil => decide
  | cons c x =>
      rw [badUrl]
      split
      · exact badUrl_suffix x
      · exact badUrl_suffix_tail (c :: x)

theorem badUrl_joins {u w x y : List Char} (hne : w ≠ [] ∨ x ≠ [])
    (h : (badUrl (u ++ x)).2 = w ++ x) :
    badUrl (u ++ y) = ((badUrl (u ++ x)).1, w ++ y) := by
  induction hn : u.length using Nat.strongRecOn generalizing u with
  | ind n ih =>
    match u with
    | [] => exact (absurd_of_suffix_tail hne (badUrl_suffix_tail x) h).elim
    | c :: cs =>
        rw [List.length_cons] at hn
        by_cases hparen : c = ')'
        · subst hparen
          have hw : cs = w := List.append_cancel_right h
          rw [← hw]
          rfl
        by_cases hback : c = '\\'
        · subst hback
          match cs with
          | [] => exact (absurd_of_suffix_tail hne (badUrl_backslash_suffix x) h).elim
          | d :: ds =>
              rw [List.length_cons] at hn
              rw [List.cons_append, List.cons_append, badUrl] at h ⊢
              rw [List.cons_append, List.cons_append, badUrl]
              by_cases hd : d = ')' ∨ d = '\\'
              · rw [if_pos hd] at h ⊢
                rw [if_pos hd]
                dsimp only at h ⊢
                rw [ih ds.length (by omega) h rfl]
              · rw [if_neg hd] at h ⊢
                rw [if_neg hd]
                dsimp only at h ⊢
                rw [← List.cons_append] at h ⊢
                rw [← List.cons_append, ih (d :: ds).length (by simp; omega) h rfl]
        · rw [List.cons_append, badUrl_of_ne hparen hback] at h ⊢
          rw [List.cons_append, badUrl_of_ne hparen hback]
          dsimp only at h ⊢
          rw [ih cs.length (by omega) h rfl]

theorem urlChars_suffix_tail (x : List Char) : (urlChars x).2.2 <:+ x.tail := by
  cases x with
  | nil => rw [urlChars]; exact List.suffix_refl _
  | cons c cs =>
      rw [urlChars]
      split
      · exact List.suffix_refl _
      split
      · split
        · exact List.nil_suffix
        · rename_i d ds h
          exact (List.suffix_cons d ds).trans (h ▸ List.dropWhile_suffix _)
      split
      · exact List.suffix_refl _
      split
      · split
        · exact List.suffix_refl _
        · exact (urlChars_suffix _).trans (escape_suffix cs)
      · exact urlChars_suffix cs

theorem dropWhile_isSpace_joins {u w x : List Char} (h : (u ++ x).dropWhile isSpace = w ++ x)
    (y : List Char) : ∃ r, Skips w y r ∧ (u ++ y).dropWhile isSpace = w ++ r := by
  induction u with
  | nil =>
      have hsuffix : w ++ x <:+ x := h ▸ List.dropWhile_suffix _
      rw [eq_nil_of_suffix hsuffix]
      exact ⟨_, skips_dropWhile y, rfl⟩
  | cons c u ih =>
      rw [List.cons_append, List.dropWhile_cons] at h ⊢
      split at h
      · rw [if_pos ‹_›]
        exact ih h
      · have hw : c :: u = w := List.append_cancel_right h
        rw [if_neg ‹_›, ← hw]
        exact ⟨y, .refl _ _, rfl⟩

/-- White space that ends within `u` ends there, whatever follows. -/
theorem dropWhile_append_of_ne_nil {u v x : List Char} (hv : v ≠ [])
    (h : (u ++ x).dropWhile isSpace = v ++ x) (y : List Char) :
    (u ++ y).dropWhile isSpace = v ++ y := by
  obtain ⟨r, hr, hdrop⟩ := dropWhile_isSpace_joins h y
  rw [hdrop, hr.eq hv]

/-- A backslash in a url takes a character, or a line end behind it spoils the url. -/
theorem urlChars_backslash_suffix {x : List Char} (hx : AtBoundary x) :
    (urlChars ('\\' :: x)).2.2 <:+ x.tail
      ∨ (urlChars ('\\' :: x)).2 = (.spoiled, x) := by
  rw [urlChars, if_neg (by decide), if_neg (by decide), if_neg (by decide), if_pos rfl]
  split
  · exact .inr rfl
  · exact .inl ((urlChars_suffix _).trans (escape_suffix_tail hx))

theorem urlChars_joins {u w x y : List Char} (hm : Joins u w x y)
    (hend : w ≠ [] ∨ x ≠ [] ∧ (urlChars (u ++ x)).2.1 = .closed)
    (h : (urlChars (u ++ x)).2.2 = w ++ x) :
    urlChars (u ++ y) = ((urlChars (u ++ x)).1, (urlChars (u ++ x)).2.1, w ++ y) := by
  have hne := hend.imp_right And.left
  induction hn : u.length using Nat.strongRecOn generalizing u with
  | ind n ih =>
    cases u with
    | nil => exact (absurd_of_suffix_tail hne (urlChars_suffix_tail x) h).elim
    | cons c cs =>
        have hlone : c = '\\' → cs ≠ [] := by
          intro hback hcs
          subst hback hcs
          rw [List.singleton_append] at h hend
          rcases urlChars_backslash_suffix hm.source with hover | hstop
          · exact absurd_of_suffix_tail hne hover h
          · rw [hstop] at h hend
            exact hend.elim (fun hw => hw (List.self_eq_append_left.mp h)) (fun h => by cases h.2)
        rw [List.length_cons] at hn
        rw [List.cons_append, urlChars] at h hend ⊢
        rw [List.cons_append, urlChars]
        by_cases hparen : c = ')'
        · rw [if_pos hparen] at h ⊢
          rw [if_pos hparen, List.append_cancel_right h]
        rw [if_neg hparen] at h hend ⊢
        rw [if_neg hparen]
        by_cases hspace : isSpace c = true
        · rw [if_pos hspace] at h ⊢
          rw [if_pos hspace]
          cases hdrop : (cs ++ x).dropWhile isSpace with
          | nil =>
              rw [hdrop] at h
              obtain ⟨hw, hx⟩ := List.append_eq_nil_iff.mp h.symm
              exact (hne.elim (fun h => h hw) (fun h => h hx)).elim
          | cons d ds =>
              -- white space ends within `u`, and so decides the same on how the url stops
              rw [hdrop] at h
              dsimp only at h
              subst h
              rw [dropWhile_append_of_ne_nil (List.cons_ne_nil d w) hdrop]
              rfl
        rw [if_neg hspace] at h hend ⊢
        rw [if_neg hspace]
        by_cases hspoil : isUnprintable c = true ∨ c = '"' ∨ c = '\'' ∨ c = '('
        · rw [if_pos hspoil] at h ⊢
          rw [if_pos hspoil, List.append_cancel_right h]
        rw [if_neg hspoil] at h hend ⊢
        rw [if_neg hspoil]
        by_cases hback : c = '\\'
        · subst hback
          have hcs := hlone rfl
          rw [if_pos rfl, atNewline_append hcs] at h hend ⊢
          rw [if_pos rfl, atNewline_append hcs]
          by_cases hnext : atNewline cs = true
          · rw [if_pos hnext] at h ⊢
            rw [if_pos hnext, List.append_cancel_right h]
          · rw [if_neg hnext] at h hend ⊢
            rw [if_neg hnext]
            dsimp only at h hend ⊢
            have hmore : (escape (cs ++ x)).2 ≠ x := by
              intro hx
              rw [hx] at h
              exact absurd_of_suffix_tail hne (urlChars_suffix_tail x) h
            obtain ⟨v, hvcs, hv, hescape⟩ :=
              escape_between hm.source hm.target hcs (h ▸ urlChars_suffix _) hmore
            have hlength := hvcs.length_le
            rw [hv] at h hend
            rw [hescape]
            dsimp only
            rw [ih v.length (by omega) (hm.tail.of_suffix hvcs) hend h rfl, hv]
        · rw [if_neg hback] at h hend ⊢
          rw [if_neg hback]
          dsimp only at h hend ⊢
          rw [ih cs.length (by omega) hm.tail hend h rfl]

theorem take_length_sub_append (a v x : List Char) :
    (a ++ x).take ((a ++ x).length - (v ++ x).length) = a.take (a.length - v.length) := by
  rw [List.length_append, List.length_append, Nat.add_sub_add_right,
    List.take_append_of_le_length (Nat.sub_le _ _)]

theorem url_of_quote {functionName s cs : List Char} {c : Char}
    (hs : s.dropWhile isSpace = c :: cs) (hc : c = '"' ∨ c = '\'') :
    url functionName s = (.function functionName, s) := by
  rw [url, hs]
  dsimp only
  rw [if_pos hc]

theorem url_of_closed {functionName s cs value rest : List Char} {c : Char}
    (hs : s.dropWhile isSpace = c :: cs) (hc : ¬ (c = '"' ∨ c = '\''))
    (hchars : urlChars (c :: cs) = (value, .closed, rest)) :
    url functionName s = (.url value, rest) := by
  rw [url, hs]
  dsimp only
  rw [if_neg hc, hchars]

theorem url_of_spoiled {functionName s cs value rest : List Char} {c : Char}
    (hs : s.dropWhile isSpace = c :: cs) (hc : ¬ (c = '"' ∨ c = '\''))
    (hchars : urlChars (c :: cs) = (value, .spoiled, rest)) :
    url functionName s
      = (.badUrl ((c :: cs).take ((c :: cs).length - rest.length) ++ (badUrl rest).1),
        (badUrl rest).2) := by
  rw [url, hs]
  dsimp only
  rw [if_neg hc, hchars]

/-- In front of `x` the quote behind `url(` is found in `w`, which a function leaves. -/
def SeesQuote (w x : List Char) : Prop :=
  w.dropWhile isSpace ≠ [] ∨ w ≠ [] ∧ ∀ d ∈ x.head?, isSpace d = false

theorem url_joins_of_quote {functionName u x y cs : List Char} {c : Char}
    (hx : AtBoundary x) (hs : (u ++ x).dropWhile isSpace = c :: cs) (hc : c = '"' ∨ c = '\'')
    (hseen : SeesQuote u x) :
    url functionName (u ++ y) = (.function functionName, u ++ y) := by
  have hquote : isBoundary c = false := by
    rcases hc with hc | hc
    · rw [hc]; rfl
    · rw [hc]; rfl
  by_cases hu : u.dropWhile isSpace = []
  · -- behind nothing but white space the quote would be the boundary
    exfalso
    have hspace := (hseen.resolve_left fun h => h hu).2
    rw [List.dropWhile_append, hu, List.isEmpty_nil, if_pos rfl] at hs
    cases x with
    | nil => cases hs
    | cons b x =>
        rw [List.dropWhile_cons_of_neg (by rw [hspace b rfl]; exact Bool.false_ne_true)] at hs
        injection hs with hb _
        rw [← hb, hx b rfl] at hquote
        exact Bool.false_ne_true hquote.symm
  · obtain ⟨d, ds, hd⟩ := List.exists_cons_of_ne_nil hu
    have hdrop : ∀ z, (u ++ z).dropWhile isSpace = d :: (ds ++ z) := by
      intro z
      rw [List.dropWhile_append, hd]
      rfl
    rw [hdrop] at hs
    injection hs with hdc _
    exact url_of_quote (hdrop y) (hdc ▸ hc)

theorem url_joins {functionName u w x y : List Char} (hm : Joins u w x y)
    (hne : w ≠ [] ∨ x ≠ [])
    (hfunction : SeesQuote w x ∨ ∀ name, (url functionName (u ++ x)).1 ≠ .function name)
    (h : (url functionName (u ++ x)).2 = w ++ x) :
    url functionName (u ++ y) = ((url functionName (u ++ x)).1, w ++ y) := by
  cases hdrop : (u ++ x).dropWhile isSpace with
  | nil =>
      rw [url, hdrop] at h
      obtain ⟨hw, hx⟩ := List.append_eq_nil_iff.mp h.symm
      exact (hne.elim (fun h => h hw) (fun h => h hx)).elim
  | cons c cs =>
      by_cases hquote : c = '"' ∨ c = '\''
      · have hurl : url functionName (u ++ x) = _ := url_of_quote hdrop hquote
        rw [hurl] at h hfunction ⊢
        have hw : u = w := List.append_cancel_right h
        subst hw
        exact url_joins_of_quote hm.source hdrop hquote (hfunction.resolve_right fun h => h _ rfl)
      -- where the characters of the url end is where they ended before
      rcases hchars : urlChars (c :: cs) with ⟨value, stop, rest⟩
      have hrest : (url functionName (u ++ x)).2 <:+ rest := by
        cases stop with
        | closed => exact url_of_closed hdrop hquote hchars ▸ List.suffix_refl rest
        | spoiled => rw [url_of_spoiled hdrop hquote hchars]; exact badUrl_suffix rest
      rw [h] at hrest
      have hover := urlChars_suffix_tail (c :: cs)
      rw [hchars] at hover
      obtain ⟨front, rfl⟩ : ∃ front, cs = front ++ x := by
        obtain ⟨before, rfl⟩ := hrest.trans hover
        exact ⟨before ++ w, (List.append_assoc before w x).symm⟩
      have hu : c :: front <:+ u := by
        have hsuffix : (u ++ x).dropWhile isSpace <:+ u ++ x := List.dropWhile_suffix _
        rw [hdrop] at hsuffix
        exact suffix_of_append_suffix (v := c :: front) hsuffix
      have hdropy : (u ++ y).dropWhile isSpace = c :: (front ++ y) :=
        dropWhile_append_of_ne_nil (List.cons_ne_nil c front) hdrop y
      obtain ⟨v, rfl, hv, hwv⟩ :=
        exists_between (u := c :: front) (hover.trans (List.suffix_cons c _)) hrest
      have hwhole : v ≠ [] ∨ x ≠ [] ∧ (urlChars (c :: front ++ x)).2.1 = .closed := by
        rw [List.cons_append, hchars]
        cases stop with
        | closed => exact hne.imp (fun hw hv => hw (List.suffix_nil.mp (hv ▸ hwv))) (⟨·, rfl⟩)
        | spoiled =>
            refine .inl fun hv => ?_
            rw [url_of_spoiled hdrop hquote hchars, hv] at h
            exact absurd_of_suffix_tail hne (badUrl_suffix_tail x) h
      have hcharsy := urlChars_joins ((hm.of_suffix hu).leave hwv) hwhole (congrArg (·.2.2) hchars)
      rw [List.cons_append, List.cons_append, hchars] at hcharsy
      cases stop with
      | closed =>
          rw [url_of_closed hdrop hquote hchars] at h ⊢
          rw [url_of_closed hdropy hquote hcharsy, List.append_cancel_right h]
      | spoiled =>
          rw [url_of_spoiled hdrop hquote hchars] at h ⊢
          rw [url_of_spoiled hdropy hquote hcharsy, badUrl_joins hne h, ← List.cons_append,
            ← List.cons_append, take_length_sub_append, take_length_sub_append]

/-! ## Comments -/

theorem comment_cons (c : Char) (cs : List Char) :
    comment (c :: cs) = if c = '*' ∧ cs.head? = some '/' then cs.tail else comment cs := by
  by_cases hend : c = '*' ∧ cs.head? = some '/'
  · rw [if_pos hend]
    obtain ⟨rfl, hcs⟩ := hend
    cases cs with
    | nil => cases hcs
    | cons d cs =>
        injection hcs with hd
        subst hd
        rfl
  · rw [if_neg hend, comment]
    intro ds h1 h2
    exact hend ⟨h1, by rw [h2]; rfl⟩

theorem comment_suffix_tail (x : List Char) : comment x <:+ x.tail := by
  cases x with
  | nil => exact List.suffix_refl _
  | cons c cs =>
      rw [comment_cons]
      split
      · exact List.tail_suffix cs
      · exact comment_suffix cs

theorem comment_joins {u w x y : List Char} (hne : w ≠ [] ∨ x ≠ [])
    (h : comment (u ++ x) = w ++ x) : comment (u ++ y) = w ++ y := by
  induction u with
  | nil => exact (absurd_of_suffix_tail hne (comment_suffix_tail x) h).elim
  | cons c cs ih =>
      rw [List.cons_append, comment_cons] at h ⊢
      by_cases hcs : cs = []
      · -- what closes the comment cannot stand in `x`
        exfalso
        subst hcs
        refine absurd_of_suffix_tail hne ?_ h
        split
        · exact List.suffix_refl _
        · exact comment_suffix_tail x
      · obtain ⟨d, ds, rfl⟩ := List.exists_cons_of_ne_nil hcs
        by_cases hclose : c = '*' ∧ d = '/'
        · rw [if_pos ⟨hclose.1, by rw [hclose.2]; rfl⟩] at h ⊢
          have hw : ds = w := List.append_cancel_right h
          rw [← hw]
          rfl
        · have hopen : ∀ z, ¬ (c = '*' ∧ (d :: ds ++ z).head? = some '/') := by
            intro z hz
            exact hclose ⟨hz.1, Option.some.inj hz.2⟩
          rw [if_neg (hopen x)] at h
          rw [if_neg (hopen y)]
          exact ih h

end Lexer

end StyleLookup.Css
