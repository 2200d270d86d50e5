import StyleLookup.Proofs.Nesting
import StyleLookup.Proofs.TokenEnds
import StyleLookup.Proofs.TrimmedRow

/-!
# What is put behind a row of tokens

A row of tokens is read in front of a text, and then something else is put there. The tokens stay
what they were, but the last of them may take white space of the new text: white space goes on, and
a hexadecimal escape takes one more character of it. The kind of a token does not change with that
(`Stand.lengthen`), and in a row of components only a token at its end can change at all
(`exists_lengthened`).
-/

namespace StyleLookup.Css

open Text Component Lexer

/-! ## What may stand behind a row -/

/-- A text that starts at a boundary which is no white space, or has no characters. -/
def Firm (x : List Char) : Prop := ∀ c ∈ x.head?, isBoundary c = true ∧ isSpace c = false

/-- A text that starts at a boundary with its white space and without it. -/
structure Calm (y : List Char) : Prop where
  start : AtBoundary y
  behind : AtBoundary (y.dropWhile isSpace)

/-- The token that is read at the end of a text is the same with more text behind it. -/
def Token.IsClosed (t : Token) : Prop := t.Stands [' ']

theorem firm_cons {c : Char} (hc : isBoundary c = true ∧ isSpace c = false) (s : List Char) :
    Firm (c :: s) := by
  intro d hd
  rw [← Option.some.inj hd]
  exact hc

theorem Firm.atBoundary {x : List Char} (h : Firm x) : AtBoundary x := fun c hc => (h c hc).1

theorem Firm.calm {x : List Char} (h : Firm x) : Calm x := by
  refine ⟨h.atBoundary, ?_⟩
  cases x with
  | nil => exact h.atBoundary
  | cons c x =>
      rw [List.dropWhile_cons_of_neg (by rw [(h c rfl).2]; exact Bool.false_ne_true)]
      exact h.atBoundary

theorem Firm.atNewline {x : List Char} (h : Firm x) : atNewline x = false := by
  cases x with
  | nil => rfl
  | cons c x =>
      have hc := (h c rfl).2
      rw [isSpace, Bool.or_eq_false_iff] at hc
      exact hc.2

/-! ## Tokens -/

/-- A string is cut at a line end. -/
theorem Lexer.string_cut {quote : Char} {s : List Char} (h : (string quote s).2.1 = false) :
    atNewline (string quote s).2.2 = true := by
  fun_induction string quote s with
  | case1 => cases h
  | case2 => cases h
  | case3 c cs _ hline => exact hline
  | case4 c cs _ _ ih => exact ih h
  | case5 => cases h
  | case6 =>
      rename_i heq _ _ ih
      rw [heq] at ih
      exact ih h
  | case7 c cs _ _ _ more closed rest heq ih =>
      rw [heq] at ih
      exact ih h

theorem Token.Stands.not_badString {t : Token} {x : List Char} (h : t.Stands x)
    (hx : atNewline x = false) : ∀ value, t.kind ≠ .badString value := by
  intro value hkind
  obtain ⟨c, u, _, hnext⟩ := h
  rw [hkind] at hnext
  have hread := reading_by_family c (u ++ x)
  rw [hnext] at hread
  obtain ⟨_, heq⟩ := hread
  rw [afterQuote] at heq
  injection heq with hkind hrest
  by_cases hclosed : (string c (u ++ x)).2.1 = true
  · rw [if_pos hclosed] at hkind
    cases hkind
  · have hcut := string_cut (Bool.not_eq_true _ ▸ hclosed)
    rw [← hrest, hx] at hcut
    exact Bool.false_ne_true hcut

theorem Token.Stands.ne_backslash {t : Token} {x : List Char} (h : t.Stands x) (hx : Firm x)
    (hwhole : x = [] → t.text.getLast? ≠ some '\\') : t.text ≠ ['\\'] := by
  intro htext
  obtain ⟨c, u, ht, hnext⟩ := h
  rw [htext] at ht
  injection ht with hc hu
  subst hc hu
  have hne : x ≠ [] := fun hx => hwhole hx (by rw [htext]; rfl)
  have hrest : (next '\\' x).2 = [] ++ x := congrArg Prod.snd hnext
  exact absurd_of_suffix_tail (.inr hne) (next_backslash_suffix hx.atBoundary hx.atNewline) hrest

/-- In front of other tokens a token does not see what follows those. -/
theorem Token.Stands.behind {t : Token} {w x y : List Char} (h : t.Stands (w ++ x))
    (hne : w ≠ []) (hw : w ≠ ['\\']) (hx : Firm x) (hy : Calm y)
    (hwhole : x = [] → w.getLast? ≠ some '\\') : t.Stands (w ++ y) := by
  obtain ⟨c, u, ht, hnext⟩ := h
  rw [← List.append_assoc] at hnext
  refine ⟨c, u, ht, ?_⟩
  have hm : Joins (c :: (u ++ w)) w x y := by
    refine ⟨hx.atBoundary, hy.start, .inl hne, ?_⟩
    intro hnil hlast
    rw [← List.cons_append, List.getLast?_append_of_ne_nil _ hne] at hlast
    exact hwhole hnil hlast
  have hlone : atNewline x = true → c :: (u ++ w) ≠ ['\\'] := by
    rw [hx.atNewline]
    exact fun h => absurd h Bool.false_ne_true
  obtain ⟨r, hr, hread⟩ := next_joins hm hw hlone (.inl hne)
    (.inl (.inr ⟨hne, fun d hd => (hx d hd).2⟩)) (.inl hne) (by rw [hnext])
  rw [hr.eq hne, hnext, List.append_assoc] at hread
  exact hread

/-- The token, with more text at its end. -/
def Token.lengthen (t : Token) (s : List Char) : Token := ⟨t.kind, t.text ++ s⟩

/-- A token in front of a boundary takes at most white space of what is put there. -/
theorem Token.Stands.lengthen {t : Token} {x y : List Char} (h : t.Stands x) (hx : AtBoundary x)
    (hy : Calm y) (hline : atNewline x = true → t.text ≠ ['\\'])
    (hwhole : x = [] → t.text.getLast? ≠ some '\\' ∧ (t.kind.seeksEnd = true → t.IsClosed))
    (hfunction : ∀ name, t.kind ≠ .function name) (hcut : ∀ value, t.kind ≠ .badString value) :
    ∃ s r, y = s ++ r ∧ (∀ c ∈ s, isSpace c = true) ∧ (t.lengthen s).Stands r := by
  -- a closed token stands as well in front of a text that is not empty
  obtain ⟨x, h, hx, hline, hlast, hend⟩ : ∃ x, t.Stands x ∧ AtBoundary x
      ∧ (atNewline x = true → t.text ≠ ['\\']) ∧ (x = [] → t.text.getLast? ≠ some '\\')
      ∧ (x ≠ [] ∨ t.kind.seeksEnd = false) := by
    by_cases hnil : x = []
    · by_cases hseeks : t.kind.seeksEnd = true
      · exact ⟨[' '], (hwhole hnil).2 hseeks, atBoundary_cons rfl, fun h => absurd h (by decide),
          fun h => absurd h (List.cons_ne_nil _ _), .inl (List.cons_ne_nil _ _)⟩
      · exact ⟨x, h, hx, hline, fun h => (hwhole h).1, .inr (Bool.not_eq_true _ ▸ hseeks)⟩
    · exact ⟨x, h, hx, hline, fun h => absurd h hnil, .inl hnil⟩
  obtain ⟨c, u, ht, hnext⟩ := h
  rw [ht] at hline hlast
  have hm : Joins (c :: u) [] x y := ⟨hx, hy.start, .inr hy.behind, hlast⟩
  obtain ⟨r, ⟨s, hs, hspace, _⟩, hread⟩ := next_joins hm (List.cons_ne_nil _ _).symm hline
    (.inr (by rw [hnext]; exact hend)) (.inr (by rw [hnext]; exact hfunction))
    (.inr (by rw [hnext]; exact hcut)) (by rw [hnext]; rfl)
  refine ⟨s, r, hs, hspace, c, u ++ s, by rw [Token.lengthen, ht]; rfl, ?_⟩
  rw [List.append_assoc, ← hs, hread, hnext]
  rfl

/-! ## Rows of tokens -/

/-- **A row of tokens takes at most white space of what is put behind it, in its last token.** -/
theorem Stand.lengthen {ts : List Token} {t : Token} {x y : List Char} (h : Stand (ts ++ [t]) x)
    (hx : Firm x) (hy : Calm y)
    (hwhole : x = [] → t.text.getLast? ≠ some '\\' ∧ (t.kind.seeksEnd = true → t.IsClosed))
    (hfunction : ∀ name, t.kind ≠ .function name) :
    ∃ s r, y = s ++ r ∧ (∀ c ∈ s, isSpace c = true) ∧ Stand (ts ++ [t.lengthen s]) r := by
  have hlast := (stand_append.mp h).2.1
  have hback := hlast.ne_backslash hx fun h => (hwhole h).1
  obtain ⟨s, r, rfl, hspace, hread⟩ := hlast.lengthen hx.atBoundary hy (fun _ => hback) hwhole
    hfunction (hlast.not_badString hx.atNewline)
  refine ⟨s, r, rfl, hspace, ?_⟩
  induction ts with
  | nil => exact ⟨hread, trivial⟩
  | cons u ts ih =>
      rw [List.cons_append] at h ⊢
      obtain ⟨hu, hrest⟩ := h
      refine ⟨?_, ih hrest⟩
      -- a token in front of others sees at most the first of them
      rw [textOfTokens_concat] at hu ⊢
      rw [Token.lengthen, List.append_assoc, List.append_assoc, ← List.append_assoc _ t.text]
      have hne := hlast.text_ne_nil
      refine hu.behind (List.append_ne_nil_of_right_ne_nil _ hne) ?_ hx hy ?_
      · intro heq
        rcases List.append_eq_singleton_iff.mp heq with ⟨_, h⟩ | ⟨_, h⟩
        · exact hback h
        · exact hne h
      · rw [List.getLast?_append_of_ne_nil _ hne]
        exact fun h => (hwhole h).1

/-! ## Rows of components -/

/-- The second row is the first with `s` at the end of its last component, which is a token. -/
inductive Lengthened (s : List Char) : List Component → List Component → Prop where
  | same {row : List Component} : s = [] → Lengthened s row row
  | last {front : List Component} {t : Token} :
      Lengthened s (front ++ [.token t]) (front ++ [.token (t.lengthen s)])

/--
**A closed row stands in front of any boundary as it stands in front of a firm one,** but for white
space that its last token may take. At the end of the text nothing may be left open.
-/
theorem exists_lengthened {stop : Option Kind} {row : List Component} {x y : List Char}
    (hclosed : Closed stop row) (h : Stand (tokensOf row) x) (hx : Firm x) (hy : Calm y)
    (hwhole : x = [] → (textOf row).getLast? ≠ some '\\'
      ∧ ∀ t ∈ tokensOf row, t.kind.seeksEnd = true → t.IsClosed) :
    ∃ s r row', y = s ++ r ∧ (∀ c ∈ s, isSpace c = true) ∧ Lengthened s row row'
      ∧ Closed stop row' ∧ Stand (tokensOf row') r := by
  rcases List.eq_nil_or_concat' row with rfl | ⟨front, c, rfl⟩
  · exact ⟨[], y, [], rfl, fun _ h => absurd h List.not_mem_nil, .same rfl, .nil, trivial⟩
  obtain ⟨hfront, hlast⟩ := hclosed.of_append
  -- whatever the last token is, it is the last of the tokens of `c`
  have key : ∀ init t, c.tokens = init ++ [t] → t.kind.closer? = none →
      ∃ s r, y = s ++ r ∧ (∀ c ∈ s, isSpace c = true) ∧ t.Stands x ∧ (t.lengthen s).Stands r
        ∧ Stand (tokensOf front ++ (init ++ [t.lengthen s])) r := by
    intro init t hc ht
    have htokens : tokensOf (front ++ [c]) = tokensOf front ++ init ++ [t] := by
      rw [tokensOf_append, tokensOf, tokensOf, hc, List.append_nil, List.append_assoc]
    have hmem : t ∈ tokensOf (front ++ [c]) := by rw [htokens]; simp
    have htextof : textOf (front ++ [c]) = textOfTokens (tokensOf front ++ init ++ [t]) := by
      rw [← htokens, textOfTokens_tokensOf]
    rw [htokens] at h
    have ht' := (stand_append.mp h).2.1
    have htext : (textOf (front ++ [c])).getLast? = t.text.getLast? := by
      rw [htextof, textOfTokens_concat, List.getLast?_append_of_ne_nil _ ht'.text_ne_nil]
    have hfunction : ∀ name, t.kind ≠ .function name := by
      intro name hname
      rw [hname] at ht
      cases ht
    obtain ⟨s, r, hs, hspace, hread⟩ := h.lengthen hx hy
      (fun hnil => ⟨htext ▸ (hwhole hnil).1, (hwhole hnil).2 t hmem⟩) hfunction
    have hlong := (stand_append.mp hread).2.1
    rw [List.append_assoc] at hread
    exact ⟨s, r, hs, hspace, ht', hlong, hread⟩
  cases hlast with
  | @token _ t _ ht hs _ =>
      obtain ⟨s, r, rfl, hspace, _, _, hread⟩ := key [] t rfl ht
      refine ⟨s, r, _, rfl, hspace, .last, hfront.append (.token ht hs .nil), ?_⟩
      rw [tokensOf_append]
      exact hread
  | @block _ opening closing body _ ho hbody _ =>
      obtain ⟨hcloser, b, hb, _⟩ := Kind.closer?_closer ho
      obtain ⟨s, r, rfl, hspace, hshort, hlong, hread⟩ :=
        key (opening :: tokensOf body) closing rfl hcloser
      -- the bracket has a text of its own, to which no white space is added
      have hs : s = [] := by
        have htext : closing.text ++ s = closing.text := (hlong.text_eq hb).trans
          (hshort.text_eq hb).symm
        exact List.append_right_eq_self.mp htext
      subst hs
      rw [Token.lengthen, List.append_nil] at hread
      refine ⟨[], r, _, rfl, hspace, .same rfl, hclosed, ?_⟩
      rw [tokensOf_append, tokensOf, tokensOf, List.append_nil]
      exact hread

/-- **A closed row stands in front of every firm text if it stands in front of one.** -/
theorem Component.Closed.stand {stop : Option Kind} {row : List Component} {x y : List Char}
    (hclosed : Closed stop row) (h : Stand (tokensOf row) x) (hx : Firm x) (hy : Firm y)
    (hwhole : x = [] → (textOf row).getLast? ≠ some '\\'
      ∧ ∀ t ∈ tokensOf row, t.kind.seeksEnd = true → t.IsClosed) :
    Stand (tokensOf row) y := by
  obtain ⟨s, r, row', rfl, hspace, hrow, _, hread⟩ :=
    exists_lengthened hclosed h hx hy.calm hwhole
  have hs : s = [] := by
    cases s with
    | nil => rfl
    | cons c s =>
        have hc := (hy c rfl).2
        rw [hspace c List.mem_cons_self] at hc
        exact absurd hc.symm Bool.false_ne_true
  subst hs
  cases hrow with
  | same => exact hread
  | last =>
      rw [Token.lengthen, List.append_nil] at hread
      exact hread

/-- A closed row that stands in front of a text is what is read there. -/
theorem ofText_append_of_stand {row : List Component} {x : List Char} (hclosed : Closed none row)
    (h : Stand (tokensOf row) x) : ofText (textOf row ++ x) = row ++ ofText x := by
  rw [← textOfTokens_tokensOf, ofText, tokenize_append h, ofTokens_append hclosed]
  rfl

end StyleLookup.Css
