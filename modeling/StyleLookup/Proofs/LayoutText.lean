import StyleLookup.Proofs.InPlace

/-!
# Layout as a text

White space and closed comments, in any number and order, are what can be put between two tokens.
The tokens in front of it see a calm text. What is behind it sees nothing of it, except for white
space there, which becomes one token with the white space in front (`exists_led`). So rows are the
same with it and without it but for layout at their start.
-/

namespace StyleLookup.Css

open Text Component Lexer

/-- White space and closed comments. -/
inductive Layout : List Char → Prop where
  | nil : Layout []
  | space {c : Char} {l : List Char} : isSpace c = true → Layout l → Layout (c :: l)
  /-- A comment ends at the first star with a slash behind it. -/
  | comment {body l : List Char} : ¬ ['*', '/'] <:+: body ++ ['*'] → Layout l →
      Layout ('/' :: '*' :: (body ++ '*' :: '/' :: l))

theorem Layout.append {a b : List Char} (ha : Layout a) (hb : Layout b) : Layout (a ++ b) := by
  induction ha with
  | nil => exact hb
  | space hc _ ih => exact .space hc ih
  | comment hbody _ ih =>
      rw [List.cons_append, List.cons_append, List.append_assoc]
      exact .comment hbody ih

theorem layout_of_isSpace {s : List Char} (h : ∀ c ∈ s, isSpace c = true) : Layout s := by
  induction s with
  | nil => exact .nil
  | cons c s ih =>
      obtain ⟨hc, hs⟩ := List.forall_mem_cons.mp h
      exact .space hc (ih hs)

theorem Layout.tail {c : Char} {l : List Char} (h : Layout (c :: l)) (hc : isSpace c = true) :
    Layout l := by
  cases h with
  | space _ h => exact h
  | comment => exact absurd hc (by decide)

/-- White space at the start of layout in front of a text without any is part of the layout. -/
theorem Layout.split {l s x r : List Char} (h : Layout l) (hx : ∀ c ∈ x.head?, isSpace c = false)
    (hs : ∀ c ∈ s, isSpace c = true) (heq : l ++ x = s ++ r) :
    ∃ l', l = s ++ l' ∧ r = l' ++ x ∧ Layout l' := by
  induction s generalizing l with
  | nil => exact ⟨l, rfl, heq.symm, h⟩
  | cons c s ih =>
      have hc := hs c List.mem_cons_self
      cases l with
      | nil =>
          rw [List.nil_append] at heq
          rw [heq] at hx
          rw [hx c rfl] at hc
          exact absurd hc Bool.false_ne_true
      | cons d l =>
          injection heq with hd heq
          subst hd
          obtain ⟨l', rfl, hr, hl'⟩ :=
            ih (h.tail hc) (fun e he => hs e (List.mem_cons_of_mem _ he)) heq
          exact ⟨l', rfl, hr, hl'⟩

theorem Layout.calm {l x : List Char} (h : Layout l) (hx : Firm x) : Calm (l ++ x) := by
  induction h with
  | nil => exact hx.calm
  | @space c l hc _ ih =>
      refine ⟨atBoundary_cons (isBoundary_of_isSpace hc), ?_⟩
      rw [List.cons_append, List.dropWhile_cons_of_pos hc]
      exact ih.behind
  | comment => exact (firm_cons (by decide) _).calm

/-! ## Comments -/

theorem Lexer.comment_of_body {body : List Char} (h : ¬ ['*', '/'] <:+: body ++ ['*'])
    (x : List Char) : comment (body ++ '*' :: '/' :: x) = x := by
  induction body with
  | nil => rfl
  | cons c cs ih =>
      rw [List.cons_append, comment_cons, if_neg, ih]
      · exact fun hwithin => h (hwithin.trans (List.suffix_cons _ _).isInfix)
      · intro hend
        obtain ⟨rfl, hhead⟩ := hend
        refine h (List.IsPrefix.isInfix ?_)
        cases cs with
        | nil => exact absurd hhead (by simp)
        | cons d ds =>
            have hd : d = '/' := Option.some.inj hhead
            exact ⟨ds ++ ['*'], by rw [hd]; rfl⟩

/-- What a comment takes in front of a text ends in its closing, and there is none before. -/
theorem Lexer.exists_body_of_comment {u x : List Char} (h : comment (u ++ x) = x) (hx : x ≠ []) :
    ∃ body, u = body ++ ['*', '/'] ∧ ¬ ['*', '/'] <:+: body ++ ['*'] := by
  induction u with
  | nil => exact (absurd_of_suffix_tail (w := []) (.inr hx) (comment_suffix_tail x) h).elim
  | cons c cs ih =>
      rw [List.cons_append, comment_cons] at h
      by_cases hend : c = '*' ∧ (cs ++ x).head? = some '/'
      · rw [if_pos hend] at h
        cases cs with
        | nil =>
            have htail : x.tail = x := h
            exact (absurd_of_suffix_tail (w := []) (.inr hx) (List.suffix_refl x.tail) htail).elim
        | cons d ds =>
            have hds : ds = [] := List.append_left_eq_self.mp h
            have hd : d = '/' := Option.some.inj hend.2
            exact ⟨[], by rw [hend.1, hd, hds]; rfl, by decide⟩
      · rw [if_neg hend] at h
        obtain ⟨body, rfl, hbody⟩ := ih h
        refine ⟨c :: body, rfl, ?_⟩
        rw [List.cons_append, List.infix_cons_iff]
        refine not_or.mpr ⟨?_, hbody⟩
        -- the first two characters are no closing
        intro hstarts
        obtain ⟨hstar, hstarts⟩ := List.cons_prefix_cons.mp hstarts
        refine hend ⟨hstar.symm, ?_⟩
        cases body with
        | nil => exact absurd hstarts (by decide)
        | cons d ds => exact congrArg some (List.cons_prefix_cons.mp hstarts).1.symm

/-- A comment is read from a slash and a star. -/
theorem Lexer.eq_comment_of_kind {c : Char} {cs : List Char} (h : (next c cs).1 = .comment) :
    ∃ rest, c = '/' ∧ cs = '*' :: rest ∧ next c cs = (.comment, comment rest) := by
  have hread := reading_by_family c cs
  rw [h] at hread
  have heq : next c cs = mark c cs := hread
  rw [heq] at h ⊢
  unfold mark at h
  split at h
  · unfold afterHash at h
    dsimp only at h
    split at h
    · cases h
    · split at h <;> cases h
  · unfold afterMinus at h
    split at h
    · cases h
    · split at h
      · have hword := family_identLike ('-' :: cs)
        rw [h] at hword
        cases hword
      · cases h
  · unfold afterSlash at h
    split at h
    · exact ⟨_, rfl, rfl, rfl⟩
    · cases h
  · unfold afterLess at h
    split at h <;> cases h
  · unfold afterAt at h
    split at h <;> cases h
  all_goals first
    | cases h
    | (unfold matchOperator at h; split at h <;> cases h)

/-- The text of a comment, and what ends it. -/
theorem Token.Stands.eq_comment {t : Token} {x : List Char} (h : t.Stands x)
    (ht : t.kind = .comment) : ∃ u, t.text = '/' :: '*' :: u ∧ comment (u ++ x) = x := by
  obtain ⟨c, u, htext, hnext⟩ := h
  obtain ⟨rest, rfl, hu, hread⟩ := eq_comment_of_kind (by rw [hnext]; exact ht)
  rw [hread] at hnext
  have hrest : comment rest = x := congrArg Prod.snd hnext
  cases u with
  | nil =>
      -- a slash alone takes nothing of what follows it
      rw [List.nil_append] at hu
      have hsuffix : x <:+ rest := hrest ▸ comment_suffix rest
      have hlength := hsuffix.length_le
      rw [hu, List.length_cons] at hlength
      omega
  | cons d u =>
      injection hu with hd hu
      exact ⟨u, by rw [htext, hd], by rw [show u ++ x = rest from hu, hrest]⟩

/-- Layout in front of something else is layout as a text. -/
theorem Airy.layout {row : List Component} {x : List Char} (h : Airy row)
    (hstand : Stand (tokensOf row) x) (hx : x ≠ []) : Layout (textOf row) := by
  induction row with
  | nil => exact .nil
  | cons c cs ih =>
      obtain ⟨t, rfl, ht⟩ := h c List.mem_cons_self
      have ih := ih (fun d hd => h d (List.mem_cons_of_mem _ hd)) hstand.2
      rw [textOf, Component.text]
      rcases ht with ht | ⟨_, hspace⟩
      · obtain ⟨u, hu, hcomment⟩ := Token.Stands.eq_comment hstand.1 ht
        obtain ⟨body, rfl, hbody⟩ :=
          exists_body_of_comment hcomment (List.append_ne_nil_of_right_ne_nil _ hx)
        rw [hu]
        have happend := Layout.append (.comment hbody .nil) ih
        simpa using happend
      · exact (layout_of_isSpace hspace).append ih

/-! ## White space -/

theorem stands_blank_iff {c : Char} {s x : List Char} (hs : ∀ d ∈ c :: s, isSpace d = true) :
    (⟨.blank, c :: s⟩ : Token).Stands x ↔ ∀ d ∈ x.head?, isSpace d = false := by
  obtain ⟨hc, hs⟩ := List.forall_mem_cons.mp hs
  have hread : next c (s ++ x) = (.blank, x.dropWhile isSpace) := by
    rw [next_eq, if_pos hc, List.dropWhile_append_of_pos hs]
  refine ⟨?_, ?_⟩
  · intro h d hd
    obtain ⟨_, _, htext, hnext⟩ := h
    injection htext with h1 h2
    subst h1 h2
    have hdrop : x.dropWhile isSpace = x := congrArg Prod.snd (hread.symm.trans hnext)
    have hhead := List.head?_dropWhile_not isSpace x
    rw [hdrop, hd] at hhead
    simpa using hhead
  · intro h
    refine ⟨c, s, rfl, ?_⟩
    rw [hread]
    cases x with
    | nil => rfl
    | cons d x => rw [List.dropWhile_cons_of_neg (by rw [h d rfl]; exact Bool.false_ne_true)]

/-- White space is taken up to its end. -/
theorem Token.Stands.not_isSpace_of_blank {t : Token} {x : List Char} (h : t.Stands x)
    (ht : t.kind = .blank) : ∀ d ∈ x.head?, isSpace d = false := by
  obtain ⟨c, u, htext, _⟩ := id h
  have hspace := h.isSpace_of_blank ht
  rw [htext] at hspace
  refine (stands_blank_iff hspace).mp ?_
  rw [← htext, ← ht]
  exact h

/-- What starts with white space is white space. -/
theorem Token.Stands.blank_of_isSpace {t : Token} {x : List Char} (h : t.Stands x)
    (hc : ∀ c ∈ t.text.head?, isSpace c = true) : t.kind = .blank := by
  obtain ⟨c, u, htext, hnext⟩ := h
  rw [htext] at hc
  rw [next_eq, if_pos (hc c rfl)] at hnext
  exact (congrArg Prod.fst hnext).symm

/-- A row starts with white space only if its first component is white space. -/
theorem Sits.not_isSpace {stop : Option Kind} {row : List Component} {x : List Char}
    (h : Sits stop row x) (hrow : ∀ c ∈ row.head?, c.kind ≠ .blank)
    (hx : ∀ d ∈ x.head?, isSpace d = false) : ∀ d ∈ (textOf row ++ x).head?, isSpace d = false := by
  cases row with
  | nil => exact hx
  | cons e es =>
      obtain ⟨ts, hts⟩ : ∃ ts, tokensOf (e :: es) = e.head :: ts := by
        cases e with
        | token t => exact ⟨_, rfl⟩
        | block opening body closing => exact ⟨_, rfl⟩
      have hstand := h.stand
      rw [← textOfTokens_tokensOf, hts] at *
      obtain ⟨c, u, htext, _⟩ := id hstand.1
      intro d hd
      rw [textOfTokens_cons, htext] at hd
      rw [← Bool.not_eq_true]
      intro hspace
      refine hrow e rfl (hstand.1.blank_of_isSpace ?_)
      rw [htext]
      intro c' hc'
      rw [← Option.some.inj hc', Option.some.inj hd]
      exact hspace

/-! ## Layout in front of a row -/

/-- The rows are the same behind the layout at their start. -/
def SameCore (row row' : List Component) : Prop :=
  ∃ lead lead' core, Airy lead ∧ Airy lead' ∧ row = lead ++ core ∧ row' = lead' ++ core

theorem airy_nil : Airy [] := fun _ h => absurd h List.not_mem_nil

theorem airy_blank {t : Token} (ht : t.kind = .blank) (hspace : ∀ c ∈ t.text, isSpace c = true) :
    Airy [.token t] := by
  intro c hc
  rw [List.mem_singleton.mp hc]
  exact ⟨t, rfl, .inr ⟨ht, hspace⟩⟩

theorem SameCore.refl (row : List Component) : SameCore row row :=
  ⟨[], [], row, airy_nil, airy_nil, rfl, rfl⟩

theorem Airy.of_append {a b : List Component} (h : Airy (a ++ b)) : Airy a ∧ Airy b :=
  ⟨fun c hc => h c (List.mem_append_left b hc), fun c hc => h c (List.mem_append_right a hc)⟩

theorem SameCore.trans {a b c : List Component} (hab : SameCore a b) (hbc : SameCore b c) :
    SameCore a c := by
  obtain ⟨lead, lead', core, hlead, hlead', rfl, rfl⟩ := hab
  obtain ⟨front, front', back, hfront, hfront', heq, rfl⟩ := hbc
  -- one of the two leads of the row in the middle is the start of the other
  rcases List.append_eq_append_iff.mp heq with ⟨more, rfl, rfl⟩ | ⟨more, rfl, rfl⟩
  · exact ⟨lead ++ more, front', back, hlead.append hfront.of_append.2, hfront',
      (List.append_assoc _ _ _).symm, rfl⟩
  · exact ⟨lead, front' ++ more, core, hlead, hfront'.append hlead'.of_append.2, rfl,
      (List.append_assoc _ _ _).symm⟩

theorem SameCore.closed {stop : Option Kind} {a b : List Component} (h : SameCore a b)
    (hstop : ∀ kind ∈ stop, kind.isLayout = false) (ha : Closed stop a) : Closed stop b := by
  obtain ⟨lead, lead', core, _, hlead', rfl, rfl⟩ := h
  exact (hlead'.closed hstop).append ha.of_append.2

theorem SameCore.nested {stop : Option Kind} {a b : List Component} (h : SameCore a b)
    (hstop : ∀ kind ∈ stop, kind.isLayout = false) (ha : Nested stop a) : Nested stop b := by
  obtain ⟨lead, lead', core, _, hlead', rfl, rfl⟩ := h
  exact (hlead'.closed hstop).nested_append ha.of_append

theorem SameCore.storedText_eq {a b : List Component} (h : SameCore a b) :
    storedText b = storedText a := by
  obtain ⟨lead, lead', core, hlead, hlead', rfl, rfl⟩ := h
  rw [storedText_lead hlead, storedText_lead hlead']

theorem SameCore.solidKinds_eq {a b : List Component} (h : SameCore a b) :
    solidKinds b = solidKinds a := by
  obtain ⟨lead, lead', core, hlead, hlead', rfl, rfl⟩ := h
  rw [solidKinds_append, solidKinds_append, solidKinds_of_onlyLayout hlead.onlyLayout,
    solidKinds_of_onlyLayout hlead'.onlyLayout]

section Lead

variable {stop : Option Kind} {row : List Component} {x : List Char}
  (hstop : ∀ kind ∈ stop, kind.isLayout = false)

include hstop

theorem SameCore.sits {row' : List Component} (h : SameCore row row') (hrow : Sits stop row x)
    (hstand : Stand (tokensOf row') x) : Sits stop row' x :=
  ⟨h.nested hstop hrow.nested, fun hx => h.closed hstop (hrow.closed hx), hstand⟩

/-- White space in front of a row is a token of its own or part of the first one. -/
theorem exists_spaced {c : Char} (hc : isSpace c = true) (h : Sits stop row x)
    (hx : ∀ d ∈ x.head?, isSpace d = false) :
    ∃ row', textOf row' = c :: textOf row ∧ Sits stop row' x ∧ SameCore row row' := by
  by_cases hfirst : ∃ t cs, row = .token t :: cs ∧ t.kind = .blank
  · obtain ⟨t, cs, rfl, ht⟩ := hfirst
    have hspace := h.token.1.isSpace_of_blank ht
    have hlead : ∀ d ∈ c :: t.text, isSpace d = true := List.forall_mem_cons.mpr ⟨hc, hspace⟩
    have hcore : SameCore (.token t :: cs) (.token ⟨.blank, c :: t.text⟩ :: cs) :=
      ⟨[.token t], [_], cs, airy_blank ht hspace, airy_blank rfl hlead, rfl, rfl⟩
    refine ⟨_, rfl, hcore.sits hstop h ⟨?_, h.stand.2⟩, hcore⟩
    exact (stands_blank_iff hlead).mpr (h.stand.1.not_isSpace_of_blank ht)
  · have hspace : ∀ d ∈ [c], isSpace d = true := List.forall_mem_singleton.mpr hc
    have hcore : SameCore row (.token ⟨.blank, [c]⟩ :: row) :=
      ⟨[], [_], row, airy_nil, airy_blank rfl hspace, rfl, rfl⟩
    refine ⟨_, rfl, hcore.sits hstop h ⟨(stands_blank_iff hspace).mpr ?_, h.stand⟩, hcore⟩
    have hrow : ∀ d ∈ row.head?, d.kind ≠ .blank := by
      intro d hd hblank
      obtain ⟨cs, rfl⟩ := List.head?_eq_some_iff.mp hd
      obtain ⟨t, rfl⟩ := h.exists_token (by rw [hblank]; rfl)
      exact hfirst ⟨t, cs, rfl, hblank⟩
    have hhead := h.not_isSpace hrow hx
    rw [← textOfTokens_tokensOf] at hhead
    exact hhead

/-- **Layout can be put in front of any row.** -/
theorem exists_led {l : List Char} (hl : Layout l) (h : Sits stop row x)
    (hx : ∀ d ∈ x.head?, isSpace d = false) :
    ∃ row', textOf row' = l ++ textOf row ∧ Sits stop row' x ∧ SameCore row row' := by
  induction hl with
  | nil => exact ⟨row, rfl, h, .refl row⟩
  | space hc _ ih =>
      obtain ⟨row', htext, hsits, hcore⟩ := ih
      obtain ⟨row'', htext', hsits', hcore'⟩ := exists_spaced hstop hc hsits hx
      exact ⟨row'', by rw [htext', htext]; rfl, hsits', hcore.trans hcore'⟩
  | @comment body l hbody _ ih =>
      obtain ⟨row', htext, hsits, hcore⟩ := ih
      let t : Token := ⟨.comment, '/' :: '*' :: (body ++ ['*', '/'])⟩
      have hcore' : SameCore row' (.token t :: row') := by
        refine ⟨[], [.token t], row', airy_nil, ?_, rfl, rfl⟩
        intro d hd
        rw [List.mem_singleton.mp hd]
        exact ⟨t, rfl, .inl rfl⟩
      have hstands : ∀ s, t.Stands s := by
        intro s
        have hread : ∀ r, next '/' ('*' :: r) = (.comment, comment r) := fun _ => rfl
        refine ⟨'/', _, rfl, ?_⟩
        rw [List.cons_append, hread, List.append_assoc]
        exact congrArg (Prod.mk Kind.comment) (comment_of_body hbody s)
      refine ⟨.token t :: row', ?_, hcore'.sits hstop hsits ⟨hstands _, hsits.stand⟩,
        hcore.trans hcore'⟩
      rw [textOf, htext, Component.text]
      simp [t]

/-- Layout is a row of its own. -/
theorem exists_airy {l : List Char} (hl : Layout l) (hx : ∀ d ∈ x.head?, isSpace d = false) :
    ∃ lead, Airy lead ∧ textOf lead = l ∧ Sits stop lead x := by
  have hempty : Sits stop [] x := sits_nil
  obtain ⟨row', htext, hsits, lead, lead', core, _, hairy, hnil, rfl⟩ :=
    exists_led hstop hl hempty hx
  obtain ⟨_, rfl⟩ := List.append_eq_nil_iff.mp hnil.symm
  rw [List.append_nil] at htext hsits
  exact ⟨lead', hairy, htext.trans (List.append_nil l), hsits⟩

end Lead

/-! ## Layout behind a row -/

/-- Layout that may be put behind a row: it does not bring a comment right behind a block. -/
structure FitsBehind (row : List Component) (l : List Char) : Prop where
  layout : Layout l
  apart : ∀ opening body closing, row.getLast? = some (.block opening body closing) →
    l.head? ≠ some '/'

section Lengthened

variable {s : List Char} {row row' : List Component}

theorem Lengthened.textOf_eq (h : Lengthened s row row') : textOf row' = textOf row ++ s := by
  cases h with
  | same hs => rw [hs, List.append_nil]
  | last => simp [textOf_append, textOf, Component.text, Token.lengthen]

theorem Lengthened.solidKinds_eq (h : Lengthened s row row') :
    solidKinds row' = solidKinds row := by
  cases h with
  | same => rfl
  | @last front t =>
      have hlast : solidKinds [.token (t.lengthen s)] = solidKinds [.token t] := by
        rw [solidKinds, solidKinds, List.filter_cons, List.filter_cons]
        change List.map _ (if !t.kind.isLayout then _ else _)
          = List.map _ (if !t.kind.isLayout then _ else _)
        split
        · rfl
        · rfl
      rw [solidKinds_append, solidKinds_append, hlast]

/-- Of a longer token only the white space at its end is stored as well. -/
theorem Lengthened.exists_textWithoutComments (h : Lengthened s row row')
    (hs : ∀ c ∈ s, isSpace c = true) : ∃ more, (∀ c ∈ more, isSpace c = true)
      ∧ textWithoutComments row' = textWithoutComments row ++ more := by
  have hnone : ∀ c ∈ ([] : List Char), isSpace c = true := fun _ h => absurd h List.not_mem_nil
  cases h with
  | same => exact ⟨[], hnone, (List.append_nil _).symm⟩
  | @last front t =>
      induction front with
      | nil =>
          rw [List.nil_append, List.nil_append, textWithoutComments, textWithoutComments,
            textWithoutComments, Token.lengthen]
          split
          · exact ⟨[], hnone, rfl⟩
          · exact ⟨s, hs, by simp [textWithoutComments]⟩
      | cons c front ih =>
          obtain ⟨more, hmore, htext⟩ := ih
          refine ⟨more, hmore, ?_⟩
          rw [List.cons_append, List.cons_append]
          cases c with
          | token u =>
              rw [textWithoutComments, textWithoutComments, htext]
              split
              · rfl
              · rw [List.append_assoc]
          | block opening body closing =>
              have hnext : (front ++ [token (t.lengthen s)]).head?.any isComment
                  = (front ++ [token t]).head?.any isComment := by
                cases front with
                | nil => rfl
                | cons d ds => rfl
              rw [textWithoutComments, textWithoutComments, htext, hnext]
              split
              · rw [List.append_assoc]
              · rw [List.append_assoc]

theorem Lengthened.storedText_eq (h : Lengthened s row row') (hs : ∀ c ∈ s, isSpace c = true) :
    storedText row' = storedText row := by
  obtain ⟨more, hmore, htext⟩ := h.exists_textWithoutComments hs
  rw [storedText, htext, trim_append_right fun c hc => isBlank_of_isSpace (hmore c hc)]
  rfl

end Lengthened

/-- Layout that starts with a comment starts with a slash. -/
theorem Sits.head?_of_isComment {stop : Option Kind} {row : List Component} {x : List Char}
    (h : Sits stop row x) (hrow : row.head?.any isComment = true) :
    (textOf row).head? = some '/' := by
  cases row with
  | nil => cases hrow
  | cons c cs =>
      have hc : c.kind = .comment := eq_of_beq hrow
      obtain ⟨t, rfl⟩ := h.exists_token (by rw [hc]; rfl)
      obtain ⟨u, hu, _⟩ := h.token.1.eq_comment hc
      rw [textOf, Component.text, hu]
      rfl

section Edges

variable {stop : Option Kind} {row : List Component} {x y l : List Char}
  (hstop : ∀ kind ∈ stop, kind.isLayout = false)

include hstop

/-- **Layout can be put behind a row that something firm follows.** -/
theorem exists_trailed (h : Sits stop row x) (hne : x ≠ []) (hx : Firm x) (hy : Firm y)
    (hl : FitsBehind row l) : ∃ row', textOf row' = textOf row ++ l ∧ Sits stop row' y
      ∧ storedText row' = storedText row ∧ solidKinds row' = solidKinds row := by
  have hspace : ∀ c ∈ y.head?, isSpace c = false := fun c hc => (hy c hc).2
  obtain ⟨s, r, row', heq, hs, hlong, hclosed, hstand⟩ :=
    exists_lengthened (h.closed hne) h.stand hx (hl.layout.calm hy) fun hnil => absurd hnil hne
  -- what the last token does not take of the layout is a row of its own
  obtain ⟨l', rfl, rfl, hl'⟩ := hl.layout.split hspace hs heq
  obtain ⟨trail, hairy, htrail, hsits⟩ := exists_airy hstop hl' hspace
  have hparted : Parted row' trail := by
    intro opening body closing hlast
    rw [← Bool.not_eq_true]
    intro hcomment
    have hhead := hsits.head?_of_isComment hcomment
    cases hlong with
    | same hnone =>
        refine hl.apart opening body closing hlast ?_
        rw [hnone, ← htrail, List.nil_append]
        exact hhead
    | last =>
        rw [List.getLast?_concat] at hlast
        cases hlast
  refine ⟨row' ++ trail, ?_, sits_append.mpr ⟨hclosed.sits ?_, hsits⟩, ?_, ?_⟩
  · rw [textOf_append, hlong.textOf_eq, htrail, List.append_assoc]
  · rw [htrail]
    exact hstand
  · rw [storedText_trail hairy hparted, hlong.storedText_eq hs]
  · rw [solidKinds_append, solidKinds_of_onlyLayout hairy.onlyLayout, List.append_nil,
      hlong.solidKinds_eq]

/-- **Layout can be put around a row.** At the end of the text it cannot be put behind. -/
theorem exists_edged {lead : List Char} (h : Sits stop row x) (hx : Firm x) (hy : Firm y)
    (hlead : Layout lead) (hl : FitsBehind row l) (hend : x = [] → l = [] ∧ y = []) :
    ∃ row', textOf row' = lead ++ (textOf row ++ l) ∧ Sits stop row' y
      ∧ storedText row' = storedText row ∧ solidKinds row' = solidKinds row := by
  have htrailed : ∃ row', textOf row' = textOf row ++ l ∧ Sits stop row' y
      ∧ storedText row' = storedText row ∧ solidKinds row' = solidKinds row := by
    by_cases hne : x = []
    · obtain ⟨rfl, rfl⟩ := hend hne
      exact ⟨row, (List.append_nil _).symm, hne ▸ h, rfl, rfl⟩
    · exact exists_trailed hstop h hne hx hy hl
  obtain ⟨row', htext, hsits, hstored, hkinds⟩ := htrailed
  obtain ⟨row'', htext', hsits', hcore⟩ :=
    exists_led hstop hlead hsits fun c hc => (hy c hc).2
  exact ⟨row'', by rw [htext', htext], hsits', hcore.storedText_eq.trans hstored,
    hcore.solidKinds_eq.trans hkinds⟩

end Edges

end StyleLookup.Css
