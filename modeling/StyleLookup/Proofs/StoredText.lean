import StyleLookup.Proofs.DeclarationRoundTrip

/-!
# What is stored of selectors and values

Selectors and values are stored without their comments. A comment goes alone if a token stands in
front of it. Behind a block it takes most of the block along: of that only the opening is kept. So a
piece keeps all of its other text exactly if no comment stands right behind a block in it
(`stored_whole_iff`), and otherwise it does not only lose what the definition says but ends up
different: the closing bracket at least is gone, and trimming cannot make up for that.
-/

namespace StyleLookup.Css

open Text Component Lexer

/-! ## Trimming -/

theorem isBlank_of_isSpace {c : Char} (h : isSpace c = true) : isBlank c = true :=
  isBlank_of_isWhite (by rw [isWhite, h]; rfl)

theorem trim_append_left {w : List Char} (hw : ∀ c ∈ w, isBlank c = true) (s : List Char) :
    trim (w ++ s) = trim s := by
  rw [trim, trimStart, List.dropWhile_append_of_pos hw]
  rfl

theorem trimEnd_append {w : List Char} (hw : ∀ c ∈ w, isBlank c = true) (s : List Char) :
    trimEnd (s ++ w) = trimEnd s := by
  have hreverse : ∀ c ∈ w.reverse, isBlank c = true := fun c hc => hw c (List.mem_reverse.mp hc)
  rw [trimEnd, List.reverse_append, List.dropWhile_append_of_pos hreverse]
  rfl

theorem trim_append_right {w : List Char} (hw : ∀ c ∈ w, isBlank c = true) (s : List Char) :
    trim (s ++ w) = trim s := by
  by_cases hs : s.dropWhile isBlank = []
  · have hall := List.dropWhile_eq_nil_iff.mp hs
    rw [trim_append_left hall, trim, trim, trimStart, trimStart, hs,
      List.dropWhile_eq_nil_iff.mpr hw]
  · obtain ⟨c, cs, hc⟩ := List.exists_cons_of_ne_nil hs
    rw [trim, trim, trimStart, trimStart, List.dropWhile_append, hc]
    exact trimEnd_append hw (c :: cs)

/-- The number of characters that trimming never takes. -/
def inked (s : List Char) : Nat := s.countP fun c => !isBlank c

theorem inked_append (s t : List Char) : inked (s ++ t) = inked s + inked t := List.countP_append

theorem inked_dropWhile (s : List Char) : inked (s.dropWhile isBlank) = inked s := by
  have hsplit := inked_append (s.takeWhile isBlank) (s.dropWhile isBlank)
  have hnone : inked (s.takeWhile isBlank) = 0 := by
    rw [inked, List.countP_eq_zero]
    intro c hc
    rw [List.mem_takeWhile_imp hc]
    exact Bool.false_ne_true
  rw [List.takeWhile_append_dropWhile, hnone, Nat.zero_add] at hsplit
  exact hsplit.symm

theorem inked_trim (s : List Char) : inked (trim s) = inked s := by
  rw [trim, trimEnd, inked, List.countP_reverse]
  change inked _ = _
  rw [inked_dropWhile, inked, List.countP_reverse]
  exact inked_dropWhile s

/-! ## Rows without comments -/

/-- Somewhere in the row a comment stands right behind a block. -/
def CommentBehindBlock (row : List Component) : Prop :=
  ∃ front opening body closing comment rest,
    row = front ++ .block opening body closing :: comment :: rest ∧ comment.isComment = true

/-- The row without its comments; what is in its blocks stays. -/
def withoutComments (row : List Component) : List Component := row.filter fun c => !c.isComment

theorem not_commentBehindBlock_nil : ¬ CommentBehindBlock [] := by
  intro h
  obtain ⟨front, _, _, _, _, _, hrow, _⟩ := h
  cases front <;> cases hrow

theorem commentBehindBlock_cons_token {t : Token} {cs : List Component} :
    CommentBehindBlock (.token t :: cs) ↔ CommentBehindBlock cs := by
  refine ⟨?_, ?_⟩
  · intro h
    obtain ⟨front, opening, body, closing, comment, rest, hrow, hcomment⟩ := h
    cases front with
    | nil => cases hrow
    | cons c front =>
        injection hrow with _ hrow
        exact ⟨front, opening, body, closing, comment, rest, hrow, hcomment⟩
  · intro h
    obtain ⟨front, opening, body, closing, comment, rest, hrow, hcomment⟩ := h
    exact ⟨.token t :: front, opening, body, closing, comment, rest, by rw [hrow]; rfl, hcomment⟩

theorem commentBehindBlock_cons_block {opening : Token} {body cs : List Component}
    {closing : Option Token} : CommentBehindBlock (.block opening body closing :: cs)
      ↔ cs.head?.any isComment = true ∨ CommentBehindBlock cs := by
  refine ⟨?_, ?_⟩
  · intro h
    obtain ⟨front, opening', body', closing', comment, rest, hrow, hcomment⟩ := h
    cases front with
    | nil =>
        injection hrow with _ hrow
        rw [hrow]
        exact .inl hcomment
    | cons c front =>
        injection hrow with _ hrow
        exact .inr ⟨front, opening', body', closing', comment, rest, hrow, hcomment⟩
  · intro h
    rcases h with h | h
    · cases cs with
      | nil => cases h
      | cons comment rest => exact ⟨[], opening, body, closing, comment, rest, rfl, h⟩
    · obtain ⟨front, opening', body', closing', comment, rest, hrow, hcomment⟩ := h
      exact ⟨_ :: front, opening', body', closing', comment, rest, by rw [hrow]; rfl, hcomment⟩

instance CommentBehindBlock.decidable : (row : List Component) → Decidable (CommentBehindBlock row)
  | [] => .isFalse not_commentBehindBlock_nil
  | .token _ :: cs =>
      have := CommentBehindBlock.decidable cs
      decidable_of_iff _ commentBehindBlock_cons_token.symm
  | .block _ _ _ :: cs =>
      have := CommentBehindBlock.decidable cs
      decidable_of_iff _ commentBehindBlock_cons_block.symm

/-- What holds of the rows that are cut out of a text: comments are tokens. -/
def CommentsAreTokens (row : List Component) : Prop :=
  ∀ c ∈ row, c.isComment = true → ∃ t, c = .token t

theorem CommentsAreTokens.tail {c : Component} {cs : List Component}
    (h : CommentsAreTokens (c :: cs)) : CommentsAreTokens cs :=
  fun d hd => h d (List.mem_cons_of_mem c hd)

theorem withoutComments_cons_token (t : Token) (cs : List Component) :
    withoutComments (.token t :: cs)
      = if t.kind == .comment then withoutComments cs else .token t :: withoutComments cs := by
  have hkind : (Component.token t).isComment = (t.kind == .comment) := rfl
  rw [withoutComments, List.filter_cons, hkind]
  cases t.kind == .comment <;> rfl

theorem withoutComments_cons_block {opening : Token} {body cs : List Component}
    {closing : Option Token} (h : CommentsAreTokens (.block opening body closing :: cs)) :
    withoutComments (.block opening body closing :: cs)
      = .block opening body closing :: withoutComments cs := by
  refine List.filter_cons_of_pos ?_
  by_contra hcomment
  rw [Bool.not_eq_true', Bool.not_eq_false] at hcomment
  obtain ⟨t, ht⟩ := h _ List.mem_cons_self hcomment
  cases ht

/-- With no comment behind a block, comments go and all else stays. -/
theorem textWithoutComments_eq {row : List Component} (hrow : CommentsAreTokens row)
    (h : ¬ CommentBehindBlock row) : textWithoutComments row = textOf (withoutComments row) := by
  induction row with
  | nil => rfl
  | cons c cs ih =>
      cases c with
      | token t =>
          have ih := ih hrow.tail fun hcs => h (commentBehindBlock_cons_token.mpr hcs)
          rw [textWithoutComments, withoutComments_cons_token, ih]
          split
          · rfl
          · rfl
      | block opening body closing =>
          have ih := ih hrow.tail fun hcs => h (commentBehindBlock_cons_block.mpr (.inr hcs))
          rw [textWithoutComments, if_neg fun hnext =>
            h (commentBehindBlock_cons_block.mpr (.inl hnext)), withoutComments_cons_block hrow, ih]
          rfl

/-- Blocks that something follows have a closing bracket, and one sees it. -/
def BlocksAreClosed (row : List Component) : Prop :=
  ∀ front opening body closing next rest,
    row = front ++ .block opening body closing :: next :: rest →
      ∃ bracket, closing = some bracket ∧ 0 < inked bracket.text

theorem BlocksAreClosed.tail {c : Component} {cs : List Component}
    (h : BlocksAreClosed (c :: cs)) : BlocksAreClosed cs := by
  intro front opening body closing next rest hrow
  exact h (c :: front) opening body closing next rest (by rw [hrow]; rfl)

/-- A comment behind a block takes along what no trimming takes. -/
theorem inked_textWithoutComments {row : List Component} (hrow : CommentsAreTokens row)
    (hclosed : BlocksAreClosed row) :
    inked (textWithoutComments row) ≤ inked (textOf (withoutComments row))
      ∧ (CommentBehindBlock row →
        inked (textWithoutComments row) < inked (textOf (withoutComments row))) := by
  induction row with
  | nil => exact ⟨Nat.le_refl _, fun h => absurd h not_commentBehindBlock_nil⟩
  | cons c cs ih =>
      obtain ⟨hle, hlt⟩ := ih hrow.tail hclosed.tail
      cases c with
      | token t =>
          rw [commentBehindBlock_cons_token, textWithoutComments, withoutComments_cons_token]
          split
          · exact ⟨hle, hlt⟩
          · rw [textOf, Component.text, inked_append, inked_append]
            exact ⟨Nat.add_le_add_left hle _, fun h => Nat.add_lt_add_left (hlt h) _⟩
      | block opening body closing =>
          rw [commentBehindBlock_cons_block, textWithoutComments, withoutComments_cons_block hrow,
            textOf, inked_append]
          by_cases hnext : cs.head?.any isComment = true
          · -- of the block the opening stays, and the closing bracket does not
            obtain ⟨next, rest, rfl⟩ : ∃ next rest, cs = next :: rest := by
              cases cs with
              | nil => cases hnext
              | cons next rest => exact ⟨next, rest, rfl⟩
            obtain ⟨bracket, rfl, hpos⟩ := hclosed [] _ _ _ _ _ rfl
            rw [if_pos hnext, inked_append, Component.text, inked_append, inked_append,
              Option.map_some, Option.getD_some]
            exact ⟨by omega, fun _ => by omega⟩
          · rw [if_neg hnext, inked_append]
            exact ⟨Nat.add_le_add_left hle _, fun h =>
              Nat.add_lt_add_left (hlt (h.resolve_left hnext)) _⟩

/-- **What is stored of a row is the row without its comments, trimmed, unless a comment stands
right behind a block. Then it is something else.** -/
theorem storedText_eq_iff {row : List Component} (hrow : CommentsAreTokens row)
    (hclosed : BlocksAreClosed row) :
    storedText row = trim (textOf (withoutComments row)) ↔ ¬ CommentBehindBlock row := by
  refine ⟨?_, ?_⟩
  · intro h hbehind
    have hcount := congrArg inked h
    rw [storedText, inked_trim, inked_trim] at hcount
    exact Nat.ne_of_lt ((inked_textWithoutComments hrow hclosed).2 hbehind) hcount
  · intro h
    rw [storedText, textWithoutComments_eq hrow h]

/-! ## Pieces of a text -/

/-- The pieces of a text of which the text without comments is taken. -/
inductive IsPiece (text : List Char) : List Component → Prop where
  | selector {prelude row : List Component} {b : Option Block} :
      .rule prelude b ∈ Item.ofText text → row ∈ cutWhere (fun c => c.kind == .comma) prelude →
      IsPiece text row
  | value {prelude piece row : List Component} {b : Block} {name : List Char} :
      .rule prelude (some b) ∈ Item.ofText text → piece ∈ cutWhere isSemicolon b.body →
      Declares piece name row → IsPiece text row

/-- What stands where a block does in a nested row. -/
theorem Nested.of_block {stop : Option Kind} {opening : Token} {body rest : List Component}
    {closing : Option Token} (h : Nested stop (.block opening body closing :: rest)) :
    ∃ kind, opening.kind.closer? = some kind ∧ Nested (some kind) body
      ∧ (closing.map Token.kind = some kind ∧ Closed (some kind) body
        ∨ closing = none ∧ rest = []) := by
  have hclosed : ∀ cs, Closed stop (.block opening body closing :: cs) →
      ∃ kind, opening.kind.closer? = some kind ∧ Nested (some kind) body
        ∧ (closing.map Token.kind = some kind ∧ Closed (some kind) body
          ∨ closing = none ∧ rest = []) := by
    intro cs h
    cases h with
    | @block _ _ bracket _ _ ho hbody _ =>
        exact ⟨bracket.kind, ho, .closed hbody, .inl ⟨rfl, hbody⟩⟩
  generalize hrow : Component.block opening body closing :: rest = row at h
  cases h with
  | closed h => exact hclosed rest (hrow ▸ h)
  | @cut _ kind opening' body' cs hcs ho hbody =>
      cases cs with
      | nil =>
          injection hrow with hblock hrest
          injection hblock with hopening hbodies hclosing
          subst hopening hbodies
          exact ⟨kind, ho, hbody, .inr ⟨hclosing, hrest⟩⟩
      | cons c cs =>
          injection hrow with hblock _
          exact hclosed cs (hblock ▸ hcs)

/-- What starts with no opening bracket is a token. -/
theorem Component.Nested.exists_token {stop : Option Kind} {c : Component} {row : List Component}
    (h : Nested stop (c :: row)) (hc : c.kind.closer? = none) : ∃ t, c = .token t := by
  cases c with
  | token t => exact ⟨t, rfl⟩
  | block opening body closing =>
      obtain ⟨kind, ho, _⟩ := Nested.of_block h
      rw [show (Component.block opening body closing).kind = opening.kind from rfl, ho] at hc
      cases hc

/-- An item lies in the components that it is cut from. -/
theorem Item.exists_of_mem_ofText {text : List Char} {i : Item} (h : i ∈ Item.ofText text) :
    ∃ before after, Component.ofText text = before ++ (i.components ++ after) := by
  obtain ⟨is, js, hsplit⟩ := List.append_of_mem h
  have hrow := flatMap_components_ofComponents (Component.ofText text)
  rw [Item.ofText] at hsplit
  rw [hsplit, List.flatMap_append, List.flatMap_cons] at hrow
  exact ⟨_, _, hrow.symm⟩

/-- A row of components that lies in a text, in a nested row. -/
def Lies (text : List Char) (row : List Component) : Prop :=
  ∃ stop before after, Nested stop (before ++ (row ++ after))
    ∧ tokensOf (before ++ (row ++ after)) <:+: tokenize text

theorem Lies.part {text : List Char} {row before after : List Component}
    (h : Lies text (before ++ (row ++ after))) : Lies text row := by
  obtain ⟨stop, before', after', hnested, htokens⟩ := h
  refine ⟨stop, before' ++ before, after ++ after', ?_, ?_⟩
  · simpa using hnested
  · simpa using htokens

theorem lies_ofText (text : List Char) : Lies text (ofText text) := by
  refine ⟨none, [], [], ?_, ?_⟩
  · simpa using nested_ofText text
  · have hall : tokensOf (ofText text) <:+: tokenize text := by
      simp only [tokensOf_ofText, List.infix_refl]
    simpa using hall

/-- What is in a block lies in the text as the block does. -/
theorem Lies.body {text : List Char} {opening : Token} {body : List Component}
    {closing : Option Token} (h : Lies text [.block opening body closing]) : Lies text body := by
  obtain ⟨stop, before, after, hnested, htokens⟩ := h
  obtain ⟨kind, _, hbody, _⟩ := Nested.of_block hnested.of_append
  refine ⟨some kind, [], [], by simpa using hbody, List.IsInfix.trans ?_ htokens⟩
  refine ⟨tokensOf before ++ [opening], closing.toList ++ tokensOf after, ?_⟩
  simp [tokensOf_append, tokensOf, Component.tokens]

/-- A piece of the body of a rule lies in the text of the rule. -/
theorem lies_bodyPiece {text : List Char} {prelude piece : List Component} {b : Block}
    (hmem : Item.rule prelude (some b) ∈ Item.ofText text)
    (hpiece : piece ∈ cutWhere isSemicolon b.body) : Lies text piece := by
  obtain ⟨before, after, hitem⟩ := Item.exists_of_mem_ofText hmem
  have hblock : Lies text [b.component] := by
    have hall := hitem ▸ lies_ofText text
    rw [Item.components, List.append_assoc, ← List.append_assoc before] at hall
    exact hall.part
  obtain ⟨front, rest, hbody, _⟩ := exists_of_mem_cutWhere hpiece
  exact (hbody ▸ hblock.body).part

theorem IsPiece.lies {text : List Char} {row : List Component} (h : IsPiece text row) :
    Lies text row := by
  cases h with
  | @selector prelude _ b hmem hrow =>
      obtain ⟨before, after, hitem⟩ := Item.exists_of_mem_ofText hmem
      obtain ⟨front, rest, rfl, _⟩ := exists_of_mem_cutWhere hrow
      have hlies : Lies text (front ++ (row ++ rest)) := by
        have hall := hitem ▸ lies_ofText text
        cases b with
        | none => exact hall.part
        | some b =>
            rw [Item.components, List.append_assoc] at hall
            exact hall.part
      exact hlies.part
  | @value prelude piece _ b name hmem hpiece hdeclares =>
      have hlies := lies_bodyPiece hmem hpiece
      obtain ⟨lead, t, gap, colon, _, _, _, _, rfl⟩ := hdeclares
      have hvalue : Lies text ((lead ++ t :: (gap ++ [colon])) ++ (row ++ [])) := by
        simpa using hlies
      exact hvalue.part

theorem Lies.commentsAreTokens {text : List Char} {row : List Component} (h : Lies text row) :
    CommentsAreTokens row := by
  intro c hc hcomment
  obtain ⟨stop, before, after, hnested, _⟩ := h
  obtain ⟨front, rest, rfl⟩ := List.append_of_mem hc
  rw [List.append_assoc] at hnested
  refine hnested.of_append.of_append.exists_token ?_
  -- what opens a block is no comment
  rw [show c.kind = .comment from eq_of_beq hcomment]
  rfl

theorem Lies.exists_stands {text : List Char} {row : List Component} (h : Lies text row) {t : Token}
    (ht : t ∈ tokensOf row) : ∃ x, t.Stands x := by
  obtain ⟨_, before, after, _, htokens⟩ := h
  have hmem : t ∈ tokenize text := by
    refine htokens.subset ?_
    simp [tokensOf_append, ht]
  obtain ⟨front, rest, hsplit⟩ := List.append_of_mem hmem
  have hsplit : tokenize text = front ++ ([t] ++ rest) := hsplit
  obtain ⟨x, hstand, _⟩ := exists_stand_of_tokenize hsplit
  exact ⟨_, hstand.1⟩

theorem Lies.blocksAreClosed {text : List Char} {row : List Component} (h : Lies text row) :
    BlocksAreClosed row := by
  intro front opening body closing next rest hrow
  obtain ⟨stop, before, after, hnested, _⟩ := id h
  rw [hrow, List.append_assoc] at hnested
  obtain ⟨kind, ho, _, hclosing⟩ := Nested.of_block hnested.of_append.of_append
  rcases hclosing with ⟨hclosing, _⟩ | ⟨_, hrest⟩
  · obtain ⟨bracket, rfl, rfl⟩ := Option.map_eq_some_iff.mp hclosing
    obtain ⟨_, b, hb, hblank⟩ := Kind.closer?_closer ho
    obtain ⟨x, hx⟩ := h.exists_stands (t := bracket) (by
      simp [hrow, tokensOf_append, tokensOf, Component.tokens])
    refine ⟨bracket, rfl, ?_⟩
    rw [hx.text_eq hb, inked, List.countP_singleton, hblank]
    exact Nat.one_pos
  · exact absurd hrest (by simp)

theorem Lies.exists_text {text : List Char} {row : List Component} (h : Lies text row) :
    ∃ before after, text = before ++ (textOf row ++ after) := by
  obtain ⟨_, before, after, _, front, rest, htokens⟩ := h
  have htext := flatMap_text_tokenize text
  rw [← htokens, List.flatMap_append, List.flatMap_append, ← textOf_eq_flatMap, textOf_append,
    textOf_append] at htext
  refine ⟨front.flatMap Token.text ++ textOf before, textOf after ++ rest.flatMap Token.text, ?_⟩
  rw [← htext]
  simp

/-- Selectors and values are what is stored of the pieces of a text. -/
theorem exists_piece_of_parse {text source : String} {sheet : Stylesheet}
    (hsheet : Stylesheet.parse text source = .ok sheet) {r : Rule} (hr : r ∈ sheet.rules) :
    (∀ s ∈ r.selectors, ∃ row, IsPiece text.toList row ∧ s = String.ofList (storedText row))
      ∧ ∀ d ∈ r.declarations, ∃ row, IsPiece text.toList row
        ∧ d.value = String.ofList (storedText row) := by
  have hstores := (readRules_eq_ok_iff _ _).mp ((parse_eq_ok_iff _ _ _).mp hsheet).1
  obtain ⟨prelude, b, hmem, hselectors, hbody⟩ := hstores.exists_of_mem hr
  refine ⟨?_, ?_⟩
  · intro s hs
    rw [← hselectors, selectorsOf, List.mem_map] at hs
    obtain ⟨_, hs, rfl⟩ := hs
    obtain ⟨row, hrow, rfl⟩ := List.mem_map.mp (List.mem_filter.mp hs).1
    exact ⟨row, .selector hmem hrow, rfl⟩
  · intro d hd
    obtain ⟨piece, hpiece, name, value, hdeclares, rfl⟩ := hbody.exists_of_mem hd
    exact ⟨value, .value hmem hpiece hdeclares, rfl⟩

/--
**Selectors and values are pieces of the text without their comments, unless a comment stands right
behind a block.**

A piece is a stretch of the text, and what is stored of it is that stretch, trimmed, with the
comments deleted that stand in it outside of blocks. If a comment stands right behind a block this
is not what is stored, in no case.
-/
theorem stored_whole_iff (text source : String) :
    (∀ row, IsPiece text.toList row →
      (∃ before after, text.toList = before ++ (textOf row ++ after))
      ∧ (storedText row = trim (textOf (withoutComments row)) ↔ ¬ CommentBehindBlock row))
    ∧ ∀ sheet, Stylesheet.parse text source = .ok sheet → ∀ r ∈ sheet.rules,
      (∀ s ∈ r.selectors, ∃ row, IsPiece text.toList row ∧ s = String.ofList (storedText row))
        ∧ ∀ d ∈ r.declarations, ∃ row, IsPiece text.toList row
          ∧ d.value = String.ofList (storedText row) := by
  refine ⟨?_, fun sheet hsheet r hr => exists_piece_of_parse hsheet hr⟩
  intro row hrow
  have hlies := hrow.lies
  exact ⟨hlies.exists_text, storedText_eq_iff hlies.commentsAreTokens hlies.blocksAreClosed⟩

/-- A comment behind a class is deleted and leaves the class. -/
theorem stored_whole_iff_class :
    ∃ row, IsPiece ".a/* c */.b,p\x7b\x7d".toList row ∧ ¬ CommentBehindBlock row
      ∧ storedText row = ".a.b".toList
      ∧ Stylesheet.parse ".a/* c */.b,p\x7b\x7d" "s" = .ok ⟨"s", [⟨[".a.b", "p"], []⟩]⟩ := by
  let row : List Component := [.token ⟨.delim '.', ['.']⟩, .token ⟨.ident ['a'], ['a']⟩,
    .token ⟨.comment, "/* c */".toList⟩, .token ⟨.delim '.', ['.']⟩, .token ⟨.ident ['b'], ['b']⟩]
  let b : Block := ⟨⟨.openCurly, ['\x7b']⟩, [], some ⟨.closeCurly, ['\x7d']⟩⟩
  have hitems : Item.ofText ".a/* c */.b,p\x7b\x7d".toList
      = [.rule (row ++ [.token ⟨.comma, [',']⟩, .token ⟨.ident ['p'], ['p']⟩]) (some b)] := by
    with_unfolding_all rfl
  have hpiece : IsPiece ".a/* c */.b,p\x7b\x7d".toList row := by
    refine .selector (by rw [hitems]; exact List.mem_cons_self) ?_
    rw [cutWhere_append_separator (by decide) rfl]
    exact List.mem_cons_self
  have hbehind : ¬ CommentBehindBlock row := by decide
  refine ⟨row, hpiece, hbehind, ?_, by decide +kernel⟩
  rw [(((stored_whole_iff ".a/* c */.b,p\x7b\x7d" "s").1 row hpiece).2).mpr hbehind]
  decide

/-- Behind a function a comment takes the arguments and the parenthesis along. -/
theorem stored_loses_arguments :
    ∃ row, IsPiece ".a:not(.b)/* c */.d\x7bx:1\x7d".toList row
      ∧ trim (textOf (withoutComments row)) = ".a:not(.b).d".toList
      ∧ storedText row = ".a:not(.d".toList
      ∧ Stylesheet.parse ".a:not(.b)/* c */.d\x7bx:1\x7d" "s"
        = .ok ⟨"s", [⟨[".a:not(.d"], [⟨"x", "1"⟩]⟩]⟩ := by
  let row : List Component := [.token ⟨.delim '.', ['.']⟩, .token ⟨.ident ['a'], ['a']⟩,
    .token ⟨.colon, [':']⟩, .block ⟨.function "not".toList, "not(".toList⟩
      [.token ⟨.delim '.', ['.']⟩, .token ⟨.ident ['b'], ['b']⟩] (some ⟨.closeParen, [')']⟩),
    .token ⟨.comment, "/* c */".toList⟩, .token ⟨.delim '.', ['.']⟩, .token ⟨.ident ['d'], ['d']⟩]
  let b : Block := ⟨⟨.openCurly, ['\x7b']⟩, [.token ⟨.ident ['x'], ['x']⟩,
    .token ⟨.colon, [':']⟩, .token ⟨.number ⟨none, ['1'], none, none⟩, ['1']⟩],
    some ⟨.closeCurly, ['\x7d']⟩⟩
  have hitems : Item.ofText ".a:not(.b)/* c */.d\x7bx:1\x7d".toList = [.rule row (some b)] := by
    with_unfolding_all rfl
  have hcut : row ∈ cutWhere (fun c => c.kind == .comma) row := by
    rw [cutWhere_eq_singleton (by decide)]
    exact List.mem_cons_self
  exact ⟨row, .selector (by rw [hitems]; exact List.mem_cons_self) hcut, by decide, by decide,
    by decide +kernel⟩

end StyleLookup.Css
