import StyleLookup.Output.Formatted
import StyleLookup.Proofs.Concatenation
import StyleLookup.Proofs.TrimmedRow

/-!
# Declarations that are printed and read again

The declarations of a rule as text can be put into the braces of another rule, and reading that
rule gives the same declarations. What is printed is a slice of the text that the value was read
from, and it may hold anything that a value may: semicolons and braces in nested blocks, line ends,
brackets that close nothing. So the proof goes by components, not by characters.

* A value without the white space around it is a row of whole components
  (`exists_trimmed_row`), because no token ends in white space.
* In front of a semicolon the tokens of this row are read as before, and the row is closed, so that
  in the new block it is the same row again. A declaration of which this is known is `Printable`.
* Printable declarations, printed, are read as themselves (`exists_printed_body`).
-/

namespace StyleLookup.Css

open Text Component Lexer

/-! ## Declarations of a plain text -/

/-- A declaration that is printed and read as itself; the row is what its value is made of. -/
structure Printable (d : Declaration) (row : List Component) : Prop where
  name : IsName d.property.toList
  value : d.value.toList = textOf row
  trimmed : trim (textOf row) = textOf row
  closed : Closed (some .closeCurly) row
  noSemicolon : ∀ c ∈ row, c.isSemicolon = false
  noComment : ∀ c ∈ row, c.isComment = false
  stands : ∀ s, Stand (tokensOf row) (';' :: s)

/--
A text whose values are printed as they are meant: no escapes, no white space outside ASCII, no
block left open, no string cut by a line end, and no comment in a value. That strings, urls and
comments are closed need not be said of values: what runs to the end of the text leaves open the
block that it stands in.
-/
structure PlainText (text : List Char) : Prop where
  chars : PlainChars text
  blocks : Closed none (Component.ofText text)
  strings : ∀ t ∈ tokenize text, ∀ value, t.kind ≠ .badString value
  values : ∀ prelude b, Item.rule prelude (some b) ∈ Item.ofText text →
    ∀ piece ∈ cutWhere isSemicolon b.body, ∀ name value, Declares piece name value →
      ∀ c ∈ value, c.isComment = false

theorem Stores.exists_of_mem {is : List Item} {rs : List Rule} {r : Rule} (h : Stores is rs)
    (hr : r ∈ rs) : ∃ prelude b, Item.rule prelude (some b) ∈ is
      ∧ selectorsOf prelude = r.selectors
      ∧ Body (cutWhere isSemicolon b.body) r.declarations := by
  induction h with
  | nil => exact absurd hr List.not_mem_nil
  | filler _ ih =>
      obtain ⟨prelude, b, hmem, hbody⟩ := ih hr
      exact ⟨prelude, b, List.mem_cons_of_mem _ hmem, hbody⟩
  | atRule _ ih =>
      obtain ⟨prelude, b, hmem, hbody⟩ := ih hr
      exact ⟨prelude, b, List.mem_cons_of_mem _ hmem, hbody⟩
  | unselected _ _ _ ih =>
      obtain ⟨prelude, b, hmem, hbody⟩ := ih hr
      exact ⟨prelude, b, List.mem_cons_of_mem _ hmem, hbody⟩
  | rule _ hselectors _ hpieces hbody _ ih =>
      rcases List.mem_cons.mp hr with rfl | hr
      · rw [← (pieces_iff _ _ _).mp hpieces] at hbody
        exact ⟨_, _, List.mem_cons_self, (hasSelectors_iff _ _).mp hselectors, hbody⟩
      · obtain ⟨prelude, b, hmem, hbody⟩ := ih hr
        exact ⟨prelude, b, List.mem_cons_of_mem _ hmem, hbody⟩

theorem Body.exists_of_mem {pieces : List (List Component)} {ds : List Declaration}
    {d : Declaration} (h : Body pieces ds) (hd : d ∈ ds) :
    ∃ piece ∈ pieces, ∃ name value, Declares piece name value
      ∧ d = ⟨String.ofList name, String.ofList (storedText value)⟩ := by
  induction h with
  | nil => exact absurd hd List.not_mem_nil
  | layout _ _ ih =>
      obtain ⟨piece, hpiece, hdeclares⟩ := ih hd
      exact ⟨piece, List.mem_cons_of_mem _ hpiece, hdeclares⟩
  | declaration hdeclares _ ih =>
      rcases List.mem_cons.mp hd with rfl | hd
      · exact ⟨_, List.mem_cons_self, _, _, hdeclares, rfl⟩
      · obtain ⟨piece, hpiece, hdeclares⟩ := ih hd
        exact ⟨piece, List.mem_cons_of_mem _ hpiece, hdeclares⟩

/-- Where a piece between separators stands in its row. -/
theorem exists_of_mem_cutWhere {isSeparator : Component → Bool} {cs piece : List Component}
    (h : piece ∈ cutWhere isSeparator cs) : ∃ before after, cs = before ++ (piece ++ after)
      ∧ (∀ c ∈ piece, isSeparator c = false) ∧ ∀ c ∈ after.head?, isSeparator c = true := by
  have hpieces := (pieces_iff isSeparator cs _).mpr rfl
  generalize cutWhere isSeparator cs = pieces at h hpieces
  induction hpieces with
  | last hpiece =>
      rw [List.mem_singleton.mp h]
      exact ⟨[], [], by simp, hpiece, by simp⟩
  | @cons first cs separator pieces hfirst hseparator _ ih =>
      rcases List.mem_cons.mp h with rfl | h
      · exact ⟨[], separator :: cs, rfl, hfirst, by simpa using hseparator⟩
      · obtain ⟨before, after, rfl, hpiece, hafter⟩ := ih h
        exact ⟨first ++ separator :: before, after, by simp, hpiece, hafter⟩

/-- Where the block of a rule stands in the components of a text. -/
theorem Item.Cuts.exists_of_mem {cs prelude : List Component} {is : List Item} {b : Block}
    (h : Cuts cs is) (hmem : Item.rule prelude (some b) ∈ is) :
    ∃ before after, cs = before ++ b.component :: after ∧ b.component.isCurly = true := by
  induction h with
  | nil => exact absurd hmem List.not_mem_nil
  | @filler c _ _ _ _ ih =>
      rcases List.mem_cons.mp hmem with h | h
      · cases h
      · obtain ⟨before, after, rfl, hb⟩ := ih h
        exact ⟨c :: before, after, rfl, hb⟩
  | @atRule c last parts _ _ _ _ _ _ ih =>
      rcases List.mem_cons.mp hmem with h | h
      · cases h
      · obtain ⟨before, after, rfl, hb⟩ := ih h
        exact ⟨c :: parts ++ last :: before, after, by simp, hb⟩
  | openAtRule _ _ =>
      rcases List.mem_cons.mp hmem with h | h
      · cases h
      · exact absurd h List.not_mem_nil
  | @rule prelude' cs b' _ _ _ hb _ ih =>
      rcases List.mem_cons.mp hmem with h | h
      · injection h with _ h
        injection h with h
        subst h
        exact ⟨prelude', cs, rfl, hb⟩
      · obtain ⟨before, after, rfl, hb⟩ := ih h
        exact ⟨prelude' ++ b'.component :: before, after, by simp, hb⟩
  | openRule _ _ _ =>
      rcases List.mem_cons.mp hmem with h | h
      · cases h
      · exact absurd h List.not_mem_nil

theorem textWithoutComments_eq_textOf {row : List Component}
    (h : ∀ c ∈ row, c.isComment = false) : textWithoutComments row = textOf row := by
  induction row with
  | nil => rfl
  | cons c cs ih =>
      have ih := ih fun d hd => h d (List.mem_cons_of_mem c hd)
      cases c with
      | token t =>
          have ht : (t.kind == Kind.comment) = false := h _ List.mem_cons_self
          rw [textWithoutComments, ht, ih]
          rfl
      | block opening body closing =>
          have hnext : cs.head?.any isComment = false := by
            cases cs with
            | nil => rfl
            | cons d ds => exact h d (by simp)
          rw [textWithoutComments, hnext, ih]
          rfl

/-- A semicolon or a closing bracket is a boundary. -/
theorem atBoundary_of_tokenize {x : List Char} {t : Token} {ts : List Token} {c : Char}
    (h : tokenize x = t :: ts) (ht : t.kind.fixed? = some [c]) (hc : isBoundary c = true) :
    x ≠ [] ∧ AtBoundary x := by
  obtain ⟨y, rfl, hstands, _⟩ := tokenize_eq_cons_iff.mp h
  rw [hstands.text_eq ht]
  exact ⟨List.cons_ne_nil c y, atBoundary_cons hc⟩

/-- What stands behind a piece of a body: a semicolon, or the bracket that closes the body. -/
theorem exists_tokensOf_eq_cons {after : List Component} {closing : Token} (rest : List Component)
    (hclosed : Closed (some .closeCurly) after) (hclosing : closing.kind = .closeCurly)
    (hafter : ∀ c ∈ after.head?, c.isSemicolon = true) :
    ∃ t ts c, tokensOf after ++ closing :: tokensOf rest = t :: ts
      ∧ t.kind.fixed? = some [c] ∧ isBoundary c = true := by
  cases hclosed with
  | nil => exact ⟨closing, _, '\x7d', rfl, by rw [hclosing]; rfl, rfl⟩
  | @token _ t cs _ _ _ =>
      have ht : t.kind = .semicolon := eq_of_beq (hafter _ rfl)
      exact ⟨t, _, ';', rfl, by rw [ht]; rfl, rfl⟩
  | @block _ opening closing' body cs ho _ _ =>
      have ht : opening.kind = .semicolon := eq_of_beq (hafter _ rfl)
      rw [ht] at ho
      cases ho

/-- A stretch of a body of a plain text, read where it stands. -/
theorem PlainText.exists_stand {text : List Char} (h : PlainText text)
    {before after front row back : List Component} {opening closing : Token}
    (hrow : Component.ofText text
      = before ++ .block opening (front ++ (row ++ back)) (some closing) :: after) :
    ∃ x, Stand (tokensOf row) x
      ∧ tokenize x = tokensOf back ++ closing :: tokensOf after
      ∧ PlainChars (textOf row ++ x)
      ∧ ∀ t ∈ tokensOf row, ∀ value, t.kind ≠ .badString value := by
  have htokens : tokenize text = (tokensOf before ++ opening :: tokensOf front)
      ++ (tokensOf row ++ (tokensOf back ++ closing :: tokensOf after)) := by
    rw [← tokensOf_ofText, hrow]
    simp [tokensOf_append, tokensOf, Component.tokens]
  obtain ⟨x, hstand, hx, hsuffix⟩ := exists_stand_of_tokenize htokens
  rw [textOfTokens_tokensOf] at hsuffix
  refine ⟨x, hstand, hx, h.chars.of_suffix hsuffix, ?_⟩
  intro t ht
  refine h.strings t ?_
  rw [htokens]
  simp [ht]

/-- The blocks of the rules of a plain text are closed. -/
theorem PlainText.exists_closed_block {text : List Char} (h : PlainText text)
    {prelude : List Component} {b : Block} (hmem : Item.rule prelude (some b) ∈ Item.ofText text) :
    ∃ before after closing, closing.kind = .closeCurly ∧ Closed (some .closeCurly) b.body
      ∧ Component.ofText text = before ++ .block b.opening b.body (some closing) :: after := by
  obtain ⟨before, after, hrow, hcurly⟩ :=
    (Item.cuts_ofComponents (nested_ofText text)).exists_of_mem hmem
  have hclosed := h.blocks
  rw [hrow] at hclosed
  obtain ⟨opening, body, closing?⟩ := b
  cases hclosed.of_append.2 with
  | @block _ _ closing _ _ ho hbody _ =>
      have hopening : opening.kind = .openCurly := eq_of_beq hcurly
      rw [hopening] at ho
      have hclosing : closing.kind = .closeCurly := (Option.some.inj ho).symm
      exact ⟨before, after, closing, hclosing, hclosing ▸ hbody, hrow⟩

/-- The names of declarations in a plain text are written as they are kept. -/
theorem PlainText.isName {text name : List Char} (h : PlainText text)
    {before after front back : List Component} {opening closing : Token} {t : Component}
    (hrow : Component.ofText text
      = before ++ .block opening (front ++ ([t] ++ back)) (some closing) :: after)
    (hclosed : Closed (some .closeCurly) [t]) (ht : t.kind = .ident name) : IsName name := by
  obtain ⟨word, rfl⟩ := hclosed.exists_token (by rw [ht]; rfl)
  obtain ⟨x, hstand, _, hplain, _⟩ := h.exists_stand hrow
  rw [textOf, textOf, List.append_nil, Component.text] at hplain
  exact hstand.1.isName ht hplain.noEscape

/-- **The declarations of a plain text can be printed.** -/
theorem PlainText.exists_printable {text : List Char} (h : PlainText text)
    {prelude : List Component} {b : Block} (hmem : Item.rule prelude (some b) ∈ Item.ofText text)
    {piece : List Component} (hpiece : piece ∈ cutWhere isSemicolon b.body)
    {name : List Char} {value : List Component} (hdeclares : Declares piece name value) :
    ∃ row, Printable ⟨String.ofList name, String.ofList (storedText value)⟩ row := by
  have hcomment := h.values prelude b hmem piece hpiece name value hdeclares
  obtain ⟨before, after, closing, hclosing, hbodyclosed, hrow⟩ := h.exists_closed_block hmem
  obtain ⟨front, back, hbody, hsemi, hback⟩ := exists_of_mem_cutWhere hpiece
  obtain ⟨lead, t, gap, colon, _, ht, _, _, rfl⟩ := hdeclares
  rw [hbody] at hrow hbodyclosed
  obtain ⟨hpiececlosed, hbackclosed⟩ := hbodyclosed.of_append.2.of_append
  have hname : IsName name := by
    have hplace : Component.ofText text = before ++ .block b.opening
        ((front ++ lead) ++ ([t] ++ ((gap ++ colon :: value) ++ back))) (some closing)
          :: after := by
      rw [hrow]
      simp
    exact h.isName hplace (Closed.of_append (a := [t]) hpiececlosed.of_append.2).1 ht
  -- the value is a stretch of the body, up to a semicolon or the end of the body
  have hplace : Component.ofText text = before ++ .block b.opening
      ((front ++ (lead ++ t :: (gap ++ [colon]))) ++ (value ++ back)) (some closing) :: after := by
    rw [hrow]
    simp
  obtain ⟨x, hstand, hx, hplain, hcut⟩ := h.exists_stand hplace
  obtain ⟨p, ps, c, hps, hp, hc⟩ := exists_tokensOf_eq_cons after hbackclosed hclosing hback
  rw [hps] at hx
  obtain ⟨hne, hboundary⟩ := atBoundary_of_tokenize hx hp hc
  have hvalueclosed : Closed (some .closeCurly) value := by
    have hall : Closed (some .closeCurly) ((lead ++ t :: (gap ++ [colon])) ++ value) := by
      simpa using hpiececlosed
    exact hall.of_append.2
  obtain ⟨vlead, core, trail, rfl, hcore, hcorestand⟩ :=
    exists_trimmed_row hvalueclosed hstand hplain hne hboundary hcut
  refine ⟨core, ⟨?_, ?_, ?_, ?_, ?_, ?_, hcorestand⟩⟩
  · rw [String.toList_ofList]
    exact hname
  · rw [String.toList_ofList, hcore, storedText, textWithoutComments_eq_textOf hcomment]
  · rw [hcore, trim_trim]
  · exact hvalueclosed.of_append.1.of_append.2
  · intro d hd
    exact hsemi d (by simp [hd])
  · intro d hd
    exact hcomment d (by simp [hd])

/-! ## Printing and reading -/

/-- A character of white space as a token. -/
def blankToken (c : Char) : Token := ⟨.blank, [c]⟩

theorem stands_blankToken {c : Char} {s : List Char} (hc : isSpace c = true)
    (hs : ∀ d ∈ s.head?, isSpace d = false) : (blankToken c).Stands s := by
  refine ⟨c, [], rfl, ?_⟩
  rw [next_eq, if_pos hc, List.nil_append]
  cases s with
  | nil => rfl
  | cons d ds =>
      rw [List.dropWhile_cons_of_neg]
      · rfl
      · rw [hs d rfl]
        exact Bool.false_ne_true

/-- A declaration as a row of components: a name, a colon, a blank, the value and a semicolon. -/
def printedRow (d : Declaration) (row : List Component) : List Component :=
  .token ⟨.ident d.property.toList, d.property.toList⟩ :: .token ⟨.colon, [':']⟩
    :: .token (blankToken ' ') :: (row ++ [.token ⟨.semicolon, [';']⟩])

theorem textOf_printedRow {d : Declaration} {row : List Component} (h : Printable d row) :
    textOf (printedRow d row) = declarationLine d := by
  simp [printedRow, declarationLine, textOf_append, textOf, Component.text, blankToken, h.value]

theorem Printable.closed_printedRow {d : Declaration} {row : List Component}
    (h : Printable d row) : Closed (some .closeCurly) (printedRow d row) := by
  have hsemicolon : Closed (some .closeCurly) [.token ⟨.semicolon, [';']⟩] :=
    .token rfl (by simp) .nil
  exact .token rfl (by simp) (.token rfl (by simp) (.token rfl (by simp [blankToken])
    (h.closed.append hsemicolon)))

theorem Printable.stand_printedRow {d : Declaration} {row : List Component}
    (h : Printable d row) (s : List Char) : Stand (tokensOf (printedRow d row)) s := by
  -- the blank behind the colon is a token alone, because the value starts with no white space
  have hvalue : ∀ c ∈ (textOf row ++ ';' :: s).head?, isSpace c = false := by
    intro c hc
    rw [← h.trimmed] at hc
    cases htrim : trim (textOf row) with
    | nil =>
        rw [htrim] at hc
        rw [← Option.some.inj hc]
        decide
    | cons b bs =>
        rw [htrim] at hc
        rw [← Option.some.inj hc]
        exact isSpace_of_isBlank_eq_false (head?_trim (textOf row) b (by rw [htrim]; rfl))
  have htokens : tokensOf (printedRow d row)
      = ⟨.ident d.property.toList, d.property.toList⟩ :: ⟨.colon, [':']⟩ :: blankToken ' '
        :: (tokensOf row ++ [⟨.semicolon, [';']⟩]) := by
    simp [printedRow, tokensOf, tokensOf_append, Component.tokens]
  have hrow : Stand (tokensOf row ++ [⟨.semicolon, [';']⟩]) s :=
    stand_append.mpr ⟨h.stands s, stands_of_fixed rfl _, trivial⟩
  have htext : textOfTokens (tokensOf row ++ [⟨.semicolon, [';']⟩]) ++ s
      = textOf row ++ ';' :: s := by
    rw [textOfTokens_append, textOfTokens_tokensOf, List.append_assoc]
    rfl
  rw [htokens]
  refine ⟨h.name.stands (atBoundary_cons rfl), stands_of_fixed rfl _, ?_, hrow⟩
  rw [htext]
  exact stands_blankToken rfl hvalue

theorem Printable.head?_printedRow {d : Declaration} {row : List Component} (h : Printable d row)
    (s : List Char) : ∀ c ∈ (textOf (printedRow d row) ++ s).head?, isSpace c = false := by
  obtain ⟨hident, hall⟩ := h.name
  intro c hc
  rw [textOf_printedRow h, declarationLine] at hc
  cases hname : d.property.toList with
  | nil =>
      rw [hname] at hident
      exact absurd hident Bool.false_ne_true
  | cons b bs =>
      rw [hname] at hc hall
      rw [← Option.some.inj hc]
      exact isSpace_of_isNameChar (hall b List.mem_cons_self).1

/-- A printed declaration declares what it was printed from. -/
theorem Printable.body_cons {d : Declaration} {row : List Component} (h : Printable d row)
    {rest : List Component} {ds : List Declaration} (hrest : Body (cutWhere isSemicolon rest) ds) :
    Body (cutWhere isSemicolon (.token (blankToken '\n') :: (printedRow d row ++ rest)))
      (d :: ds) := by
  -- the line end in front is layout of the piece, the semicolon ends it
  let name : Component := .token ⟨.ident d.property.toList, d.property.toList⟩
  let piece := .token (blankToken '\n') :: name :: .token ⟨.colon, [':']⟩
    :: .token (blankToken ' ') :: row
  have hpiece : ∀ c ∈ piece, c.isSemicolon = false := by
    intro c hc
    simp only [piece, List.mem_cons] at hc
    rcases hc with rfl | rfl | rfl | rfl | hc
    · rfl
    · rfl
    · rfl
    · rfl
    · exact h.noSemicolon c hc
  have hsplit : .token (blankToken '\n') :: (printedRow d row ++ rest)
      = piece ++ .token ⟨.semicolon, [';']⟩ :: rest := by
    simp [piece, name, printedRow]
  have hdeclares : Declares piece d.property.toList (.token (blankToken ' ') :: row) :=
    ⟨[.token (blankToken '\n')], name, [], .token ⟨.colon, [':']⟩,
      onlyLayout_cons.mpr ⟨rfl, onlyLayout_nil⟩, rfl, onlyLayout_nil, rfl, rfl⟩
  have hvalue : storedText (.token (blankToken ' ') :: row) = d.value.toList := by
    have hcomment : ∀ c ∈ .token (blankToken ' ') :: row, c.isComment = false := by
      intro c hc
      rcases List.mem_cons.mp hc with rfl | hc
      · rfl
      · exact h.noComment c hc
    rw [storedText, textWithoutComments_eq_textOf hcomment, h.value, ← h.trimmed]
    exact trim_cons_of_isBlank rfl _
  have hbody := Body.declaration hdeclares hrest
  rw [hvalue, String.ofList_toList, String.ofList_toList] at hbody
  rw [hsplit, cutWhere_append_separator hpiece rfl]
  exact hbody

/-- Printed declarations, each in front of a line end. -/
theorem exists_printed_body {ds : List Declaration} (h : ∀ d ∈ ds, ∃ row, Printable d row)
    (s : List Char) : ∃ body, Closed (some .closeCurly) body ∧ Stand (tokensOf body) ('\x7d' :: s)
      ∧ textOf body = ds.flatMap (fun d => '\n' :: declarationLine d) ++ ['\n']
      ∧ Body (cutWhere isSemicolon body) ds := by
  induction ds with
  | nil =>
      refine ⟨[.token (blankToken '\n')], .token rfl (by simp [blankToken]) .nil, ?_, rfl, ?_⟩
      · exact ⟨stands_blankToken rfl (by simp; rfl), trivial⟩
      · exact .layout (onlyLayout_cons.mpr ⟨rfl, onlyLayout_nil⟩) .nil
  | cons d ds ih =>
      obtain ⟨row, hrow⟩ := h d List.mem_cons_self
      obtain ⟨body, hclosed, hstand, htext, hbody⟩ :=
        ih fun e he => h e (List.mem_cons_of_mem d he)
      -- every line end stands in front of a name or of the closing bracket
      refine ⟨.token (blankToken '\n') :: (printedRow d row ++ body), ?_, ?_, ?_, ?_⟩
      · exact .token rfl (by simp [blankToken]) (hrow.closed_printedRow.append hclosed)
      · rw [tokensOf, tokensOf_append, Component.tokens, List.singleton_append]
        refine ⟨stands_blankToken rfl ?_, stand_append.mpr ⟨?_, hstand⟩⟩
        · rw [textOfTokens_append, textOfTokens_tokensOf, List.append_assoc]
          exact hrow.head?_printedRow _
        · exact hrow.stand_printedRow _
      · rw [textOf, textOf_append, textOf_printedRow hrow, htext, List.flatMap_cons,
          List.append_assoc]
        rfl
      · exact hrow.body_cons hbody

theorem joinWith_declarationLine (ds : List Declaration) (hne : ds ≠ []) :
    '\n' :: joinWith ['\n'] (ds.map declarationLine)
      = ds.flatMap (fun d => '\n' :: declarationLine d) := by
  induction ds with
  | nil => exact absurd rfl hne
  | cons d ds ih =>
      cases ds with
      | nil => simp [joinWith]
      | cons e es =>
          have ih := ih (List.cons_ne_nil e es)
          rw [List.flatMap_cons, ← ih, List.map_cons, List.map_cons, joinWith]
          · simp
          · exact List.cons_ne_nil _ _

/-- The declarations as text, between line ends, as a body. -/
theorem exists_body_of_declarationLines {ds : List Declaration}
    (h : ∀ d ∈ ds, ∃ row, Printable d row) (s : List Char) :
    ∃ body, Closed (some .closeCurly) body ∧ Stand (tokensOf body) ('\x7d' :: s)
      ∧ textOf body = '\n' :: ((declarationLines ds).toList ++ ['\n'])
      ∧ Body (cutWhere isSemicolon body) ds := by
  rw [declarationLines, String.toList_ofList]
  by_cases hne : ds = []
  · -- without declarations the two line ends are one stretch of white space
    subst hne
    refine ⟨[.token ⟨.blank, ['\n', '\n']⟩], .token rfl (by simp) .nil, ?_, rfl, ?_⟩
    · exact ⟨⟨'\n', ['\n'], rfl, rfl⟩, trivial⟩
    · exact .layout (onlyLayout_cons.mpr ⟨rfl, onlyLayout_nil⟩) .nil
  · obtain ⟨body, hclosed, hstand, htext, hbody⟩ := exists_printed_body h s
    refine ⟨body, hclosed, hstand, ?_, hbody⟩
    rw [htext, ← joinWith_declarationLine ds hne]
    rfl

/-- A body in the braces of a rule is read as the body of that rule. -/
theorem readRules_of_body {body : List Component} {ds : List Declaration}
    (hclosed : Closed (some .closeCurly) body) (hstand : Stand (tokensOf body) ['\x7d'])
    (hbody : Body (cutWhere isSemicolon body) ds) :
    readRules ('.' :: 'x' :: '\x7b' :: (textOf body ++ ['\x7d'])) = .ok [⟨[".x"], ds⟩] := by
  let prelude : List Component := [.token ⟨.delim '.', ['.']⟩, .token ⟨.ident ['x'], ['x']⟩]
  let b : Block := ⟨⟨.openCurly, ['\x7b']⟩, body, some ⟨.closeCurly, ['\x7d']⟩⟩
  have hrow : Closed none (prelude ++ [b.component]) :=
    .token rfl (by simp) (.token rfl (by simp) (.block rfl hclosed .nil))
  have htokens : tokensOf (prelude ++ [b.component])
      = ⟨.delim '.', ['.']⟩ :: ⟨.ident ['x'], ['x']⟩ :: ⟨.openCurly, ['\x7b']⟩
        :: (tokensOf body ++ [⟨.closeCurly, ['\x7d']⟩]) := by
    simp [prelude, b, Block.component, tokensOf, Component.tokens]
  have hstandrow : Stand (tokensOf (prelude ++ [b.component])) [] := by
    rw [htokens]
    have hname : IsName ['x'] := ⟨rfl, List.forall_mem_singleton.mpr ⟨rfl, by decide⟩⟩
    refine ⟨⟨'.', [], rfl, rfl⟩, hname.stands (atBoundary_cons rfl),
      stands_of_fixed rfl _, stand_append.mpr ⟨hstand, stands_of_fixed rfl _, trivial⟩⟩
  have htext : '.' :: 'x' :: '\x7b' :: (textOf body ++ ['\x7d'])
      = textOfTokens (tokensOf (prelude ++ [b.component])) ++ [] := by
    rw [htokens, List.append_nil, textOfTokens_cons, textOfTokens_cons, textOfTokens_cons,
      textOfTokens_append, textOfTokens_tokensOf]
    rfl
  have hcomponents : Component.ofText ('.' :: 'x' :: '\x7b' :: (textOf body ++ ['\x7d']))
      = prelude ++ [b.component] := by
    rw [htext, Component.ofText, tokenize_append hstandrow, tokenize, List.append_nil,
      ofTokens_eq_iff]
    exact ⟨.closed hrow, rfl⟩
  have hitems : Item.ofComponents (prelude ++ [b.component]) = [.rule prelude (some b)] := by
    rw [Item.ofComponents_rule (by decide) (by decide) rfl, Item.ofComponents]
  have hcustom : ¬ OpensCustomProperty prelude := by
    rw [← startsCustomProperty_iff]
    decide
  have hselectors : selectorsOf prelude = [".x"] := by decide
  have hrule : (Item.rule prelude (some b)).rule? = .ok (some ⟨[".x"], ds⟩) :=
    (ruleOf_eq_ok_iff _ _ _).mpr ⟨hcustom, b, ds, rfl, hbody, by rw [hselectors]; rfl⟩
  rw [readRules, hcomponents, hitems, rulesOf_cons hrule]
  rfl

/-- **Printable declarations are read from what is printed of them.** -/
theorem parse_declarationLines {ds : List Declaration} (h : ∀ d ∈ ds, ∃ row, Printable d row)
    (source : String) :
    Stylesheet.parse (".x\x7b\n" ++ declarationLines ds ++ "\n\x7d") source
      = .ok ⟨source, [⟨[".x"], ds⟩]⟩ := by
  obtain ⟨body, hclosed, hstand, htext, hbody⟩ := exists_body_of_declarationLines h []
  have hread := readRules_of_body hclosed hstand hbody
  rw [parse_eq_ok_iff]
  refine ⟨?_, rfl⟩
  rw [← hread, htext]
  simp

/-- The rules of a plain text are printable. -/
theorem PlainText.exists_printable_of_mem {text source : String} {sheet : Stylesheet}
    (h : PlainText text.toList) (hsheet : Stylesheet.parse text source = .ok sheet) {r : Rule}
    (hr : r ∈ sheet.rules) : ∀ d ∈ r.declarations, ∃ row, Printable d row := by
  intro d hd
  have hstores := (readRules_eq_ok_iff _ _).mp ((parse_eq_ok_iff _ _ _).mp hsheet).1
  obtain ⟨prelude, b, hmem, _, hbody⟩ := hstores.exists_of_mem hr
  obtain ⟨piece, hpiece, name, value, hdeclares, rfl⟩ := hbody.exists_of_mem hd
  exact h.exists_printable hmem hpiece hdeclares

/--
**The declarations of a rule can be written down and read again.**

Put as text into the braces of another rule, the declarations of any rule of a plain text that is
accepted are the declarations of that rule: the same names and values in the same order. So rules
of plain texts that are written alike have the same declarations.
-/
theorem declarationLines_roundTrip (text source : String) (sheet : Stylesheet)
    (h : PlainText text.toList) (hsheet : Stylesheet.parse text source = .ok sheet) :
    (∀ r ∈ sheet.rules, ∀ name,
      Stylesheet.parse (".x\x7b\n" ++ declarationLines r.declarations ++ "\n\x7d") name
        = .ok ⟨name, [⟨[".x"], r.declarations⟩]⟩)
    ∧ ∀ text' source' sheet', PlainText text'.toList →
      Stylesheet.parse text' source' = .ok sheet' → ∀ r ∈ sheet.rules, ∀ r' ∈ sheet'.rules,
        r.declarations ≠ r'.declarations →
          declarationLines r.declarations ≠ declarationLines r'.declarations := by
  have hround : ∀ text source sheet, PlainText text.toList →
      Stylesheet.parse text source = .ok sheet → ∀ r ∈ sheet.rules, ∀ name,
        Stylesheet.parse (".x\x7b\n" ++ declarationLines r.declarations ++ "\n\x7d") name
          = .ok ⟨name, [⟨[".x"], r.declarations⟩]⟩ := by
    intro text source sheet h hsheet r hr name
    exact parse_declarationLines (h.exists_printable_of_mem hsheet hr) name
  refine ⟨hround text source sheet h hsheet, ?_⟩
  intro text' source' sheet' h' hsheet' r hr r' hr' hne hlines
  have hr := hround text source sheet h hsheet r hr "s"
  have hr' := hround text' source' sheet' h' hsheet' r' hr' "s"
  rw [hlines, hr'] at hr
  injection hr with hr
  injection hr with _ hr
  injection hr with hr
  injection hr with _ hr
  exact hne hr.symm

/-- A value with a semicolon and braces in its parentheses, and an empty value. -/
theorem declarationLines_roundTrip_nested :
    PlainText ".a\x7bb: f(;\x7b\x7d)\n;c:\x7d".toList
    ∧ Stylesheet.parse ".a\x7bb: f(;\x7b\x7d)\n;c:\x7d" "s"
      = .ok ⟨"s", [⟨[".a"], [⟨"b", "f(;\x7b\x7d)"⟩, ⟨"c", ""⟩]⟩]⟩
    ∧ Stylesheet.parse ".x\x7b\nb: f(;\x7b\x7d);\nc: ;\n\x7d" "t"
      = .ok ⟨"t", [⟨[".x"], [⟨"b", "f(;\x7b\x7d)"⟩, ⟨"c", ""⟩]⟩]⟩ := by
  let body : List Component := [.token ⟨.ident ['b'], ['b']⟩, .token ⟨.colon, [':']⟩,
    .token ⟨.blank, [' ']⟩, .block ⟨.function ['f'], ['f', '(']⟩ [.token ⟨.semicolon, [';']⟩,
      .block ⟨.openCurly, ['\x7b']⟩ [] (some ⟨.closeCurly, ['\x7d']⟩)]
      (some ⟨.closeParen, [')']⟩), .token ⟨.blank, ['\n']⟩, .token ⟨.semicolon, [';']⟩,
    .token ⟨.ident ['c'], ['c']⟩, .token ⟨.colon, [':']⟩]
  let b : Block := ⟨⟨.openCurly, ['\x7b']⟩, body, some ⟨.closeCurly, ['\x7d']⟩⟩
  have htext : Component.ofText ".a\x7bb: f(;\x7b\x7d)\n;c:\x7d".toList
      = [.token ⟨.delim '.', ['.']⟩, .token ⟨.ident ['a'], ['a']⟩, b.component] := by
    with_unfolding_all rfl
  have hitems : Item.ofText ".a\x7bb: f(;\x7b\x7d)\n;c:\x7d".toList
      = [.rule [.token ⟨.delim '.', ['.']⟩, .token ⟨.ident ['a'], ['a']⟩] (some b)] := by
    with_unfolding_all rfl
  have hplain : PlainText ".a\x7bb: f(;\x7b\x7d)\n;c:\x7d".toList := by
    refine ⟨⟨by simp, ?_⟩, ?_, ?_, ?_⟩
    · have hascii : ".a\x7bb: f(;\x7b\x7d)\n;c:\x7d".toList.all
          (fun c => decide (c.toNat < 128)) = true := by decide +kernel
      exact fun c hc _ => of_decide_eq_true (List.all_eq_true.mp hascii c hc)
    · rw [htext]
      repeat first
        | exact .nil
        | refine .token rfl (by simp) ?_
        | refine .block rfl ?_ ?_
    · rw [← tokensOf_ofText, htext]
      simp [b, body, Block.component, tokensOf, Component.tokens]
    · intro prelude b' hmem piece hpiece name value hdeclares c hc
      rw [hitems] at hmem
      injection List.mem_singleton.mp hmem with _ hb
      injection hb with hb
      subst hb
      obtain ⟨before, after, hbody, _⟩ := exists_of_mem_cutWhere hpiece
      obtain ⟨lead, t, gap, colon, _, _, _, _, rfl⟩ := hdeclares
      have hall : ∀ d ∈ body, d.isComment = false := by decide
      refine hall c ?_
      rw [show body = _ from hbody]
      simp [hc]
  have hsheet : Stylesheet.parse ".a\x7bb: f(;\x7b\x7d)\n;c:\x7d" "s"
      = .ok ⟨"s", [⟨[".a"], [⟨"b", "f(;\x7b\x7d)"⟩, ⟨"c", ""⟩]⟩]⟩ := by decide +kernel
  refine ⟨hplain, hsheet, ?_⟩
  exact (declarationLines_roundTrip _ _ _ hplain hsheet).1 _ List.mem_cons_self "t"

end StyleLookup.Css
