import StyleLookup.Proofs.LeadingLayout
import StyleLookup.Proofs.Seam

/-!
# Rows in their place

`Sits stop row x` says all that later files use of a row that was read somewhere: its tokens are
read in front of `x`, and its blocks are closed unless the text ends behind it. A text is read as a
row exactly if the row sits in front of nothing (`sits_ofText`, `Sits.ofText_eq`). What sits behind
one another can be taken apart and put together again (`sits_append`), and so can a block in curly
brackets (`sits_curly_iff`), so that a text can be changed in one place and the rest stays.
-/

namespace StyleLookup.Css

open Text Component Lexer

/--
In front of `x` the row is what is read, inside of a block that `stop` closes. What the row leaves
open the end of the text closes.
-/
structure Sits (stop : Option Kind) (row : List Component) (x : List Char) : Prop where
  nested : Nested stop row
  closed : x ≠ [] → Closed stop row
  stand : Stand (tokensOf row) x

variable {stop : Option Kind} {row a b : List Component} {x y : List Char}

theorem sits_nil : Sits stop [] x := ⟨.closed .nil, fun _ => .nil, trivial⟩

theorem Component.Closed.sits (h : Closed stop row) (hstand : Stand (tokensOf row) x) :
    Sits stop row x := ⟨.closed h, fun _ => h, hstand⟩

theorem eq_nil_of_textOf (h : Stand (tokensOf row) x) (htext : textOf row = []) : row = [] := by
  cases row with
  | nil => rfl
  | cons c cs =>
      rw [← textOfTokens_tokensOf, textOfTokens, List.flatMap_eq_nil_iff] at htext
      obtain ⟨t, ts, ht⟩ : ∃ t ts, tokensOf (c :: cs) = t :: ts := by
        cases c with
        | token t => exact ⟨t, tokensOf cs, rfl⟩
        | block opening body closing => exact ⟨opening, _, rfl⟩
      rw [ht] at h htext
      exact absurd (htext t List.mem_cons_self) h.1.text_ne_nil

/-! ## Rows one behind the other -/

theorem Component.Nested.closed_of_append (h : Nested stop (a ++ b)) (hb : b ≠ []) :
    Closed stop a := by
  generalize hrow : a ++ b = row at h
  cases h with
  | closed h => exact (hrow ▸ h : Closed stop (a ++ b)).of_append.1
  | @cut _ kind opening body cs hcs ho hbody =>
      rcases List.eq_nil_or_concat' b with rfl | ⟨front, last, rfl⟩
      · exact absurd rfl hb
      · rw [← List.append_assoc] at hrow
        obtain ⟨hfront, _⟩ := List.append_inj' hrow rfl
        rw [← hfront] at hcs
        exact hcs.of_append.1

theorem sits_append :
    Sits stop (a ++ b) x ↔ Sits stop a (textOf b ++ x) ∧ Sits stop b x := by
  refine ⟨?_, ?_⟩
  · intro h
    have hstand := h.stand
    rw [tokensOf_append, stand_append, textOfTokens_tokensOf] at hstand
    refine ⟨⟨?_, ?_, hstand.1⟩, h.nested.of_append, fun hx => (h.closed hx).of_append.2, hstand.2⟩
    · cases b with
      | nil => rw [← List.append_nil a]; exact h.nested
      | cons c cs => exact .closed (h.nested.closed_of_append (List.cons_ne_nil c cs))
    · intro hne
      cases b with
      | nil => exact (h.closed hne).of_append.1
      | cons c cs => exact h.nested.closed_of_append (List.cons_ne_nil c cs)
  · intro h
    obtain ⟨ha, hb⟩ := h
    by_cases hne : textOf b ++ x = []
    · obtain ⟨htext, rfl⟩ := List.append_eq_nil_iff.mp hne
      rw [eq_nil_of_textOf hb.stand htext] at ha ⊢
      rw [List.append_nil]
      exact ha
    · have hclosed := ha.closed hne
      refine ⟨hclosed.nested_append hb.nested, fun hx => hclosed.append (hb.closed hx), ?_⟩
      rw [tokensOf_append, stand_append, textOfTokens_tokensOf]
      exact ⟨ha.stand, hb.stand⟩

/-- A token that stands in a row. -/
theorem Sits.token {t : Token} (h : Sits stop (.token t :: row) x) :
    t.Stands (textOf row ++ x) ∧ t.kind.closer? = none := by
  have hstand : t.Stands (textOfTokens (tokensOf row) ++ x) := h.stand.1
  rw [textOfTokens_tokensOf] at hstand
  exact ⟨hstand, h.nested.closer?_eq_none⟩

/-- A token that no block starts with is a component of its own. -/
theorem Sits.exists_token {c : Component} (h : Sits stop (c :: row) x)
    (hc : c.kind.closer? = none) : ∃ t, c = .token t :=
  h.nested.exists_token hc

theorem sits_token_iff {t : Token} (ht : t.kind.closer? = none) (hstop : stop ≠ some t.kind) :
    Sits stop (.token t :: row) x ↔ t.Stands (textOf row ++ x) ∧ Sits stop row x := by
  have hclosed : Closed stop [.token t] := .token ht hstop .nil
  have happend : Sits stop ([.token t] ++ row) x ↔ _ := sits_append
  refine happend.trans (and_congr_left' ⟨fun h => h.stand.1, fun h => hclosed.sits ⟨h, trivial⟩⟩)

/-- Layout in a row is what it says. -/
theorem Sits.airy (h : Sits stop row x) (hlayout : OnlyLayout row) : Airy row := by
  induction row with
  | nil => exact fun _ hc => absurd hc List.not_mem_nil
  | cons c cs ih =>
      obtain ⟨hc, hcs⟩ := onlyLayout_cons.mp hlayout
      obtain ⟨t, rfl⟩ := h.exists_token (by
        rw [isLayout] at hc
        revert hc
        cases c.kind <;> simp [Kind.isLayout, Kind.closer?])
      have hblank := h.token.1.isSpace_of_blank
      have ih := ih (sits_append (a := [.token t])|>.mp h).2 hcs
      intro d hd
      rcases List.mem_cons.mp hd with rfl | hd
      · refine ⟨t, rfl, ?_⟩
        change t.kind.isLayout = true at hc
        revert hc hblank
        cases t.kind <;> simp [Kind.isLayout]
      · exact ih d hd

/-! ## Whole texts -/

theorem sits_ofText (s : List Char) : Sits none (ofText s) [] := by
  have htokens : tokenize s = tokenize s ++ [] := (List.append_nil _).symm
  obtain ⟨x, _, hstand, hx⟩ := tokenize_eq_append_iff.mp htokens
  refine ⟨nested_ofText s, fun h => absurd rfl h, ?_⟩
  cases x with
  | nil => rwa [tokensOf_ofText]
  | cons c cs => rw [tokenize] at hx; cases hx

theorem Sits.ofText_eq (h : Sits none row []) : ofText (textOf row) = row := by
  have hread := tokenize_append h.stand
  rw [List.append_nil, textOfTokens_tokensOf] at hread
  refine (ofTokens_eq_iff _ _).mpr ⟨h.nested, ?_⟩
  rw [hread, tokenize, List.append_nil]

/-! ## Rows in front of something else -/

/-- In front of a text that is firm a row sits as in front of any other. -/
theorem Sits.move (h : Sits stop row x) (hne : x ≠ []) (hx : Firm x) (hy : Firm y) :
    Sits stop row y :=
  (h.closed hne).sits ((h.closed hne).stand h.stand hx hy fun hnil => absurd hnil hne)

/-! ## Blocks in curly brackets -/

/-- The brackets. -/
def openCurly : Token := ⟨.openCurly, ['\x7b']⟩

def closeCurly : Token := ⟨.closeCurly, ['\x7d']⟩

/-- What closes a block, as a text. -/
def Block.closingText (b : Block) : List Char := (b.closing.map Token.text).getD []

theorem Block.closingText_eq (b : Block) : b.closingText = textOfTokens b.closing.toList := by
  rw [Block.closingText]
  cases b.closing with
  | none => rfl
  | some t => exact (List.append_nil _).symm

theorem stand_block {b : Block} : Stand (tokensOf [b.component]) x
    ↔ b.opening.Stands (textOf b.body ++ (b.closingText ++ x))
      ∧ Stand (tokensOf b.body) (b.closingText ++ x) ∧ Stand b.closing.toList x := by
  have htokens : tokensOf [b.component]
      = b.opening :: (tokensOf b.body ++ b.closing.toList) := List.append_nil _
  rw [htokens, Stand, stand_append, textOfTokens_append, textOfTokens_tokensOf, List.append_assoc,
    b.closingText_eq]

theorem Token.Stands.eq_of_fixed {t : Token} {w : List Char} (h : t.Stands x)
    (hw : t.kind.fixed? = some w) : t = ⟨t.kind, w⟩ := by
  rw [← h.text_eq hw]

/-- A block has both brackets, or the text ends in it. -/
theorem sits_curly_iff {b : Block} (hb : b.component.isCurly = true) :
    Sits stop (b.component :: row) x ↔ b.opening = openCurly
      ∧ (b.closing = some closeCurly ∨ b.closing = none ∧ row = [] ∧ x = [])
      ∧ Sits (some .closeCurly) b.body (b.closingText ++ (textOf row ++ x)) ∧ Sits stop row x := by
  have hkind : b.opening.kind = .openCurly := eq_of_beq hb
  have hcloser : b.opening.kind.closer? = some .closeCurly := by rw [hkind]; rfl
  have happend : Sits stop ([b.component] ++ row) x ↔ _ := sits_append
  refine happend.trans ⟨?_, ?_⟩
  · intro h
    obtain ⟨hblock, hrow⟩ := h
    obtain ⟨hopening, hbody, hclosing⟩ := stand_block.mp hblock.stand
    obtain ⟨kind, ho, hnested, hcut⟩ := Nested.of_block (happend.mpr ⟨hblock, hrow⟩).nested
    rw [hcloser] at ho
    injection ho with ho
    subst ho
    have hopen : b.opening = openCurly := by
      have hopen := hopening.eq_of_fixed (w := ['\x7b']) (by rw [hkind]; rfl)
      rwa [hkind] at hopen
    refine ⟨hopen, ?_, ?_, hrow⟩
    · rcases hcut with ⟨hmap, _⟩ | ⟨hnone, rfl⟩
      · obtain ⟨bracket, hbracket, hkind⟩ := Option.map_eq_some_iff.mp hmap
        rw [hbracket] at hclosing ⊢
        have hclose := hclosing.1.eq_of_fixed (w := ['\x7d']) (by rw [hkind]; rfl)
        rw [hkind] at hclose
        exact .inl (congrArg some hclose)
      · refine .inr ⟨hnone, rfl, ?_⟩
        by_contra hne
        have hclosed := hblock.closed hne
        rw [Block.component, hnone] at hclosed
        cases hclosed
    · rcases hcut with ⟨_, hclosed⟩ | ⟨hnone, rfl⟩
      · exact hclosed.sits hbody
      · refine ⟨hnested, ?_, hbody⟩
        intro hne
        rw [Block.closingText, hnone] at hne
        have hclosed := hblock.closed hne
        rw [Block.component, hnone] at hclosed
        cases hclosed
  · intro h
    obtain ⟨hopening, hclosing, hbody, hrow⟩ := h
    refine ⟨?_, hrow⟩
    have hstand : Stand (tokensOf [b.component]) (textOf row ++ x) := by
      refine stand_block.mpr ⟨?_, hbody.stand, ?_⟩
      · rw [hopening]
        exact stands_of_fixed rfl _
      · rcases hclosing with hclosing | ⟨hclosing, _⟩
        · rw [hclosing]
          exact ⟨stands_of_fixed rfl _, trivial⟩
        · rw [hclosing]
          exact trivial
    rcases hclosing with hclosing | ⟨hclosing, rfl, rfl⟩
    · have hclosed : Closed (some .closeCurly) b.body := by
        refine hbody.closed ?_
        rw [Block.closingText, hclosing]
        exact List.cons_ne_nil _ _
      rw [Block.component, hclosing] at hstand ⊢
      exact (Closed.block hcloser hclosed .nil).sits hstand
    · rw [Block.component, hclosing] at hstand ⊢
      have hcut : Nested stop ([] ++ [.block b.opening b.body none]) :=
        .cut .nil hcloser hbody.nested
      exact ⟨hcut, fun hne => absurd rfl hne, hstand⟩

end StyleLookup.Css
