import StyleLookup.Proofs.StoredText

/-!
# Layout at the edges of rows

White space and comments at the start of a rule are no part of it: they become items of their own,
and no rule comes from them. Around a selector or a value they are part of its row, and are taken
off when the row is stored. So of a row only its **core** matters, what is left when the layout at
its start is dropped, and this file says for what.
-/

namespace StyleLookup.Css

open Text Component Lexer Item

/-! ## Rows of layout -/

/-- White space that is made of white space, and comments. -/
def Airy (row : List Component) : Prop :=
  ∀ c ∈ row, ∃ t, c = .token t
    ∧ (t.kind = .comment ∨ t.kind = .blank ∧ ∀ x ∈ t.text, isSpace x = true)

theorem Airy.onlyLayout {row : List Component} (h : Airy row) : OnlyLayout row := by
  intro c hc
  obtain ⟨t, rfl, ht⟩ := h c hc
  rcases ht with ht | ⟨ht, _⟩
  · rw [isLayout, Component.kind, Component.head, ht]; rfl
  · rw [isLayout, Component.kind, Component.head, ht]; rfl

theorem Airy.append {a b : List Component} (ha : Airy a) (hb : Airy b) : Airy (a ++ b) :=
  fun c hc => (List.mem_append.mp hc).elim (ha c) (hb c)

theorem Airy.closed {stop : Option Kind} {row : List Component} (h : Airy row)
    (hstop : ∀ kind ∈ stop, kind.isLayout = false) : Closed stop row := by
  induction row with
  | nil => exact .nil
  | cons c cs ih =>
      have ih := ih fun d hd => h d (List.mem_cons_of_mem _ hd)
      obtain ⟨t, rfl, ht⟩ := h c List.mem_cons_self
      have hlayout : t.kind.isLayout = true := by
        rcases ht with ht | ⟨ht, _⟩
        · rw [ht]; rfl
        · rw [ht]; rfl
      refine .token ?_ ?_ ih
      · revert hlayout
        cases t.kind <;> simp [Kind.isLayout, Kind.closer?]
      · intro hkind
        rw [hstop _ hkind] at hlayout
        exact Bool.false_ne_true hlayout

/-- Layout that lies in a text is what it says. -/
theorem Lies.airy {text : List Char} {row : List Component} (h : Lies text row)
    (hlayout : OnlyLayout row) : Airy row := by
  intro c hc
  obtain ⟨front, rest, hrow⟩ := List.append_of_mem hc
  have hkind := hlayout c hc
  cases c with
  | token t =>
      obtain ⟨x, hx⟩ := h.exists_stands (t := t) (by
        rw [hrow, tokensOf_append]; simp [tokensOf, Component.tokens])
      refine ⟨t, rfl, ?_⟩
      change t.kind.isLayout = true at hkind
      have hblank := hx.isSpace_of_blank
      revert hkind hblank
      cases t.kind <;> simp [Kind.isLayout]
  | block opening body closing =>
      -- what opens a block is no layout
      obtain ⟨stop, before, after, hnested, _⟩ := h
      rw [hrow, List.append_assoc] at hnested
      obtain ⟨kind, ho, _⟩ := Nested.of_block hnested.of_append.of_append
      change opening.kind.isLayout = true at hkind
      revert ho hkind
      cases opening.kind <;> simp [Kind.isLayout, Kind.closer?]

/-! ## Text without comments -/

/-- The row does not end in a block with a comment right behind it. -/
def Parted (front back : List Component) : Prop :=
  ∀ opening body closing, front.getLast? = some (.block opening body closing) →
    back.head?.any isComment = false

theorem textWithoutComments_append {front back : List Component} (h : Parted front back) :
    textWithoutComments (front ++ back)
      = textWithoutComments front ++ textWithoutComments back := by
  induction front with
  | nil => rfl
  | cons c cs ih =>
      have hrest : textWithoutComments (cs ++ back)
          = textWithoutComments cs ++ textWithoutComments back := by
        cases cs with
        | nil => rfl
        | cons d ds =>
            refine ih fun opening body closing hlast => h opening body closing ?_
            rwa [List.getLast?_cons_cons]
      cases c with
      | token t =>
          rw [List.cons_append, textWithoutComments, textWithoutComments, hrest]
          split
          · rfl
          · rw [List.append_assoc]
      | block opening body closing =>
          have hnext : (cs ++ back).head?.any isComment = cs.head?.any isComment := by
            cases cs with
            | nil => exact h _ _ _ rfl
            | cons d ds => rfl
          rw [List.cons_append, textWithoutComments, textWithoutComments, hrest, hnext]
          split
          · rw [List.append_assoc]
          · rw [List.append_assoc]

theorem Airy.parted {front : List Component} (h : Airy front) (back : List Component) :
    Parted front back := by
  intro opening body closing hlast
  obtain ⟨t, ht, _⟩ := h _ (List.mem_of_getLast? hlast)
  cases ht

/-- Of layout only white space is stored. -/
theorem Airy.isBlank {row : List Component} (h : Airy row) :
    ∀ x ∈ textWithoutComments row, isBlank x = true := by
  induction row with
  | nil => exact fun _ hx => absurd hx List.not_mem_nil
  | cons c cs ih =>
      have ih := ih fun d hd => h d (List.mem_cons_of_mem _ hd)
      obtain ⟨t, rfl, ht⟩ := h c List.mem_cons_self
      rw [textWithoutComments]
      rcases ht with ht | ⟨ht, hspace⟩
      · rw [ht]
        exact ih
      · rw [ht, if_neg (by decide)]
        intro x hx
        rcases List.mem_append.mp hx with hx | hx
        · exact isBlank_of_isSpace (hspace x hx)
        · exact ih x hx

/-- Layout in front of a row is not stored. -/
theorem storedText_lead {lead : List Component} (h : Airy lead) (row : List Component) :
    storedText (lead ++ row) = storedText row := by
  rw [storedText, textWithoutComments_append (h.parted row), trim_append_left h.isBlank]
  rfl

/-- Layout behind a row is not stored. -/
theorem storedText_trail {trail : List Component} (h : Airy trail) {row : List Component}
    (hrow : Parted row trail) : storedText (row ++ trail) = storedText row := by
  rw [storedText, textWithoutComments_append hrow, trim_append_right h.isBlank]
  rfl

/-! ## Items -/

theorem isFiller_of_isLayout {c : Component} (h : c.isLayout = true) : isFiller c = true := by
  rw [isFiller, h, Bool.true_or, Bool.true_or]

/-- Layout in front of other components is cut off in items of its own. -/
theorem Item.Cuts.lead {lead cs : List Component} {is : List Item} (hlead : OnlyLayout lead)
    (h : Cuts cs is) : Cuts (lead ++ cs) (lead.map .filler ++ is) := by
  induction lead with
  | nil => exact h
  | cons c lead ih =>
      obtain ⟨hc, hlead⟩ := onlyLayout_cons.mp hlead
      exact .filler (isFiller_of_isLayout hc) (ih hlead)

theorem stores_lead_iff {lead : List Component} {is : List Item} {rs : List Rule} :
    Stores (lead.map .filler ++ is) rs ↔ Stores is rs := by
  induction lead with
  | nil => exact Iff.rfl
  | cons c lead ih =>
      rw [List.map_cons, List.cons_append, ← ih]
      refine ⟨?_, .filler⟩
      intro h
      cases h with
      | filler h => exact h

/-! ## Preludes -/

/-- The kinds of what is no layout. -/
def solidKinds (row : List Component) : List Kind :=
  (row.filter fun c => !c.isLayout).map Component.kind

theorem solidKinds_append (a b : List Component) :
    solidKinds (a ++ b) = solidKinds a ++ solidKinds b := by
  rw [solidKinds, List.filter_append, List.map_append]
  rfl

theorem solidKinds_of_onlyLayout {row : List Component} (h : OnlyLayout row) :
    solidKinds row = [] := by
  rw [solidKinds, List.map_eq_nil_iff, List.filter_eq_nil_iff]
  intro c hc
  rw [h c hc]
  exact Bool.false_ne_true

theorem solidKinds_cons {c : Component} (hc : c.isLayout = false) (cs : List Component) :
    solidKinds (c :: cs) = c.kind :: solidKinds cs := by
  rw [solidKinds, List.filter_cons_of_pos (by rw [hc]; rfl), List.map_cons]
  rfl

/-- Whether a prelude starts like a custom property is seen from the kinds without layout. -/
theorem opensCustomProperty_iff {prelude : List Component}
    (h : ∀ c ∈ prelude.head?, c.isLayout = false) : OpensCustomProperty prelude
      ↔ ∃ name kinds, solidKinds prelude = .ident ('-' :: '-' :: name) :: .colon :: kinds := by
  refine ⟨?_, ?_⟩
  · intro hopens
    obtain ⟨t, name, gap, colon, rest, ht, hgap, hcolon, rfl⟩ := hopens
    refine ⟨name, solidKinds rest, ?_⟩
    rw [solidKinds_cons (isLayout_of_ident ht), solidKinds_append, solidKinds_of_onlyLayout hgap,
      List.nil_append, solidKinds_cons (isLayout_of_colon hcolon), ht, hcolon]
  · intro hkinds
    obtain ⟨name, kinds, hkinds⟩ := hkinds
    cases prelude with
    | nil => cases hkinds
    | cons t cs =>
        rw [solidKinds_cons (h t rfl)] at hkinds
        injection hkinds with ht hcs
        have hsplit := List.takeWhile_append_dropWhile (p := isLayout) (l := cs)
        rw [← hsplit, solidKinds_append, solidKinds_of_onlyLayout (onlyLayout_takeWhile cs),
          List.nil_append] at hcs
        cases hdrop : cs.dropWhile isLayout with
        | nil => rw [hdrop] at hcs; cases hcs
        | cons colon rest =>
            have hcolon : colon.isLayout = false := by
              have hhead := List.head?_dropWhile_not isLayout cs
              rw [hdrop] at hhead
              simpa using hhead
            rw [hdrop, solidKinds_cons hcolon] at hcs
            injection hcs with hkind _
            refine ⟨t, name, _, colon, rest, ht, onlyLayout_takeWhile cs, hkind, ?_⟩
            rw [← hdrop, hsplit]

end StyleLookup.Css
