import Mathlib.Data.List.Forall2
import StyleLookup.Proofs.Relayout

/-!
# Layout never matters

A stylesheet that is accepted is accepted with layout put between its items and between the parts of
its rules, and gives the same rules. The first part is what layout in front of an item comes to:
items of its own, of which nothing is stored. Then the items are taken one by one
(`RelaidItem.stores`); an item that has no places for layout has to be read as before in front of
the items behind it, which have changed.
-/

namespace StyleLookup.Css

open Text Component Lexer

theorem isLayout_of_mem_none : ∀ kind ∈ (none : Option Kind), kind.isLayout = false :=
  fun _ h => absurd h (Option.not_mem_none _)

/-- A row that sits in front of a text is what is read there. -/
theorem Sits.ofText_append {row : List Component} {x : List Char} (h : Sits none row x) :
    ofText (textOf row ++ x) = row ++ ofText x := by
  have hall : Sits none (row ++ ofText x) [] := by
    refine sits_append.mpr ⟨?_, sits_ofText x⟩
    rw [textOf_ofText, List.append_nil]
    exact h
  rw [← hall.ofText_eq, textOf_append, textOf_ofText]

/-- A row, and what is left of it without the layout at its start. -/
theorem Sits.exists_core {stop : Option Kind} {row : List Component} {x : List Char}
    (h : Sits stop row x) : ∃ lead core, row = lead ++ core ∧ Airy lead
      ∧ ∀ c ∈ core.head?, c.isLayout = false := by
  have hsplit := List.takeWhile_append_dropWhile (p := isLayout) (l := row)
  refine ⟨row.takeWhile isLayout, row.dropWhile isLayout, hsplit.symm, ?_, ?_⟩
  · rw [← hsplit] at h
    exact (sits_append.mp h).1.airy (onlyLayout_takeWhile row)
  · intro c hc
    have hhead := List.head?_dropWhile_not isLayout row
    rw [hc] at hhead
    simpa using hhead

theorem Item.cuts_ofText (s : List Char) : Cuts (Component.ofText s) (Item.ofText s) :=
  cuts_ofComponents (nested_ofText s)

/-- **Layout in front of a text is not stored.** -/
theorem stores_layout_iff {l : List Char} (hl : Layout l) (s : List Char) (rs : List Rule) :
    Stores (Item.ofText (l ++ s)) rs ↔ Stores (Item.ofText s) rs := by
  obtain ⟨row', htext, hsits, lead, lead', core, hlead, hlead', hrow, rfl⟩ :=
    exists_led isLayout_of_mem_none hl (sits_ofText s) (by simp)
  rw [textOf_ofText] at htext
  obtain ⟨is, his⟩ := Item.exists_cuts core hsits.nested.of_append
  rw [Item.ofText, Item.ofText, ← htext, hsits.ofText_eq, hrow,
    (his.lead hlead.onlyLayout).ofComponents_eq, (his.lead hlead'.onlyLayout).ofComponents_eq,
    stores_lead_iff, stores_lead_iff]

/-! ## Items without places for layout -/

/-- Behind the end of an at-rule any text may stand. -/
theorem Sits.move_ended {front : List Component} {last : Component} {x : List Char}
    (h : Sits none (front ++ [last]) x) (hx : x ≠ []) (hlast : Item.endsAtRule last = true)
    (y : List Char) : Sits none (front ++ [last]) y := by
  obtain ⟨hfront, hend⟩ := sits_append.mp h
  rw [Item.endsAtRule, Bool.or_eq_true] at hlast
  rcases hlast with hsemicolon | hcurly
  · obtain ⟨rfl, _, hput⟩ := isMark_semicolon.sits_cons (by simp) (eq_of_beq hsemicolon) hend
    exact sits_append.mpr ⟨hfront.move (List.cons_ne_nil _ _) (isMark_semicolon.firm_textOf [] x)
      (isMark_semicolon.firm_textOf [] y), hput sits_nil⟩
  · have hnested : Nested none ([] ++ [last]) := hend.nested
    obtain ⟨b, rfl⟩ := Item.exists_block_of_isCurly hnested hcurly
    obtain ⟨hopening, hclosing, hbody, _⟩ := (sits_curly_iff hcurly).mp hend
    have hclosing : b.closing = some closeCurly :=
      hclosing.resolve_right fun hopen => hx hopen.2.2
    have hbracket : b.closingText = ['\x7d'] := by rw [Block.closingText, hclosing]; rfl
    rw [hbracket] at hbody
    have hopen : ∀ z, textOf [b.component] ++ z = '\x7b' :: (textOf b.body ++ ('\x7d' :: z)) := by
      intro z
      simp [textOf, Block.component, Component.text, hopening, hclosing, openCurly, closeCurly]
    rw [hopen] at hfront
    refine sits_append.mpr ⟨?_, (sits_curly_iff hcurly).mpr ⟨hopening, .inl hclosing, ?_, sits_nil⟩⟩
    · rw [hopen]
      exact hfront.move (List.cons_ne_nil _ _) (firm_cons (by decide) _) (firm_cons (by decide) _)
    · rw [hbracket]
      exact hbody.move (List.cons_ne_nil _ _) (firm_cons (by decide) _) (firm_cons (by decide) _)

/-! ## Rules -/

theorem selectorsOf_of_same {prelude prelude' : List Component}
    (h : List.Forall₂ (fun piece piece' => storedText piece' = storedText piece)
      (cutWhere (fun c => c.kind == .comma) prelude)
      (cutWhere (fun c => c.kind == .comma) prelude')) :
    selectorsOf prelude' = selectorsOf prelude := by
  have hmap : (cutWhere (fun c => c.kind == .comma) prelude').map storedText
      = (cutWhere (fun c => c.kind == .comma) prelude).map storedText := by
    rw [← List.forall₂_eq_eq_eq, List.forall₂_map_left_iff, List.forall₂_map_right_iff]
    exact h.flip
  rw [selectorsOf, selectorsOf, hmap]

theorem selectorsOf_lead {lead : List Component} (h : Airy lead) (core : List Component) :
    selectorsOf (lead ++ core) = selectorsOf core := by
  have hfree : ∀ c ∈ lead, (c.kind == .comma) = false := by
    intro c hc
    refine beq_eq_false_iff_ne.mpr fun hkind => ?_
    have hlayout := h.onlyLayout c hc
    rw [isLayout, hkind] at hlayout
    cases hlayout
  obtain ⟨p, ps, _, hcut, _⟩ := exists_cutWhere_eq_cons (fun c => c.kind == .comma) core
  rw [selectorsOf, selectorsOf, cutWhere_append hfree hcut, hcut, List.map_cons, List.map_cons,
    storedText_lead h]

/-- A prelude with the same kinds starts a rule as well. -/
theorem startsRule_of_solidKinds {prelude core : List Component}
    (hprelude : ∀ c ∈ prelude.head?, Item.startsRule c = true)
    (hcore : ∀ c ∈ core.head?, c.isLayout = false) (hkinds : solidKinds core = solidKinds prelude) :
    (∀ c ∈ core.head?, Item.startsRule c = true)
      ∧ (OpensCustomProperty core ↔ OpensCustomProperty prelude) := by
  have hsolid : ∀ c ∈ prelude.head?, c.isLayout = false := by
    intro c hc
    have hstart := hprelude c hc
    rw [← Bool.not_eq_true]
    intro hlayout
    rw [Item.startsRule, isFiller_of_isLayout hlayout] at hstart
    cases hstart
  refine ⟨?_, ?_⟩
  · intro c hc
    obtain ⟨cs, rfl⟩ := List.head?_eq_some_iff.mp hc
    rw [solidKinds_cons (hcore c rfl)] at hkinds
    cases prelude with
    | nil => cases hkinds
    | cons d ds =>
        rw [solidKinds_cons (hsolid d rfl)] at hkinds
        have hstart := hprelude d rfl
        rw [Item.startsRule, Item.isFiller, Item.isAtKeyword, isLayout] at hstart ⊢
        rw [(List.cons.inj hkinds).1]
        exact hstart
  · rw [opensCustomProperty_iff hcore, opensCustomProperty_iff hsolid, hkinds]

theorem isCurly_of_solidKinds {row row' : List Component} (h : solidKinds row' = solidKinds row)
    (hrow : ∀ c ∈ row, c.isCurly = false) : ∀ c ∈ row', c.isCurly = false := by
  intro c hc
  refine beq_eq_false_iff_ne.mpr fun hkind => ?_
  have hmem := (mem_solidKinds rfl).mpr ⟨c, hc, hkind⟩
  rw [h] at hmem
  obtain ⟨d, hd, hkind⟩ := (mem_solidKinds rfl).mp hmem
  have hcurly := hrow d hd
  rw [isCurly, hkind] at hcurly
  cases hcurly

/-- The block with another body. -/
def Block.withBody (b : Block) (body : List Component) : Block := ⟨b.opening, body, b.closing⟩

section Block

variable {b : Block} {prelude cs cs' : List Component}
variable {head before behind body last : List Char}

/-- A prelude sits firmly in front of a block. -/
theorem firm_block (hopening : b.opening = openCurly) (cs : List Component) :
    Firm (textOf (b.component :: cs) ++ []) ∧ textOf (b.component :: cs) ++ [] ≠ [] := by
  rw [textOf, Block.component, Component.text, hopening]
  exact ⟨firm_cons (by decide) _, List.cons_ne_nil _ _⟩

/-- A body sits firmly in front of its bracket, or of nothing if the text ends there. -/
theorem firm_closing
    (h : b.closing = some closeCurly ∨ b.closing = none ∧ cs = [] ∧ ([] : List Char) = []) :
    Firm (b.closingText ++ (textOf cs ++ [])) := by
  rw [Block.closingText]
  rcases h with h | ⟨h, rfl, _⟩
  · rw [h]
    exact firm_cons (by decide) _
  · rw [h]
    exact fun _ hc => absurd hc (by simp [textOf])

/-- A prelude with layout put between its selectors. -/
theorem Spaced.replaces_prelude (h : Spaced .comma Unchanged prelude head) :
    Replaces none prelude head fun prelude' =>
      List.Forall₂ (fun piece piece' => storedText piece' = storedText piece)
        (cutWhere (fun c => c.kind == .comma) prelude)
        (cutWhere (fun c => c.kind == .comma) prelude') :=
  h.replaces isMark_comma (by simp) fun piece _ text htext => by
    rw [htext]
    exact replaces_self isLayout_of_mem_none piece

/-- A body with layout put into it, in front of other rows than before. -/
theorem exists_relaid_body (hbody : Spaced .semicolon RelaidPiece b.body body)
    (hpieces : ∀ piece ∈ cutWhere isSemicolon b.body,
      OnlyLayout piece ∨ ∃ name value, Declares piece name value)
    (hsits : Sits (some .closeCurly) b.body (b.closingText ++ (textOf cs ++ [])))
    (hclosing : b.closing = some closeCurly ∨ b.closing = none ∧ cs = [] ∧ ([] : List Char) = [])
    (hclosing' : b.closing = some closeCurly
      ∨ b.closing = none ∧ cs' = [] ∧ ([] : List Char) = [])
    (hbehind : Layout behind) (hlast : FitsBehind b.body last)
    (hopen : b.closing = none → last = []) :
    ∃ body', textOf body' = behind ++ (body ++ last)
      ∧ Sits (some .closeCurly) body' (b.closingText ++ (textOf cs' ++ []))
      ∧ List.Forall₂ SameDeclaration (cutWhere isSemicolon b.body)
        (cutWhere isSemicolon body') := by
  have hcut : b.closingText ++ (textOf cs ++ []) = [] →
      last = [] ∧ b.closingText ++ (textOf cs' ++ []) = [] := by
    intro hnil
    rcases hclosing' with h | ⟨h, rfl, _⟩
    · rw [Block.closingText, h] at hnil
      cases hnil
    · refine ⟨hopen h, ?_⟩
      rw [Block.closingText, h]
      rfl
  obtain ⟨body', htext, hsits', _, hsame⟩ :=
    hbody.replaces isMark_semicolon (by simp)
      (fun piece hpiece _ h => h.replaces (hpieces piece hpiece))
      hsits (firm_closing hclosing) (firm_closing hclosing') hbehind hlast hcut
  exact ⟨body', htext, hsits', hsame⟩

/-- The rows of a rule with layout put into it, in front of other rows than before. -/
theorem exists_relaid_rule (hhead : Spaced .comma Unchanged prelude head)
    (hbefore : FitsBehind prelude before) (hbehind : Layout behind)
    (hbody : Spaced .semicolon RelaidPiece b.body body) (hlast : FitsBehind b.body last)
    (hopen : b.closing = none → last = []) (hsits : Sits none (prelude ++ b.component :: cs) [])
    (hb : b.component.isCurly = true)
    (hpieces : ∀ piece ∈ cutWhere isSemicolon b.body,
      OnlyLayout piece ∨ ∃ name value, Declares piece name value)
    (hcs' : Sits none cs' []) (hend : cs = [] → cs' = []) :
    ∃ prelude' body', textOf (prelude' ++ (b.withBody body').component :: cs')
        = head ++ (before ++ (b.opening.text ++ (behind ++ (body ++ (last ++ b.closingText)))))
          ++ textOf cs'
      ∧ Sits none (prelude' ++ (b.withBody body').component :: cs') []
      ∧ solidKinds prelude' = solidKinds prelude
      ∧ List.Forall₂ (fun piece piece' => storedText piece' = storedText piece)
        (cutWhere (fun c => c.kind == .comma) prelude)
        (cutWhere (fun c => c.kind == .comma) prelude')
      ∧ List.Forall₂ SameDeclaration (cutWhere isSemicolon b.body)
        (cutWhere isSemicolon body') := by
  obtain ⟨hpreludesits, hblocksits⟩ := sits_append.mp hsits
  obtain ⟨hopening, hclosing, hbodysits, _⟩ := (sits_curly_iff hb).mp hblocksits
  have hclosing' : b.closing = some closeCurly
      ∨ b.closing = none ∧ cs' = [] ∧ ([] : List Char) = [] :=
    hclosing.imp_right fun hopen => ⟨hopen.1, hend hopen.2.1, rfl⟩
  obtain ⟨body', hbodytext, hbodysits', hsame⟩ :=
    exists_relaid_body hbody hpieces hbodysits hclosing hclosing' hbehind hlast hopen
  have hblocksits' : Sits none ((b.withBody body').component :: cs') [] :=
    (sits_curly_iff (b := b.withBody body') hb).mpr ⟨hopening, hclosing', hbodysits', hcs'⟩
  obtain ⟨hfirm, hne⟩ := firm_block hopening cs
  obtain ⟨prelude', hpreludetext, hpreludesits', hkinds, hstored⟩ :=
    hhead.replaces_prelude hpreludesits hfirm (firm_block (b := b.withBody body') hopening cs').1
      .nil hbefore fun hnil => absurd hnil hne
  refine ⟨prelude', body', ?_, sits_append.mpr ⟨hpreludesits', hblocksits'⟩, hkinds, hstored, hsame⟩
  rw [textOf_append, textOf, Block.component, Component.text, hpreludetext, Block.withBody,
    hbodytext]
  simp [Block.closingText]

end Block

/-- The rule of the rows is the rule of the old ones. -/
theorem rule?_of_same {prelude lead core : List Component} {b b' : Block} {r : Option Rule}
    (h : (Item.rule prelude (some b)).rule? = .ok r) (hlead : Airy lead)
    (hcustom : OpensCustomProperty core ↔ OpensCustomProperty prelude)
    (hselectors : List.Forall₂ (fun piece piece' => storedText piece' = storedText piece)
      (cutWhere (fun c => c.kind == .comma) prelude)
      (cutWhere (fun c => c.kind == .comma) (lead ++ core)))
    (hsame : List.Forall₂ SameDeclaration (cutWhere isSemicolon b.body)
      (cutWhere isSemicolon b'.body)) :
    (Item.rule core (some b')).rule? = .ok r := by
  rw [Item.rule?, ruleOf_eq_ok_iff] at h ⊢
  obtain ⟨hplain, _, ds, hblock, hds, hr⟩ := h
  injection hblock with hblock
  subst hblock
  refine ⟨fun h => hplain (hcustom.mp h), b', ds, rfl, body_of_same hsame hds, ?_⟩
  rw [hr, ← selectorsOf_of_same hselectors, selectorsOf_lead hlead]

/-- A rule with layout put into it is stored as it was. -/
theorem stores_rule_of_relaid {prelude cs : List Component} {b : Block}
    {head before behind body last rest : List Char} {is : List Item} {rs : List Rule}
    (hhead : Spaced .comma Unchanged prelude head) (hbefore : FitsBehind prelude before)
    (hbehind : Layout behind) (hbody : Spaced .semicolon RelaidPiece b.body body)
    (hlast : FitsBehind b.body last) (hopen : b.closing = none → last = [])
    (hsits : Sits none (prelude ++ b.component :: cs) [])
    (hstart : ∀ c ∈ prelude.head?, Item.startsRule c = true)
    (hprelude : ∀ c ∈ prelude, c.isCurly = false) (hb : b.component.isCurly = true)
    (hend : cs = [] → rest = []) (hs : Stores (.rule prelude (some b) :: is) rs)
    (hrest : ∀ rs, Stores is rs → Stores (Item.ofText rest) rs) :
    Stores (Item.ofText (head ++ (before ++ (b.opening.text ++ (behind ++ (body ++ (last
      ++ b.closingText))))) ++ rest)) rs := by
  obtain ⟨found, more, hrule, hmore, rfl⟩ := stores_cons_iff.mp hs
  obtain ⟨_, _, ds, hblock, hds, _⟩ := (ruleOf_eq_ok_iff prelude (some b) found).mp hrule
  injection hblock with hblock
  subst hblock
  obtain ⟨prelude', body', htext, hsits', hkinds, hselectors, hsame⟩ :=
    exists_relaid_rule hhead hbefore hbehind hbody hlast hopen hsits hb
      ((exists_body_iff _).mp ⟨ds, hds⟩) (sits_ofText rest)
      fun hnil => by rw [hend hnil, ofText, tokenize]; rfl
  rw [textOf_ofText] at htext
  -- the layout in front of the new prelude is cut off before the rule starts
  obtain ⟨lead, core, rfl, hlead, hcore⟩ := (sits_append.mp hsits').1.exists_core
  have hcorekinds : solidKinds core = solidKinds prelude := by
    rw [← hkinds, solidKinds_append, solidKinds_of_onlyLayout hlead.onlyLayout, List.nil_append]
  obtain ⟨hcorestart, hcustom⟩ := startsRule_of_solidKinds hstart hcore hcorekinds
  have hcuts : Item.Cuts (lead ++ (core ++ (b.withBody body').component :: ofText rest))
      (lead.map .filler ++ .rule core (some (b.withBody body')) :: Item.ofText rest) :=
    Item.Cuts.lead hlead.onlyLayout (.rule hcorestart (isCurly_of_solidKinds hcorekinds hprelude) hb
      (Item.cuts_ofText rest))
  rw [← htext, Item.ofText, hsits'.ofText_eq, List.append_assoc, hcuts.ofComponents_eq,
    stores_lead_iff, stores_cons_iff]
  exact ⟨found, more, rule?_of_same hrule hlead hcustom hselectors hsame, hrest more hmore, rfl⟩

/-! ## Stylesheets -/

theorem Item.Cuts.eq_nil {is : List Item} (h : Cuts [] is) : is = [] := by
  rw [← h.ofComponents_eq, ofComponents]

/-- An item that is not changed, in front of a text. -/
theorem stores_of_append {row front cs : List Component} {i : Item} {is : List Item}
    {rest : List Char} {rs : List Rule} (hrow : row = front ++ cs) (hcuts : Item.Cuts row (i :: is))
    (hcs : Item.Cuts cs is) (hsits : Sits none row []) (hend : is = [] → rest = [])
    (hnone : i.rule? = .ok none) (hs : Stores (i :: is) rs)
    (hrest : ∀ rs, Stores is rs → Stores (Item.ofText rest) rs)
    (hfront : textOf cs ++ [] ≠ [] → Stores (Item.ofText rest) rs →
      Stores (Item.ofText (textOf front ++ rest)) rs) :
    Stores (Item.ofText (textOf front ++ rest)) rs := by
  obtain ⟨found, more, hfound, hmore, rfl⟩ := stores_cons_iff.mp hs
  rw [hnone] at hfound
  rw [← Except.ok.inj hfound] at hs hfront ⊢
  by_cases hnil : cs = []
  · -- the item is all of the text
    subst hnil
    rw [hend hcs.eq_nil, List.append_nil]
    rw [List.append_nil] at hrow
    rw [← hrow, Item.ofText, hsits.ofText_eq, hcuts.ofComponents_eq]
    exact hs
  · refine hfront ?_ (hrest more hmore)
    rw [List.append_nil]
    intro htext
    rw [hrow] at hsits
    exact hnil (eq_nil_of_textOf (sits_append.mp hsits).2.stand htext)

/-- What stands between items, in front of a text. -/
theorem stores_filler_append {c : Component} {x rest : List Char} {rs : List Rule}
    (hc : Item.isFiller c = true) (hsits : Sits none [c] x) (hx : x ≠ [])
    (hrest : Stores (Item.ofText rest) rs) : Stores (Item.ofText (textOf [c] ++ rest)) rs := by
  by_cases hlayout : c.isLayout = true
  · have hairy := hsits.airy (onlyLayout_cons.mpr ⟨hlayout, onlyLayout_nil⟩)
    exact (stores_layout_iff (hairy.layout hsits.stand hx) rest rs).mpr hrest
  · -- a mark of embedding is read in front of any text
    have hplain : ∃ w, c.kind.fixed? = some w ∧ c.kind.closer? = none := by
      rw [Item.isFiller, eq_false_of_ne_true hlayout, Bool.false_or, Bool.or_eq_true, beq_iff_eq,
        beq_iff_eq] at hc
      rcases hc with hc | hc
      · exact ⟨_, by rw [hc]; rfl, by rw [hc]; rfl⟩
      · exact ⟨_, by rw [hc]; rfl, by rw [hc]; rfl⟩
    obtain ⟨w, hw, hcloser⟩ := hplain
    obtain ⟨t, rfl⟩ := hsits.exists_token hcloser
    have htext : t.text = w := hsits.token.1.text_eq hw
    have hput : Sits none [.token t] rest :=
      (sits_token_iff hcloser (by simp)).mpr
        ⟨stands_of_fixed (t := t) (by rw [htext]; exact hw) _, sits_nil⟩
    have hcuts : Item.Cuts ([.token t] ++ ofText rest) (.filler (.token t) :: Item.ofText rest) :=
      .filler hc (Item.cuts_ofText rest)
    rw [Item.ofText, hput.ofText_append, hcuts.ofComponents_eq]
    exact .filler hrest

/--
**One item with layout put into it is stored as it was,** whatever stands behind it, if that is
stored as it was. At the end of the text nothing may come behind the item.
-/
theorem RelaidItem.stores {row : List Component} {i : Item} {is : List Item}
    {text rest : List Char} {rs : List Rule} (h : RelaidItem i text)
    (hcuts : Item.Cuts row (i :: is)) (hsits : Sits none row []) (hend : is = [] → rest = [])
    (hs : Stores (i :: is) rs)
    (hrest : ∀ rs, Stores is rs → Stores (Item.ofText rest) rs) :
    Stores (Item.ofText (text ++ rest)) rs := by
  cases h with
  | @filler c =>
      have htext : c.text = textOf [c] := (List.append_nil _).symm
      rw [htext]
      cases id hcuts with
      | @filler _ cs _ hc hcs =>
          refine stores_of_append rfl hcuts hcs hsits hend rfl hs hrest fun hne hrest => ?_
          exact stores_filler_append hc (sits_append.mp hsits).1 hne hrest
  | @atRule parts =>
      cases id hcuts with
      | @atRule c last parts cs _ hc hparts hlast hcs =>
          have hrow : c :: parts ++ last :: cs = (c :: parts ++ [last]) ++ cs := by simp
          refine stores_of_append hrow hcuts hcs hsits hend rfl hs hrest fun hne hrest => ?_
          rw [hrow] at hsits
          have hput := (sits_append.mp hsits).1.move_ended hne hlast rest
          have hcuts : Item.Cuts ((c :: parts ++ [last]) ++ ofText rest)
              (.atRule (c :: parts ++ [last]) :: Item.ofText rest) := by
            rw [List.append_assoc]
            exact .atRule hc hparts hlast (Item.cuts_ofText rest)
          rw [Item.ofText, hput.ofText_append, hcuts.ofComponents_eq]
          exact .atRule hrest
      | openAtRule hc hparts =>
          exact stores_of_append (List.append_nil _).symm hcuts .nil hsits hend rfl hs hrest
            fun hne => absurd rfl hne
  | rule hhead hbefore hbehind hbody hlast hopen =>
      cases hcuts with
      | @rule prelude cs b _ hstart hprelude hb hcs =>
          refine stores_rule_of_relaid hhead hbefore hbehind hbody hlast hopen hsits hstart hprelude
            hb ?_ hs hrest
          intro hnil
          subst hnil
          exact hend hcs.eq_nil

theorem Relaid.eq_nil {text : List Char} (h : Relaid [] text) : text = [] := by
  cases h
  rfl

/-- What is stored of items is stored of them with layout put into them. -/
theorem Relaid.stores {is : List Item} {text : List Char} (h : Relaid is text)
    {row : List Component} {rs : List Rule} (hcuts : Item.Cuts row is) (hsits : Sits none row [])
    (hs : Stores is rs) : Stores (Item.ofText text) rs := by
  induction h generalizing row rs with
  | nil => exact (readRules_eq_ok_iff [] rs).mp (by cases hs; exact readRules_nil)
  | @cons i is l text rest hl hitem hrelaid ih =>
      rw [stores_layout_iff hl]
      -- the items behind are those of the rows behind
      obtain ⟨front, cs, hrow, hcs⟩ : ∃ front cs, row = front ++ cs ∧ Item.Cuts cs is := by
        cases hcuts with
        | @filler c cs _ _ hcs => exact ⟨[c], cs, rfl, hcs⟩
        | @atRule c last parts cs _ _ _ _ hcs => exact ⟨c :: parts ++ [last], cs, by simp, hcs⟩
        | @openAtRule c parts _ _ => exact ⟨c :: parts, [], by simp, .nil⟩
        | @rule prelude cs b _ _ _ _ hcs => exact ⟨prelude ++ [b.component], cs, by simp, hcs⟩
        | openRule => exact ⟨row, [], by simp, .nil⟩
      have hback := (sits_append.mp (hrow ▸ hsits)).2
      refine hitem.stores hcuts hsits ?_ hs fun rs' hs' => ih hcs hback hs'
      intro hnil
      subst hnil
      exact hrelaid.eq_nil

/--
**Layout never matters.**

White space and comments may be put between the items of a text that is accepted and in front of the
first, around the curly brackets of its rules, around the commas of their preludes and the
semicolons of their bodies, and around the colons of declarations: what is accepted stays accepted,
with the same rules. Only right behind a block, where a comment takes the block along, no comment
may be put.
-/
theorem parse_relaid (text text' source : String) (sheet : Stylesheet)
    (hsheet : Stylesheet.parse text source = .ok sheet)
    (h : Relaid (Item.ofText text.toList) text'.toList) :
    Stylesheet.parse text' source = .ok sheet := by
  rw [parse_eq_ok_iff, readRules_eq_ok_iff] at hsheet ⊢
  exact ⟨h.stores (Item.cuts_ofText _) (sits_ofText _) hsheet.1, hsheet.2⟩

/-- Layout at every kind of place; the escape in the first name ends with the space behind it. -/
theorem parse_relaid_escaped :
    Stylesheet.parse ".a,b(c)\x7bx\\79:y;z:w\x7d" "s"
      = .ok ⟨"s", [⟨[".a", "b(c)"], [⟨"xy", "y"⟩, ⟨"z", "w"⟩]⟩]⟩
    ∧ Relaid (Item.ofText ".a,b(c)\x7bx\\79:y;z:w\x7d".toList)
      "/*1*/.a ,\tb(c) /*2*/\x7b x\\79 :/*3*/y;\nz:w/*4*/\x7d".toList
    ∧ Stylesheet.parse "/*1*/.a ,\tb(c) /*2*/\x7b x\\79 :/*3*/y;\nz:w/*4*/\x7d" "s"
      = .ok ⟨"s", [⟨[".a", "b(c)"], [⟨"xy", "y"⟩, ⟨"z", "w"⟩]⟩]⟩ := by
  have hsheet : Stylesheet.parse ".a,b(c)\x7bx\\79:y;z:w\x7d" "s"
      = .ok ⟨"s", [⟨[".a", "b(c)"], [⟨"xy", "y"⟩, ⟨"z", "w"⟩]⟩]⟩ := by decide +kernel
  have hspace : ∀ c : Char, isSpace c = true → Layout [c] := fun c hc => .space hc .nil
  have hcomment : ∀ c : Char, ¬ ['*', '/'] <:+: [c] ++ ['*'] → Layout ['/', '*', c, '*', '/'] :=
    fun c hc => .comment hc .nil
  let name (c : Char) : Component := .token ⟨.ident [c], [c]⟩
  let mark (kind : Kind) (c : Char) : Component := .token ⟨kind, [c]⟩
  let escaped : Component := .token ⟨.ident ['x', 'y'], "x\\79".toList⟩
  let call : Component :=
    .block ⟨.function ['b'], "b(".toList⟩ [name 'c'] (some ⟨.closeParen, [')']⟩)
  let first : List Component := [mark (.delim '.') '.', name 'a']
  let front : List Component := [escaped, mark .colon ':', name 'y']
  let back : List Component := [name 'z', mark .colon ':', name 'w']
  let b : Block := ⟨openCurly, front ++ mark .semicolon ';' :: back, some closeCurly⟩
  have hitems : Item.ofText ".a,b(c)\x7bx\\79:y;z:w\x7d".toList
      = [.rule (first ++ mark .comma ',' :: [call]) (some b)] := by
    with_unfolding_all rfl
  have hlast : Spaced .comma Unchanged [call] "b(c)".toList := .last (by decide) rfl
  have hhead : Spaced .comma Unchanged (first ++ mark .comma ',' :: [call])
      (['.', 'a'] ++ ([' '] ++ ((mark .comma ',').text ++ (['\t'] ++ "b(c)".toList)))) :=
    .cons (by decide) rfl rfl ⟨hspace ' ' rfl, by simp [first, name]⟩ (hspace '\t' rfl) hlast
  have hfront : RelaidPiece front ([] ++ ("x\\79".toList ++ ([' '] ++ ([':']
      ++ ("/*3*/".toList ++ ['y']))))) :=
    .declaration onlyLayout_nil rfl onlyLayout_nil rfl (.nil (hspace ' ' rfl))
      (hcomment '3' (by decide))
  have hback : Spaced .semicolon RelaidPiece back ['z', ':', 'w'] := .last (by decide) .same
  have hbody : Spaced .semicolon RelaidPiece b.body ("x\\79 :/*3*/y".toList
      ++ ([] ++ ([';'] ++ (['\n'] ++ ['z', ':', 'w'])))) :=
    .cons (by decide) rfl hfront ⟨.nil, by simp [front, name]⟩ (hspace '\n' rfl) hback
  have hrelaid : Relaid (Item.ofText ".a,b(c)\x7bx\\79:y;z:w\x7d".toList)
      "/*1*/.a ,\tb(c) /*2*/\x7b x\\79 :/*3*/y;\nz:w/*4*/\x7d".toList := by
    rw [hitems]
    have hbefore : Layout (' ' :: "/*2*/".toList) := .space rfl (hcomment '2' (by decide))
    have hrule := RelaidItem.rule hhead ⟨hbefore, fun _ _ _ _ => by decide⟩ (hspace ' ' rfl) hbody
      ⟨hcomment '4' (by decide), by simp [b, back, name]⟩ (by simp [b])
    exact .cons (hcomment '1' (by decide)) hrule .nil
  exact ⟨hsheet, hrelaid, parse_relaid _ _ "s" _ hsheet hrelaid⟩

end StyleLookup.Css
