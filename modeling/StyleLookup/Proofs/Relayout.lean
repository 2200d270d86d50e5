import StyleLookup.Proofs.LayoutText

/-!
# Layout between the parts of a stylesheet

Layout may be put between items, around the brackets of rules and around the commas, semicolons and
colons in them, without changing what is stored. The places are said on the items of the first text:
`Relaid items text` says that `text` is the text of the items with layout put in some of the places.

The proof goes from the end of the text to its start. What is read behind a place is known when the
place is come to, and with it what the tokens in front of the place see.
-/

namespace StyleLookup.Css

open Text Component Lexer

/-! ## Places for layout -/

/-- Layout put in front of the components of a row and behind the last. -/
inductive Loosened : List Component → List Char → Prop where
  | nil {l : List Char} : Layout l → Loosened [] l
  | cons {c : Component} {cs : List Component} {l text : List Char} :
      Layout l → Loosened cs text → Loosened (c :: cs) (l ++ (c.text ++ text))

/-- Layout put around the separators of a row, in which the pieces may be changed as well. -/
inductive Spaced (separator : Kind) (Revised : List Component → List Char → Prop) :
    List Component → List Char → Prop where
  | last {piece : List Component} {text : List Char} :
      (∀ c ∈ piece, c.kind ≠ separator) → Revised piece text → Spaced separator Revised piece text
  | cons {piece rest : List Component} {s : Component} {text before behind more : List Char} :
      (∀ c ∈ piece, c.kind ≠ separator) → s.kind = separator → Revised piece text →
      FitsBehind piece before → Layout behind → Spaced separator Revised rest more →
      Spaced separator Revised (piece ++ s :: rest)
        (text ++ (before ++ (s.text ++ (behind ++ more))))

/-- A piece of a prelude, as it is. -/
def Unchanged (piece : List Component) (text : List Char) : Prop := text = textOf piece

/-- Layout put around the colon of a declaration. -/
inductive RelaidPiece : List Component → List Char → Prop where
  | same {piece : List Component} : RelaidPiece piece (textOf piece)
  | declaration {lead gap value : List Component} {t colon : Component} {name : List Char}
      {before behind : List Char} :
      OnlyLayout lead → t.kind = .ident name → OnlyLayout gap → colon.kind = .colon →
      Loosened gap before → Layout behind →
      RelaidPiece (lead ++ t :: (gap ++ colon :: value))
        (textOf lead ++ (t.text ++ (before ++ (colon.text ++ (behind ++ textOf value)))))

/-- Layout put into an item: a rule has places for it. -/
inductive RelaidItem : Item → List Char → Prop where
  | filler {c : Component} : RelaidItem (.filler c) c.text
  | atRule {parts : List Component} : RelaidItem (.atRule parts) (textOf parts)
  /-- A block that the end of the text closes has no place in front of its bracket. -/
  | rule {prelude : List Component} {b : Block} {head before behind body last : List Char} :
      Spaced .comma Unchanged prelude head → FitsBehind prelude before →
      Layout behind → Spaced .semicolon RelaidPiece b.body body → FitsBehind b.body last →
      (b.closing = none → last = []) →
      RelaidItem (.rule prelude (some b))
        (head ++ (before ++ (b.opening.text ++ (behind ++ (body ++ (last ++ b.closingText))))))

/-- Layout put into items and in front of them. -/
inductive Relaid : List Item → List Char → Prop where
  | nil : Relaid [] []
  | cons {i : Item} {is : List Item} {l text rest : List Char} :
      Layout l → RelaidItem i text → Relaid is rest → Relaid (i :: is) (l ++ (text ++ rest))

/-! ## Rows -/

/--
In every place where the row is read, `text` can be put instead, with layout around it. What is read
there then has `P`.
-/
def Replaces (stop : Option Kind) (row : List Component) (text : List Char)
    (P : List Component → Prop) : Prop :=
  ∀ ⦃x y lead l : List Char⦄, Sits stop row x → Firm x → Firm y → Layout lead → FitsBehind row l →
    (x = [] → l = [] ∧ y = []) → ∃ row', textOf row' = lead ++ (text ++ l) ∧ Sits stop row' y
      ∧ solidKinds row' = solidKinds row ∧ P row'

theorem replaces_self {stop : Option Kind} (hstop : ∀ kind ∈ stop, kind.isLayout = false)
    (row : List Component) :
    Replaces stop row (textOf row) fun row' => storedText row' = storedText row := by
  intro x y lead l hrow hx hy hlead hl hend
  obtain ⟨row', htext, hsits, hstored, hkinds⟩ := exists_edged hstop hrow hx hy hlead hl hend
  exact ⟨row', htext, hsits, hkinds, hstored⟩

theorem FitsBehind.of_append {a b : List Component} {l : List Char} (h : FitsBehind (a ++ b) l) :
    FitsBehind b l := by
  refine ⟨h.layout, ?_⟩
  intro opening body closing hlast
  refine h.apart opening body closing ?_
  have hne : b ≠ [] := by
    intro hb
    rw [hb] at hlast
    cases hlast
  rw [List.getLast?_append_of_ne_nil _ hne]
  exact hlast

theorem mem_solidKinds {row : List Component} {k : Kind} (hk : k.isLayout = false) :
    k ∈ solidKinds row ↔ ∃ c ∈ row, c.kind = k := by
  rw [solidKinds, List.mem_map]
  refine ⟨?_, ?_⟩
  · intro h
    obtain ⟨c, hc, hkind⟩ := h
    exact ⟨c, (List.mem_filter.mp hc).1, hkind⟩
  · intro h
    obtain ⟨c, hc, hkind⟩ := h
    refine ⟨c, List.mem_filter.mpr ⟨hc, ?_⟩, hkind⟩
    rw [isLayout, hkind, hk]
    rfl

theorem solidKinds_eq_nil_iff {row : List Component} : solidKinds row = [] ↔ OnlyLayout row := by
  refine ⟨?_, solidKinds_of_onlyLayout⟩
  intro h c hc
  rw [← Bool.not_eq_false]
  intro hsolid
  have hmem := (mem_solidKinds hsolid).mpr ⟨c, hc, rfl⟩
  rw [h] at hmem
  cases hmem

/-- A kind whose one text is a mark that every token in front of it sees alike. -/
structure IsMark (kind : Kind) (c : Char) : Prop where
  fixed : kind.fixed? = some [c]
  firm : isBoundary c = true ∧ isSpace c = false
  solid : kind.isLayout = false
  plain : kind.closer? = none

theorem isMark_comma : IsMark .comma ',' := ⟨rfl, by decide, rfl, rfl⟩

theorem isMark_semicolon : IsMark .semicolon ';' := ⟨rfl, by decide, rfl, rfl⟩

theorem isMark_colon : IsMark .colon ':' := ⟨rfl, by decide, rfl, rfl⟩

/-- A mark in a row, and the row behind it. -/
theorem IsMark.sits_cons {stop : Option Kind} {kind : Kind} {c : Char} (h : IsMark kind c)
    (hstop : stop ≠ some kind) {s : Component} {row : List Component} {x : List Char}
    (hs : s.kind = kind) (hsits : Sits stop (s :: row) x) :
    s = .token ⟨kind, [c]⟩ ∧ Sits stop row x ∧ ∀ {row' : List Component} {y : List Char},
      Sits stop row' y → Sits stop (s :: row') y := by
  obtain ⟨t, rfl⟩ := hsits.exists_token (by rw [hs]; exact h.plain)
  have ht : t.kind = kind := hs
  have heq : t = ⟨kind, [c]⟩ := by
    have heq := hsits.token.1.eq_of_fixed (w := [c]) (by rw [ht]; exact h.fixed)
    rwa [ht] at heq
  subst heq
  have hiff : ∀ {row : List Component} {x : List Char},
      Sits stop (.token ⟨kind, [c]⟩ :: row) x ↔ _ := sits_token_iff h.plain hstop
  exact ⟨rfl, (hiff.mp hsits).2, fun hrow => hiff.mpr ⟨stands_of_fixed h.fixed _, hrow⟩⟩

theorem IsMark.firm_textOf {kind : Kind} {c : Char} (h : IsMark kind c) (cs : List Component)
    (x : List Char) : Firm (textOf (.token ⟨kind, [c]⟩ :: cs) ++ x) := firm_cons h.firm _

theorem IsMark.solidKinds_cons {kind : Kind} {c : Char} (h : IsMark kind c)
    (cs : List Component) :
    solidKinds (.token ⟨kind, [c]⟩ :: cs) = kind :: solidKinds cs :=
  Css.solidKinds_cons (c := .token ⟨kind, [c]⟩) h.solid cs

/--
**If every piece of a row can be replaced, the row can.** In front of a separator a piece sits as
firmly as in front of what follows the row.
-/
theorem Spaced.replaces {stop : Option Kind} {separator : Kind} {c : Char}
    (hmark : IsMark separator c) (hstop : stop ≠ some separator)
    {Revised : List Component → List Char → Prop} {Same : List Component → List Component → Prop}
    {row : List Component} {text : List Char} (h : Spaced separator Revised row text)
    (hpieces : ∀ piece ∈ cutWhere (fun c => c.kind == separator) row, ∀ text, Revised piece text →
      Replaces stop piece text (Same piece)) :
    Replaces stop row text fun row' =>
      List.Forall₂ Same (cutWhere (fun c => c.kind == separator) row)
        (cutWhere (fun c => c.kind == separator) row') := by
  have hfree : ∀ {piece : List Component}, (∀ d ∈ piece, d.kind ≠ separator) →
      ∀ d ∈ piece, (d.kind == separator) = false :=
    fun hpiece d hd => beq_eq_false_iff_ne.mpr (hpiece d hd)
  have hkept : ∀ {piece piece' : List Component}, solidKinds piece' = solidKinds piece →
      (∀ d ∈ piece, d.kind ≠ separator) → ∀ d ∈ piece', d.kind ≠ separator := by
    intro piece piece' hkinds hpiece d hd hkind
    have hmem := (mem_solidKinds hmark.solid).mpr ⟨d, hd, hkind⟩
    rw [hkinds] at hmem
    obtain ⟨e, he, hkind⟩ := (mem_solidKinds hmark.solid).mp hmem
    exact hpiece e he hkind
  induction h with
  | @last piece text hpiece hrevised =>
      rw [cutWhere_eq_singleton (hfree hpiece)] at hpieces ⊢
      intro x y lead l hrow hx hy hlead hl hend
      obtain ⟨row', htext, hsits, hkinds, hsame⟩ :=
        hpieces piece List.mem_cons_self text hrevised hrow hx hy hlead hl hend
      refine ⟨row', htext, hsits, hkinds, ?_⟩
      beta_reduce
      rw [cutWhere_eq_singleton (hfree (hkept hkinds hpiece))]
      exact .cons hsame .nil
  | @cons piece rest s text before behind more hpiece hs hrevised hbefore hbehind _ ih =>
      rw [cutWhere_append_separator (hfree hpiece) (beq_iff_eq.mpr hs)] at hpieces ⊢
      have ih := ih fun p hp => hpieces p (List.mem_cons_of_mem _ hp)
      intro x y lead l hrow hx hy hlead hl hend
      obtain ⟨hpiecesits, hrestsits⟩ := sits_append.mp hrow
      obtain ⟨rfl, hrest, hput⟩ := hmark.sits_cons hstop hs hrestsits
      -- the rest first: the piece sees the separator in front of it
      obtain ⟨rest', htext', hsits', hkinds', hsame'⟩ := ih hrest hx hy hbehind
        (FitsBehind.of_append (a := piece ++ [_]) (by simpa using hl)) hend
      obtain ⟨piece', htext'', hsits'', hkinds'', hsame''⟩ :=
        hpieces piece List.mem_cons_self text hrevised hpiecesits (hmark.firm_textOf rest x)
          (hmark.firm_textOf rest' y) hlead hbefore fun hnil => absurd hnil (List.cons_ne_nil _ _)
      refine ⟨piece' ++ _ :: rest', ?_, sits_append.mpr ⟨hsits'', hput hsits'⟩, ?_, ?_⟩
      · rw [textOf_append, textOf, htext'', htext']
        simp
      · rw [solidKinds_append, solidKinds_append, hmark.solidKinds_cons, hmark.solidKinds_cons,
          hkinds', hkinds'']
      · beta_reduce
        rw [cutWhere_append_separator (hfree (hkept hkinds'' hpiece)) (beq_iff_eq.mpr hs)]
        exact .cons hsame'' hsame'

/-! ## Declarations -/

/-- Both rows are layout, or both declare the same. -/
def SameDeclaration (piece piece' : List Component) : Prop :=
  (OnlyLayout piece ∧ OnlyLayout piece')
    ∨ ∃ name value value', Declares piece name value ∧ Declares piece' name value'
      ∧ storedText value' = storedText value

theorem body_of_same {pieces pieces' : List (List Component)} {ds : List Declaration}
    (h : List.Forall₂ SameDeclaration pieces pieces') (hbody : Body pieces ds) :
    Body pieces' ds := by
  induction h generalizing ds with
  | nil => exact hbody
  | cons hsame _ ih =>
      cases hbody with
      | layout hlayout hbody =>
          rcases hsame with ⟨_, hlayout'⟩ | ⟨_, _, _, hdeclares, _⟩
          · exact .layout hlayout' (ih hbody)
          · exact absurd hlayout hdeclares.not_onlyLayout
      | declaration hdeclares hbody =>
          rcases hsame with ⟨hlayout, _⟩ | ⟨_, _, _, hdeclares', hnew, hstored⟩
          · exact absurd hlayout hdeclares.not_onlyLayout
          · obtain ⟨rfl, rfl⟩ := hdeclares.unique hdeclares'
            rw [← hstored]
            exact .declaration hnew (ih hbody)

/-- Layout with layout put into it is layout. -/
theorem Loosened.layout {stop : Option Kind} {gap : List Component} {text x : List Char}
    (h : Loosened gap text) (hgap : OnlyLayout gap) (hsits : Sits stop gap x) (hx : x ≠ []) :
    Layout text := by
  induction h with
  | nil hl => exact hl
  | @cons c cs l text hl _ ih =>
      obtain ⟨hc, hcs⟩ := sits_append (a := [c]).mp hsits
      obtain ⟨hlayout, hrest⟩ := onlyLayout_cons.mp hgap
      have hsingle : OnlyLayout [c] := onlyLayout_cons.mpr ⟨hlayout, onlyLayout_nil⟩
      have htext := (hc.airy hsingle).layout hc.stand (List.append_ne_nil_of_right_ne_nil _ hx)
      rw [textOf, textOf, List.append_nil] at htext
      exact hl.append (htext.append (ih hrest hcs))

/-- A name with layout put behind it: the layout may end an escape. -/
theorem exists_named {t : Token} {name x y l : List Char} (ht : t.kind = .ident name)
    (h : t.Stands x) (hx : AtBoundary x) (hne : x ≠ []) (hl : Layout l) (hy : Firm y) :
    ∃ s l', l = s ++ l' ∧ Layout l' ∧ (t.lengthen s).Stands (l' ++ y) := by
  have hback : atNewline x = true → t.text ≠ ['\\'] := by
    intro hline htext
    have hident := (h.name_eq ht).2
    rw [htext, List.singleton_append, atIdent_cons, if_neg (by decide), if_pos rfl, hline] at hident
    exact absurd hident Bool.false_ne_true
  obtain ⟨s, r, heq, hs, hread⟩ := h.lengthen hx (hl.calm hy) hback (fun hnil => absurd hnil hne)
    (by rw [ht]; intro _ h; cases h) (by rw [ht]; intro _ h; cases h)
  obtain ⟨l', rfl, rfl, hl'⟩ := hl.split (fun c hc => (hy c hc).2) hs heq
  exact ⟨s, l', rfl, hl', hread⟩

theorem isLayout_of_mem_closeCurly : ∀ kind ∈ some Kind.closeCurly, kind.isLayout = false := by
  intro kind hkind
  rw [← Option.some.inj hkind]
  rfl

/-- What starts with the name of a declaration, with layout put around its colon. -/
theorem exists_declared {gap value : List Component} {t : Token} {colon : Component}
    {name x y before behind l : List Char} (ht : t.kind = .ident name) (hgap : OnlyLayout gap)
    (hcolon : colon.kind = .colon) (hbefore : Loosened gap before) (hbehind : Layout behind)
    (hrow : Sits (some .closeCurly) (.token t :: (gap ++ colon :: value)) x) (hx : Firm x)
    (hy : Firm y) (hl : FitsBehind value l) (hend : x = [] → l = [] ∧ y = []) :
    ∃ t' gap' value', t'.kind = .ident name ∧ OnlyLayout gap'
      ∧ storedText value' = storedText value ∧ solidKinds value' = solidKinds value
      ∧ Sits (some .closeCurly) (.token t' :: (gap' ++ colon :: value')) y
      ∧ textOf (.token t' :: (gap' ++ colon :: value'))
        = t.text ++ (before ++ (colon.text ++ (behind ++ (textOf value ++ l)))) := by
  have hstop := isLayout_of_mem_closeCurly
  obtain ⟨hgapsits, hcolonsits⟩ := sits_append.mp (sits_append (a := [_]).mp hrow).2
  obtain ⟨rfl, hvalue, hput⟩ := isMark_colon.sits_cons (by simp) hcolon hcolonsits
  -- from the right: the value with layout around it, and then the layout in front of the colon
  obtain ⟨value', hvaluetext, hvaluesits, hstored, hkinds⟩ :=
    exists_edged hstop hvalue hx hy hbehind hl hend
  have hfirm := isMark_colon.firm_textOf value' y
  have hnext : textOf (.token ⟨.colon, [':']⟩ :: value) ++ x ≠ [] := List.cons_ne_nil _ _
  have hgaplayout := (hgapsits.airy hgap).layout hgapsits.stand hnext
  have hstands := hrow.token.1
  rw [textOf_append, List.append_assoc] at hstands
  obtain ⟨s, l', rfl, hl', hread⟩ := exists_named ht hstands
    (hgaplayout.calm (isMark_colon.firm_textOf value x)).start
    (List.append_ne_nil_of_right_ne_nil _ hnext) (hbefore.layout hgap hgapsits hnext) hfirm
  obtain ⟨gap', hairy, rfl, hgapsits'⟩ := exists_airy hstop hl' fun c hc => (hfirm c hc).2
  refine ⟨t.lengthen s, gap', value', ht, hairy.onlyLayout, hstored, hkinds, ?_, ?_⟩
  · refine (sits_token_iff ?_ ?_).mpr ⟨?_, sits_append.mpr ⟨hgapsits', hput hvaluesits⟩⟩
    · rw [Token.lengthen, ht]
      rfl
    · rw [Token.lengthen, ht]
      simp
    · rw [textOf_append, List.append_assoc]
      exact hread
  · simp [textOf, textOf_append, Component.text, Token.lengthen, hvaluetext]

theorem replaces_declaration {lead gap value : List Component} {t colon : Component}
    {name before behind : List Char} (hlead : OnlyLayout lead) (ht : t.kind = .ident name)
    (hgap : OnlyLayout gap) (hcolon : colon.kind = .colon) (hbefore : Loosened gap before)
    (hbehind : Layout behind) :
    Replaces (some .closeCurly) (lead ++ t :: (gap ++ colon :: value))
      (textOf lead ++ (t.text ++ (before ++ (colon.text ++ (behind ++ textOf value)))))
      (SameDeclaration (lead ++ t :: (gap ++ colon :: value))) := by
  intro x y front l hrow hx hy hfront hl hend
  obtain ⟨hleadsits, htsits⟩ := sits_append.mp hrow
  obtain ⟨t, rfl⟩ := htsits.exists_token (by rw [ht]; rfl)
  obtain ⟨t', gap', value', ht', hgap', hstored, hkinds, hsits, htext⟩ :=
    exists_declared ht hgap hcolon hbefore hbehind htsits hx hy
      (FitsBehind.of_append (a := lead ++ .token t :: (gap ++ [colon])) (by simpa using hl)) hend
  -- the layout in front of the name is layout still, and the name takes none of it
  have hnext : textOf (.token t :: (gap ++ colon :: value)) ++ x ≠ [] := by
    rw [textOf, List.append_assoc]
    exact List.append_ne_nil_of_left_ne_nil htsits.token.1.text_ne_nil _
  have hname : ∀ c ∈ (Component.token t' :: (gap' ++ colon :: value')).head?, c.kind ≠ .blank := by
    intro c hc
    rw [← Option.some.inj hc, show (Component.token t').kind = t'.kind from rfl, ht']
    simp
  obtain ⟨lead', hairy, hleadtext, hleadsits'⟩ := exists_airy isLayout_of_mem_closeCurly
    (hfront.append ((hleadsits.airy hlead).layout hleadsits.stand hnext))
    (hsits.not_isSpace hname fun c hc => (hy c hc).2)
  refine ⟨lead' ++ .token t' :: (gap' ++ colon :: value'), ?_,
    sits_append.mpr ⟨hleadsits', hsits⟩, ?_, .inr ⟨name, value, value',
      ⟨lead, .token t, gap, colon, hlead, ht, hgap, hcolon, rfl⟩,
      ⟨lead', .token t', gap', colon, hairy.onlyLayout, ht', hgap', hcolon, rfl⟩, hstored⟩⟩
  · rw [textOf_append, hleadtext, htext]
    simp [Component.head, Component.text]
  · have hword : ∀ {u : Component} (cs : List Component), u.kind = .ident name →
        solidKinds (u :: cs) = .ident name :: solidKinds cs := by
      intro u cs hu
      rw [solidKinds_cons (isLayout_of_ident hu), hu]
    simp only [solidKinds_append, solidKinds_of_onlyLayout hlead,
      solidKinds_of_onlyLayout hairy.onlyLayout, hword _ ht, hword (u := .token t') _ ht',
      solidKinds_of_onlyLayout hgap, solidKinds_of_onlyLayout hgap',
      solidKinds_cons (isLayout_of_colon hcolon), hkinds]

theorem RelaidPiece.replaces {piece : List Component} {text : List Char}
    (h : RelaidPiece piece text)
    (hpiece : OnlyLayout piece ∨ ∃ name value, Declares piece name value) :
    Replaces (some .closeCurly) piece text (SameDeclaration piece) := by
  cases h with
  | declaration hlead ht hgap hcolon hbefore hbehind =>
      exact replaces_declaration hlead ht hgap hcolon hbefore hbehind
  | same =>
      rcases hpiece with hlayout | ⟨name, value, hdeclares⟩
      · intro x y lead l hrow hx hy hlead hl hend
        obtain ⟨row', htext, hsits, hkinds, _⟩ :=
          replaces_self isLayout_of_mem_closeCurly piece hrow hx hy hlead hl hend
        refine ⟨row', htext, hsits, hkinds, .inl ⟨hlayout, ?_⟩⟩
        rw [← solidKinds_eq_nil_iff, hkinds]
        exact solidKinds_of_onlyLayout hlayout
      · -- a declaration as it is has nothing put around its colon
        obtain ⟨lead, t, gap, colon, hlead, ht, hgap, hcolon, rfl⟩ := hdeclares
        have hnothing : Loosened gap (textOf gap) := by
          clear hgap
          induction gap with
          | nil => exact .nil .nil
          | cons c cs ih => exact .cons (l := []) .nil ih
        have htext : textOf (lead ++ t :: (gap ++ colon :: value))
            = textOf lead ++ (t.text ++ (textOf gap ++ (colon.text ++ ([] ++ textOf value)))) := by
          simp [textOf_append, textOf]
        rw [htext]
        exact replaces_declaration hlead ht hgap hcolon hnothing .nil

end StyleLookup.Css
