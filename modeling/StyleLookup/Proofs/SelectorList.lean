import StyleLookup.Proofs.LeadingLayout
import StyleLookup.Proofs.Seam

/-!
# Selector lists

A list of selectors is written with commas between its pieces, and read by cutting its components
at commas. A comma inside a function, a string or a comment is not a component of the list, so it
cuts nothing; what has to be shown is that no piece reads differently for having a comma or a curly
bracket behind it, and that the layout around a piece, which at the start of the list is no part
of the rule at all, makes no difference to what is stored.
-/

namespace StyleLookup.Css

open Text Component Lexer

/-! ## Pieces -/

/-- A text that may stand between the commas of a list of selectors. -/
structure SelectorPiece (p : List Char) : Prop where
  blocks : Closed none (ofText p)
  /-- Strings, urls and comments end before the text does. -/
  quoted : ∀ t ∈ tokenize p, t.kind.seeksEnd = true → t.IsClosed
  whole : p.getLast? ≠ some '\\'
  /-- Commas and curly brackets stand inside blocks only. -/
  plain : ∀ c ∈ ofText p, c.kind ≠ .comma ∧ c.isCurly = false
  uncut : ¬ CommentBehindBlock (ofText p)

/-- A text that starts a rule, and not a declaration, when layout is left aside. -/
structure StartsRule (p : List Char) : Prop where
  start : ∀ c ∈ ((ofText p).dropWhile isLayout).head?,
    Item.isAtKeyword c = false ∧ c.kind ≠ .markupOpen ∧ c.kind ≠ .markupClose
  notCustomProperty : ¬ OpensCustomProperty ((ofText p).dropWhile isLayout)

/-- The selector in a piece: without comments, those in blocks aside, and trimmed. -/
def selectorIn (p : List Char) : List Char := trim (textOf (withoutComments (ofText p)))

theorem SelectorPiece.ofText_append {p : List Char} (h : SelectorPiece p) {y : List Char}
    (hy : Firm y) : ofText (p ++ y) = ofText p ++ ofText y := by
  have hstand : Stand (tokensOf (ofText p)) [] := by
    have htokens : tokenize p = tokenize p ++ [] := (List.append_nil _).symm
    obtain ⟨x, _, hstand, hx⟩ := tokenize_eq_append_iff.mp htokens
    cases x with
    | nil => rwa [tokensOf_ofText]
    | cons c cs => rw [tokenize] at hx; cases hx
  have hread := ofText_append_of_stand h.blocks
    (h.blocks.stand hstand (fun _ hc => absurd hc (by simp)) hy
      fun _ => ⟨by rw [textOf_ofText]; exact h.whole, by rw [tokensOf_ofText]; exact h.quoted⟩)
  rwa [textOf_ofText] at hread

/-- What is stored of a piece is the selector in it. -/
theorem SelectorPiece.storedText_eq {p : List Char} (h : SelectorPiece p) :
    storedText (ofText p) = selectorIn p := by
  have hlies := lies_ofText p
  exact (storedText_eq_iff hlies.commentsAreTokens hlies.blocksAreClosed).mpr h.uncut

/-! ## Lists -/

/-- A token that reads the same in front of any text is read there. -/
theorem ofText_cons_of_fixed {t : Token} (h : t.kind.fixed? = some t.text)
    (hplain : t.kind.closer? = none) (s : List Char) :
    ofText (t.text ++ s) = .token t :: ofText s := by
  have hclosed : Closed none [.token t] := .token hplain (by simp) .nil
  have hread := ofText_append_of_stand (x := s) hclosed ⟨stands_of_fixed h _, trivial⟩
  simpa [textOf, Component.text] using hread

/--
A list of pieces is read piece by piece. The row starts with the first piece, and whatever stands
in its place there, the commas behind it are the same.
-/
theorem ofText_intercalate {p : List Char} {ps : List (List Char)}
    (h : ∀ q ∈ p :: ps, SelectorPiece q) {y : List Char} (hy : Firm y) :
    ∃ rest, ofText ([','].intercalate (p :: ps) ++ y) = ofText p ++ rest ++ ofText y
      ∧ (∀ c ∈ rest, c.isCurly = false) ∧ (∀ c ∈ rest.head?, c.kind = .comma)
      ∧ ∀ first : List Component, (∀ c ∈ first, (c.kind == .comma) = false) →
        cutWhere (fun c => c.kind == .comma) (first ++ rest) = first :: ps.map ofText := by
  have hp := h p List.mem_cons_self
  induction ps generalizing p with
  | nil =>
      refine ⟨[], ?_, by simp, by simp, ?_⟩
      · rw [List.intercalate_singleton, List.append_nil, hp.ofText_append hy]
      · intro first hfirst
        rw [List.append_nil, cutWhere_eq_singleton hfirst]
        rfl
  | cons q ps ih =>
      have hq := h q (by simp)
      obtain ⟨rest, htext, hcurly, _, hcut⟩ := ih (fun r hr => h r (List.mem_cons_of_mem _ hr)) hq
      let comma : Token := ⟨.comma, [',']⟩
      have hcomma : ofText (',' :: ([','].intercalate (q :: ps) ++ y))
          = .token comma :: (ofText q ++ rest ++ ofText y) := by
        rw [← htext]
        exact ofText_cons_of_fixed (t := comma) rfl rfl _
      refine ⟨.token comma :: (ofText q ++ rest), ?_, ?_, ?_, ?_⟩
      · rw [List.intercalate_cons_cons, List.append_assoc, List.append_assoc,
          List.singleton_append, hp.ofText_append (firm_cons (by decide) _), hcomma]
        simp
      · intro c hc
        rcases List.mem_cons.mp hc with rfl | hc
        · rfl
        · exact (List.mem_append.mp hc).elim (fun hc => (hq.plain c hc).2) (hcurly c)
      · intro c hc
        rw [← Option.some.inj hc]
        rfl
      · intro first hfirst
        rw [cutWhere_append_separator hfirst rfl, hcut (ofText q)]
        · rfl
        · intro c hc
          exact beq_eq_false_iff_ne.mpr (hq.plain c hc).1

/-- An empty pair of curly brackets. -/
def emptyBlock : Block := ⟨⟨.openCurly, ['\x7b']⟩, [], some ⟨.closeCurly, ['\x7d']⟩⟩

theorem ofText_emptyBlock : ofText ['\x7b', '\x7d'] = [emptyBlock.component] := by
  with_unfolding_all rfl

theorem body_empty : Body (cutWhere isSemicolon []) [] := .layout onlyLayout_nil .nil

/-- The rule of a list of selectors, if one of them is not empty. -/
def ruleOfSelectors (selectors : List String) : List Rule :=
  if selectors = [] then [] else [⟨selectors, []⟩]

/-- Commas behind the core of the first piece change nothing in how the rule starts. -/
theorem StartsRule.append {p : List Char} (h : StartsRule p) {rest : List Component}
    (hrest : ∀ c ∈ rest.head?, c.kind = .comma) :
    (∀ c ∈ ((ofText p).dropWhile isLayout ++ rest).head?, Item.startsRule c = true)
      ∧ ¬ OpensCustomProperty ((ofText p).dropWhile isLayout ++ rest) := by
  have hcore : ∀ c ∈ ((ofText p).dropWhile isLayout).head?, c.isLayout = false := by
    intro c hc
    have hhead := List.head?_dropWhile_not isLayout (ofText p)
    rw [hc] at hhead
    simpa using hhead
  have hstart := h.start
  have hcustom := mt (opensCustomProperty_iff hcore).mpr h.notCustomProperty
  generalize (ofText p).dropWhile isLayout = core at hcore hstart hcustom
  have hcomma : ∀ c : Component, c.kind = .comma →
      c.isLayout = false ∧ Item.startsRule c = true := by
    intro c hc
    rw [Item.startsRule, Item.isFiller, Item.isAtKeyword, isLayout, hc]
    exact ⟨rfl, rfl⟩
  have hhead : ∀ c ∈ (core ++ rest).head?, c.isLayout = false ∧ Item.startsRule c = true := by
    intro c hc
    cases core with
    | nil => exact hcomma c (hrest c hc)
    | cons d ds =>
        obtain ⟨hword, hopen, hclose⟩ := hstart d rfl
        have hd := hcore d rfl
        rw [← Option.some.inj hc, Item.startsRule, Item.isFiller, hd, hword,
          beq_eq_false_iff_ne.mpr hopen, beq_eq_false_iff_ne.mpr hclose]
        exact ⟨rfl, rfl⟩
  refine ⟨fun c hc => (hhead c hc).2, ?_⟩
  rw [opensCustomProperty_iff fun c hc => (hhead c hc).1, solidKinds_append]
  -- the first two kinds are those of the core, or a comma is one of them
  intro hopens
  obtain ⟨name, kinds, hkinds⟩ := hopens
  have hkinds' : ∀ k ∈ (solidKinds rest).head?, k = .comma := by
    cases rest with
    | nil => intro k hk; cases hk
    | cons c cs =>
        rw [solidKinds_cons (hcomma c (hrest c rfl)).1]
        intro k hk
        rw [← Option.some.inj hk, hrest c rfl]
  cases hsolid : solidKinds core with
  | nil =>
      rw [hsolid, List.nil_append] at hkinds
      rw [hkinds] at hkinds'
      cases hkinds' _ rfl
  | cons k ks =>
      rw [hsolid] at hkinds
      injection hkinds with hk hkinds
      cases ks with
      | nil =>
          rw [show solidKinds rest = .colon :: kinds from hkinds] at hkinds'
          cases hkinds' _ rfl
      | cons k' ks =>
          injection hkinds with hk' _
          exact hcustom ⟨name, ks, by rw [hsolid, hk, hk']⟩

theorem readRules_selectorList {p : List Char} {ps : List (List Char)}
    (h : ∀ q ∈ p :: ps, SelectorPiece q) (hp : StartsRule p) :
    readRules ([','].intercalate (p :: ps) ++ ['\x7b', '\x7d'])
      = .ok (ruleOfSelectors
        ((((p :: ps).map selectorIn).filter fun s => !s.isEmpty).map String.ofList)) := by
  have hpiece := h p List.mem_cons_self
  obtain ⟨rest, htext, hcurly, hcomma, hcut⟩ :=
    ofText_intercalate h (y := ['\x7b', '\x7d']) (firm_cons (by decide) _)
  -- the layout in front of the first piece is cut off before the prelude starts
  have hsplit := List.takeWhile_append_dropWhile (p := isLayout) (l := ofText p)
  have hlead := onlyLayout_takeWhile (ofText p)
  obtain ⟨hstart, hcustom⟩ := hp.append hcomma
  have hplain : ∀ c ∈ (ofText p).dropWhile isLayout, c.kind ≠ .comma ∧ c.isCurly = false :=
    fun c hc => hpiece.plain c ((List.dropWhile_suffix _).subset hc)
  have hstored : storedText ((ofText p).dropWhile isLayout) = selectorIn p := by
    have hlies : Lies p
        ([] ++ ((ofText p).takeWhile isLayout ++ (ofText p).dropWhile isLayout)) := by
      rw [List.nil_append, hsplit]
      exact lies_ofText p
    have hairy := hlies.part.airy hlead
    rw [← hpiece.storedText_eq, ← storedText_lead hairy, hsplit]
  generalize (ofText p).takeWhile isLayout = lead at hsplit hlead
  generalize (ofText p).dropWhile isLayout = core at hsplit hstart hcustom hplain hstored
  rw [← hsplit, ofText_emptyBlock, List.append_assoc, List.append_assoc,
    ← List.append_assoc core] at htext
  have hcuts : Item.Cuts (core ++ rest ++ [emptyBlock.component])
      [.rule (core ++ rest) (some emptyBlock)] := by
    refine .rule hstart ?_ rfl .nil
    intro c hc
    exact (List.mem_append.mp hc).elim (fun hc => (hplain c hc).2) (hcurly c)
  have hselectors : selectorsOf (core ++ rest)
      = (((p :: ps).map selectorIn).filter fun s => !s.isEmpty).map String.ofList := by
    have hmap : (ps.map ofText).map storedText = ps.map selectorIn := by
      rw [List.map_map]
      exact List.map_congr_left fun q hq => (h q (List.mem_cons_of_mem _ hq)).storedText_eq
    rw [selectorsOf, hcut core fun c hc => beq_eq_false_iff_ne.mpr (hplain c hc).1, List.map_cons,
      hstored, hmap, List.map_cons]
  have hrule := (ruleOf_eq_ok_iff (core ++ rest) (some emptyBlock) _).mpr
    ⟨hcustom, emptyBlock, [], rfl, body_empty, rfl⟩
  rw [readRules_eq_ok_iff, Item.ofText, htext, (hcuts.lead hlead).ofComponents_eq, stores_lead_iff,
    stores_cons_iff]
  refine ⟨_, [], hrule, .nil, ?_⟩
  rw [hselectors, ruleOfSelectors, List.append_nil]
  split
  · rename_i hnone
    rw [hnone]
    rfl
  · rename_i hsome
    rw [if_neg (fun h => hsome (List.isEmpty_iff.mp h))]
    rfl

/--
**A list of selectors is cut at its commas.**

Pieces with commas between them, in front of empty curly brackets, are a rule that has the selectors
in the pieces, in order, as long as each piece closes what it opens and keeps its commas and curly
brackets in blocks, strings and comments. Pieces in which nothing is left have no selector, and if
that is so of all of them there is no rule.
-/
theorem parse_selectorList (pieces : List String) (source : String) (hne : pieces ≠ [])
    (hpieces : ∀ p ∈ pieces, SelectorPiece p.toList)
    (hfirst : ∀ p ∈ pieces.head?, StartsRule p.toList) :
    Stylesheet.parse (",".intercalate pieces ++ "\x7b\x7d") source
      = .ok ⟨source, ruleOfSelectors
        ((pieces.map fun p => String.ofList (selectorIn p.toList)).filter fun s => s ≠ "")⟩ := by
  obtain ⟨p, ps, rfl⟩ := List.exists_cons_of_ne_nil hne
  have hlists : ∀ q ∈ p.toList :: ps.map String.toList, SelectorPiece q := by
    rw [← List.map_cons, List.forall_mem_map]
    exact hpieces
  have hread := readRules_selectorList hlists (hfirst p rfl)
  rw [parse_eq_ok_iff]
  refine ⟨?_, rfl⟩
  have htext : (",".intercalate (p :: ps) ++ "\x7b\x7d").toList
      = [','].intercalate (p.toList :: ps.map String.toList) ++ ['\x7b', '\x7d'] := by
    rw [String.toList_append, String.toList_intercalate]
    rfl
  have hempty : ((fun s : String => decide (s ≠ "")) ∘ String.ofList) = fun s => !s.isEmpty := by
    funext s
    cases s with
    | nil => rfl
    | cons c cs => simp
  have hmap : ((p :: ps).map fun q => String.ofList (selectorIn q.toList))
      = ((p.toList :: ps.map String.toList).map selectorIn).map String.ofList := by simp
  rw [htext, hread, hmap, ← hempty, ← List.filter_map]

/-- A comma in a function, one in a string, one in a comment, and a piece that is left out. -/
theorem parse_selectorList_nested :
    (∀ p ∈ ["a:is(b,c)", " ", "[d=\"e,\"] /*,*/"], SelectorPiece p.toList)
    ∧ StartsRule "a:is(b,c)".toList
    ∧ Stylesheet.parse (",".intercalate ["a:is(b,c)", " ", "[d=\"e,\"] /*,*/"] ++ "\x7b\x7d") "s"
      = .ok ⟨"s", [⟨["a:is(b,c)", "[d=\"e,\"]"], []⟩]⟩ := by
  let name (c : Char) : Component := .token ⟨.ident [c], [c]⟩
  let quoted : Token := ⟨.string "e,".toList, "\"e,\"".toList⟩
  let comment : Token := ⟨.comment, "/*,*/".toList⟩
  have hfirst : Component.ofText "a:is(b,c)".toList
      = [name 'a', .token ⟨.colon, [':']⟩, .block ⟨.function "is".toList, "is(".toList⟩
        [name 'b', .token ⟨.comma, [',']⟩, name 'c'] (some ⟨.closeParen, [')']⟩)] := by
    with_unfolding_all rfl
  have hblank : Component.ofText " ".toList = [.token ⟨.blank, [' ']⟩] := by
    with_unfolding_all rfl
  have hlast : Component.ofText "[d=\"e,\"] /*,*/".toList
      = [.block ⟨.openSquare, ['[']⟩ [name 'd', .token ⟨.delim '=', ['=']⟩, .token quoted]
        (some ⟨.closeSquare, [']']⟩), .token ⟨.blank, [' ']⟩, .token comment] := by
    with_unfolding_all rfl
  have hquoted : quoted.IsClosed := ⟨'"', _, rfl, by decide +kernel⟩
  have hcomment : comment.IsClosed := ⟨'/', _, rfl, by decide +kernel⟩
  have hpieces : ∀ p ∈ ["a:is(b,c)", " ", "[d=\"e,\"] /*,*/"], SelectorPiece p.toList := by
    intro p hp
    have hp : p = "a:is(b,c)" ∨ p = " " ∨ p = "[d=\"e,\"] /*,*/" := by simpa using hp
    rcases hp with rfl | rfl | rfl
    · refine ⟨?_, ?_, by decide, ?_, ?_⟩
      · rw [hfirst]
        exact .token rfl (by simp) (.token rfl (by simp) (.block rfl
          (.token rfl (by simp) (.token rfl (by simp) (.token rfl (by simp) .nil))) .nil))
      · rw [← tokensOf_ofText, hfirst]
        simp [name, tokensOf, Component.tokens, Kind.seeksEnd]
      · rw [hfirst]
        decide
      · rw [hfirst]
        decide
    · refine ⟨?_, ?_, by decide, ?_, ?_⟩
      · rw [hblank]
        exact .token rfl (by simp) .nil
      · rw [← tokensOf_ofText, hblank]
        simp [tokensOf, Component.tokens, Kind.seeksEnd]
      · rw [hblank]
        decide
      · rw [hblank]
        decide
    · refine ⟨?_, ?_, by decide, ?_, ?_⟩
      · rw [hlast]
        exact .block rfl (.token rfl (by simp) (.token rfl (by simp) (.token rfl (by simp) .nil)))
          (.token rfl (by simp) (.token rfl (by simp) .nil))
      · rw [← tokensOf_ofText, hlast]
        simp [name, tokensOf, Component.tokens, Kind.seeksEnd, hquoted, hcomment]
      · rw [hlast]
        decide
      · rw [hlast]
        decide
  have hstarts : StartsRule "a:is(b,c)".toList := by
    refine ⟨?_, ?_⟩
    · rw [hfirst]
      intro c hc
      rw [← Option.some.inj hc]
      exact ⟨rfl, by decide, by decide⟩
    · rw [hfirst, ← startsCustomProperty_iff]
      decide
  refine ⟨hpieces, hstarts, ?_⟩
  rw [parse_selectorList _ "s" (by simp) hpieces (by simpa using hstarts)]
  decide +kernel

end StyleLookup.Css
