import StyleLookup.Proofs.InPlace
import StyleLookup.Proofs.PlacesInText

/-!
# Where a stylesheet is refused

Reading places a fault by a number of characters, and every reader adds what stands in front of its
piece. `parse_error_in_rule` says where that leads: into the first rule that is not well formed,
behind all that comes before the rule and in front of the bracket that closes it.

The places differ by what is wrong. A rule that starts like a custom property is faulted where it
starts, and one without a block where the text ends. In a body a fault stands in front of a token
that starts no item, behind an at-keyword, or behind a name and perhaps the layout that follows it.
All of them have components in front of them that are whole, so a fault stands between tokens, and
there a line and a column name one place (`Stand.onLine`).
-/

namespace StyleLookup.Css

open Text Component Lexer

/-! ## Faults of bodies -/

/-- A fault that is placed behind some of the components of a row. -/
def Fault.LiesBehind (f : Fault) (done row : List Component) : Prop :=
  f.offset = (textOf done).length ∧ done <+: row

theorem Fault.LiesBehind.shift {f : Fault} {done row : List Component}
    (h : f.LiesBehind done row) (front : List Component) :
    (f.shift (textOf front).length).LiesBehind (front ++ done) (front ++ row) := by
  refine ⟨?_, (List.prefix_append_right_inj front).mpr h.2⟩
  rw [textOf_append, List.length_append, ← h.1]
  rfl

theorem liesBehind_of_valueAfterName {cs : List Component} {f : Fault}
    (h : valueAfterName cs = .error f) : ∃ done, f.LiesBehind done cs := by
  have hgap : cs.takeWhile isLayout <+: cs := List.takeWhile_prefix _
  unfold valueAfterName at h
  dsimp only at h
  split at h
  · cases h
    exact ⟨_, rfl, hgap⟩
  · split at h
    · cases h
    · split at h
      · cases h
        exact ⟨_, rfl, hgap⟩
      · cases h
        exact ⟨[], rfl, List.nil_prefix⟩

/-- The components in front of the declarations that are still to be read. -/
theorem exists_front_of_valueAfterName {cs rest : List Component} {text : List Char}
    (h : valueAfterName cs = .ok (text, rest)) :
    ∃ front, cs = front ++ rest
      ∧ (textOf cs).length - (textOf rest).length = (textOf front).length := by
  obtain ⟨gap, colon, value, _, _, _, _, _, rfl⟩ := exists_of_valueAfterName h
  refine ⟨gap ++ colon :: value, by simp, ?_⟩
  have hrow : gap ++ colon :: (value ++ rest) = (gap ++ colon :: value) ++ rest := by simp
  rw [hrow, textOf_append, List.length_append, Nat.add_sub_cancel]

/-- **A fault of a body has whole components in front of it.** -/
theorem liesBehind_of_declarationsOf (cs : List Component) :
    ∀ f, declarationsOf cs = .error f → ∃ done, f.LiesBehind done cs := by
  have hone (c : Component) : textOf [c] = c.text := List.append_nil _
  fun_induction declarationsOf cs with
  | case1 =>
      intro f h
      cases h
  | case2 c cs _ _ ih =>
      intro f h
      obtain ⟨f', hf', rfl⟩ := shifted_eq_error_iff.mp h
      obtain ⟨done, hdone⟩ := ih f' hf'
      exact ⟨_, hone c ▸ hdone.shift [c]⟩
  | case3 c cs _ _ name _ fault hvalue =>
      intro f h
      cases h
      obtain ⟨done, hdone⟩ := liesBehind_of_valueAfterName hvalue
      exact ⟨_, hone c ▸ hdone.shift [c]⟩
  | case4 c cs _ _ name _ value rest hvalue width ih =>
      intro f h
      obtain ⟨f', hf', rfl⟩ := shifted_eq_error_iff.mp (map_eq_error_iff.mp h)
      obtain ⟨done, hdone⟩ := ih f' hf'
      obtain ⟨front, rfl, hlength⟩ := exists_front_of_valueAfterName hvalue
      have hwidth : width = (textOf (c :: front)).length := by
        show c.text.length + _ = (c.text ++ textOf front).length
        rw [hlength, List.length_append]
      rw [hwidth]
      exact ⟨_, hdone.shift (c :: front)⟩
  | case5 c cs _ _ name _ =>
      intro f h
      cases h
      exact ⟨[c], congrArg List.length (hone c).symm, ⟨cs, rfl⟩⟩
  | case6 c cs _ _ _ =>
      intro f h
      cases h
      exact ⟨[], rfl, List.nil_prefix⟩

/-! ## Items of bodies -/

/--
The front of a body in which all is read: pieces that end in a semicolon, and layout behind the
last. What follows it starts an item.
-/
inductive AtItem : List Component → Prop where
  | lead {lead : List Component} (h : OnlyLayout lead) : AtItem lead
  | piece {piece rest : List Component} {semicolon : Component}
      (hpiece : OnlyLayout piece ∨ ∃ name value, Declares piece name value)
      (hwhole : ∀ c ∈ piece, c.isSemicolon = false) (hsemicolon : semicolon.isSemicolon = true)
      (h : AtItem rest) : AtItem (piece ++ semicolon :: rest)

/-- Whatever is wrong behind a row is wrong with the row in front, further on. -/
def Passes (done : List Component) : Prop :=
  ∀ cs f, declarationsOf cs = .error f →
    declarationsOf (done ++ cs) = .error (f.shift (textOf done).length)

theorem passes_nil : Passes [] := by
  intro cs f h
  rw [List.nil_append, h, textOf, List.length_nil, f.shift_zero]

theorem Passes.append {a b : List Component} (ha : Passes a) (hb : Passes b) :
    Passes (a ++ b) := by
  intro cs f h
  rw [List.append_assoc, ha _ _ (hb cs f h), textOf_append, List.length_append, f.shift_shift]

theorem passes_skipped {c : Component} (hc : (c.isLayout || c.isSemicolon) = true) :
    Passes [c] := by
  intro cs f h
  rw [List.singleton_append, declarationsOf]
  dsimp only
  rw [if_pos hc, h, textOf, textOf, List.append_nil]
  rfl

theorem passes_layout {lead : List Component} (h : OnlyLayout lead) : Passes lead := by
  induction lead with
  | nil => exact passes_nil
  | cons c lead ih =>
      obtain ⟨hc, hlead⟩ := onlyLayout_cons.mp h
      exact (passes_skipped (by rw [hc]; rfl)).append (ih hlead)

/-- A declaration is read up to its semicolon. -/
theorem passes_declaration {c colon semicolon : Component} {name : List Char}
    {gap value : List Component} (hc : c.kind = .ident name) (hgap : OnlyLayout gap)
    (hcolon : colon.kind = .colon) (hvalue : ∀ v ∈ value, v.isSemicolon = false)
    (hsemicolon : semicolon.isSemicolon = true) :
    Passes (c :: (gap ++ colon :: value) ++ [semicolon]) := by
  have hfirst : Passes [semicolon] := passes_skipped (by rw [hsemicolon, Bool.or_true])
  intro cs f h
  have hrest := hfirst cs f h
  have hrow : c :: (gap ++ colon :: value) ++ [semicolon] ++ cs
      = c :: (gap ++ colon :: (value ++ semicolon :: cs)) := by simp
  have hread : valueAfterName (gap ++ colon :: (value ++ semicolon :: cs))
      = .ok (storedText value, semicolon :: cs) :=
    valueAfterName_eq_ok hgap hcolon hvalue (by simpa using hsemicolon)
  have hskip : ¬ (c.isLayout || c.isSemicolon) = true := by
    rw [isLayout_of_ident hc, isSemicolon_of_ident hc]
    exact Bool.false_ne_true
  have hwidth : (textOf (gap ++ colon :: (value ++ semicolon :: cs))).length
      - (textOf (semicolon :: cs)).length = (textOf (gap ++ colon :: value)).length := by
    have hsame : gap ++ colon :: (value ++ semicolon :: cs)
        = (gap ++ colon :: value) ++ semicolon :: cs := by simp
    rw [hsame, textOf_append, List.length_append, Nat.add_sub_cancel]
  have htext : (textOf (c :: (gap ++ colon :: value) ++ [semicolon])).length
      = c.text.length + (textOf (gap ++ colon :: value)).length + (textOf [semicolon]).length := by
    rw [textOf_append, List.length_append, textOf, List.length_append]
  rw [hrow, declarationsOf]
  dsimp only
  rw [if_neg hskip]
  split
  · rename_i name' hname
    split
    · rename_i fault hx
      cases hread.symm.trans hx
    · rename_i value' rest hx
      cases hread.symm.trans hx
      rw [List.singleton_append] at hrest
      rw [hwidth, hrest, htext, ← f.shift_shift]
      rfl
  · rename_i hname
    rw [hc] at hname
    cases hname
  · rename_i hname _
    exact absurd hc (hname name)

theorem Declares.passes {piece value : List Component} {name : List Char} {semicolon : Component}
    (h : Declares piece name value) (hwhole : ∀ c ∈ piece, c.isSemicolon = false)
    (hsemicolon : semicolon.isSemicolon = true) : Passes (piece ++ [semicolon]) := by
  obtain ⟨lead, c, gap, colon, hlead, hc, hgap, hcolon, rfl⟩ := h
  rw [List.append_assoc]
  refine (passes_layout hlead).append (passes_declaration hc hgap hcolon ?_ hsemicolon)
  intro v hv
  exact hwhole v (by simp [hv])

/-- **What is wrong with a body is wrong with its first item that cannot be read.** -/
theorem AtItem.passes {done : List Component} (h : AtItem done) : Passes done := by
  induction h with
  | lead h => exact passes_layout h
  | @piece piece rest semicolon hpiece hwhole hsemicolon _ ih =>
      have hrow : piece ++ semicolon :: rest = (piece ++ [semicolon]) ++ rest := by simp
      rw [hrow]
      refine Passes.append ?_ ih
      rcases hpiece with hlayout | ⟨name, value, hdeclares⟩
      · exact (passes_layout hlayout).append (passes_skipped (by rw [hsemicolon, Bool.or_true]))
      · exact hdeclares.passes hwhole hsemicolon

/-- A component that no item of a body starts with. -/
structure Stray (c : Component) : Prop where
  notLayout : c.isLayout = false
  notSemicolon : c.isSemicolon = false
  notName : ∀ name, c.kind ≠ .ident name
  notAtKeyword : ∀ name, c.kind ≠ .atKeyword name

theorem Stray.declarationsOf_cons {c : Component} (h : Stray c) (cs : List Component) :
    declarationsOf (c :: cs) = .error ⟨0, .unexpectedToken c.kind⟩ := by
  rw [declarationsOf]
  dsimp only
  rw [h.notLayout, h.notSemicolon, if_neg (by decide)]
  split
  · rename_i name hname
    exact absurd hname (h.notName name)
  · rename_i name hname
    exact absurd hname (h.notAtKeyword name)
  · rfl

/-! ## Faults of rules -/

/-- What closes a rule. -/
def closingOf (block : Option Block) : List Token := (block.bind Block.closing).toList

theorem tokensOf_rule (prelude : List Component) (b : Block) :
    tokensOf (Item.rule prelude (some b)).components
      = (tokensOf prelude ++ b.opening :: tokensOf b.body) ++ closingOf (some b) := by
  rw [Item.components, tokensOf_append, tokensOf, Component.tokens]
  simp [tokensOf, closingOf]

theorem tokensOf_prefix {done row : List Component} (h : done <+: row) :
    ∃ rest, tokensOf row = tokensOf done ++ rest := by
  obtain ⟨rest, rfl⟩ := h
  exact ⟨tokensOf rest, tokensOf_append _ _⟩

/-- **A fault of a rule stands between its tokens, in front of what closes it.** -/
theorem exists_tokens_of_ruleOf {prelude : List Component} {block : Option Block} {f : Fault}
    (h : ruleOf prelude block = .error f) :
    ∃ inside outside, tokensOf (Item.rule prelude block).components
        = inside ++ (outside ++ closingOf block)
      ∧ f.offset = (textOfTokens inside).length := by
  unfold ruleOf at h
  split at h
  · cases h
    cases block with
    | none => exact ⟨[], tokensOf prelude, (List.append_nil _).symm, rfl⟩
    | some b => exact ⟨[], _, tokensOf_rule prelude b, rfl⟩
  · cases block with
    | none =>
        cases h
        refine ⟨tokensOf prelude, [], (List.append_nil _).symm, ?_⟩
        rw [textOfTokens_tokensOf]
    | some b =>
        obtain ⟨f', hf', rfl⟩ := shifted_eq_error_iff.mp (map_eq_error_iff.mp h)
        obtain ⟨done, hoffset, hprefix⟩ := liesBehind_of_declarationsOf b.body f' hf'
        obtain ⟨rest, hrest⟩ := tokensOf_prefix hprefix
        refine ⟨tokensOf prelude ++ b.opening :: tokensOf done, rest, ?_, ?_⟩
        · rw [tokensOf_rule, hrest]
          simp
        · rw [textOfTokens_append, textOfTokens_cons, List.length_append, List.length_append,
            textOfTokens_tokensOf, textOfTokens_tokensOf, ← hoffset, ← Nat.add_assoc]
          rfl

/-- A fault of items is one of the first rule that is not read, further on. -/
theorem exists_rule_of_rulesOf {is : List Item} {f : Fault} (h : rulesOf is = .error f) :
    ∃ front prelude block back f', is = front ++ .rule prelude block :: back
      ∧ (∃ rs, rulesOf front = .ok rs) ∧ ruleOf prelude block = .error f'
      ∧ f = f'.shift (front.flatMap Item.text).length := by
  induction is generalizing f with
  | nil => cases h
  | cons i is ih =>
      cases hi : i.rule? with
      | error f' =>
          rw [rulesOf, hi] at h
          cases h
          cases i with
          | filler c => cases hi
          | atRule parts => cases hi
          | rule prelude block =>
              exact ⟨[], prelude, block, is, f, rfl, ⟨[], rfl⟩, hi, f.shift_zero.symm⟩
      | ok found =>
          rw [rulesOf_cons hi] at h
          obtain ⟨f₁, hf₁, rfl⟩ := shifted_eq_error_iff.mp (map_eq_error_iff.mp h)
          obtain ⟨front, prelude, block, back, f', rfl, ⟨rs, hrs⟩, hrule, rfl⟩ := ih hf₁
          refine ⟨i :: front, prelude, block, back, f', rfl,
            ⟨_, rulesOf_cons_eq_ok_iff.mpr ⟨found, rs, hi, hrs, rfl⟩⟩, hrule, ?_⟩
          rw [Fault.shift_shift, List.flatMap_cons, List.length_append]

/-- What is wrong with a body is the fault of its rule. -/
theorem ruleOf_of_body {prelude done rest : List Component} {b : Block} {c : Component}
    (hcustom : ¬ OpensCustomProperty prelude) (hbody : b.body = done ++ c :: rest)
    (hdone : AtItem done) (hc : Stray c) :
    ruleOf prelude (some b)
      = .error ⟨(textOf prelude ++ b.opening.text ++ textOf done).length,
          .unexpectedToken c.kind⟩ := by
  rw [ruleOf, if_neg fun h => hcustom ((startsCustomProperty_iff prelude).mp h)]
  dsimp only
  rw [hbody, hdone.passes _ _ (hc.declarationsOf_cons rest), List.length_append,
    List.length_append]
  rfl

/-! ## Places of faults -/

/-- Between tokens of a text a line and a column name one place. -/
theorem onLine_of_tokenize {text behind : List Char} {inside outside : List Token}
    (h : tokenize text = inside ++ outside) (htext : text = textOfTokens inside ++ behind) :
    OnLine (textOfTokens inside) behind := by
  obtain ⟨x, hx, hstand, -⟩ := tokenize_eq_append_iff.mp h
  have hline := hstand.onLine
  rwa [List.append_cancel_left (htext.symm.trans hx)]

/-- **Between the tokens of an item a place is on a line.** -/
theorem onLine_in_item {text : List Char} {front back : List Item} {i : Item}
    {inside outside : List Token}
    (hitems : Item.ofComponents (Component.ofText text) = front ++ i :: back)
    (htokens : tokensOf i.components = inside ++ outside) :
    text = (front.flatMap Item.text ++ textOfTokens inside)
        ++ (textOfTokens outside ++ back.flatMap Item.text)
      ∧ OnLine (front.flatMap Item.text ++ textOfTokens inside)
        (textOfTokens outside ++ back.flatMap Item.text) := by
  have hsplit := flatMap_text_ofText text
  rw [Item.ofText, hitems, List.flatMap_append, List.flatMap_cons, Item.text,
    ← textOfTokens_tokensOf, htokens, textOfTokens_append, List.append_assoc,
    ← List.append_assoc] at hsplit
  refine ⟨hsplit.symm, ?_⟩
  have htokenize := tokensOf_ofText text
  rw [← Item.flatMap_components_ofComponents (Component.ofText text), hitems,
    List.flatMap_append, List.flatMap_cons, tokensOf_append, tokensOf_append, htokens,
    List.append_assoc, ← List.append_assoc] at htokenize
  have hbefore : front.flatMap Item.text ++ textOfTokens inside
      = textOfTokens (tokensOf (front.flatMap Item.components) ++ inside) := by
    rw [textOfTokens_append, textOfTokens_tokensOf, textOf_flatMap_components]
  rw [hbefore] at hsplit ⊢
  exact onLine_of_tokenize htokenize.symm hsplit.symm

/-- On a line, a fault is shown by the line and the column that name its place. -/
theorem Fault.marks_inText {f : Fault} {before behind : List Char} (hline : OnLine before behind)
    (hoffset : f.offset = before.length) (source : String) :
    Marks (f.inText source (before ++ behind)).location before behind := by
  refine marks_iff.mpr ⟨hline, ?_⟩
  show Location.after ((before ++ behind).take f.offset) = _
  rw [hoffset, List.take_left]

theorem parse_eq_error_iff {text source : String} {e : ParseError} :
    Stylesheet.parse text source = .error e
      ↔ ∃ f, readRules text.toList = .error f ∧ e = f.inText source text.toList := by
  unfold Stylesheet.parse
  cases readRules text.toList with
  | ok rules => exact ⟨fun h => (nomatch h), fun ⟨_, h, _⟩ => (nomatch h)⟩
  | error f =>
      constructor
      · intro h
        exact ⟨f, rfl, (Except.error.inj h).symm⟩
      · rintro ⟨_, h, rfl⟩
        cases h
        rfl

/--
**A refusal points into the rule that is wrong.**

The text reads as items of which one is the first rule that is not well formed. The line and the
column of the refusal name one place of the text. It lies behind all items in front of that rule,
and in front of what closes the rule and of all that comes behind it. If the rule is wrong for an
item of its body that starts with no name and no at-keyword, then the place is right in front of
that item.
-/
theorem parse_error_in_rule {text source : String} {e : ParseError}
    (h : Stylesheet.parse text source = .error e) :
    ∃ front prelude block back inside outside,
      Reads text.toList (front ++ .rule prelude block :: back)
      ∧ (∀ p b, Item.rule p b ∈ front → RuleWellFormed p b) ∧ ¬ RuleWellFormed prelude block
      ∧ (Item.rule prelude block).text = inside ++ (outside ++ textOfTokens (closingOf block))
      ∧ text.toList = front.flatMap Item.text ++ ((Item.rule prelude block).text
        ++ back.flatMap Item.text)
      ∧ Marks e.location (front.flatMap Item.text ++ inside)
        (outside ++ textOfTokens (closingOf block) ++ back.flatMap Item.text)
      ∧ (∀ before behind, text.toList = before ++ behind → Marks e.location before behind →
        before = front.flatMap Item.text ++ inside)
      ∧ ∀ b done c rest, block = some b → ¬ OpensCustomProperty prelude →
        b.body = done ++ c :: rest → AtItem done → Stray c →
        inside = textOf prelude ++ b.opening.text ++ textOf done
          ∧ e.cause = .unexpectedToken c.kind := by
  obtain ⟨f, hread, rfl⟩ := parse_eq_error_iff.mp h
  obtain ⟨front, prelude, block, back, f', hitems, ⟨rs, hrs⟩, hrule, rfl⟩ :=
    exists_rule_of_rulesOf hread
  obtain ⟨inside, outside, htokens, hoffset⟩ := exists_tokens_of_ruleOf hrule
  have hreads : Reads text.toList (front ++ .rule prelude block :: back) :=
    (reads_iff _ _).mpr hitems
  have hruleText : (Item.rule prelude block).text
      = textOfTokens inside ++ (textOfTokens outside ++ textOfTokens (closingOf block)) := by
    rw [Item.text, ← textOfTokens_tokensOf, htokens, textOfTokens_append, textOfTokens_append]
  obtain ⟨hsplit, honLine⟩ := onLine_in_item hitems htokens
  rw [textOfTokens_append] at hsplit honLine
  have hmarks := Fault.marks_inText (f := f'.shift (front.flatMap Item.text).length) honLine
    (by rw [List.length_append, ← hoffset]; rfl) source
  rw [← hsplit] at hmarks
  have hall : text.toList = front.flatMap Item.text ++ ((Item.rule prelude block).text
      ++ back.flatMap Item.text) := by
    rw [hruleText, hsplit]
    simp only [List.append_assoc]
  refine ⟨front, prelude, block, back, textOfTokens inside, textOfTokens outside, hreads, ?_, ?_,
    hruleText, hall, hmarks, ?_, ?_⟩
  · exact (exists_stores_iff front).mp ⟨rs, (rulesOf_eq_ok_iff _ _).mp hrs⟩
  · intro hwellFormed
    obtain ⟨r, hr⟩ := (ruleWellFormed_iff _ _).mp hwellFormed
    cases hrule.symm.trans hr
  · intro before behind htext hplace
    exact hplace.unique hmarks (htext.symm.trans hsplit)
  · rintro b done c rest rfl hcustom hbody hdone hc
    have hfault := ruleOf_of_body hcustom hbody hdone hc
    cases hrule.symm.trans hfault
    refine ⟨?_, rfl⟩
    -- both are the beginning of the text of the rule, and of one length
    have htext : (Item.rule prelude (some b)).text
        = (textOf prelude ++ b.opening.text ++ textOf done)
          ++ (textOf (c :: rest) ++ textOfTokens (closingOf (some b))) := by
      rw [Item.text, ← textOfTokens_tokensOf, tokensOf_rule, hbody, tokensOf_append]
      simp only [textOfTokens_append, textOfTokens_cons, textOfTokens_tokensOf, List.append_assoc]
    exact (List.append_inj (hruleText.symm.trans htext) hoffset.symm).1

/-- Refused for what follows a declaration, in the second rule and behind a wide character. -/
theorem parse_error_in_rule_second :
    Stylesheet.parse "p\x7b\x7d\r\n/*😀*/.b\x7bc:;*\x7d" "s"
      = .error ⟨.unexpectedToken (.delim '*'), "s", ⟨2, 13⟩⟩
    ∧ Marks ⟨2, 13⟩ "p\x7b\x7d\r\n/*😀*/.b\x7bc:;".toList "*\x7d".toList := by
  let p : List Component := [.token ⟨.ident ['p'], ['p']⟩]
  let bp : Block := ⟨⟨.openCurly, ['\x7b']⟩, [], some ⟨.closeCurly, ['\x7d']⟩⟩
  let prelude : List Component := [.token ⟨.delim '.', ['.']⟩, .token ⟨.ident ['b'], ['b']⟩]
  let piece : List Component := [.token ⟨.ident ['c'], ['c']⟩, .token ⟨.colon, [':']⟩]
  let semicolon : Component := .token ⟨.semicolon, [';']⟩
  let star : Component := .token ⟨.delim '*', ['*']⟩
  let b : Block := ⟨⟨.openCurly, ['\x7b']⟩, piece ++ semicolon :: [star],
    some ⟨.closeCurly, ['\x7d']⟩⟩
  have hitems : Item.ofText "p\x7b\x7d\r\n/*😀*/.b\x7bc:;*\x7d".toList
      = [.rule p (some bp), .filler (.token ⟨.blank, ['\r', '\n']⟩),
        .filler (.token ⟨.comment, "/*😀*/".toList⟩), .rule prelude (some b)] := by
    with_unfolding_all rfl
  have hparse : Stylesheet.parse "p\x7b\x7d\r\n/*😀*/.b\x7bc:;*\x7d" "s"
      = .error ⟨.unexpectedToken (.delim '*'), "s", ⟨2, 13⟩⟩ := by decide +kernel
  refine ⟨hparse, ?_⟩
  obtain ⟨front, prelude', block, back, inside, outside, hreads, -, hwrong, hrule, -, hmarks, -,
    hitem⟩ := parse_error_in_rule hparse
  have hread := hitems.symm.trans ((reads_iff _ _).mp hreads)
  have hfirst : RuleWellFormed p (some bp) := by
    refine (ruleWellFormed_iff _ _).mpr ⟨some ⟨["p"], []⟩, ?_⟩
    decide +kernel
  have hcustom : ¬ OpensCustomProperty prelude := by
    rw [← startsCustomProperty_iff]
    decide
  have hdeclares : Declares piece ['c'] [] := ⟨[], _, [], _, onlyLayout_nil, rfl,
    onlyLayout_nil, rfl, rfl⟩
  have hdone : AtItem (piece ++ semicolon :: []) :=
    .piece (.inr ⟨_, _, hdeclares⟩) (by decide) rfl (.lead onlyLayout_nil)
  have hstray : Stray star := by
    refine ⟨rfl, rfl, ?_, ?_⟩
    all_goals
      intro name h
      cases h
  -- the rule is the second one
  rcases front with _ | ⟨_, _ | ⟨_, _ | ⟨_, _ | ⟨_, front⟩⟩⟩⟩
  · injection hread with hr
    injection hr with h₁ h₂
    subst h₁ h₂
    exact absurd hfirst hwrong
  · injection hread with _ hread
    injection hread with hr
    cases hr
  · injection hread with _ hread
    injection hread with _ hread
    injection hread with hr
    cases hr
  · cases hread
    obtain ⟨rfl, -⟩ := hitem b _ star [] rfl hcustom rfl hdone hstray
    have hbehind : ".b\x7bc:;".toList ++ "*\x7d".toList
        = ".b\x7bc:;".toList ++ (outside ++ textOfTokens (closingOf (some b))) := hrule
    rw [← List.append_cancel_left hbehind] at hmarks
    exact hmarks
  · simp at hread

end StyleLookup.Css
