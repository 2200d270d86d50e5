import Mathlib.Data.List.Induction
import StyleLookup.Proofs.Acceptance
import StyleLookup.Proofs.TokenBoundary

/-!
# Stylesheets one below the other

A text is **complete** if nothing in it is left for the end of the text to close: its blocks and
comments are closed, its at-rules have their semicolon or block, and its rules have their block.
Reading forgets a complete text as soon as it is read. With another text below it, it gives its own
rules, and the other text gives what it gives alone, only further down.

The reason is the last token of a complete text, white space aside. It is a semicolon, a closing
bracket, a closed comment or a mark of embedding, and no such token sees what follows it
(`Token.IsSealed`). White space has to be set apart because it does: two stretches of it become one.
-/

namespace StyleLookup.Css

open Text Component Lexer Item

/-! ## Complete texts -/

/-- Whether an item ends by itself. -/
def Item.isComplete : Item → Bool
  | .filler _ => true
  | .atRule parts => parts.getLast?.any endsAtRule
  | .rule _ b => b.isSome

/--
A text that ends by itself. Strings and urls need no mention: one that runs to the end of the text
leaves its item without an end.
-/
structure Complete (text : List Char) : Prop where
  items : ∀ i ∈ Item.ofText text, i.isComplete = true
  blocks : Closed none (Component.ofText text)
  comments : ∀ t ∈ tokenize text, t.kind = .comment → t.ClosesComment

/-! ## Items one after the other -/

theorem Item.cuts_ofComponents {cs : List Component} (h : Nested none cs) :
    Cuts cs (ofComponents cs) := by
  obtain ⟨is, his⟩ := exists_cuts cs h
  rw [his.ofComponents_eq]
  exact his

theorem Item.endsAtRule_of_isAtKeyword {c : Component} (h : isAtKeyword c = true) :
    endsAtRule c = false := by
  unfold isAtKeyword at h
  split at h
  · rename_i name hkind
    rw [endsAtRule, isSemicolon, isCurly, hkind]
    rfl
  · exact absurd h Bool.false_ne_true

/-- An at-rule without an end is not complete. -/
theorem Item.not_isComplete_openAtRule {c : Component} {parts : List Component}
    (hc : isAtKeyword c = true) (hparts : ∀ p ∈ parts, endsAtRule p = false) :
    ¬ (Item.atRule (c :: parts)).isComplete = true := by
  intro h
  rw [isComplete, Option.any_eq_true] at h
  obtain ⟨last, hlast, hend⟩ := h
  rcases List.mem_cons.mp (List.mem_of_getLast? hlast) with h | h
  · rw [h, endsAtRule_of_isAtKeyword hc] at hend
    exact Bool.false_ne_true hend
  · rw [hparts last h] at hend
    exact Bool.false_ne_true hend

theorem Item.not_isComplete_openRule {prelude : List Component} :
    ¬ (Item.rule prelude none).isComplete = true := Bool.false_ne_true

/-- Behind complete items a row of components is cut afresh. -/
theorem Item.Cuts.append {cs ds : List Component} {is js : List Item} (h : Cuts cs is)
    (hcomplete : ∀ i ∈ is, i.isComplete = true) (hds : Cuts ds js) :
    Cuts (cs ++ ds) (is ++ js) := by
  induction h with
  | nil => exact hds
  | filler hc _ ih => exact .filler hc (ih fun i hi => hcomplete i (List.mem_cons_of_mem _ hi))
  | atRule hc hparts hlast _ ih =>
      have ih := ih fun i hi => hcomplete i (List.mem_cons_of_mem _ hi)
      rw [List.append_assoc]
      exact .atRule hc hparts hlast ih
  | openAtRule hc hparts =>
      exact absurd (hcomplete _ List.mem_cons_self) (not_isComplete_openAtRule hc hparts)
  | rule hstart hprelude hb _ ih =>
      have ih := ih fun i hi => hcomplete i (List.mem_cons_of_mem _ hi)
      rw [List.append_assoc]
      exact .rule hstart hprelude hb ih
  | openRule _ _ _ => exact absurd (hcomplete _ List.mem_cons_self) not_isComplete_openRule

/-- The last component of a row with another one marked in it: the marked one or a later one. -/
theorem concat_eq_append_cons {row front ds : List Component} {c last : Component}
    (h : row ++ [c] = front ++ last :: ds) :
    (ds = [] ∧ row = front ∧ c = last)
      ∨ ∃ init, ds = init ++ [c] ∧ row = front ++ last :: init := by
  rcases List.eq_nil_or_concat' ds with rfl | ⟨init, d, rfl⟩
  · obtain ⟨hrow, hlast⟩ := List.append_inj' h rfl
    injection hlast with hlast _
    exact .inl ⟨rfl, hrow, hlast⟩
  · rw [← List.cons_append, ← List.append_assoc] at h
    obtain ⟨hrow, hlast⟩ := List.append_inj' h rfl
    injection hlast with hlast _
    exact .inr ⟨init, by rw [hlast], hrow⟩

/-- The last component of complete items is an item that stands between others, or ends one. -/
theorem Item.Cuts.concat_cases {row : List Component} {is : List Item} {c : Component}
    (h : Cuts (row ++ [c]) is) (hcomplete : ∀ i ∈ is, i.isComplete = true) :
    (isFiller c = true ∧ ∃ js, is = js ++ [.filler c] ∧ Cuts row js) ∨ endsAtRule c = true := by
  generalize hrow : row ++ [c] = all at h
  induction h generalizing row with
  | nil => exact absurd hrow (List.append_ne_nil_of_right_ne_nil _ (List.cons_ne_nil _ _))
  | @filler d ds is hd hds ih =>
      have hrow : row ++ [c] = [] ++ d :: ds := hrow
      rcases concat_eq_append_cons hrow with ⟨rfl, rfl, rfl⟩ | ⟨init, rfl, rfl⟩
      · have his : is = [] := by rw [← hds.ofComponents_eq, ofComponents]
        exact .inl ⟨hd, [], by rw [his]; rfl, .nil⟩
      · refine (ih (fun i hi => hcomplete i (List.mem_cons_of_mem _ hi)) rfl).imp_left ?_
        intro hfiller
        obtain ⟨hc, js, rfl, hjs⟩ := hfiller
        exact ⟨hc, _, rfl, .filler hd hjs⟩
  | @atRule d last parts ds is hd hparts hlast hds ih =>
      rcases concat_eq_append_cons hrow with ⟨rfl, rfl, rfl⟩ | ⟨init, rfl, rfl⟩
      · exact .inr hlast
      · refine (ih (fun i hi => hcomplete i (List.mem_cons_of_mem _ hi)) rfl).imp_left ?_
        intro hfiller
        obtain ⟨hc, js, rfl, hjs⟩ := hfiller
        exact ⟨hc, _, rfl, .atRule hd hparts hlast hjs⟩
  | openAtRule hd hparts =>
      exact absurd (hcomplete _ List.mem_cons_self) (not_isComplete_openAtRule hd hparts)
  | @rule prelude ds b is hstart hprelude hb hds ih =>
      rcases concat_eq_append_cons hrow with ⟨rfl, rfl, rfl⟩ | ⟨init, rfl, rfl⟩
      · rw [endsAtRule, hb, Bool.or_true]
        exact .inr rfl
      · refine (ih (fun i hi => hcomplete i (List.mem_cons_of_mem _ hi)) rfl).imp_left ?_
        intro hfiller
        obtain ⟨hc, js, rfl, hjs⟩ := hfiller
        exact ⟨hc, _, rfl, .rule hstart hprelude hb hjs⟩
  | openRule _ _ _ => exact absurd (hcomplete _ List.mem_cons_self) not_isComplete_openRule

/-! ## Where a complete text ends -/

/-- In a closed row what has the kind of a plain token is one. -/
theorem Component.Closed.exists_token {stop : Option Kind} {c : Component}
    (h : Closed stop [c]) (hc : c.kind.closer? = none) : ∃ t, c = .token t := by
  cases c with
  | token t => exact ⟨t, rfl⟩
  | block opening body closing =>
      cases h with
      | block ho _ _ =>
          rw [Component.kind, Component.head, ho] at hc
          cases hc

/-- The kinds at the end of an item that is complete. -/
def Kind.endsItem : Kind → Bool
  | .comment | .markupOpen | .markupClose | .semicolon | .closeCurly => true
  | _ => false

/-- What is no white space and no piece of an item ends in a token of these kinds. -/
theorem exists_last_token {c : Component} (hclosed : Closed none [c])
    (hc : isFiller c = true ∨ endsAtRule c = true) (hblank : c.kind ≠ .blank) :
    ∃ front t, c.tokens = front ++ [t] ∧ t.kind.endsItem = true := by
  cases hclosed with
  | @token _ t _ ht _ _ =>
      refine ⟨[], t, rfl, ?_⟩
      change t.kind ≠ .blank at hblank
      rw [isFiller, endsAtRule, isLayout, isSemicolon, isCurly,
        show (token t).kind = t.kind from rfl] at hc
      revert hc ht hblank
      cases t.kind <;> simp [Kind.endsItem, Kind.isLayout, Kind.closer?]
  | @block _ opening closing body _ ho _ _ =>
      refine ⟨opening :: tokensOf body, closing, rfl, ?_⟩
      rw [isFiller, endsAtRule, isLayout, isSemicolon, isCurly,
        show (Component.block opening body (some closing)).kind = opening.kind from rfl] at hc
      revert hc ho
      cases opening.kind <;> simp [Kind.endsItem, Kind.isLayout, Kind.closer?]
      intro h
      rw [← h]

/-- Such a token does not see what follows. -/
theorem Token.Stands.isSealed {t : Token} {s : List Char} (h : t.Stands s)
    (ht : t.kind.endsItem = true) (hcomment : t.kind = .comment → t.ClosesComment) :
    t.IsSealed := by
  unfold Kind.endsItem at ht
  split at ht
  · rename_i hkind
    exact h.isSealed_of_comment hkind (hcomment hkind)
  · rename_i hkind
    exact h.isSealed_of_fixed (by rw [hkind]; rfl)
  · rename_i hkind
    exact h.isSealed_of_fixed (by rw [hkind]; rfl)
  · rename_i hkind
    exact h.isSealed_of_fixed (by rw [hkind]; rfl)
  · rename_i hkind
    exact h.isSealed_of_fixed (by rw [hkind]; rfl)
  · exact absurd ht Bool.false_ne_true

/-- White space behind the last item can be set apart. -/
theorem Item.Cuts.exists_split {cs : List Component} {is : List Item} (h : Cuts cs is)
    (hcomplete : ∀ i ∈ is, i.isComplete = true) :
    ∃ row white js, cs = row ++ white ∧ (∀ c ∈ white, c.kind = .blank) ∧ Cuts row js
      ∧ (∀ i ∈ js, i.isComplete = true)
      ∧ ∀ front c, row = front ++ [c] →
        c.kind ≠ .blank ∧ (isFiller c = true ∨ endsAtRule c = true) := by
  induction cs using List.reverseRecOn generalizing is with
  | nil =>
      refine ⟨[], [], is, rfl, by simp, h, hcomplete, ?_⟩
      intro front c hrow
      exact absurd hrow.symm (List.append_ne_nil_of_right_ne_nil _ (List.cons_ne_nil _ _))
  | append_singleton cs c ih =>
      have hcases := h.concat_cases hcomplete
      by_cases hblank : c.kind = .blank
      · -- white space ends no item, so it stands between items
        rcases hcases with ⟨_, js, rfl, hjs⟩ | hend
        · obtain ⟨row, white, js', rfl, hwhite, hrow, hjs', hlast⟩ :=
            ih hjs fun i hi => hcomplete i (List.mem_append_left _ hi)
          refine ⟨row, white ++ [c], js', by rw [List.append_assoc], ?_, hrow, hjs', hlast⟩
          intro d hd
          rcases List.mem_append.mp hd with hd | hd
          · exact hwhite d hd
          · rw [List.mem_singleton.mp hd]; exact hblank
        · rw [endsAtRule, isSemicolon, isCurly, hblank] at hend
          exact absurd hend Bool.false_ne_true
      · refine ⟨cs ++ [c], [], is, (List.append_nil _).symm, by simp, h, hcomplete, ?_⟩
        intro front d hrow
        injection (List.append_inj' hrow rfl).2 with hd _
        rw [← hd]
        exact ⟨hblank, hcases.imp_left And.left⟩

theorem isSpace_of_tokenize {s : List Char} (h : ∀ t ∈ tokenize s, t.kind = .blank) :
    ∀ c ∈ s, isSpace c = true := by
  generalize hts : tokenize s = ts at h
  induction ts generalizing s with
  | nil =>
      have htext := flatMap_text_tokenize s
      rw [hts] at htext
      rw [← htext]
      intro c hc
      exact absurd hc (List.not_mem_nil)
  | cons t ts ih =>
      obtain ⟨x, rfl, ht, hx⟩ := tokenize_eq_cons_iff.mp hts
      intro c hc
      rcases List.mem_append.mp hc with hc | hc
      · exact ht.isSpace_of_blank (h t List.mem_cons_self) c hc
      · exact ih hx (fun t ht => h t (List.mem_cons_of_mem _ ht)) c hc

theorem kind_of_mem_tokensOf {row : List Component} (hclosed : Closed none row)
    (h : ∀ c ∈ row, c.kind = .blank) : ∀ t ∈ tokensOf row, t.kind = .blank := by
  induction row with
  | nil => intro t ht; exact absurd ht List.not_mem_nil
  | cons c cs ih =>
      have hc : c.kind = .blank := h c List.mem_cons_self
      obtain ⟨t, rfl⟩ := Closed.exists_token (Closed.of_append (a := [c]) hclosed).1
        (by rw [hc]; rfl)
      intro s hs
      rcases List.mem_cons.mp hs with rfl | hs
      · exact hc
      · exact ih (Closed.of_append (a := [.token t]) hclosed).2
          (fun d hd => h d (List.mem_cons_of_mem _ hd)) s hs

theorem atBoundary_of_isSpace {s : List Char} (h : ∀ c ∈ s.head?, isSpace c = true) :
    AtBoundary s := fun c hc => isBoundary_of_isSpace (h c hc)

/--
**A complete text is read the same with white space below it.**

It comes apart in components that end in a token which sees nothing of what follows, and white
space.
-/
theorem Complete.exists_ofText_append {text : List Char} (h : Complete text) :
    ∃ row white, text = textOf row ++ white ∧ (∀ c ∈ white, isSpace c = true) ∧ Closed none row
      ∧ (∀ i ∈ Item.ofComponents row, i.isComplete = true)
      ∧ ∀ x, AtBoundary (white ++ x) →
        Component.ofText (text ++ x) = row ++ Component.ofText (white ++ x) := by
  have hcuts := Item.cuts_ofComponents (nested_ofText text)
  obtain ⟨row, blanks, js, hrow, hblanks, hjs, hcomplete, hlast⟩ := hcuts.exists_split h.items
  have hclosed := h.blocks
  rw [hrow] at hclosed
  have htokens := tokensOf_ofText text
  rw [hrow, tokensOf_append] at htokens
  obtain ⟨white, htext, hstand, hwhite⟩ := tokenize_eq_append_iff.mp htokens.symm
  have hspace : ∀ c ∈ white, isSpace c = true := by
    refine isSpace_of_tokenize ?_
    rw [hwhite]
    exact kind_of_mem_tokensOf hclosed.of_append.2 hblanks
  refine ⟨row, white, ?_, hspace, hclosed.of_append.1, ?_, ?_⟩
  · rw [htext, textOf_eq_flatMap]
    rfl
  · rw [hjs.ofComponents_eq]
    exact hcomplete
  · intro x hx
    have hstand' : Stand (tokensOf row) (white ++ x) := by
      rcases List.eq_nil_or_concat' row with rfl | ⟨front, c, rfl⟩
      · exact trivial
      -- the last token is sealed, so what follows it may be anything at a boundary
      obtain ⟨hblank, hends⟩ := hlast front c rfl
      obtain ⟨init, t, hc, ht⟩ :=
        exists_last_token hclosed.of_append.1.of_append.2 hends hblank
      have hrowtokens : tokensOf (front ++ [c]) = (tokensOf front ++ init) ++ [t] := by
        rw [tokensOf_append, tokensOf, tokensOf, hc, List.append_nil, List.append_assoc]
      rw [hrowtokens] at hstand htokens ⊢
      have hmem : t ∈ tokenize text := by rw [← htokens]; simp
      have hsealed := (stand_append.mp hstand).2.1.isSealed ht (h.comments t hmem)
      have hboundary : AtBoundary white :=
        atBoundary_of_isSpace fun d hd => hspace d (List.mem_of_mem_head? hd)
      exact hstand.move hsealed.solid hboundary hx (hsealed.stands _)
    rw [htext, List.append_assoc, Component.ofText, tokenize_append hstand',
      ofTokens_append hclosed.of_append.1]
    rfl

/-! ## Rules one after the other -/

theorem Fault.shift_zero (f : Fault) : f.shift 0 = f := by
  rw [Fault.shift, Nat.zero_add]

theorem Fault.shift_shift (f : Fault) (m n : Nat) : (f.shift n).shift m = f.shift (m + n) := by
  rw [Fault.shift, Fault.shift, Fault.shift, Nat.add_assoc]

theorem shifted_zero {α : Type} (result : Except Fault α) : shifted 0 result = result := by
  cases result with
  | ok a => rfl
  | error f => exact congrArg Except.error f.shift_zero

theorem shifted_shifted {α : Type} (m n : Nat) (result : Except Fault α) :
    shifted m (shifted n result) = shifted (m + n) result := by
  cases result with
  | ok a => rfl
  | error f => exact congrArg Except.error (f.shift_shift m n)

theorem map_shifted {α β : Type} (n : Nat) (f : α → β) (result : Except Fault α) :
    (shifted n result).map f = shifted n (result.map f) := by
  cases result with
  | ok a => rfl
  | error f => rfl

theorem map_append_map {ε α : Type} (a b : List α) (result : Except ε (List α)) :
    (result.map (b ++ ·)).map (a ++ ·) = result.map ((a ++ b) ++ ·) := by
  cases result with
  | ok c => exact congrArg Except.ok (List.append_assoc a b c).symm
  | error e => rfl

/-- Behind items that are read the others give what they give alone. -/
theorem rulesOf_append {is js : List Item} {rs : List Rule} (h : rulesOf is = .ok rs) :
    rulesOf (is ++ js)
      = (shifted (is.flatMap Item.text).length (rulesOf js)).map (rs ++ ·) := by
  induction is generalizing rs with
  | nil =>
      rw [← Except.ok.inj h, List.nil_append, List.flatMap_nil, List.length_nil, shifted_zero]
      cases rulesOf js with
      | ok _ => rfl
      | error _ => rfl
  | cons i is ih =>
      obtain ⟨found, rest, hi, hrest, rfl⟩ := rulesOf_cons_eq_ok_iff.mp h
      rw [List.cons_append, rulesOf_cons hi, ih hrest, map_shifted, map_shifted, map_shifted,
        shifted_shifted, map_append_map, ← map_shifted, List.flatMap_cons, List.length_append]

theorem exists_rulesOf_of_append {is js : List Item} {rs : List Rule}
    (h : rulesOf (is ++ js) = .ok rs) : ∃ rs', rulesOf is = .ok rs' := by
  induction is generalizing rs with
  | nil => exact ⟨[], rfl⟩
  | cons i is ih =>
      obtain ⟨found, rest, hi, hrest, _⟩ := rulesOf_cons_eq_ok_iff.mp h
      obtain ⟨rs', hrs'⟩ := ih hrest
      exact ⟨_, rulesOf_cons_eq_ok_iff.mpr ⟨found, rs', hi, hrs', rfl⟩⟩

/-- Behind a row of complete items reading starts afresh. -/
theorem readRules_of_ofText_eq_append {text rest : List Char} {row : List Component}
    {rs : List Rule} (htext : Component.ofText text = row ++ Component.ofText rest)
    (hclosed : Closed none row) (hcomplete : ∀ i ∈ Item.ofComponents row, i.isComplete = true)
    (hrs : rulesOf (Item.ofComponents row) = .ok rs) :
    readRules text = (shifted (textOf row).length (readRules rest)).map (rs ++ ·) := by
  have hrow : Item.Cuts row (Item.ofComponents row) := Item.cuts_ofComponents (.closed hclosed)
  have hcuts := hrow.append hcomplete (Item.cuts_ofComponents (nested_ofText rest))
  rw [readRules, htext, hcuts.ofComponents_eq, rulesOf_append hrs, flatMap_text_ofComponents]
  rfl

/-- White space in front of a text only moves it. -/
theorem readRules_dropWhile_isSpace (s : List Char) :
    readRules s = shifted (s.takeWhile isSpace).length (readRules (s.dropWhile isSpace)) := by
  cases s with
  | nil => exact (shifted_zero _).symm
  | cons c cs =>
      by_cases hc : isSpace c = true
      · -- the white space is one token, and an item of its own that says nothing
        rw [List.takeWhile_cons_of_pos hc, List.dropWhile_cons_of_pos hc]
        let t : Token := ⟨.blank, c :: cs.takeWhile isSpace⟩
        have hclosed : Closed none [Component.token t] := .token rfl (by simp) .nil
        have htokens : tokenize (c :: cs) = t :: tokenize (cs.dropWhile isSpace) := by
          refine tokenize_eq_cons_iff.mpr ⟨_, ?_, stands_blank hc, rfl⟩
          rw [List.cons_append, List.takeWhile_append_dropWhile]
        have htext : Component.ofText (c :: cs)
            = [.token t] ++ Component.ofText (cs.dropWhile isSpace) := by
          rw [Component.ofText, htokens]
          exact ofTokens_append hclosed _
        have hitems : Item.ofComponents [.token t] = [.filler (.token t)] := by
          rw [Item.ofComponents_filler rfl, Item.ofComponents]
        have hnone : rulesOf (Item.ofComponents [.token t]) = .ok [] := by rw [hitems]; rfl
        have hread := readRules_of_ofText_eq_append htext hclosed
          (by rw [hitems]; simp [Item.isComplete]) hnone
        rw [hread, textOf, textOf, List.append_nil]
        cases readRules (cs.dropWhile isSpace) with
        | ok _ => rfl
        | error _ => rfl
      · rw [List.takeWhile_cons_of_neg hc, List.dropWhile_cons_of_neg hc]
        exact (shifted_zero _).symm

theorem readRules_white_append {white : List Char} (h : ∀ c ∈ white, isSpace c = true)
    (s : List Char) : readRules (white ++ s) = shifted white.length (readRules s) := by
  rw [readRules_dropWhile_isSpace, readRules_dropWhile_isSpace s, List.takeWhile_append_of_pos h,
    List.dropWhile_append_of_pos h, shifted_shifted, List.length_append]

theorem readRules_nil : readRules [] = .ok [] := by
  have hnone : Component.ofText [] = [] := by rw [Component.ofText, tokenize]; rfl
  rw [readRules, hnone, Item.ofComponents]
  rfl

/-- **Behind a complete text another one gives what it gives alone, further down.** -/
theorem Complete.readRules_append {text s : List Char} {rs : List Rule} (h : Complete text)
    (hrs : readRules text = .ok rs) (hs : AtBoundary s) :
    readRules (text ++ s) = (shifted text.length (readRules s)).map (rs ++ ·) := by
  obtain ⟨row, white, htext, hwhite, hclosed, hcomplete, hread⟩ := h.exists_ofText_append
  have hboundary : ∀ x, AtBoundary x → AtBoundary (white ++ x) := by
    intro x hx
    cases white with
    | nil => exact hx
    | cons c cs => exact atBoundary_of_isSpace fun d hd => hwhite d (List.mem_of_mem_head? hd)
  have halone : Component.ofText text = row ++ Component.ofText white := by
    have hnil := hread [] (hboundary [] fun c hc => absurd hc (by simp))
    rwa [List.append_nil, List.append_nil] at hnil
  have hnone : readRules white = .ok [] := by
    have hwhite' := readRules_white_append hwhite []
    rw [List.append_nil, readRules_nil] at hwhite'
    exact hwhite'
  -- the text alone says what the rules of the row are
  obtain ⟨rs', hrs'⟩ : ∃ rs', rulesOf (Item.ofComponents row) = .ok rs' := by
    have hrow : Item.Cuts row (Item.ofComponents row) := Item.cuts_ofComponents (.closed hclosed)
    have hcuts := hrow.append hcomplete (Item.cuts_ofComponents (nested_ofText white))
    rw [readRules, halone, hcuts.ofComponents_eq] at hrs
    exact exists_rulesOf_of_append hrs
  have hsame : rs' = rs := by
    rw [readRules_of_ofText_eq_append halone hclosed hcomplete hrs', hnone] at hrs
    have hrules : rs' ++ [] = rs := Except.ok.inj hrs
    rw [← hrules, List.append_nil]
  subst hsame
  rw [readRules_of_ofText_eq_append (hread s (hboundary s hs)) hclosed hcomplete hrs',
    readRules_white_append hwhite, shifted_shifted, htext, List.length_append]

/-! ## Lines -/

/-- The number of line ends in a text; a carriage return with a line feed is one. -/
def lineEnds : List Char → Nat
  | [] => 0
  | '\r' :: '\n' :: cs => lineEnds cs + 1
  | c :: cs => if isNewline c then lineEnds cs + 1 else lineEnds cs

theorem advance_cons {c : Char} {cs : List Char} (h : ¬ (c = '\r' ∧ cs.head? = some '\n'))
    (l : Location) : l.advance (c :: cs)
      = if isNewline c then l.nextLine.advance cs
        else Location.advance ⟨l.line, l.column + utf16Width c⟩ cs := by
  rw [Location.advance]
  · simp [isNewline, or_assoc]
  · intro ds hc hcs
    exact h ⟨hc, by rw [hcs]; rfl⟩

theorem lineEnds_cons {c : Char} {cs : List Char} (h : ¬ (c = '\r' ∧ cs.head? = some '\n')) :
    lineEnds (c :: cs) = if isNewline c then lineEnds cs + 1 else lineEnds cs := by
  rw [lineEnds]
  intro ds hc hcs
  exact h ⟨hc, by rw [hcs]; rfl⟩

/-- Starting further down, one ends further down. -/
theorem advance_add_line (l : Location) (n : Nat) (s : List Char) :
    Location.advance ⟨l.line + n, l.column⟩ s
      = ⟨(l.advance s).line + n, (l.advance s).column⟩ := by
  have hnext : ∀ l : Location, Location.nextLine ⟨l.line + n, l.column⟩
      = ⟨l.nextLine.line + n, l.nextLine.column⟩ := by
    intro l
    simp [Location.nextLine, Nat.add_right_comm]
  fun_induction Location.advance l s with
  | case1 l => rfl
  | case2 l cs ih =>
      rw [Location.advance, hnext]
      exact ih
  | case3 l c cs hpair hline ih =>
      rw [Location.advance, if_pos hline, hnext]
      · exact ih
      · exact hpair
  | case4 l c cs hpair hline ih =>
      rw [Location.advance, if_neg hline]
      · exact ih
      · exact hpair

/-- A line feed starts a new line, whatever stands above. -/
theorem advance_append_newline (l : Location) (p s : List Char) :
    l.advance (p ++ '\n' :: s) = Location.advance ⟨l.line + lineEnds (p ++ ['\n']), 1⟩ s := by
  fun_induction Location.advance l p with
  | case1 l => rfl
  | case2 l cs ih =>
      show l.nextLine.advance (cs ++ '\n' :: s) = _
      rw [ih, List.cons_append, List.cons_append, lineEnds, Location.nextLine]
      dsimp only
      rw [Nat.add_assoc, Nat.add_comm 1]
  | case3 l c cs hpair hline ih =>
      have hnewline : isNewline c = true := by simpa [isNewline, or_assoc] using hline
      by_cases hreturn : c = '\r' ∧ cs = []
      · -- the line feed belongs to the carriage return in front of it
        obtain ⟨rfl, rfl⟩ := hreturn
        rfl
      · have hne : ∀ t, ¬ (c = '\r' ∧ (cs ++ '\n' :: t).head? = some '\n') := by
          intro t ht
          cases cs with
          | nil => exact hreturn ⟨ht.1, rfl⟩
          | cons d ds => exact hpair ds ht.1 (by rw [Option.some.inj ht.2])
        rw [List.cons_append, advance_cons (hne s), if_pos hnewline, ih, List.cons_append,
          lineEnds_cons (hne []), if_pos hnewline, Location.nextLine]
        dsimp only
        rw [Nat.add_assoc, Nat.add_comm 1]
  | case4 l c cs hpair hline ih =>
      have hnewline : ¬ isNewline c = true := by simpa [isNewline, or_assoc] using hline
      have hne : ∀ t, ¬ (c = '\r' ∧ (cs ++ '\n' :: t).head? = some '\n') :=
        fun t ht => hline (.inr (.inl ht.1))
      rw [List.cons_append, advance_cons (hne s), if_neg hnewline, ih, List.cons_append,
        lineEnds_cons (hne []), if_neg hnewline]

/-! ## Stylesheets one below the other -/

/-- A refusal that stands `n` lines further down. -/
def ParseError.lower (n : Nat) (e : ParseError) : ParseError :=
  ⟨e.cause, e.file, ⟨e.location.line + n, e.location.column⟩⟩

/-- The place of a fault below a line feed. -/
theorem Fault.inText_below (f : Fault) (file : String) (p s : List Char) :
    (f.shift (p ++ ['\n']).length).inText file (p ++ '\n' :: s)
      = (f.inText file s).lower (lineEnds (p ++ ['\n'])) := by
  have htake : (p ++ '\n' :: s).take ((p ++ ['\n']).length + f.offset)
      = p ++ '\n' :: s.take f.offset := by
    have hsplit : (p ++ ['\n'] ++ s).take ((p ++ ['\n']).length + f.offset)
        = p ++ ['\n'] ++ s.take f.offset := List.take_length_add_append f.offset
    rw [List.append_assoc, List.append_assoc] at hsplit
    exact hsplit
  rw [Fault.inText, Fault.shift, htake, ParseError.lower, Fault.inText, Location.after,
    Location.after, advance_append_newline, ← advance_add_line]
  rfl

theorem Complete.readRules_below {text : List Char} {rs : List Rule} (h : Complete text)
    (hrs : readRules text = .ok rs) (s : List Char) :
    readRules (text ++ '\n' :: s)
      = (shifted (text ++ ['\n']).length (readRules s)).map (rs ++ ·) := by
  have hboundary : AtBoundary ('\n' :: s) := atBoundary_cons rfl
  have hspace : ∀ c ∈ ['\n'], isSpace c = true := List.forall_mem_singleton.mpr rfl
  have hline : readRules ('\n' :: s) = shifted 1 (readRules s) := readRules_white_append hspace s
  rw [h.readRules_append hrs hboundary, hline, shifted_shifted, List.length_append,
    List.length_singleton]

theorem Complete.readRules_below_eq_ok_iff {text : List Char} {rs : List Rule} (h : Complete text)
    (hrs : readRules text = .ok rs) (s : List Char) (rules : List Rule) :
    readRules (text ++ '\n' :: s) = .ok rules
      ↔ ∃ below, readRules s = .ok below ∧ rs ++ below = rules := by
  rw [h.readRules_below hrs, map_eq_ok_iff]
  refine ⟨?_, ?_⟩
  · intro hmap
    obtain ⟨below, hbelow, heq⟩ := hmap
    exact ⟨below, shifted_eq_ok_iff.mp hbelow, heq⟩
  · intro hread
    obtain ⟨below, hbelow, heq⟩ := hread
    exact ⟨below, shifted_eq_ok_iff.mpr hbelow, heq⟩

/-- A text without rules among its items gives none. -/
theorem readRules_of_no_rule {text : List Char}
    (h : ∀ prelude b, Item.rule prelude b ∉ Item.ofText text) : readRules text = .ok [] := by
  rw [readRules_eq_ok_iff]
  generalize Item.ofText text = is at h
  induction is with
  | nil => exact .nil
  | cons i is ih =>
      have hrest := ih fun prelude b hmem => h prelude b (List.mem_cons_of_mem _ hmem)
      cases i with
      | filler c => exact .filler hrest
      | atRule parts => exact .atRule hrest
      | rule prelude b => exact absurd List.mem_cons_self (h prelude b)

/-- What reading gives for a text below a complete one. -/
theorem parse_below {a b source : String} {sheet : Stylesheet} (ha : Complete a.toList)
    (hsheet : Stylesheet.parse a source = .ok sheet) :
    Stylesheet.parse (a ++ "\n" ++ b) source = match Stylesheet.parse b source with
      | .ok below => .ok ⟨source, sheet.rules ++ below.rules⟩
      | .error e => .error (e.lower (lineEnds (a ++ "\n").toList)) := by
  have htext : (a ++ "\n" ++ b).toList = a.toList ++ '\n' :: b.toList := by simp
  have hline : (a ++ "\n").toList = a.toList ++ ['\n'] := by simp
  have hread := ha.readRules_below ((parse_eq_ok_iff _ _ _).mp hsheet).1 b.toList
  unfold Stylesheet.parse
  rw [htext, hline, hread]
  cases readRules b.toList with
  | ok rs => rfl
  | error f => exact congrArg Except.error (f.inText_below source a.toList b.toList)

/--
**Stylesheets one below the other are read one after the other.**

Below a complete text that is accepted, another text is accepted exactly if it is alone. Its rules
come behind those of the first; a refusal has the same cause and column, and its line counts the
line ends above. Nothing else of the first text matters: complete comments and at-rules in between,
or at the start, change no rule.
-/
theorem parse_append_newline (a b source : String) (sheet : Stylesheet)
    (ha : Complete a.toList) (hsheet : Stylesheet.parse a source = .ok sheet) :
    (Stylesheet.parse (a ++ "\n" ++ b) source = match Stylesheet.parse b source with
      | .ok below => .ok ⟨source, sheet.rules ++ below.rules⟩
      | .error e => .error (e.lower (lineEnds (a ++ "\n").toList)))
    ∧ ∀ m : String, Complete m.toList → (∀ prelude b, Item.rule prelude b ∉ Item.ofText m.toList) →
      ∀ rules,
        (Stylesheet.parse (m ++ "\n" ++ b) source = .ok ⟨source, rules⟩
          ↔ Stylesheet.parse b source = .ok ⟨source, rules⟩)
        ∧ (Stylesheet.parse (a ++ "\n" ++ m ++ "\n" ++ b) source = .ok ⟨source, rules⟩
          ↔ Stylesheet.parse (a ++ "\n" ++ b) source = .ok ⟨source, rules⟩) := by
  refine ⟨parse_below ha hsheet, ?_⟩
  intro m hm hnone rules
  have hparse : ∀ text : String, Stylesheet.parse text source = .ok ⟨source, rules⟩
      ↔ readRules text.toList = .ok rules := by
    intro text
    rw [parse_eq_ok_iff, and_iff_left rfl]
  have hmb : ∀ rs, readRules (m.toList ++ '\n' :: b.toList) = .ok rs
      ↔ readRules b.toList = .ok rs := by
    intro rs
    rw [hm.readRules_below_eq_ok_iff (readRules_of_no_rule hnone)]
    simp
  have hrules := ((parse_eq_ok_iff _ _ _).mp hsheet).1
  refine ⟨?_, ?_⟩
  · rw [hparse, hparse, show (m ++ "\n" ++ b).toList = m.toList ++ '\n' :: b.toList by simp]
    exact hmb rules
  · rw [hparse, hparse, show (a ++ "\n" ++ m ++ "\n" ++ b).toList
        = a.toList ++ '\n' :: (m.toList ++ '\n' :: b.toList) by simp,
      show (a ++ "\n" ++ b).toList = a.toList ++ '\n' :: b.toList by simp,
      ha.readRules_below_eq_ok_iff hrules, ha.readRules_below_eq_ok_iff hrules]
    simp only [hmb]

/-- A `@charset` and a rule, above a rule whose block is missing in its second line. -/
theorem parse_append_newline_charset :
    Complete "@charset 'u';\r\n.a\x7b\x7d".toList
    ∧ Stylesheet.parse "@charset 'u';\r\n.a\x7b\x7d" "s" = .ok ⟨"s", [⟨[".a"], []⟩]⟩
    ∧ Stylesheet.parse ("@charset 'u';\r\n.a\x7b\x7d" ++ "\n" ++ "\r.d") "s"
      = .error ⟨.unexpectedEnd, "s", ⟨4, 3⟩⟩ := by
  have htext : Component.ofText "@charset 'u';\r\n.a\x7b\x7d".toList
      = [.token ⟨.atKeyword "charset".toList, "@charset".toList⟩, .token ⟨.blank, [' ']⟩,
        .token ⟨.string ['u'], "'u'".toList⟩, .token ⟨.semicolon, [';']⟩,
        .token ⟨.blank, ['\r', '\n']⟩, .token ⟨.delim '.', ['.']⟩, .token ⟨.ident ['a'], ['a']⟩,
        .block ⟨.openCurly, ['\x7b']⟩ [] (some ⟨.closeCurly, ['\x7d']⟩)] := by
    with_unfolding_all rfl
  have hcomplete : Complete "@charset 'u';\r\n.a\x7b\x7d".toList := by
    refine ⟨?_, ?_, ?_⟩
    · rw [Item.ofText, htext]
      exact List.all_eq_true.mp (by decide +kernel)
    · rw [htext]
      repeat first
        | exact .nil
        | refine .token rfl (by simp) ?_
        | refine .block rfl .nil ?_
    · rw [← tokensOf_ofText, htext]
      simp [tokensOf, Component.tokens]
  have hsheet : Stylesheet.parse "@charset 'u';\r\n.a\x7b\x7d" "s"
      = .ok ⟨"s", [⟨[".a"], []⟩]⟩ := by decide +kernel
  have hbelow : Stylesheet.parse "\r.d" "s" = .error ⟨.unexpectedEnd, "s", ⟨2, 3⟩⟩ := by
    decide +kernel
  refine ⟨hcomplete, hsheet, ?_⟩
  rw [(parse_append_newline _ "\r.d" "s" _ hcomplete hsheet).1, hbelow]
  decide +kernel

end StyleLookup.Css
