import Mathlib.Data.List.TakeWhile
import StyleLookup.Css.Reading
import StyleLookup.Proofs.Nesting

/-!
# How a text is cut into items

The first half of the grammar of stylesheets, said without a reader: how a row of components is cut
into pieces at separators, and how the components of a text are cut into items. Both are relations
on rows, and neither mentions an order of reading.

`Reads text items` puts the halves of the way together: the tokens of the text, nested, are cut
into `items`. Every text reads in exactly one way (`reads_iff`), so nothing can be wrong with a
stylesheet before its rules are looked at.
-/

namespace StyleLookup.Css

open Text Component

/-! ## Pieces between separators -/

/-- The stretches of a row between its separators. -/
inductive Pieces (isSeparator : Component → Bool) :
    List Component → List (List Component) → Prop where
  | last {piece : List Component} :
      (∀ c ∈ piece, isSeparator c = false) → Pieces isSeparator piece [piece]
  | cons {piece cs : List Component} {separator : Component} {pieces : List (List Component)} :
      (∀ c ∈ piece, isSeparator c = false) → isSeparator separator = true →
      Pieces isSeparator cs pieces →
      Pieces isSeparator (piece ++ separator :: cs) (piece :: pieces)

section CutWhere

variable {α : Type} {isSeparator : α → Bool}

theorem cutWhere_cons_separator {s : α} (h : isSeparator s = true) (cs : List α) :
    cutWhere isSeparator (s :: cs) = [] :: cutWhere isSeparator cs := by
  rw [cutWhere]
  split
  · rename_i h0
    exact absurd h0 (cutWhere_ne_nil _ cs)
  · rename_i h0
    rw [if_pos h, h0]

theorem cutWhere_append {piece cs p : List α} {ps : List (List α)}
    (hpiece : ∀ c ∈ piece, isSeparator c = false) (hcs : cutWhere isSeparator cs = p :: ps) :
    cutWhere isSeparator (piece ++ cs) = (piece ++ p) :: ps := by
  induction piece with
  | nil => exact hcs
  | cons c piece ih =>
      have hc := hpiece c List.mem_cons_self
      have ih := ih fun d hd => hpiece d (List.mem_cons_of_mem _ hd)
      rw [List.cons_append, cutWhere, ih]
      dsimp only
      rw [if_neg (by rw [hc]; exact Bool.false_ne_true), List.cons_append]

theorem cutWhere_eq_singleton {piece : List α} (h : ∀ c ∈ piece, isSeparator c = false) :
    cutWhere isSeparator piece = [piece] := by
  have hcut : cutWhere isSeparator (piece ++ []) = [piece ++ []] := cutWhere_append h rfl
  rwa [List.append_nil] at hcut

theorem cutWhere_cons {c : α} {cs p : List α} {ps : List (List α)}
    (hc : isSeparator c = false) (hcs : cutWhere isSeparator cs = p :: ps) :
    cutWhere isSeparator (c :: cs) = (c :: p) :: ps := by
  have hpiece : ∀ d ∈ [c], isSeparator d = false := by simpa using hc
  exact cutWhere_append hpiece hcs

theorem cutWhere_append_separator {piece : List α} {s : α}
    (h : ∀ c ∈ piece, isSeparator c = false) (hs : isSeparator s = true) (cs : List α) :
    cutWhere isSeparator (piece ++ s :: cs) = piece :: cutWhere isSeparator cs := by
  have := cutWhere_append h (cutWhere_cons_separator hs cs)
  rwa [List.append_nil] at this

/-- The first stretch ends at a separator or at the end. -/
theorem exists_cutWhere_eq_cons (isSeparator : α → Bool) (cs : List α) :
    ∃ p ps rest, cutWhere isSeparator cs = p :: ps ∧ cs = p ++ rest
      ∧ (∀ c ∈ p, isSeparator c = false) ∧ ∀ c ∈ rest.head?, isSeparator c = true := by
  induction cs with
  | nil => exact ⟨[], [], [], rfl, rfl, by simp, by simp⟩
  | cons c cs ih =>
      obtain ⟨p, ps, rest, hcut, hcs, hp, hrest⟩ := ih
      cases hc : isSeparator c with
      | true =>
          refine ⟨[], _, c :: cs, cutWhere_cons_separator hc cs, rfl, by simp, ?_⟩
          simpa using hc
      | false =>
          refine ⟨c :: p, ps, rest, ?_, by rw [hcs]; rfl, ?_, hrest⟩
          · exact cutWhere_cons hc hcut
          · intro d hd
            rcases List.mem_cons.mp hd with h | h
            · rw [h]; exact hc
            · exact hp d h

end CutWhere

theorem pieces_iff (isSeparator : Component → Bool) (cs : List Component)
    (pieces : List (List Component)) :
    Pieces isSeparator cs pieces ↔ cutWhere isSeparator cs = pieces := by
  refine ⟨?_, ?_⟩
  · intro h
    induction h with
    | last hpiece => exact cutWhere_eq_singleton hpiece
    | cons hpiece hs _ ih => rw [cutWhere_append_separator hpiece hs, ih]
  · intro h
    subst h
    -- the induction goes by length: a separator and what follows it are shorter than the row
    induction hn : cs.length using Nat.strongRecOn generalizing cs with
    | ind n ih =>
      obtain ⟨p, ps, rest, hcut, hcs, hp, hrest⟩ := exists_cutWhere_eq_cons isSeparator cs
      cases rest with
      | nil =>
          rw [List.append_nil] at hcs
          rw [hcs, cutWhere_eq_singleton hp]
          exact .last hp
      | cons s rest =>
          have hs : isSeparator s = true := hrest s rfl
          rw [hcs, cutWhere_append_separator hp hs]
          refine .cons hp hs (ih rest.length ?_ rest rfl)
          rw [← hn, hcs]
          simp
          omega

/-! ## Items -/

/-- A block as a component. -/
def Block.component (b : Block) : Component := .block b.opening b.body b.closing

namespace Item

/-- Whether a rule may start with a component. -/
def startsRule (c : Component) : Bool := !isFiller c && !isAtKeyword c

/-- The items of a stylesheet, from the first component to the last. -/
inductive Cuts : List Component → List Item → Prop where
  | nil : Cuts [] []
  | filler {c : Component} {cs : List Component} {is : List Item} :
      isFiller c = true → Cuts cs is → Cuts (c :: cs) (.filler c :: is)
  /-- An at-rule runs through its first semicolon or block. -/
  | atRule {c last : Component} {parts cs : List Component} {is : List Item} :
      isAtKeyword c = true → (∀ p ∈ parts, endsAtRule p = false) → endsAtRule last = true →
      Cuts cs is → Cuts (c :: parts ++ last :: cs) (.atRule (c :: parts ++ [last]) :: is)
  /-- An at-rule that has neither runs to the end. -/
  | openAtRule {c : Component} {parts : List Component} :
      isAtKeyword c = true → (∀ p ∈ parts, endsAtRule p = false) →
      Cuts (c :: parts) [.atRule (c :: parts)]
  /-- A rule runs through its first block in curly brackets. -/
  | rule {prelude cs : List Component} {b : Block} {is : List Item} :
      (∀ c ∈ prelude.head?, startsRule c = true) → (∀ p ∈ prelude, p.isCurly = false) →
      b.component.isCurly = true → Cuts cs is →
      Cuts (prelude ++ b.component :: cs) (.rule prelude (some b) :: is)
  /-- A rule that has none runs to the end. -/
  | openRule {prelude : List Component} :
      prelude ≠ [] → (∀ c ∈ prelude.head?, startsRule c = true) →
      (∀ p ∈ prelude, p.isCurly = false) → Cuts prelude [.rule prelude none]

theorem before_eq {test : Component → Bool} {parts cs : List Component}
    (hparts : ∀ p ∈ parts, test p = false) (hcs : ∀ c ∈ cs.head?, test c = true) :
    before test (parts ++ cs) = (parts, cs) := by
  unfold before
  have hall : ∀ p ∈ parts, (!test p) = true := by
    intro p hp
    rw [hparts p hp]
    rfl
  rw [List.takeWhile_append_of_pos hall, List.dropWhile_append_of_pos hall]
  cases cs with
  | nil => simp
  | cons c cs => simp [hcs c rfl]

theorem before_eq_self {test : Component → Bool} {parts : List Component}
    (hparts : ∀ p ∈ parts, test p = false) : before test parts = (parts, []) := by
  have hcut : before test (parts ++ []) = (parts, []) := before_eq hparts (by simp)
  rwa [List.append_nil] at hcut

theorem exists_before_eq (test : Component → Bool) (cs : List Component) :
    ∃ parts rest, before test cs = (parts, rest) ∧ cs = parts ++ rest
      ∧ (∀ p ∈ parts, test p = false) ∧ ∀ c ∈ rest.head?, test c = true := by
  refine ⟨_, _, rfl, (before_append test cs).symm, ?_, ?_⟩
  · intro p hp
    have := List.mem_takeWhile_imp hp
    simpa using this
  · intro c hc
    have := List.head?_dropWhile_not (fun c => !test c) cs
    rw [Option.mem_def] at hc
    rw [hc] at this
    simpa using this

theorem ofComponents_filler {c : Component} (h : isFiller c = true) (cs : List Component) :
    ofComponents (c :: cs) = .filler c :: ofComponents cs := by
  rw [ofComponents, if_pos h]

theorem not_isFiller_of_isAtKeyword {c : Component} (h : isAtKeyword c = true) :
    isFiller c = false := by
  unfold isAtKeyword at h
  split at h
  · rename_i name hkind
    rw [isFiller, isLayout, hkind]
    rfl
  · exact absurd h Bool.false_ne_true

theorem ofComponents_atRule {c last : Component} {parts : List Component}
    (h : isAtKeyword c = true) (hparts : ∀ p ∈ parts, endsAtRule p = false)
    (hlast : endsAtRule last = true) (cs : List Component) :
    ofComponents (c :: parts ++ last :: cs)
      = .atRule (c :: parts ++ [last]) :: ofComponents cs := by
  have hb : before endsAtRule (parts ++ last :: cs) = (parts, last :: cs) :=
    before_eq hparts (by simpa using hlast)
  rw [List.cons_append, ofComponents, not_isFiller_of_isAtKeyword h, h]
  simp only [Bool.false_eq_true, if_false, if_true]
  split
  · rename_i h'
    rw [hb] at h'
    exact absurd (congrArg Prod.snd h') (List.cons_ne_nil _ _)
  · rename_i h'
    rw [hb] at h'
    injection h' with h1 h2
    injection h2 with h2 h3
    rw [h1, h2, h3]

theorem ofComponents_openAtRule {c : Component} {parts : List Component}
    (h : isAtKeyword c = true) (hparts : ∀ p ∈ parts, endsAtRule p = false) :
    ofComponents (c :: parts) = [.atRule (c :: parts)] := by
  have hb : before endsAtRule parts = (parts, []) := before_eq_self hparts
  rw [ofComponents, not_isFiller_of_isAtKeyword h, h]
  simp only [Bool.false_eq_true, if_false, if_true]
  split
  · rename_i h'
    rw [hb] at h'
    rw [← (Prod.mk.inj h').1]
  · rename_i h'
    rw [hb] at h'
    exact absurd (congrArg Prod.snd h').symm (List.cons_ne_nil _ _)

theorem startsRule_of_isCurly {c : Component} (h : c.isCurly = true) : startsRule c = true := by
  rw [isCurly, beq_iff_eq] at h
  rw [startsRule, isFiller, isAtKeyword, isLayout, h]
  rfl

theorem ofComponents_rule {prelude : List Component} {b : Block}
    (hstart : ∀ c ∈ prelude.head?, startsRule c = true)
    (hprelude : ∀ p ∈ prelude, p.isCurly = false) (hb : b.component.isCurly = true)
    (cs : List Component) :
    ofComponents (prelude ++ b.component :: cs) = .rule prelude (some b) :: ofComponents cs := by
  have hcut : before isCurly (prelude ++ b.component :: cs) = (prelude, b.component :: cs) :=
    before_eq hprelude (by simpa using hb)
  -- the row is not empty, whether or not the prelude is
  obtain ⟨c, rest, hrow, hc⟩ : ∃ c rest, prelude ++ b.component :: cs = c :: rest
      ∧ startsRule c = true := by
    cases prelude with
    | nil => exact ⟨_, _, rfl, startsRule_of_isCurly hb⟩
    | cons p ps => exact ⟨p, _, rfl, hstart p rfl⟩
  rw [startsRule, Bool.and_eq_true, Bool.not_eq_true', Bool.not_eq_true'] at hc
  rw [hrow] at hcut
  rw [hrow, ofComponents, hc.1, hc.2]
  simp only [Bool.false_eq_true, if_false]
  split
  · rename_i h'
    rw [hcut, Block.component] at h'
    injection h' with h1 h2
    injection h2 with h2 h3
    injection h2 with h4 h5 h6
    rw [← h1, ← h3, ← h4, ← h5, ← h6]
  · rename_i hne h'
    rw [hcut, Block.component] at h'
    injection h' with h1 h2
    exact absurd h2.symm (hne _ _ _ _)

theorem ofComponents_openRule {prelude : List Component} (hne : prelude ≠ [])
    (hstart : ∀ c ∈ prelude.head?, startsRule c = true)
    (hprelude : ∀ p ∈ prelude, p.isCurly = false) :
    ofComponents prelude = [.rule prelude none] := by
  have hcut : before isCurly prelude = (prelude, []) := before_eq_self hprelude
  cases prelude with
  | nil => exact absurd rfl hne
  | cons c cs =>
      have hc := hstart c rfl
      rw [startsRule, Bool.and_eq_true, Bool.not_eq_true', Bool.not_eq_true'] at hc
      rw [ofComponents, hc.1, hc.2]
      simp only [Bool.false_eq_true, if_false]
      split
      · rename_i h'
        rw [hcut] at h'
        exact absurd (congrArg Prod.snd h').symm (List.cons_ne_nil _ _)
      · rename_i h'
        rw [hcut] at h'
        injection h' with h1 h2
        rw [← h1, ← h2, List.append_nil]

theorem Cuts.ofComponents_eq {cs : List Component} {is : List Item} (h : Cuts cs is) :
    ofComponents cs = is := by
  induction h with
  | nil => rw [ofComponents]
  | filler hc _ ih => rw [ofComponents_filler hc, ih]
  | atRule hc hparts hlast _ ih => rw [ofComponents_atRule hc hparts hlast, ih]
  | openAtRule hc hparts => exact ofComponents_openAtRule hc hparts
  | rule hstart hprelude hb _ ih => rw [ofComponents_rule hstart hprelude hb, ih]
  | openRule hne hstart hprelude => exact ofComponents_openRule hne hstart hprelude

/-- In a nested row a component in curly brackets is a block. -/
theorem exists_block_of_isCurly {stop : Option Kind} {front rest : List Component}
    {c : Component} (h : Nested stop (front ++ c :: rest)) (hc : c.isCurly = true) :
    ∃ b : Block, c = b.component := by
  cases c with
  | token t =>
      have ht : t.kind = .openCurly := by simpa [isCurly, kind, head] using hc
      have := h.of_append.closer?_eq_none
      rw [ht] at this
      exact absurd this (by simp [Kind.closer?])
  | block opening body closing => exact ⟨⟨opening, body, closing⟩, rfl⟩

/-- **Every nested row has items.** -/
theorem exists_cuts {stop : Option Kind} (cs : List Component) (h : Nested stop cs) :
    ∃ is, Cuts cs is := by
  -- the induction goes by length: an item takes as many components as it needs
  induction hn : cs.length using Nat.strongRecOn generalizing cs with
  | ind n ih =>
    cases cs with
    | nil => exact ⟨[], .nil⟩
    | cons c rest =>
      rw [List.length_cons] at hn
      by_cases hfiller : isFiller c = true
      · have hrest : Nested stop rest := Nested.of_append (a := [c]) h
        obtain ⟨is, his⟩ := ih rest.length (by omega) rest hrest rfl
        exact ⟨_, .filler hfiller his⟩
      by_cases hat : isAtKeyword c = true
      · obtain ⟨parts, after, _, hrow, hparts, hend⟩ := exists_before_eq endsAtRule rest
        subst hrow
        cases after with
        | nil =>
            rw [List.append_nil]
            exact ⟨_, .openAtRule hat hparts⟩
        | cons last after =>
            have hafter : Nested stop after := by
              refine Nested.of_append (a := c :: parts ++ [last]) ?_
              rwa [List.append_assoc]
            obtain ⟨is, his⟩ := ih after.length (by simp at hn; omega) after hafter rfl
            exact ⟨_, .atRule hat hparts (hend last rfl) his⟩
      · have hstart : startsRule c = true := by
          rw [startsRule, Bool.not_eq_true] at *
          rw [hfiller, hat]
          rfl
        obtain ⟨prelude, after, _, hrow, hprelude, hend⟩ := exists_before_eq isCurly (c :: rest)
        have hhead : ∀ d ∈ prelude.head?, startsRule d = true := by
          intro d hd
          cases prelude with
          | nil => exact absurd hd (by simp)
          | cons p ps =>
              injection hrow with hp _
              rw [List.head?_cons, Option.mem_def] at hd
              rw [← Option.some.inj hd, ← hp]
              exact hstart
        have hlength := congrArg List.length hrow
        rw [List.length_cons, List.length_append] at hlength
        rw [hrow] at h ⊢
        cases after with
        | nil =>
            rw [List.append_nil] at hrow ⊢
            refine ⟨_, .openRule ?_ hhead hprelude⟩
            rw [← hrow]
            exact List.cons_ne_nil _ _
        | cons block after =>
            rw [List.length_cons] at hlength
            -- what ends the prelude is a whole block, because the row is nested
            obtain ⟨b, rfl⟩ := exists_block_of_isCurly h (hend block rfl)
            have hafter : Nested stop after := by
              refine Nested.of_append (a := prelude ++ [b.component]) ?_
              rwa [List.append_assoc]
            obtain ⟨is, his⟩ := ih after.length (by omega) after hafter rfl
            exact ⟨_, .rule hhead hprelude (hend _ rfl) his⟩

end Item

/-- `items` is how a text reads: its tokens, nested and cut into items. -/
def Reads (text : List Char) (items : List Item) : Prop :=
  ∃ cs, Nested none cs ∧ tokensOf cs = tokenize text ∧ Item.Cuts cs items

/-- The items of a text. -/
def Item.ofText (text : List Char) : List Item := ofComponents (Component.ofText text)

/-- **Every text reads in exactly one way.** -/
theorem reads_iff (text : List Char) (items : List Item) :
    Reads text items ↔ Item.ofText text = items := by
  refine ⟨?_, ?_⟩
  · intro h
    obtain ⟨cs, hnested, htokens, hcuts⟩ := h
    have hcs : Component.ofText text = cs := (ofTokens_eq_iff _ cs).mpr ⟨hnested, htokens⟩
    rw [Item.ofText, hcs]
    exact hcuts.ofComponents_eq
  · intro h
    obtain ⟨is, his⟩ := Item.exists_cuts (Component.ofText text) (nested_ofText text)
    have heq : items = is := by rw [← h, ← his.ofComponents_eq]; rfl
    exact ⟨_, nested_ofText text, tokensOf_ofText text, heq ▸ his⟩

end StyleLookup.Css
