import Mathlib.Data.List.Induction
import StyleLookup.Proofs.Nesting
import StyleLookup.Proofs.TokenEnds
import StyleLookup.Text.Pieces

/-!
# Rows of components without the white space around them

A value is stored without the white space around it, and white space is cut from characters, not
from tokens. In a text without escapes the two agree: no token starts or ends in white space unless
it is nothing else, so that what is left is a row of whole components (`exists_trim_row`).

What is left does not end in white space. Together with the last token being no opening bracket,
this is what it takes to move it in front of a semicolon (`exists_trimmed_row`).
-/

namespace StyleLookup.Css

open Text Component Lexer

/-! ## Trimming -/

theorem head?_trimStart (s : List Char) : ∀ c ∈ (trimStart s).head?, isBlank c = false := by
  intro c hc
  have hhead := List.head?_dropWhile_not isBlank s
  rw [trimStart] at hc
  rw [hc] at hhead
  simpa using hhead

theorem getLast?_trimEnd (s : List Char) : ∀ c ∈ (trimEnd s).getLast?, isBlank c = false := by
  intro c hc
  have hhead := List.head?_dropWhile_not isBlank s.reverse
  rw [trimEnd, List.getLast?_reverse] at hc
  rw [hc] at hhead
  simpa using hhead

theorem trimEnd_prefix (s : List Char) : trimEnd s <+: s := by
  have hsuffix := List.dropWhile_suffix (l := s.reverse) isBlank
  rwa [← List.reverse_prefix, List.reverse_reverse] at hsuffix

theorem head?_trim (s : List Char) : ∀ c ∈ (trim s).head?, isBlank c = false := by
  intro c hc
  obtain ⟨rest, hrest⟩ := trimEnd_prefix (trimStart s)
  refine head?_trimStart s c ?_
  rw [← hrest, List.head?_append]
  rw [Option.mem_def] at hc
  rw [show (trimEnd (trimStart s)).head? = some c from hc]
  rfl

theorem trim_eq_self {s : List Char} (hhead : ∀ c ∈ s.head?, isBlank c = false)
    (hlast : ∀ c ∈ s.getLast?, isBlank c = false) : trim s = s := by
  have hself : ∀ t : List Char, (∀ c ∈ t.head?, isBlank c = false) → t.dropWhile isBlank = t := by
    intro t ht
    cases t with
    | nil => rfl
    | cons c cs =>
        refine List.dropWhile_cons_of_neg ?_
        rw [ht c rfl]
        exact Bool.false_ne_true
  rw [trim, trimStart, hself s hhead, trimEnd, hself, List.reverse_reverse]
  rwa [List.head?_reverse]

theorem trim_trim (s : List Char) : trim (trim s) = trim s :=
  trim_eq_self (head?_trim s) (getLast?_trimEnd _)

theorem trim_cons_of_isBlank {c : Char} (hc : isBlank c = true) (s : List Char) :
    trim (c :: s) = trim s := by
  rw [trim, trimStart, List.dropWhile_cons_of_pos hc]
  rfl

/-- A component that trimming keeps or drops as a whole. -/
def IsEdged (c : Component) : Prop :=
  (∀ x ∈ c.text, isBlank x = true)
    ∨ (∃ x u, c.text = x :: u ∧ isBlank x = false) ∧ ∃ u x, c.text = u ++ [x] ∧ isBlank x = false

theorem exists_trimStart_row {row : List Component} (h : ∀ c ∈ row, IsEdged c) :
    ∃ lead rest, row = lead ++ rest ∧ textOf rest = trimStart (textOf row) := by
  induction row with
  | nil => exact ⟨[], [], rfl, rfl⟩
  | cons c cs ih =>
      rcases h c List.mem_cons_self with hblank | ⟨⟨x, u, hx, hne⟩, _⟩
      · obtain ⟨lead, rest, rfl, hrest⟩ := ih fun d hd => h d (List.mem_cons_of_mem c hd)
        refine ⟨c :: lead, rest, rfl, ?_⟩
        rw [hrest, textOf, trimStart, trimStart, List.dropWhile_append_of_pos hblank]
      · refine ⟨[], c :: cs, rfl, ?_⟩
        rw [textOf, hx, trimStart, List.cons_append, List.dropWhile_cons_of_neg]
        rw [hne]
        exact Bool.false_ne_true

theorem exists_trimEnd_row {row : List Component} (h : ∀ c ∈ row, IsEdged c) :
    ∃ rest trail, row = rest ++ trail ∧ textOf rest = trimEnd (textOf row)
      ∧ ∀ x ∈ textOf trail, isBlank x = true := by
  induction row using List.reverseRecOn with
  | nil => exact ⟨[], [], rfl, rfl, by simp [textOf]⟩
  | append_singleton cs c ih =>
      have htext : textOf (cs ++ [c]) = textOf cs ++ c.text := by
        rw [textOf_append, textOf, textOf, List.append_nil]
      rcases h c (by simp) with hblank | ⟨_, u, x, hx, hne⟩
      · obtain ⟨rest, trail, rfl, hrest, htrail⟩ := ih fun d hd => h d (by simp [hd])
        refine ⟨rest, trail ++ [c], by rw [List.append_assoc], ?_, ?_⟩
        · rw [hrest, htext, trimEnd, trimEnd, List.reverse_append, List.dropWhile_append_of_pos]
          intro y hy
          exact hblank y (List.mem_reverse.mp hy)
        · intro y hy
          rw [textOf_append, textOf, textOf, List.append_nil] at hy
          rcases List.mem_append.mp hy with hy | hy
          · exact htrail y hy
          · exact hblank y hy
      · refine ⟨cs ++ [c], [], (List.append_nil _).symm, ?_, by simp [textOf]⟩
        rw [htext, hx, trimEnd, ← List.append_assoc, List.reverse_append, List.reverse_singleton,
          List.singleton_append, List.dropWhile_cons_of_neg, List.reverse_cons,
          List.reverse_reverse]
        rw [hne]
        exact Bool.false_ne_true

/-- The white space around a row is made up of components. -/
theorem exists_trim_row {row : List Component} (h : ∀ c ∈ row, IsEdged c) :
    ∃ lead core trail, row = lead ++ core ++ trail ∧ textOf core = trim (textOf row)
      ∧ ∀ x ∈ textOf trail, isBlank x = true := by
  obtain ⟨lead, rest, rfl, hrest⟩ := exists_trimStart_row h
  obtain ⟨core, trail, rfl, hcore, htrail⟩ :=
    exists_trimEnd_row fun c hc => h c (List.mem_append_right lead hc)
  refine ⟨lead, core, trail, (List.append_assoc _ _ _).symm, ?_, htrail⟩
  rw [hcore, hrest]
  rfl

/-! ## Rows that are moved in front of a semicolon -/

/-- What the characters of a text must be, for its values to be printed. -/
structure PlainChars (s : List Char) : Prop where
  noEscape : '\\' ∉ s
  ascii : ∀ c ∈ s, isBlank c = true → c.toNat < 128

theorem PlainChars.of_suffix {s t : List Char} (h : PlainChars s) (ht : t <:+ s) : PlainChars t :=
  ⟨fun hmem => h.noEscape (ht.subset hmem), fun c hc => h.ascii c (ht.subset hc)⟩

theorem isWhite_of_isBlank {c : Char} (h : isBlank c = true) (hascii : c.toNat < 128) :
    isWhite c = true := by
  have hcode : c.toNat = 9 ∨ c.toNat = 10 ∨ c.toNat = 11 ∨ c.toNat = 12 ∨ c.toNat = 13
      ∨ c.toNat = 32 := by
    simp only [isBlank, Bool.or_eq_true, Bool.and_eq_true, decide_eq_true_iff, beq_iff_eq] at h
    omega
  rcases hcode with h | h | h | h | h | h <;>
    (rw [← Char.ofNat_toNat c, h]; rfl)

theorem isBlank_of_isWhite {c : Char} (h : isWhite c = true) : isBlank c = true := by
  unfold isWhite isSpace isNewline at h
  simp only [Bool.or_eq_true, beq_iff_eq] at h
  rcases h with ((h | h) | (h | h) | h) | h <;> (rw [h]; rfl)

theorem isSpace_of_isBlank_eq_false {c : Char} (h : isBlank c = false) : isSpace c = false := by
  by_contra hspace
  rw [Bool.not_eq_false] at hspace
  have hwhite : isWhite c = true := by rw [isWhite, hspace]; rfl
  rw [isBlank_of_isWhite hwhite] at h
  exact Bool.false_ne_true h.symm

/-- The bracket that closes a block is no opening bracket, and has a text without white space. -/
theorem Kind.closer?_closer {k k' : Kind} (h : k.closer? = some k') :
    k'.closer? = none ∧ ∃ c, k'.fixed? = some [c] ∧ isBlank c = false := by
  unfold Kind.closer? at h
  split at h
  · injection h with h; subst h; exact ⟨rfl, _, rfl, rfl⟩
  · injection h with h; subst h; exact ⟨rfl, _, rfl, rfl⟩
  · injection h with h; subst h; exact ⟨rfl, _, rfl, rfl⟩
  · injection h with h; subst h; exact ⟨rfl, _, rfl, rfl⟩
  · cases h

theorem Token.Stands.edges {t : Token} {s : List Char} (h : t.Stands s)
    (hplain : PlainChars (t.text ++ s)) (hs : s ≠ []) (hcut : ∀ value, t.kind ≠ .badString value) :
    ((∀ x ∈ t.text, isBlank x = true) ∧ t.kind.closer? = none)
      ∨ (∃ x u, t.text = x :: u ∧ isBlank x = false)
        ∧ ∃ u x, t.text = u ++ [x] ∧ isBlank x = false := by
  have hwhite : ∀ x ∈ t.text, isBlank x = true → isWhite x = true := fun x hx hblank =>
    isWhite_of_isBlank hblank (hplain.ascii x (List.mem_append_left s hx) hblank)
  obtain ⟨x, u, htext, _⟩ := id h
  by_cases hfirst : isBlank x = true
  · left
    obtain ⟨hcloser, hall⟩ := h.white_of_first htext (hwhite x (by rw [htext]; simp) hfirst)
    exact ⟨fun y hy => isBlank_of_isWhite (hall y hy), hcloser⟩
  · right
    rw [Bool.not_eq_true] at hfirst
    refine ⟨⟨x, u, htext, hfirst⟩, ?_⟩
    obtain ⟨front, last, hlast⟩ := (List.eq_nil_or_concat' t.text).resolve_left h.text_ne_nil
    refine ⟨front, last, hlast, ?_⟩
    by_contra hblank
    rw [Bool.not_eq_false] at hblank
    -- then the first character were white space as well
    have hall := h.white_of_last hplain.noEscape hs hcut hlast
      (hwhite last (by rw [hlast]; simp) hblank)
    rw [isBlank_of_isWhite (hall x (by rw [htext]; simp))] at hfirst
    exact Bool.false_ne_true hfirst.symm

theorem textOfTokens_tokensOf (row : List Component) :
    textOfTokens (tokensOf row) = textOf row := (textOf_eq_flatMap row).symm

/-- A block has a bracket at both ends. -/
theorem isEdged_block {opening closing : Token} {body : List Component} {s x : List Char}
    (hopening : opening.Stands s) (hclosing : closing.Stands x)
    (hplain : PlainChars (opening.text ++ s)) (ho : opening.kind.closer? = some closing.kind) :
    IsEdged (.block opening body (some closing)) := by
  right
  obtain ⟨b, u, htext, _⟩ := id hopening
  refine ⟨⟨b, u ++ textOf body ++ closing.text, ?_, ?_⟩, ?_⟩
  · rw [Component.text, Option.map_some, Option.getD_some, htext]
    rfl
  · by_contra hblank
    rw [Bool.not_eq_false] at hblank
    have hascii := hplain.ascii b (by rw [htext]; simp) hblank
    have hcloser := (hopening.white_of_first htext (isWhite_of_isBlank hblank hascii)).1
    rw [ho] at hcloser
    cases hcloser
  · obtain ⟨_, b, hb, hblank⟩ := Kind.closer?_closer ho
    refine ⟨opening.text ++ textOf body, b, ?_, hblank⟩
    rw [Component.text, Option.map_some, Option.getD_some, hclosing.text_eq hb]

/-- In a closed row trimming does not cut into components. -/
theorem isEdged_of_stand {stop : Option Kind} {row : List Component} {x : List Char}
    (hclosed : Closed stop row) (hstand : Stand (tokensOf row) x)
    (hplain : PlainChars (textOf row ++ x)) (hx : x ≠ [])
    (hcut : ∀ t ∈ tokensOf row, ∀ value, t.kind ≠ .badString value) : ∀ c ∈ row, IsEdged c := by
  have hne : ∀ u : List Char, u ++ x ≠ [] := fun u => List.append_ne_nil_of_right_ne_nil u hx
  induction hclosed with
  | nil => intro c hc; exact absurd hc List.not_mem_nil
  | @token stop t cs _ _ _ ih =>
      rw [textOf, List.append_assoc] at hplain
      rw [tokensOf, Component.tokens, List.singleton_append] at hstand hcut
      obtain ⟨ht, hcs⟩ := hstand
      rw [textOfTokens_tokensOf] at ht
      intro c hc
      rcases List.mem_cons.mp hc with rfl | hc
      · exact (ht.edges hplain (hne _) (hcut t List.mem_cons_self)).imp_left And.left
      · exact ih hcs (hplain.of_suffix (List.suffix_append _ _))
          (fun s hs => hcut s (List.mem_cons_of_mem t hs)) c hc
  | @block stop opening closing body cs ho _ _ _ ih =>
      rw [textOf, Component.text, List.append_assoc, List.append_assoc, List.append_assoc] at hplain
      rw [tokensOf, Component.tokens, List.cons_append, List.append_assoc] at hstand hcut
      obtain ⟨hopening, hrest⟩ := hstand
      obtain ⟨_, hrest⟩ := stand_append.mp hrest
      obtain ⟨hclosing, hcs⟩ := hrest
      intro c hc
      rcases List.mem_cons.mp hc with rfl | hc
      · refine isEdged_block hopening hclosing ?_ ho
        rw [textOfTokens_append, textOfTokens_append, textOfTokens_tokensOf, textOfTokens_tokensOf,
          List.append_assoc, List.append_assoc]
        simpa [textOfTokens] using hplain
      · refine ih hcs (hplain.of_suffix ?_) ?_ c hc
        · rw [Option.map_some, Option.getD_some, ← List.append_assoc, ← List.append_assoc]
          exact List.suffix_append _ _
        · exact fun s hs => hcut s (by simp [hs])

/-- A closed row does not end in an opening bracket. -/
theorem exists_last_of_closed {stop : Option Kind} {row : List Component} (h : Closed stop row)
    (hne : row ≠ []) : ∃ init t, tokensOf row = init ++ [t] ∧ t.kind.closer? = none := by
  obtain ⟨front, c, rfl⟩ := (List.eq_nil_or_concat' row).resolve_left hne
  have htokens : tokensOf (front ++ [c]) = tokensOf front ++ c.tokens := by
    rw [tokensOf_append, tokensOf, tokensOf, List.append_nil]
  cases h.of_append.2 with
  | @token _ t _ ht _ _ => exact ⟨tokensOf front, t, htokens, ht⟩
  | @block _ opening closing body _ ho _ _ =>
      refine ⟨tokensOf front ++ opening :: tokensOf body, closing, ?_, (Kind.closer?_closer ho).1⟩
      rw [htokens, Component.tokens, List.append_assoc]
      rfl

/-- White space in front of a boundary starts at a boundary itself. -/
theorem atBoundary_of_isBlank {u x : List Char} (hblank : ∀ c ∈ u, isBlank c = true)
    (hplain : PlainChars (u ++ x)) (hx : AtBoundary x) : AtBoundary (u ++ x) := by
  cases u with
  | nil => exact hx
  | cons b bs =>
      have hb := hblank b List.mem_cons_self
      have hascii := hplain.ascii b List.mem_cons_self hb
      exact atBoundary_cons (isBoundary_of_isWhite (isWhite_of_isBlank hb hascii))

/-- What trimming leaves does not end in white space, nor, without escapes, in a backslash. -/
theorem solid_of_trim {s front last : List Char} (h : trim s = front ++ last) (hne : last ≠ [])
    (hescape : '\\' ∉ last) : Solid last := by
  obtain ⟨init, b, rfl⟩ := (List.eq_nil_or_concat' last).resolve_left hne
  intro c hc
  rw [List.getLast?_concat, Option.mem_def] at hc
  rw [← Option.some.inj hc]
  refine ⟨isSpace_of_isBlank_eq_false ?_, ?_⟩
  · refine getLast?_trimEnd (trimStart s) b ?_
    rw [show trimEnd (trimStart s) = front ++ (init ++ [b]) from h, ← List.append_assoc,
      List.getLast?_concat]
    rfl
  · intro hback
    rw [hback] at hescape
    exact hescape (by simp)

/-- **A row without the white space around it may be moved in front of a semicolon.** -/
theorem exists_trimmed_row {stop : Option Kind} {row : List Component} {x : List Char}
    (hclosed : Closed stop row) (hstand : Stand (tokensOf row) x)
    (hplain : PlainChars (textOf row ++ x)) (hne : x ≠ []) (hx : AtBoundary x)
    (hcut : ∀ t ∈ tokensOf row, ∀ value, t.kind ≠ .badString value) :
    ∃ lead core trail, row = lead ++ core ++ trail ∧ textOf core = trim (textOf row)
      ∧ ∀ s, Stand (tokensOf core) (';' :: s) := by
  obtain ⟨lead, core, trail, rfl, hcore, htrail⟩ :=
    exists_trim_row (isEdged_of_stand hclosed hstand hplain hne hcut)
  refine ⟨lead, core, trail, rfl, hcore, ?_⟩
  by_cases hempty : core = []
  · rw [hempty]
    exact fun _ => trivial
  intro s
  -- the last token of what is left decides, and it is no opening bracket
  obtain ⟨init, t, htokens, hcloser⟩ :=
    exists_last_of_closed hclosed.of_append.1.of_append.2 hempty
  have hstandcore : Stand (tokensOf core) (textOf trail ++ x) := by
    rw [tokensOf_append, tokensOf_append] at hstand
    have hfront := (stand_append.mp hstand).1
    rw [textOfTokens_tokensOf] at hfront
    exact (stand_append.mp hfront).2
  rw [textOf_append, textOf_append, List.append_assoc, List.append_assoc] at hplain
  have hplaincore := hplain.of_suffix (List.suffix_append _ _)
  have hboundary : AtBoundary (textOf trail ++ x) :=
    atBoundary_of_isBlank htrail (hplaincore.of_suffix (List.suffix_append _ _)) hx
  have hcoretext : textOf core = textOfTokens init ++ t.text := by
    rw [← textOfTokens_tokensOf, htokens, textOfTokens_append, textOfTokens_cons]
    exact congrArg _ (List.append_nil _)
  rw [htokens] at hstandcore ⊢
  have ht : t.Stands (textOf trail ++ x) := (stand_append.mp hstandcore).2.1
  have hsolid : Solid t.text := by
    refine solid_of_trim (hcore.symm.trans hcoretext) ht.text_ne_nil ?_
    exact fun hback => hplaincore.noEscape (by rw [hcoretext]; simp [hback])
  have hmem : t ∈ tokensOf (lead ++ core ++ trail) := by
    rw [tokensOf_append, tokensOf_append, htokens]
    simp
  have hsemicolon : AtBoundary (';' :: s) := atBoundary_cons rfl
  refine hstandcore.move hsolid hboundary hsemicolon ?_
  refine ht.move hsolid ?_ (hcut t hmem) (List.append_ne_nil_of_right_ne_nil _ hne) hboundary
    hsemicolon (by simp; rfl)
  intro name hname
  rw [hname] at hcloser
  cases hcloser

end StyleLookup.Css
