import StyleLookup.Proofs.PlacelessPattern

/-!
# A text behind a pattern

How the small readers of patterns take a text and the same text with a tail behind it. The tails
are those that start with a closing parenthesis or with the sign of a comment and lie in one line:
none of them goes on with anything that a pattern may end in, but for a name that is still to come.

There are two ways for a reader that succeeds on the text alone. It stops before the tail, or it
passes over white space and comments up to the end of the text, and a comment that is open there
swallows the tail too. In both the reader takes the same. `Left` relates what is left, and every
reader preserves it.

A reader that fails on the text alone may do anything with a tail. All that is said of it is what
it leaves of a closing parenthesis, if it gets so far (`Agrees`).
-/

namespace StyleLookup.Pattern

open StyleLookup.Text

/-- Texts that may stand behind a pattern. -/
structure IsTail (tail : List Char) : Prop where
  starts : ∃ c cs, tail = c :: cs ∧ (c = ')' ∨ c = '#')
  one_line : '\n' ∉ tail

/-- Whether the sign of a comment stands in the last line of a text. -/
def SignInLastLine (s : List Char) : Prop := ∃ front back, s = front ++ '#' :: back ∧ '\n' ∉ back

/--
What is left of a text, and of the text with a tail. The tail is still there, or it is gone for a
reason that lies in the text: a sign of a comment in its last line.
-/
inductive Left (tail : List Char) (reason : Prop) : List Char → List Char → Prop where
  | behind {s : List Char} (ht : IsTail tail) (hs : SignInLastLine (s ++ tail) → reason) :
      Left tail reason s (s ++ tail)
  | gone {s : List Char} (h : reason) : Left tail reason s s

theorem SignInLastLine.of_suffix {s t : List Char} (h : s <:+ t) (hs : SignInLastLine s) :
    SignInLastLine t := by
  obtain ⟨front, rfl⟩ := h
  obtain ⟨front', back, rfl, hback⟩ := hs
  exact ⟨front ++ front', back, (List.append_assoc _ _ _).symm, hback⟩

theorem dropVerbose_suffix (comment : Bool) (s : List Char) : dropVerbose comment s <:+ s := by
  fun_induction dropVerbose comment s with
  | case1 => exact List.suffix_refl _
  | case2 c cs ih => exact ih.trans (List.suffix_cons c cs)
  | case3 c cs _ ih => exact ih.trans (List.suffix_cons c cs)
  | case4 cs _ ih => exact ih.trans (List.suffix_cons _ cs)
  | case5 => exact List.suffix_refl _

/-- A character that counts for something is not passed over. -/
theorem skip_of_shown {verbose : Bool} {c : Char} (hblank : isBlank c = false) (hsign : c ≠ '#')
    (cs : List Char) : skip verbose (c :: cs) = c :: cs := by
  cases verbose with
  | false => rfl
  | true =>
      show dropVerbose false (c :: cs) = c :: cs
      rw [dropVerbose, if_neg (by rw [hblank]; exact Bool.false_ne_true), if_neg hsign]

/-- In a comment everything goes up to the end of the line. -/
theorem dropVerbose_comment {s : List Char} (h : '\n' ∉ s) : dropVerbose true s = [] := by
  induction s with
  | nil => rfl
  | cons c cs ih =>
      rw [List.mem_cons, not_or] at h
      rw [dropVerbose, bne_iff_ne.mpr (Ne.symm h.1)]
      exact ih h.2

/-- A tail stays behind what is dropped, unless a comment is open at the end of the text. -/
theorem dropVerbose_append {tail : List Char} (ht : IsTail tail) (comment : Bool) (s : List Char) :
    dropVerbose comment (s ++ tail) = dropVerbose comment s ++ tail
      ∨ (dropVerbose comment (s ++ tail) = [] ∧ dropVerbose comment s = []
          ∧ (comment = true ∧ '\n' ∉ s ∨ SignInLastLine (s ++ tail))) := by
  have hmore (c : Char) {cs : List Char} (h : SignInLastLine (cs ++ tail)) :
      SignInLastLine (c :: cs ++ tail) := h.of_suffix (List.suffix_cons c _)
  fun_induction dropVerbose comment s with
  | case1 comment =>
      obtain ⟨c, cs, rfl, hc⟩ := ht.starts
      have hline := ht.one_line
      cases comment with
      | true => exact .inr ⟨dropVerbose_comment hline, rfl, .inl ⟨rfl, List.not_mem_nil⟩⟩
      | false =>
          rcases hc with rfl | rfl
          · exact .inl rfl
          · have hcs : '\n' ∉ cs := fun h => hline (List.mem_cons_of_mem _ h)
            exact .inr ⟨dropVerbose_comment hcs, rfl, .inr ⟨[], cs, rfl, hcs⟩⟩
  | case2 c cs ih =>
      rcases ih with h | ⟨h, h', hc⟩
      · exact .inl h
      · refine .inr ⟨h, h', hc.imp (fun hc => ⟨rfl, ?_⟩) (hmore c)⟩
        rw [List.mem_cons, not_or]
        exact ⟨Ne.symm (bne_iff_ne.mp hc.1), hc.2⟩
  | case3 c cs hblank ih =>
      rw [List.cons_append, dropVerbose, if_pos hblank]
      rcases ih with h | ⟨h, h', hc⟩
      · exact .inl h
      · exact .inr ⟨h, h', .inr (hmore c (hc.resolve_left fun hc => by cases hc.1))⟩
  | case4 cs hblank ih =>
      rw [List.cons_append, dropVerbose, if_neg hblank, if_pos rfl]
      rcases ih with h | ⟨h, h', hc⟩
      · exact .inl h
      · refine .inr ⟨h, h', .inr ?_⟩
        rcases hc with ⟨-, hcs⟩ | hc
        · refine ⟨[], cs ++ tail, rfl, ?_⟩
          rw [List.mem_append, not_or]
          exact ⟨hcs, ht.one_line⟩
        · exact hmore '#' hc
  | case5 c cs hblank hsign =>
      rw [List.cons_append, dropVerbose, if_neg hblank, if_neg hsign]
      exact .inl rfl

variable {tail : List Char} {reason : Prop} {s s' : List Char}

namespace Left

/-- A tail stays behind the end of a text. -/
theorem suffix (front : List Char) (h : Left tail reason (front ++ s) s') :
    ∃ t, s' = front ++ t ∧ Left tail reason s t := by
  cases h with
  | behind ht hs =>
      refine ⟨s ++ tail, List.append_assoc _ _ _, .behind ht fun h => hs (h.of_suffix ?_)⟩
      exact ⟨front, (List.append_assoc _ _ _).symm⟩
  | gone h => exact ⟨s, rfl, .gone h⟩

theorem cons {c : Char} (h : Left tail reason (c :: s) s') :
    ∃ t, s' = c :: t ∧ Left tail reason s t :=
  suffix [c] h

/-- At the end of a text there is the tail, or nothing. -/
theorem nil (h : Left tail reason [] s') :
    (s' = [] ∧ reason) ∨ ∃ c cs, s' = c :: cs ∧ s' = tail ∧ (c = ')' ∨ c = '#') := by
  cases h with
  | behind ht hs =>
      obtain ⟨c, cs, hcs, hc⟩ := ht.starts
      exact .inr ⟨c, cs, hcs, rfl, hc⟩
  | gone h => exact .inl ⟨rfl, h⟩

/-- A character that starts no tail stands at the start of both or of neither. -/
theorem ne_cons (h : Left tail reason s s') {c : Char} (hparenthesis : c ≠ ')') (hsign : c ≠ '#')
    (hs : ∀ cs, s ≠ c :: cs) (cs : List Char) : s' ≠ c :: cs := by
  rintro rfl
  cases s with
  | nil =>
      rcases h.nil with ⟨hnil, -⟩ | ⟨d, ds, hds, -, hd⟩
      · cases hnil
      · cases hds
        exact hd.elim hparenthesis hsign
  | cons d ds =>
      obtain ⟨t, ht, -⟩ := h.cons
      cases ht
      exact hs ds rfl

/-- Both start with a word that starts no tail, or neither does. -/
theorem word (h : Left tail reason s s') {w : List Char} (hw : ∀ c ∈ w, c ≠ ')' ∧ c ≠ '#') :
    (∃ t t', s = w ++ t ∧ s' = w ++ t' ∧ Left tail reason t t')
      ∨ ((∀ t, s ≠ w ++ t) ∧ ∀ t, s' ≠ w ++ t) := by
  induction w generalizing s s' with
  | nil => exact .inl ⟨s, s', rfl, rfl, h⟩
  | cons c w ih =>
      rw [List.forall_mem_cons] at hw
      by_cases hc : ∃ cs, s = c :: cs
      · obtain ⟨cs, rfl⟩ := hc
        obtain ⟨t, rfl, ht⟩ := h.cons
        rcases ih ht hw.2 with ⟨u, u', rfl, rfl, hu⟩ | ⟨hne, hne'⟩
        · exact .inl ⟨u, u', rfl, rfl, hu⟩
        · exact .inr ⟨fun u hu => hne u (List.cons.inj hu).2,
            fun u hu => hne' u (List.cons.inj hu).2⟩
      · have hne : ∀ cs, s ≠ c :: cs := fun cs hcs => hc ⟨cs, hcs⟩
        exact .inr ⟨fun u => hne _, fun u => h.ne_cons hw.1.1 hw.1.2 hne _⟩

/-- What counts for nothing is passed over alike. -/
theorem skip (h : Left tail reason s s') (verbose : Bool) :
    Left tail reason (skip verbose s) (skip verbose s') := by
  cases h with
  | behind ht hs =>
      cases verbose with
      | false => exact .behind ht hs
      | true =>
          show Left tail reason (dropVerbose false s) (dropVerbose false (s ++ tail))
          rcases dropVerbose_append ht false s with happ | ⟨happ, hnil, hsign⟩
          · obtain ⟨front, hfront⟩ := dropVerbose_suffix false s
            rw [happ]
            refine .behind ht fun h => hs (h.of_suffix ⟨front, ?_⟩)
            rw [← List.append_assoc, hfront]
          · rw [happ, hnil]
            exact .gone (hs (hsign.resolve_left fun h => by cases h.1))
  | gone h => exact .gone h

theorem skip_cons {verbose : Bool} {c : Char} {cs : List Char} (h : Left tail reason s s')
    (hs : Pattern.skip verbose s = c :: cs) :
    ∃ t, Pattern.skip verbose s' = c :: t ∧ Left tail reason cs t := by
  have hskip := h.skip verbose
  rw [hs] at hskip
  exact hskip.cons

end Left

/-! ## Results with what is left -/

/--
The results of a reader for a text and for the text with a tail. If it fails on the text alone, it
may go on with a tail that is a closing parenthesis, but then it leaves so many characters at most.
-/
inductive Agrees {α : Type} (tail : List Char) (reason : Prop) (most : Nat) (Q : α → α → Prop) :
    Except Fault (α × List Char) → Except Fault (α × List Char) → Prop where
  | ok {a a' : α} {rest rest' : List Char} (hQ : Q a a') (hrest : Left tail reason rest rest') :
      Agrees tail reason most Q (.ok (a, rest)) (.ok (a', rest'))
  | failed {fault : Fault} {result : Except Fault (α × List Char)}
      (h : tail = [')'] → ∀ a rest, result = .ok (a, rest) → rest.length ≤ most) :
      Agrees tail reason most Q (.error fault) result

namespace Agrees

variable {α : Type} {most : Nat} {Q : α → α → Prop} {x x' : Except Fault (α × List Char)}

/-- Both fail. -/
theorem refused {fault fault' : Fault} :
    Agrees tail reason most Q (.error fault) (.error fault') :=
  .failed fun _ _ _ h => by cases h

theorem cases (h : Agrees tail reason most Q x x') :
    (∃ a rest a' rest', x = .ok (a, rest) ∧ x' = .ok (a', rest') ∧ Q a a'
        ∧ Left tail reason rest rest')
      ∨ ∃ fault, x = .error fault
          ∧ (tail = [')'] → ∀ a rest, x' = .ok (a, rest) → rest.length ≤ most) := by
  cases h with
  | ok hQ hrest => exact .inl ⟨_, _, _, _, rfl, rfl, hQ, hrest⟩
  | failed h => exact .inr ⟨_, rfl, h⟩

theorem map {β : Type} {R : β → β → Prop} {f f' : α → β} (h : Agrees tail reason most Q x x')
    (hf : ∀ a a', Q a a' → R (f a) (f' a')) :
    Agrees tail reason most R (x.map fun r => (f r.1, r.2)) (x'.map fun r => (f' r.1, r.2)) := by
  cases h with
  | ok hQ hrest => exact .ok (hf _ _ hQ) hrest
  | failed h =>
      refine .failed fun htail b rest hok => ?_
      cases x' with
      | error => cases hok
      | ok r =>
          cases hok
          exact h htail _ _ rfl

theorem of_alike {x x' : Except Fault α} {rest rest' : List Char} (h : Alike Q x x')
    (hrest : Left tail reason rest rest') :
    Agrees tail reason most Q (x.map (·, rest)) (x'.map (·, rest')) := by
  cases h with
  | ok h => exact .ok h hrest
  | error => exact .refused

end Agrees

/-! ## Runs of characters -/

theorem takeRun_cons {verbose : Bool} {test : Char → Bool} {c : Char} (h : test c = true)
    (cs : List Char) :
    takeRun verbose test (c :: cs)
      = (c :: (takeRun verbose test (skip verbose cs)).1,
          (takeRun verbose test (skip verbose cs)).2) := by
  rw [takeRun, if_pos h]

/-- A run that no tail goes on with ends before the tail. -/
theorem takeRun_left (verbose : Bool) (test : Char → Bool) (hparenthesis : test ')' = false)
    (hsign : test '#' = false) (h : Left tail reason s s') :
    (takeRun verbose test s').1 = (takeRun verbose test s).1
      ∧ Left tail reason (takeRun verbose test s).2 (takeRun verbose test s').2 := by
  fun_induction takeRun verbose test s generalizing s' with
  | case1 =>
      rcases h.nil with ⟨rfl, hreason⟩ | ⟨c, cs, rfl, hcs, hc⟩
      · rw [takeRun]
        exact ⟨rfl, .gone hreason⟩
      · have hc : ¬ test c = true := by
          rcases hc with rfl | rfl <;> simp [hparenthesis, hsign]
        rw [takeRun, if_neg hc]
        exact ⟨rfl, h⟩
  | case2 c cs hc more rest hmore ih =>
      obtain ⟨t, rfl, ht⟩ := h.cons
      have ih := ih (ht.skip verbose)
      rw [hmore] at ih
      rw [takeRun_cons hc]
      exact ⟨congrArg (c :: ·) ih.1, ih.2⟩
  | case3 c cs hc =>
      obtain ⟨t, rfl, -⟩ := h.cons
      rw [takeRun, if_neg hc]
      exact ⟨rfl, h⟩

/-- A run that ends inside of a text ends there whatever the tail is. -/
theorem takeRun_stops (verbose : Bool) (test : Char → Bool) {taken rest : List Char} {c : Char}
    (h : Left tail reason s s') (hs : takeRun verbose test s = (taken, c :: rest)) :
    ∃ rest', takeRun verbose test s' = (taken, c :: rest') ∧ Left tail reason rest rest' := by
  fun_induction takeRun verbose test s generalizing s' taken with
  | case1 => cases hs
  | case2 d cs hd more rest' hmore ih =>
      cases hs
      obtain ⟨t, rfl, ht⟩ := h.cons
      obtain ⟨rest', hrun, hrest⟩ := ih (ht.skip verbose) hmore
      refine ⟨rest', ?_, hrest⟩
      rw [takeRun_cons hd, hrun]
  | case3 d cs hd =>
      cases hs
      obtain ⟨t, rfl, ht⟩ := h.cons
      exact ⟨t, by rw [takeRun, if_neg hd], ht⟩

/-- A run that takes all of a text leaves a part of the tail. -/
theorem takeRun_spent (verbose : Bool) (test : Char → Bool) (h : Left tail reason s s')
    (hs : (takeRun verbose test s).2 = []) :
    (takeRun verbose test s').2.length ≤ tail.length := by
  fun_induction takeRun verbose test s generalizing s' with
  | case1 =>
      rcases h.nil with ⟨rfl, -⟩ | ⟨c, cs, -, rfl, -⟩
      · rw [takeRun]
        exact Nat.zero_le _
      · exact takeRun_length _ _ _
  | case2 c cs hc more rest hmore ih =>
      obtain ⟨t, rfl, ht⟩ := h.cons
      rw [takeRun_cons hc]
      exact ih (ht.skip verbose) (by rw [hmore]; exact hs)
  | case3 => cases hs

theorem dropWhile_blank_left (h : Left tail reason s s') :
    Left tail reason (s.dropWhile isBlank) (s'.dropWhile isBlank) := by
  cases h with
  | gone h => exact .gone h
  | behind ht hs =>
      have hblank : tail.dropWhile isBlank = tail := by
        obtain ⟨c, cs, rfl, rfl | rfl⟩ := ht.starts <;> rfl
      have hdrop : (s ++ tail).dropWhile isBlank = s.dropWhile isBlank ++ tail := by
        rw [List.dropWhile_append]
        split
        · rename_i hnil
          rw [List.isEmpty_iff.mp hnil, hblank, List.nil_append]
        · rfl
      obtain ⟨front, hfront⟩ := List.dropWhile_suffix (l := s) isBlank
      rw [hdrop]
      refine .behind ht fun h => hs (h.of_suffix ⟨front, ?_⟩)
      rw [← List.append_assoc, hfront]

/-- A number is the same with a tail. -/
theorem decimal_left (verbose : Bool) (h : Left tail reason s s') :
    Alike Eq (decimal verbose s).1 (decimal verbose s').1
      ∧ Left tail reason (decimal verbose s).2 (decimal verbose s').2 := by
  obtain ⟨hdigits, hrest⟩ := takeRun_left verbose isDecimalDigit rfl rfl
    (dropWhile_blank_left h)
  refine ⟨?_, (takeRun_left verbose isBlank rfl rfl hrest).2⟩
  unfold decimal
  dsimp only
  rw [hdigits]
  split
  · exact .error
  · split
    · exact .ok rfl
    · exact .error

/-! ## Hexadecimal escapes -/

theorem hexRun_cons {verbose : Bool} {n : Nat} {c : Char} (hc : Hexadecimal.isDigit c = true)
    (cs : List Char) :
    hexRun verbose (n + 1) (c :: cs)
      = (hexRun verbose n (skip verbose cs)).map fun r => (c :: r.1, r.2) := by
  rw [hexRun, if_pos hc]
  cases hexRun verbose n (skip verbose cs) <;> rfl

theorem hexRun_agrees (verbose : Bool) (n : Nat) (h : Left tail reason s s') :
    Agrees tail reason 0 Eq (hexRun verbose n s) (hexRun verbose n s') := by
  induction n generalizing s s' with
  | zero => exact .ok rfl h
  | succ n ih =>
      cases s with
      | nil =>
          -- a tail has no digit
          rcases h.nil with ⟨rfl, -⟩ | ⟨c, cs, rfl, -, rfl | rfl⟩ <;> exact .refused
      | cons c cs =>
          obtain ⟨t, rfl, ht⟩ := h.cons
          by_cases hc : Hexadecimal.isDigit c = true
          · rw [hexRun_cons hc, hexRun_cons hc]
            exact (ih (ht.skip verbose)).map fun _ _ h => congrArg _ h
          · rw [hexRun, hexRun, if_neg hc, if_neg hc]
            exact .refused

theorem hexBraced_agrees (verbose : Bool) (opening opening' : Nat) (h : Left tail reason s s') :
    Agrees tail reason 0 Eq (hexBraced verbose opening s) (hexBraced verbose opening' s') := by
  have hrun := takeRun_left verbose Hexadecimal.isDigit rfl rfl (h.skip verbose)
  unfold hexBraced
  rcases hs : takeRun verbose Hexadecimal.isDigit (skip verbose s) with ⟨digits, rest⟩
  rcases hs' : takeRun verbose Hexadecimal.isDigit (skip verbose s') with ⟨digits', rest'⟩
  rw [hs, hs'] at hrun
  obtain ⟨rfl, hrest⟩ : digits' = digits ∧ Left tail reason rest rest' := hrun
  cases rest with
  | nil =>
      rcases hrest.nil with ⟨rfl, -⟩ | ⟨c, cs, rfl, -, rfl | rfl⟩ <;>
        (simp only [hs, hs']; exact .refused)
  | cons c rest =>
      obtain ⟨t, rfl, ht⟩ := hrest.cons
      by_cases hc : c = '\x7d'
      · subst hc
        simp only [hs, hs']
        split
        · exact .refused
        · split
          · exact .ok rfl (ht.skip verbose)
          · exact .refused
      · simpa [hs, hs', hc, fail] using Agrees.refused

/-- Without a brace so many digits are read. -/
theorem hexEscape_of_ne {verbose : Bool} {c : Char} {cs : List Char}
    (hs : skip verbose s = c :: cs) (hc : c ≠ '\x7b') (count : Nat) :
    hexEscape verbose count s
      = match hexRun verbose count (c :: cs) with
        | .error fault => .error fault
        | .ok (digits, rest) =>
            match scalar? (Hexadecimal.value digits) with
            | some char => .ok (char, rest)
            | none => fail .hexInvalid ⟨place (c :: cs), place rest⟩ := by
  unfold hexEscape
  rw [hs]
  split
  · rename_i h
    cases h
  · rename_i h
    cases h
    exact absurd rfl hc
  · rfl

theorem hexEscape_agrees (verbose : Bool) {count : Nat} (hcount : 0 < count)
    (h : Left tail reason s s') :
    Agrees tail reason 0 Eq (hexEscape verbose count s) (hexEscape verbose count s') := by
  have hskip := h.skip verbose
  rcases hs : skip verbose s with _ | ⟨c, cs⟩
  · -- a tail has no digit
    rw [hs] at hskip
    obtain ⟨n, rfl⟩ := Nat.exists_eq_succ_of_ne_zero (Nat.pos_iff_ne_zero.mp hcount)
    unfold hexEscape
    rcases hskip.nil with ⟨hs', -⟩ | ⟨c, cs, hs', -, rfl | rfl⟩ <;>
      (simp only [hs, hs']; exact .refused)
  · rw [hs] at hskip
    obtain ⟨t, hs', ht⟩ := hskip.cons
    by_cases hc : c = '\x7b'
    · subst hc
      unfold hexEscape
      simp only [hs, hs']
      exact hexBraced_agrees verbose _ _ ht
    · rw [hexEscape_of_ne hs hc, hexEscape_of_ne hs' hc]
      rw [hs'] at hskip
      rcases (hexRun_agrees verbose count hskip).cases with
        ⟨digits, rest, _, rest', hx, hx', rfl, hrest⟩ | ⟨fault, hx, hspent⟩
      · simp only [hx, hx']
        split
        · exact .ok rfl hrest
        · exact .refused
      · simp only [hx]
        refine .failed fun htail char rest hok => ?_
        split at hok
        · cases hok
        · rename_i digits rest' hx'
          split at hok
          · cases hok
            exact hspent htail _ _ hx'
          · cases hok

/-! ## Unicode classes -/

theorem unicodeClass_of_ne {verbose : Bool} {c : Char} {cs : List Char}
    (hs : skip verbose s = c :: cs) (hc : c ≠ '\x7b') :
    unicodeClass verbose s
      = if c = '\\' then fail .unicodeClassInvalid (spanOfNext (c :: cs))
        else .ok (.named [c], skip verbose cs) := by
  unfold unicodeClass
  rw [hs]
  split
  · rename_i h
    cases h
  · rename_i h
    cases h
    exact absurd rfl hc
  · rename_i h
    cases h
    rfl

theorem unicodeClass_agrees (verbose : Bool) (h : Left tail reason s s') :
    Agrees tail reason 0 Eq (unicodeClass verbose s) (unicodeClass verbose s') := by
  have hskip := h.skip verbose
  rcases hs : skip verbose s with _ | ⟨c, cs⟩
  · -- the tail may be the letter of a class, and nothing is left of a parenthesis
    rw [hs] at hskip
    have hx : unicodeClass verbose s = fail .escapeUnexpectedEnd (spanAt []) := by
      unfold unicodeClass
      simp only [hs]
    rw [hx]
    refine .failed fun htail query rest hok => ?_
    rcases hskip.nil with ⟨hs', -⟩ | ⟨c, cs, hs', hcs, -⟩
    · unfold unicodeClass at hok
      simp only [hs'] at hok
      cases hok
    · rw [htail] at hcs
      rw [unicodeClass_of_ne hcs (by decide)] at hok
      cases hok
      exact skip_length verbose []
  · obtain ⟨t, hs', ht⟩ := h.skip_cons hs
    by_cases hc : c = '\x7b'
    · subst hc
      unfold unicodeClass
      simp only [hs, hs']
      have hspent := takeRun_spent verbose (· != '\x7d') (ht.skip verbose)
      rcases hrun : takeRun verbose (· != '\x7d') (skip verbose cs) with ⟨taken, _ | ⟨d, rest⟩⟩
      · simp only
        refine .failed fun htail query rest hok => ?_
        rw [hrun, htail] at hspent
        split at hok
        · cases hok
        · rename_i text d rest' hrun'
          cases hok
          have hlength := hspent rfl
          rw [hrun'] at hlength
          exact Nat.le_of_succ_le_succ hlength
      · obtain ⟨rest', hrun', hrest⟩ := takeRun_stops verbose _ (ht.skip verbose) hrun
        simp only [hrun']
        exact .ok rfl hrest
    · rw [unicodeClass_of_ne hs hc, unicodeClass_of_ne hs' hc]
      split
      · exact .refused
      · exact .ok rfl (ht.skip verbose)

/-! ## Names of groups and flags -/

/-- At the end of a text there is nothing or a parenthesis, if that is the tail. -/
theorem Left.nil_parenthesis (h : Left tail reason [] s') (htail : tail = [')']) :
    s' = [] ∨ s' = [')'] := by
  rcases h.nil with ⟨rfl, -⟩ | ⟨c, cs, -, rfl, -⟩
  · exact .inl rfl
  · exact .inr htail

theorem groupNameChars_cons {first : Bool} {c : Char} (hc : c ≠ '>') (cs : List Char) :
    groupNameChars first (c :: cs)
      = if isGroupNameChar first c then (groupNameChars false cs).map fun r => (c :: r.1, r.2)
        else fail .groupNameInvalid (spanOfNext (c :: cs)) := by
  rw [groupNameChars]
  · cases groupNameChars false cs <;> rfl
  · exact hc

/-- A name ends at its `>`. -/
theorem groupNameChars_ends {first : Bool} {name rest : List Char}
    (h : groupNameChars first s = .ok (name, rest)) : ∃ cs, rest = '>' :: cs := by
  fun_induction groupNameChars first s generalizing name rest with
  | case1 => cases h
  | case2 first cs =>
      cases h
      exact ⟨cs, rfl⟩
  | case3 => cases h
  | case4 first c cs hne hc name' rest' hmore ih =>
      cases h
      exact ih hmore
  | case5 => cases h

theorem groupNameChars_agrees (first : Bool) (h : Left tail reason s s') :
    Agrees tail reason 0 Eq (groupNameChars first s) (groupNameChars first s') := by
  induction s generalizing first s' with
  | nil =>
      -- no name ends at a parenthesis, be it a character of names or not
      refine .failed fun htail name rest hok => ?_
      obtain ⟨cs, rfl⟩ := groupNameChars_ends hok
      rcases h.nil_parenthesis htail with rfl | rfl
      · cases hok
      · rw [groupNameChars_cons (by decide)] at hok
        split at hok <;> cases hok
  | cons c cs ih =>
      obtain ⟨t, rfl, ht⟩ := h.cons
      by_cases hc : c = '>'
      · subst hc
        exact .ok rfl h
      · rw [groupNameChars_cons hc, groupNameChars_cons hc]
        split
        · exact (ih false ht).map fun _ _ h => congrArg _ h
        · exact .refused

/-- Two options are both nothing, or both something. -/
theorem isSome_eq_cases {α : Type} {x y : Option α} (h : y.isSome = x.isSome) :
    (x = none ∧ y = none) ∨ ∃ a b, x = some a ∧ y = some b := by
  cases x with
  | none => exact .inl ⟨rfl, Option.not_isSome_iff_eq_none.mp (by rw [h]; exact Bool.false_ne_true)⟩
  | some a =>
      obtain ⟨b, rfl⟩ := Option.isSome_iff_exists.mp h
      exact .inr ⟨a, b, rfl, rfl⟩

/-- Whether something was read already that clashes depends on what was read, not on where. -/
theorem isSome_find_fst {α β : Type} [BEq α] [LawfulBEq α] (seen : List (α × β)) (a : α) :
    (seen.find? (fun n => n.1 == a)).isSome = (seen.map Prod.fst).contains a := by
  induction seen with
  | nil => rfl
  | cons n seen ih =>
      rw [List.map_cons, List.contains_cons, List.find?_cons, ← ih, Bool.beq_comm (a := n.1)]
      cases a == n.1 <;> rfl

theorem groupName_agrees {names names' : GroupNames}
    (hnames : names'.map Prod.fst = names.map Prod.fst) (h : Left tail reason s s') :
    Agrees tail reason 0 (fun ns ns' => ns'.map Prod.fst = ns.map Prod.fst) (groupName names s)
      (groupName names' s') := by
  unfold groupName
  rcases (groupNameChars_agrees true h).cases with
    ⟨name, rest, _, rest', hx, hx', rfl, hrest⟩ | ⟨fault, hx, hspent⟩
  · obtain ⟨cs, rfl⟩ := groupNameChars_ends hx
    obtain ⟨cs', rfl, hcs⟩ := hrest.cons
    have hfind : (names'.find? (fun n => n.1 == name)).isSome
        = (names.find? (fun n => n.1 == name)).isSome := by
      rw [isSome_find_fst, isSome_find_fst, hnames]
    simp only [hx, hx']
    split
    · exact .refused
    · rcases isSome_eq_cases hfind with ⟨hold, hnew⟩ | ⟨_, _, hold, hnew⟩
      · simp only [hold, hnew]
        exact .ok (by rw [List.map_cons, List.map_cons, hnames]) hcs
      · simp only [hold, hnew]
        exact .refused
  · simp only [hx]
    refine .failed fun htail ns rest hok => ?_
    split at hok
    · cases hok
    · rename_i name rest' hx'
      -- the end of the name is still there
      obtain ⟨cs, rfl⟩ := groupNameChars_ends hx'
      exact absurd (hspent htail _ _ hx') (Nat.not_succ_le_zero _)

/-! ## Flags -/

/-- Flags that are the same but for their places. -/
structure FlagScan.Alike (f f' : FlagScan) : Prop where
  seen : f'.seen.map (fun s => (s.1, s.2.1)) = f.seen.map (fun s => (s.1, s.2.1))
  minus : f'.minus.isSome = f.minus.isSome
  dangling : f'.dangling = f.dangling

theorem FlagScan.Alike.settings {f f' : FlagScan} (h : f.Alike f') : f'.settings = f.settings := by
  unfold FlagScan.settings
  rw [List.map_reverse, List.map_reverse]
  exact congrArg _ h.seen

theorem FlagScan.Alike.take {f f' : FlagScan} (h : f.Alike f') (c : Char) (span span' : Span) :
    Pattern.Alike FlagScan.Alike (f.take c span) (f'.take c span') := by
  have hfind (flag : Flag) : (f'.seen.find? (fun s => s.1 == flag)).isSome
      = (f.seen.find? (fun s => s.1 == flag)).isSome := by
    have hfst : f'.seen.map Prod.fst = f.seen.map Prod.fst := by
      simpa [List.map_map, Function.comp_def] using congrArg (List.map Prod.fst) h.seen
    rw [isSome_find_fst, isSome_find_fst, hfst]
  unfold FlagScan.take
  split
  · rcases isSome_eq_cases h.minus with ⟨hold, hnew⟩ | ⟨_, _, hold, hnew⟩
    · simp only [hold, hnew]
      exact .ok ⟨h.seen, rfl, rfl⟩
    · simp only [hold, hnew]
      exact .error
  · cases flagOf? c with
    | none => exact .error
    | some flag =>
        rcases isSome_eq_cases (hfind flag) with ⟨hold, hnew⟩ | ⟨_, _, hold, hnew⟩
        · simp only [hold, hnew]
          refine .ok ⟨?_, h.minus, rfl⟩
          have hon : f'.minus.isNone = f.minus.isNone := by
            rw [← Option.not_isSome, ← Option.not_isSome, h.minus]
          simp only [List.map_cons, h.seen, hon]
        · simp only [hold, hnew]
          exact .error

theorem flagList_agrees {f f' : FlagScan} (hf : f.Alike f') (h : Left tail reason s s') :
    Agrees tail reason 1 Eq (flagList f s) (flagList f' s') := by
  induction s generalizing f f' s' with
  | nil =>
      refine .failed fun htail settings rest hok => ?_
      have hlength := flagList_length hok
      rcases h.nil_parenthesis htail with rfl | rfl
      · exact Nat.le_succ_of_le hlength
      · exact hlength
  | cons c cs ih =>
      obtain ⟨t, rfl, ht⟩ := h.cons
      rw [flagList, flagList]
      split
      · -- the end of the flags
        rcases isSome_eq_cases hf.minus with ⟨hold, hnew⟩ | ⟨_, _, hold, hnew⟩
        · simp only [hold, hnew]
          exact .ok hf.settings.symm h
        · simp only [hold, hnew, hf.dangling]
          split
          · exact .refused
          · exact .ok hf.settings.symm h
      · rcases (hf.take c (spanOfNext (c :: cs)) (spanOfNext (c :: t))).cases with
          ⟨g, g', hg, hg', hgg⟩ | ⟨_, _, hg, hg'⟩
        · simp only [hg, hg']
          exact ih hgg ht
        · simp only [hg, hg']
          exact .refused

end StyleLookup.Pattern
