import StyleLookup.Proofs.EscapeTail

/-!
# A text behind an item of a class

The items and ranges of a bracketed class are the same with a tail behind them. If an item fails
alone, then with a parenthesis it leaves one character at most, and the class goes on to read that.

The one place where it is not plain that a tail changes nothing is a hyphen. Whether it makes a
range is decided by the next character that counts, or so it should be: in verbose mode the reader
passes over the sign of a comment, but not over the comment. So that character may lie in a comment
of the text, and it may lie in the tail.
-/

namespace StyleLookup.Pattern

open StyleLookup.Text

variable {tail : List Char} {reason : Prop} {s s' : List Char}

/-! ## Items -/

theorem classItem_agrees {verbose : Bool} {c : Char} (h : Left tail reason s s')
    (hs : ¬ (c = '\\' ∧ OpensNothing verbose s)) :
    Agrees tail reason 0 (fun p p' => p'.bare = p.bare) (classItem verbose c s)
      (classItem verbose c s') := by
  unfold classItem
  split
  · rename_i hc
    exact escape_agrees h fun hopens => hs ⟨hc, hopens⟩
  · exact .ok rfl h

theorem Primitive.toSet_alike {p p' : Primitive} (h : p'.bare = p.bare) :
    Alike (fun set set' => set'.bare = set.bare) p.toSet p'.toSet := by
  cases p with
  | literal l =>
      cases p' <;> first | exact .ok (congrArg ClassSet.literal (literal.inj h)) | cases h
  | letterClass _ _ _ | unicode _ _ _ =>
      cases p' <;> cases h
      exact .ok rfl
  | dot _ | assertion _ _ =>
      cases p' <;> cases h
      exact .error

theorem Primitive.toLiteral_alike {p p' : Primitive} (h : p'.bare = p.bare) :
    Alike (fun l l' => l'.bare = l.bare) p.toLiteral p'.toLiteral := by
  cases p with
  | literal l => cases p' <;> first | exact .ok (literal.inj h) | cases h
  | letterClass _ _ _ | unicode _ _ _ | dot _ | assertion _ _ =>
      cases p' <;> cases h
      exact .error

theorem rangeOf_alike {first first' last last' : Primitive} (hfirst : first'.bare = first.bare)
    (hlast : last'.bare = last.bare) :
    Alike (fun set set' => set'.bare = set.bare) (rangeOf first last) (rangeOf first' last') := by
  unfold rangeOf
  rcases (Primitive.toLiteral_alike hfirst).cases with ⟨a, a', ha, ha', haa⟩ | ⟨_, _, ha, ha'⟩
  · rcases (Primitive.toLiteral_alike hlast).cases with ⟨b, b', hb, hb', hbb⟩ | ⟨_, _, hb, hb'⟩
    · simp only [ha, ha', hb, hb']
      have hachar : a'.char = a.char := by rw [← a'.bare_char, haa, a.bare_char]
      have hbchar : b'.char = b.char := by rw [← b'.bare_char, hbb, b.bare_char]
      rw [hachar, hbchar]
      split
      · exact .ok (by rw [ClassSet.bare, ClassSet.bare, haa, hbb])
      · exact .error
    · simp only [ha, ha', hb, hb']
      exact .error
  · simp only [ha, ha']
    exact .error

/-! ## Ranges -/

/-- What is left when white space and comments are dropped starts with none of them. -/
theorem dropVerbose_starts {comment : Bool} {c : Char} {cs : List Char}
    (h : dropVerbose comment s = c :: cs) : c ∈ s ∧ isBlank c = false ∧ c ≠ '#' := by
  fun_induction dropVerbose comment s with
  | case1 => cases h
  | case2 d ds ih => exact (ih h).imp (List.mem_cons_of_mem d) id
  | case3 d ds _ ih => exact (ih h).imp (List.mem_cons_of_mem d) id
  | case4 ds _ ih => exact (ih h).imp (List.mem_cons_of_mem _) id
  | case5 d ds hblank hsign =>
      cases h
      exact ⟨List.mem_cons_self, Bool.eq_false_iff.mpr hblank, hsign⟩

theorem firstShown_of_mem (comment : Bool) {c : Char} (hc : c ∈ s) (hblank : isBlank c = false)
    (hsign : c ≠ '#') : (firstShown comment s).isSome = true := by
  fun_induction firstShown comment s with
  | case1 => cases hc
  | case2 comment d ds hd ih =>
      refine ih ((List.mem_cons.mp hc).resolve_left ?_)
      rintro rfl
      rw [hblank] at hd
      cases hd
  | case3 comment d ds _ hd ih =>
      refine ih ((List.mem_cons.mp hc).resolve_left ?_)
      rintro rfl
      simp [hsign] at hd
  | case4 => rfl

/-- A character that is shown stays the first with a tail. -/
theorem firstShown_left {comment : Bool} {c : Char} (h : Left tail reason s s')
    (hs : firstShown comment s = some c) : firstShown comment s' = some c := by
  fun_induction firstShown comment s generalizing s' with
  | case1 => cases hs
  | case2 comment d ds hd ih =>
      obtain ⟨t, rfl, ht⟩ := h.cons
      rw [firstShown, if_pos hd]
      exact ih ht hs
  | case3 comment d ds hd hd' ih =>
      obtain ⟨t, rfl, ht⟩ := h.cons
      rw [firstShown, if_neg hd, if_pos hd']
      exact ih ht hs
  | case4 comment d ds hd hd' =>
      obtain ⟨t, rfl, -⟩ := h.cons
      rw [firstShown, if_neg hd, if_neg hd']
      exact hs

/-- Behind a text where nothing is shown a parenthesis is the first that is. -/
theorem firstShown_parenthesis {comment : Bool} (hs : firstShown comment s = none) :
    firstShown comment (s ++ [')']) = some ')' := by
  fun_induction firstShown comment s with
  | case1 comment => cases comment <;> rfl
  | case2 comment d ds hd ih =>
      rw [List.cons_append, firstShown, if_pos hd]
      exact ih hs
  | case3 comment d ds hd hd' ih =>
      rw [List.cons_append, firstShown, if_neg hd, if_pos hd']
      exact ih hs
  | case4 => cases hs

theorem head?_left {c : Char} (h : Left tail reason s s') (hs : s.head? = some c) :
    s'.head? = some c := by
  obtain ⟨cs, rfl⟩ := List.head?_eq_some_iff.mp hs
  obtain ⟨t, rfl, -⟩ := h.cons
  rfl

/-- Behind a hyphen the same character decides, if anything stands there that counts. -/
theorem afterHyphen_left {verbose : Bool} (h : Left tail reason s s') (hs : skip verbose s ≠ []) :
    afterHyphen verbose s' = afterHyphen verbose s := by
  obtain ⟨c, cs, hcs⟩ := List.exists_cons_of_ne_nil hs
  cases verbose with
  | false =>
      have hhead : s.head? = some c := by
        rw [show s = c :: cs from hcs]
        rfl
      exact (head?_left h hhead).trans hhead.symm
  | true =>
      obtain ⟨hc, hblank, hsign⟩ := dropVerbose_starts hcs
      obtain ⟨d, hd⟩ := Option.isSome_iff_exists.mp
        (firstShown_of_mem false hc hblank hsign)
      show (firstShown false s').or s'.head? = (firstShown false s).or s.head?
      rw [firstShown_left h hd, hd]
      rfl

/-- A character that counts decides whatever comes behind it. -/
theorem afterHyphen_some {verbose : Bool} {c : Char} (h : Left tail reason s s')
    (hblank : isBlank c = false) (hsign : c ≠ '#') (hs : afterHyphen verbose s = some c) :
    afterHyphen verbose s' = some c := by
  cases verbose with
  | false => exact head?_left h hs
  | true =>
      have hshown : firstShown false s = some c := by
        cases hd : firstShown false s with
        | some d =>
            unfold afterHyphen at hs
            rw [if_pos rfl, hd] at hs
            exact hs
        | none =>
            -- then the character would not be shown although it stands there
            unfold afterHyphen at hs
            rw [if_pos rfl, hd, Option.none_or] at hs
            obtain ⟨cs, rfl⟩ := List.head?_eq_some_iff.mp hs
            have := firstShown_of_mem false (List.mem_cons_self (a := c) (l := cs)) hblank hsign
            rw [hd] at this
            cases this
      show (firstShown false s').or s'.head? = some c
      rw [firstShown_left h hshown]
      rfl

theorem atRange_hyphen (verbose : Bool) (cs : List Char) :
    atRange verbose ('-' :: cs)
      = (afterHyphen verbose cs != some ']' && afterHyphen verbose cs != some '-') := rfl

theorem atRange_of_ne {verbose : Bool} (h : ∀ cs, s ≠ '-' :: cs) : atRange verbose s = false := by
  unfold atRange
  split
  · exact absurd rfl (h _)
  · rfl

/-- Where no range stands, none stands with a tail. -/
theorem atRange_false {verbose : Bool} (h : Left tail reason s s')
    (hs : atRange verbose s = false) : atRange verbose s' = false := by
  by_cases hhyphen : ∃ cs, s = '-' :: cs
  · obtain ⟨cs, rfl⟩ := hhyphen
    obtain ⟨t, rfl, ht⟩ := h.cons
    rw [atRange_hyphen, Bool.and_eq_false_iff, bne_eq_false_iff_eq, bne_eq_false_iff_eq] at hs ⊢
    exact hs.imp (afterHyphen_some ht rfl (by decide)) (afterHyphen_some ht rfl (by decide))
  · have hne : ∀ cs, s ≠ '-' :: cs := fun cs hcs => hhyphen ⟨cs, hcs⟩
    exact atRange_of_ne (h.ne_cons (by decide) (by decide) hne)

/-- Where a range stands, one stands with a parenthesis, be its end there or not. -/
theorem atRange_parenthesis {verbose : Bool} (h : Left [')'] reason s s')
    (hs : atRange verbose ('-' :: s) = true) : atRange verbose ('-' :: s') = true := by
  cases h with
  | gone => exact hs
  | behind ht hsign =>
      rw [atRange_hyphen] at hs ⊢
      cases verbose with
      | false =>
          cases s with
          | nil => rfl
          | cons c cs => exact hs
      | true =>
          have hor : afterHyphen true (s ++ [')'])
              = (firstShown false (s ++ [')'])).or (s ++ [')']).head? := rfl
          cases hshown : firstShown false s with
          | none =>
              rw [hor, firstShown_parenthesis hshown]
              rfl
          | some c =>
              have hold : afterHyphen true s = (firstShown false s).or s.head? := rfl
              rw [hor, firstShown_left (.behind ht hsign) hshown]
              rw [hold, hshown] at hs
              exact hs

/-- Reads on behind an item, where white space is passed over. -/
def afterItem (verbose : Bool) (unclosed : Span) (first : Primitive) (rest : List Char) :
    Except Fault (ClassSet × List Char) :=
  if rest.isEmpty then fail .classUnclosed unclosed
  else if atRange verbose rest then
    match skip verbose (rest.drop 1) with
    | [] => fail .classUnclosed unclosed
    | d :: ds =>
        match classItem verbose d ds with
        | .error fault => .error fault
        | .ok (last, rest) => (rangeOf first last).map (·, rest)
  else first.toSet.map (·, rest)

theorem classRange_eq (verbose : Bool) (unclosed : Span) (c : Char) (cs : List Char) :
    classRange verbose unclosed c cs
      = match classItem verbose c cs with
        | .error fault => .error fault
        | .ok (first, rest) => afterItem verbose unclosed first (skip verbose rest) := rfl

theorem of_map_ok {α : Type} {x : Except Fault α} {a : α} {rest rest' : List Char}
    (h : x.map (·, rest') = .ok (a, rest)) : x = .ok a ∧ rest = rest' := by
  cases x <;> cases h
  exact ⟨rfl, rfl⟩

/-- An assertion is no end of a range. -/
theorem rangeOf_assertion (first : Primitive) (span : Span) (kind : AssertionKind)
    (set : ClassSet) : rangeOf first (.assertion span kind) ≠ .ok set := by
  unfold rangeOf
  cases first.toLiteral <;> (intro h; cases h)

theorem afterItem_of_range {verbose : Bool} {unclosed : Span} {first : Primitive}
    (h : atRange verbose ('-' :: s) = true) :
    afterItem verbose unclosed first ('-' :: s)
      = match skip verbose s with
        | [] => fail .classUnclosed unclosed
        | d :: ds =>
            match classItem verbose d ds with
            | .error fault => .error fault
            | .ok (last, rest) => (rangeOf first last).map (·, rest) := by
  unfold afterItem
  rw [h]
  rfl

theorem afterItem_of_single {verbose : Bool} {unclosed : Span} {first : Primitive} {c : Char}
    {cs : List Char} (h : atRange verbose (c :: cs) = false) :
    afterItem verbose unclosed first (c :: cs) = first.toSet.map (·, c :: cs) := by
  unfold afterItem
  rw [h]
  rfl

/-- The end of a range is the same with a tail. -/
theorem range_agrees (verbose : Bool) (unclosed unclosed' : Span) {first first' : Primitive}
    (hfirst : first'.bare = first.bare) (h : Left tail reason s s')
    (hrange : atRange verbose ('-' :: s) = true) :
    Agrees tail reason 1 (fun set set' => set'.bare = set.bare)
      (afterItem verbose unclosed first ('-' :: s))
      (afterItem verbose unclosed' first' ('-' :: s')) := by
  have hskip := h.skip verbose
  rw [afterItem_of_range hrange]
  rcases hs : skip verbose s with _ | ⟨d, ds⟩
  · refine .failed fun htail set rest hok => ?_
    subst htail
    rw [hs] at hskip
    rw [afterItem_of_range (atRange_parenthesis h hrange)] at hok
    rcases hskip.nil_parenthesis rfl with hs' | hs' <;> simp only [hs'] at hok
    · cases hok
    · -- the parenthesis is the end of the range
      have hitem : classItem verbose ')' [] = .ok (.literal ⟨⟨1, 0⟩, ')', false⟩, []) := rfl
      simp only [hitem] at hok
      obtain ⟨-, rfl⟩ := of_map_ok hok
      exact Nat.zero_le _
  · obtain ⟨ds', hs', hds⟩ := h.skip_cons hs
    have hrange' : atRange verbose ('-' :: s') = true := by
      rw [atRange_hyphen, afterHyphen_left h (by rw [hs]; exact List.cons_ne_nil d ds)]
      exact hrange
    rw [afterItem_of_range hrange', hs']
    dsimp only
    by_cases hopens : d = '\\' ∧ OpensNothing verbose ds
    · obtain ⟨rfl, hopens⟩ := hopens
      obtain ⟨fault, hfault⟩ := escape_of_opensNothing hopens
      have hitem : classItem verbose '\\' ds = .error fault := hfault
      rw [hitem]
      refine .failed fun htail set rest hok => ?_
      subst htail
      split at hok
      · cases hok
      · rename_i last rest' hitem'
        obtain ⟨⟨span, rfl⟩, -⟩ := escape_opensNothing hds hopens hitem'
        exact absurd (of_map_ok hok).1 (rangeOf_assertion _ _ _ _)
    · rcases (classItem_agrees hds hopens).cases with
        ⟨last, rest, last', rest', hx, hx', hlast, hrest⟩ | ⟨fault, hx, hspent⟩
      · simp only [hx, hx']
        exact .of_alike (rangeOf_alike hfirst hlast) hrest
      · simp only [hx]
        refine .failed fun htail set rest hok => ?_
        split at hok
        · cases hok
        · rename_i last rest' hx'
          obtain ⟨-, rfl⟩ := of_map_ok hok
          exact Nat.le_succ_of_le (hspent htail _ _ hx')

theorem afterItem_agrees (verbose : Bool) (unclosed unclosed' : Span) {first first' : Primitive}
    (hfirst : first'.bare = first.bare) (h : Left tail reason s s') :
    Agrees tail reason 1 (fun set set' => set'.bare = set.bare)
      (afterItem verbose unclosed first s) (afterItem verbose unclosed' first' s') := by
  cases s with
  | nil =>
      refine .failed fun htail set rest hok => ?_
      rcases h.nil_parenthesis htail with rfl | rfl
      · cases hok
      · rw [afterItem_of_single (atRange_of_ne (by simp))] at hok
        obtain ⟨-, rfl⟩ := of_map_ok hok
        exact Nat.le_refl 1
  | cons c cs =>
      obtain ⟨t, rfl, ht⟩ := h.cons
      cases hrange : atRange verbose (c :: cs) with
      | false =>
          rw [afterItem_of_single hrange, afterItem_of_single (atRange_false h hrange)]
          exact .of_alike (Primitive.toSet_alike hfirst) h
      | true =>
          by_cases hc : c = '-'
          · subst hc
            exact range_agrees verbose unclosed unclosed' hfirst ht hrange
          · rw [atRange_of_ne (by rintro ds hds; cases hds; exact hc rfl)] at hrange
            cases hrange

/-- **An item or a range is the same with a tail.** -/
theorem classRange_agrees (verbose : Bool) (unclosed unclosed' : Span) (c : Char)
    (h : Left tail reason s s') :
    Agrees tail reason 1 (fun set set' => set'.bare = set.bare)
      (classRange verbose unclosed c s) (classRange verbose unclosed' c s') := by
  rw [classRange_eq, classRange_eq]
  by_cases hopens : c = '\\' ∧ OpensNothing verbose s
  · obtain ⟨rfl, hopens⟩ := hopens
    obtain ⟨fault, hfault⟩ := escape_of_opensNothing hopens
    have hitem : classItem verbose '\\' s = .error fault := hfault
    rw [hitem]
    refine .failed fun htail set rest hok => ?_
    subst htail
    split at hok
    · cases hok
    · rename_i first rest' hitem'
      -- an assertion with a brace behind it is no item
      obtain ⟨⟨span, rfl⟩, cs, rfl, -⟩ := escape_opensNothing h hopens hitem'
      rw [skip_of_shown rfl (by decide), afterItem_of_single (atRange_of_ne (by simp))] at hok
      cases (of_map_ok hok).1
  · rcases (classItem_agrees h hopens).cases with
      ⟨first, rest, first', rest', hx, hx', hfirst, hrest⟩ | ⟨fault, hx, hspent⟩
    · simp only [hx, hx']
      exact afterItem_agrees verbose _ _ hfirst (hrest.skip verbose)
    · simp only [hx]
      refine .failed fun htail set rest hok => ?_
      split at hok
      · cases hok
      · rename_i first rest' hx'
        -- nothing is left that could go on
        obtain rfl := List.length_eq_zero_iff.mp (Nat.le_zero.mp (hspent htail _ _ hx'))
        have hskip : skip verbose [] = [] := by cases verbose <;> rfl
        rw [hskip] at hok
        cases hok

end StyleLookup.Pattern
