import Mathlib.Logic.Relation
import StyleLookup.Proofs.GroupTail

/-!
# Patterns inside of a group

A pattern that is put, as text, between `\A(?:` and `)` should become an item behind the start of the
text, the same as it is alone. Mostly it does (`readDeep_anchored`). One that ends in a comment does
not: it takes the parenthesis for a part of the comment, and the group stays open.

The proof follows three readings: of the pattern alone, of the pattern with the parenthesis, and of
the same text inside of the group. The first two stand side by side with a tail behind the second,
and the last two with a level below the third. Whether the parenthesis is still there at the end
can be seen in the second already, so what becomes of the pattern in the group is told by the
pattern followed by a parenthesis (`EndsInComment`).

A pattern that cannot be read alone cannot be read in the group (`run_ne_ok_of_error`), unless what
is wrong with it is that it closes a group that it did not open. There is one to close.
-/

namespace StyleLookup.Pattern

open Relation

variable {kind : GroupKind} {extra : List Level} {tail : List Char} {reason : Prop}
  {r r' r₁ : Reading}

/-! ## Runs side by side -/

/-- The levels of a whole pattern. -/
theorem Stacked.bottom_cases {l l' : Level} {outer' : List Level}
    (h : Stacked kind extra l [] l' outer') : l.Alike l' ∧ l'.kind = kind ∧ outer' = extra := by
  cases h with
  | bottom h hk => exact ⟨h, hk, rfl⟩

/-- The reading after one step. -/
def Reading.Next (r r' : Reading) : Prop :=
  ∃ c cs, skip r.level.verbose r.rest = c :: cs ∧ step r c cs = .ok r'

/-- A reading that goes on to its end. -/
structure Reading.Ends (r last : Reading) : Prop where
  steps : ReflTransGen Reading.Next r last
  nothing_left : skip last.level.verbose last.rest = []

theorem Reading.run_of_steps (h : ReflTransGen Reading.Next r r') : r.run = r'.run := by
  induction h using ReflTransGen.head_induction_on with
  | refl => rfl
  | head hnext _ ih =>
      obtain ⟨c, cs, hskip, hstep⟩ := hnext
      exact (Reading.run_cons hskip hstep).trans ih

theorem Reading.finish_of_nil (h : r.outer = []) : r.finish = .ok (r.level.body 0) := by
  unfold finish
  rw [h]

/-- What is read goes on to an end where no group is open. -/
theorem Reading.ends_of_run {ast : Ast} (h : r.run = .ok ast) :
    ∃ last, r.Ends last ∧ last.outer = [] ∧ ast = last.level.body 0 := by
  fun_induction Reading.run r with
  | case1 r hskip =>
      refine ⟨r, ⟨.refl, hskip⟩, ?_⟩
      cases houter : r.outer with
      | nil =>
          rw [Reading.finish_of_nil houter] at h
          exact ⟨rfl, (Except.ok.inj h).symm⟩
      | cons parent outer =>
          rw [Reading.finish_of_cons houter] at h
          cases h
  | case2 => cases h
  | case3 r c cs hskip r' hstep ih =>
      obtain ⟨last, hends, hlast⟩ := ih h
      exact ⟨last, ⟨.head ⟨c, cs, hskip, hstep⟩ hends.steps, hends.nothing_left⟩, hlast⟩

theorem Reading.Next.beside (h : r.Next r₁) (hr : Beside kind extra tail reason r r') :
    ∃ r₁', r'.Next r₁' ∧ Beside kind extra tail reason r₁ r₁' := by
  obtain ⟨c, cs, hskip, hstep⟩ := h
  obtain ⟨t, hskip', ht⟩ := hr.rest.skip_cons hskip
  rw [← hr.verbose] at hskip'
  rcases (step_keeps hr.toAround c ht).cases with ⟨_, r₁', hx, hx', hbeside⟩ | ⟨fault, hx, -⟩
  · rw [hstep] at hx
    cases hx
    exact ⟨r₁', ⟨c, t, hskip', hx'⟩, hbeside⟩
  · rw [hstep] at hx
    cases hx

/-- **Runs stay side by side.** -/
theorem steps_beside (h : ReflTransGen Reading.Next r r₁)
    (hr : Beside kind extra tail reason r r') :
    ∃ r₁', ReflTransGen Reading.Next r' r₁' ∧ Beside kind extra tail reason r₁ r₁' := by
  induction h with
  | refl => exact ⟨r', .refl, hr⟩
  | tail _ hnext ih =>
      obtain ⟨r₂', hsteps, hbeside⟩ := ih
      obtain ⟨r₁', hnext', hbeside'⟩ := hnext.beside hbeside
      exact ⟨r₁', hsteps.tail hnext', hbeside'⟩

/-- Where the first has no group open, the second has what was below it. -/
theorem whole_beside (h : ReflTransGen Reading.Next r r₁) (houter : r₁.outer = [])
    (hr : Beside kind extra tail reason r r') :
    ∃ r₁', ReflTransGen Reading.Next r' r₁' ∧ r₁'.outer = extra ∧ r₁'.level.kind = kind
      ∧ r₁.level.Alike r₁'.level
      ∧ Left tail reason (skip r₁.level.verbose r₁.rest) (skip r₁'.level.verbose r₁'.rest) := by
  obtain ⟨r₁', hsteps, hbeside⟩ := steps_beside h hr
  have hstacked := hbeside.stacked
  rw [houter] at hstacked
  obtain ⟨halike, hkind, houter'⟩ := hstacked.bottom_cases
  refine ⟨r₁', hsteps, houter', hkind, halike, ?_⟩
  rw [hbeside.verbose]
  exact hbeside.rest.skip _

/-- A closing parenthesis with a level below it is taken. -/
theorem closeGroup_of_cons {parent : Level} {outer : List Level} (h : r.outer = parent :: outer)
    (rest : List Char) :
    r.closeGroup rest
      = .ok ⟨parent.push (.group ⟨r.level.opening, place rest⟩ r.level.kind
          (r.level.body (place rest + 1))), outer, r.names, rest⟩ := by
  unfold Reading.closeGroup
  rw [h]

/--
If reading fails, and not for a group that is closed without being open, then it fails with a
parenthesis behind the text and levels below too.
-/
theorem run_ne_ok_of_error {fault : Fault} (h : r.run = .error fault)
    (hcause : fault.cause ≠ .groupUnopened) (hextra : extra ≠ [])
    (hr : Beside kind extra [')'] reason r r') (ast : Ast) : r'.run ≠ .ok ast := by
  fun_induction Reading.run r generalizing r' with
  | case1 r hskip =>
      cases houter : r.outer with
      | nil =>
          rw [Reading.finish_of_nil houter] at h
          cases h
      | cons parent outer =>
          -- some group is open, and the parenthesis closes one group only
          have hstacked := hr.stacked
          rw [houter] at hstacked
          cases houter' : r'.outer with
          | nil => exact absurd houter' (hstacked.outer_ne_nil hextra)
          | cons parent' outer' =>
              rw [houter'] at hstacked
              have hbelow : outer' ≠ [] := by
                cases hstacked with
                | inner _ _ hs => exact hs.outer_ne_nil hextra
              have hleft := hr.rest.skip r.level.verbose
              rw [hskip, ← hr.verbose] at hleft
              rcases hleft.nil_parenthesis rfl with hskip' | hskip'
              · rw [Reading.run_nil hskip', Reading.finish_of_cons houter']
                intro h
                cases h
              · rw [Reading.run_cons hskip' (closeGroup_of_cons houter' [])]
                exact Reading.Spent.run_ne_ok (r := ⟨_, outer', _, []⟩) ⟨Nat.le_refl 0, hbelow⟩ ast
  | case2 r c cs hskip fault' hstep =>
      obtain ⟨t, hskip', ht⟩ := hr.rest.skip_cons hskip
      rw [← hr.verbose] at hskip'
      cases h
      rcases (step_keeps hr.toAround c ht).cases with ⟨_, _, hx, -⟩ | ⟨_, hx, hspent⟩
      · rw [hstep] at hx
        cases hx
      · rw [hstep] at hx
        cases hx
        have hspent := hspent.resolve_left hcause rfl hextra
        cases hstep' : step r' c t with
        | error =>
            rw [Reading.run_stop hskip' hstep']
            intro h
            cases h
        | ok r'' =>
            rw [Reading.run_cons hskip' hstep']
            exact hspent r'' hstep' ast
  | case3 r c cs hskip r₁ hstep ih =>
      obtain ⟨r₁', ⟨c', cs', hskip', hstep'⟩, hbeside⟩ :=
        Reading.Next.beside ⟨c, cs, hskip, hstep⟩ hr
      rw [Reading.run_cons hskip' hstep']
      exact ih h hbeside

/-! ## Reading without a limit -/

/-- The reading that a pattern starts with. -/
def Reading.start (pattern : List Char) : Reading :=
  ⟨Level.starting (place pattern) .capture (place pattern) false, [], [], pattern⟩

/-- The tree of a pattern, however deep it is. -/
def Ast.readDeep (pattern : List Char) : Except Fault Ast := (Reading.start pattern).run

/--
A pattern ends in a comment if it can be read with a closing parenthesis behind it and without.
The parenthesis closes nothing, so it can only be a part of the comment.
-/
structure EndsInComment (pattern : List Char) : Prop where
  alone : ∃ ast, Ast.readDeep pattern = .ok ast
  closed : ∃ ast, Ast.readDeep (pattern ++ [')']) = .ok ast

theorem isTail_parenthesis : IsTail [')'] := ⟨⟨')', [], rfl, .inl rfl⟩, by simp⟩

/-- A parenthesis behind a text is no sign of a comment. -/
theorem SignInLastLine.of_parenthesis {s : List Char} (h : SignInLastLine (s ++ [')'])) :
    SignInLastLine s := by
  obtain ⟨front, back, hs, hback⟩ := h
  rcases List.eq_nil_or_concat back with rfl | ⟨back, c, rfl⟩
  · have hlast := congrArg List.getLast? hs
    simp at hlast
  · rw [List.concat_eq_append] at hs hback
    refine ⟨front, back, ?_, fun h => hback (List.mem_append_left _ h)⟩
    have hsame : s ++ [')'] = (front ++ '#' :: back) ++ [c] := by
      rw [hs, List.append_assoc, List.cons_append]
    exact (List.append_inj' hsame rfl).1

/-- A pattern stands beside itself with a tail. -/
theorem start_beside {pattern : List Char} (htail : IsTail tail) :
    Beside .capture [] tail (SignInLastLine (pattern ++ tail)) (Reading.start pattern)
      (Reading.start (pattern ++ tail)) :=
  ⟨⟨.bottom ⟨rfl, rfl, rfl⟩ rfl, rfl⟩, .behind htail id⟩

/-- The pattern that a sticky one is made into. -/
def anchored (pattern : List Char) : List Char := ['\\', 'A', '(', '?', ':'] ++ pattern ++ [')']

/-- The first item of the pattern that a sticky one is made into. -/
def stickyParent (pattern : List Char) : Level :=
  (Reading.start (anchored pattern)).level.push
    (.assertion ⟨(anchored pattern).length, (anchored pattern).length - 2⟩ .startText)

/-- Reading inside of the group that a sticky pattern is put into. -/
def Reading.inside (pattern : List Char) : Reading :=
  ⟨Level.starting ((anchored pattern).length - 2) (.plain []) (place (pattern ++ [')'])) false,
    [stickyParent pattern], [], pattern ++ [')']⟩

theorem steps_inside (pattern : List Char) :
    ReflTransGen Reading.Next (Reading.start (anchored pattern)) (Reading.inside pattern) := by
  let inside := pattern ++ [')']
  let opening := '(' :: '?' :: ':' :: inside
  have hanchored : anchored pattern = '\\' :: 'A' :: opening := by
    simp [anchored, opening, inside]
  have hlength : (anchored pattern).length = opening.length + 2 := by rw [hanchored]; rfl
  -- the assertion, and the opening of the group
  have hfirst : (Reading.start (anchored pattern)).Next
      ⟨stickyParent pattern, [], [], opening⟩ := by
    refine ⟨'\\', 'A' :: opening, hanchored, ?_⟩
    rw [stickyParent, hlength]
    rfl
  have hopen : (⟨stickyParent pattern, [], [], opening⟩ : Reading).Next
      (Reading.inside pattern) := by
    refine ⟨'(', '?' :: ':' :: inside, rfl, (step_plainGroup _ rfl inside).trans ?_⟩
    rw [Reading.inside, hlength]
    rfl
  exact .head hfirst (.single hopen)

theorem inside_beside (pattern : List Char) :
    Beside (.plain []) [stickyParent pattern] [] True (Reading.start (pattern ++ [')']))
      (Reading.inside pattern) :=
  ⟨⟨.bottom ⟨rfl, rfl, rfl⟩ rfl, rfl⟩, .gone trivial⟩

/-- Nothing is taken for a tail. -/
theorem Left.eq_of_nil {s s' : List Char} (h : Left [] reason s s') : s' = s := by
  cases h with
  | behind => exact List.append_nil s
  | gone => rfl

/--
**A pattern that can be read becomes an item behind the start of the text**, unless it ends in a
comment. Then the group around it stays open.
-/
theorem readDeep_anchored {pattern : List Char} {ast : Ast} (h : Ast.readDeep pattern = .ok ast) :
    (EndsInComment pattern ∧ SignInLastLine pattern
        ∧ ∃ span, Ast.readDeep (anchored pattern) = .error ⟨.groupUnclosed, span, none⟩)
      ∨ (¬ EndsInComment pattern ∧ ∃ span first outer body,
          Ast.readDeep (anchored pattern) = .ok (.concat span [.assertion first .startText,
            .group outer (.plain []) body]) ∧ body.bare = ast.bare) := by
  obtain ⟨last, hends, houter, hast⟩ := Reading.ends_of_run h
  -- no group is open at the end, but for the pasted one
  obtain ⟨closed, hclosed, houter, -, halike, hleft⟩ :=
    whole_beside hends.steps houter (start_beside isTail_parenthesis)
  obtain ⟨grouped, hgrouped, houter', hkind, halike', hleft'⟩ :=
    whole_beside hclosed houter (inside_beside pattern)
  have hrun : Ast.readDeep (anchored pattern) = grouped.run :=
    Reading.run_of_steps ((steps_inside pattern).trans hgrouped)
  have hskip := hleft'.eq_of_nil
  rw [hends.nothing_left] at hleft
  rcases hleft.nil with ⟨hnil, hsign⟩ | ⟨c, cs, hcs, htail, -⟩
  · -- the parenthesis belongs to a comment
    rw [hnil] at hskip
    refine .inl ⟨⟨⟨ast, h⟩, closed.level.body 0, ?_⟩, hsign.of_parenthesis, ?_⟩
    · exact (Reading.run_of_steps hclosed).trans
        ((Reading.run_nil hnil).trans (Reading.finish_of_nil houter))
    · exact ⟨_, hrun.trans ((Reading.run_nil hskip).trans (Reading.finish_of_cons houter'))⟩
  · -- the parenthesis closes the pasted group
    rw [htail] at hcs
    rw [htail] at hskip
    refine .inr ⟨?_, ?_⟩
    · rintro ⟨-, ast', hast'⟩
      have hstop : closed.run = .error ⟨.groupUnopened, ⟨1, 0⟩, none⟩ := by
        refine Reading.run_stop htail ?_
        show closed.closeGroup [] = _
        unfold Reading.closeGroup
        rw [houter]
        rfl
      rw [Ast.readDeep, Reading.run_of_steps hclosed, hstop] at hast'
      cases hast'
    · refine ⟨⟨(anchored pattern).length, 0⟩,
        ⟨(anchored pattern).length, (anchored pattern).length - 2⟩, ⟨grouped.level.opening, 0⟩,
        grouped.level.body 1, ?_, ?_⟩
      · rw [hrun, Reading.run_cons hskip (closeGroup_of_cons houter' []),
          Reading.run_nil rfl, hkind]
        rfl
      · rw [halike'.body 0 1, halike.body 0 0, hast]

/-! ## Comments at the end -/

theorem EndsInComment.signInLastLine {pattern : List Char} (h : EndsInComment pattern) :
    SignInLastLine pattern := by
  obtain ⟨ast, hast⟩ := h.alone
  rcases readDeep_anchored hast with ⟨-, hsign, -⟩ | ⟨hnot, -⟩
  · exact hsign
  · exact absurd h hnot

section Comment

variable {pattern comment : List Char} {last : Reading}

/-- A comment behind a pattern that may have white space is of no account. -/
theorem readDeep_comment (hends : (Reading.start pattern).Ends last) (houter : last.outer = [])
    (hverbose : last.level.verbose = true) (hcomment : '\n' ∉ comment) :
    ∃ ast, Ast.readDeep (pattern ++ '#' :: comment) = .ok ast := by
  have htail : IsTail ('#' :: comment) := ⟨⟨'#', comment, rfl, .inr rfl⟩, by simpa using hcomment⟩
  obtain ⟨last', hsteps, houter', -, halike, hleft⟩ :=
    whole_beside hends.steps houter (start_beside htail)
  rw [hends.nothing_left] at hleft
  rcases hleft.nil with ⟨hnil, -⟩ | ⟨c, cs, hcs, hrest, -⟩
  · exact ⟨_, (Reading.run_of_steps hsteps).trans
      ((Reading.run_nil hnil).trans (Reading.finish_of_nil houter'))⟩
  · rw [halike.verbose, hverbose] at hrest
    -- what is left after white space and comments does not start a comment
    exact absurd rfl (dropVerbose_starts hrest).2.2

/-- White space is allowed at the end of a pattern, and then there is a comment. -/
theorem endsInComment_of_verbose (hends : (Reading.start pattern).Ends last)
    (houter : last.outer = []) (hverbose : last.level.verbose = true)
    (hcomment : '\n' ∉ comment) : EndsInComment (pattern ++ '#' :: comment) := by
  refine ⟨readDeep_comment hends houter hverbose hcomment, ?_⟩
  rw [List.append_assoc, List.cons_append]
  exact readDeep_comment hends houter hverbose (by simpa using hcomment)

end Comment

end StyleLookup.Pattern
