import StyleLookup.Proofs.GroupTail

/-!
# An item in front of a pattern

The first item of a pattern stands at the bottom of the level of the whole pattern, and stays there
until a bar ends the first branch; then it is the first item of that branch. Reading looks at the
bottom of a level only when an operator asks what it repeats. If what stands there is no operand,
the operator is refused as it is where nothing stands, so reading goes on the same way with such an
item and without it, and faults are the same. Their places are too, as places are counted from the
end of the pattern.

The readings are compared by `Reading.Headed`. A step keeps it (`step_headed`), and at the end the
two patterns differ by the item in front of the first branch (`run_headed`).
-/

namespace StyleLookup.Pattern

/-- Both succeed with results that belong together, or both fail with the same fault. -/
inductive Same {α β : Type} (Q : α → β → Prop) : Except Fault α → Except Fault β → Prop where
  | ok {a : α} {b : β} (h : Q a b) : Same Q (.ok a) (.ok b)
  | error {f : Fault} : Same Q (.error f) (.error f)

namespace Same

variable {α β γ δ : Type} {Q : α → β → Prop} {R : γ → δ → Prop} {x : Except Fault α}
  {y : Except Fault β}

theorem cases (h : Same Q x y) :
    (∃ a b, x = .ok a ∧ y = .ok b ∧ Q a b) ∨ ∃ f, x = .error f ∧ y = .error f := by
  cases h with
  | ok h => exact .inl ⟨_, _, rfl, rfl, h⟩
  | error => exact .inr ⟨_, rfl, rfl⟩

theorem map (h : Same Q x y) {f : α → γ} {g : β → δ} (hfg : ∀ a b, Q a b → R (f a) (g b)) :
    Same R (x.map f) (y.map g) := by
  cases h with
  | ok h => exact .ok (hfg _ _ h)
  | error => exact .error

end Same

/-! ## Levels -/

/-- A row of items, and the same row with an item in front. -/
def Ast.Heads (item node node' : Ast) : Prop :=
  ∃ span span' items, node = Ast.inRow span items ∧ node' = Ast.inRow span' (item :: items)

/-- A pattern, and the same pattern with an item in front of its first branch. -/
inductive Ast.Leads (item : Ast) : Ast → Ast → Prop where
  | row {node node' : Ast} (h : item.Heads node node') : Leads item node node'
  | choice {branch branch' : Ast} {branches : List Ast} {span span' : Span}
      (h : item.Heads branch branch') :
      Leads item (.alternation span (branch :: branches)) (.alternation span' (branch' :: branches))

/-- A level, and the same level with an item in front of all that is read in it. -/
inductive Level.Headed (item : Ast) (l l' : Level) : Prop where
  /-- The first branch is being read. -/
  | first (hverbose : l'.verbose = l.verbose) (hbranches : l.branches = [])
      (hbranches' : l'.branches = []) (hitems : l'.items = l.items ++ [item])
  /-- The first branch is complete. -/
  | later {branch branch' : Ast} {branches : List Ast} (hverbose : l'.verbose = l.verbose)
      (hheads : item.Heads branch branch') (hbranches : l.branches = branches ++ [branch])
      (hbranches' : l'.branches = branches ++ [branch']) (hitems : l'.items = l.items)
      (hstart : l'.start = l.start)

namespace Level.Headed

variable {item : Ast} {l l' : Level}

theorem verbose (h : l.Headed item l') : l'.verbose = l.verbose := by
  cases h with
  | first hverbose _ _ _ => exact hverbose
  | later hverbose _ _ _ _ _ => exact hverbose

theorem push (h : l.Headed item l') (node : Ast) : (l.push node).Headed item (l'.push node) := by
  cases h with
  | first hverbose hbranches hbranches' hitems =>
      exact .first hverbose hbranches hbranches' (congrArg (node :: ·) hitems)
  | later hverbose hheads hbranches hbranches' hitems hstart =>
      exact .later hverbose hheads hbranches hbranches' (congrArg (node :: ·) hitems) hstart

theorem setVerbose (h : l.Headed item l') (verbose : Bool) :
    Level.Headed item { l with verbose := verbose } { l' with verbose := verbose } := by
  cases h with
  | first _ hbranches hbranches' hitems => exact .first rfl hbranches hbranches' hitems
  | later _ hheads hbranches hbranches' hitems hstart =>
      exact .later rfl hheads hbranches hbranches' hitems hstart

theorem branch_eq (hitems : l'.items = l.items) (hstart : l'.start = l.start) (stop : Nat) :
    l'.branch stop = l.branch stop := by
  rw [Level.branch, Level.branch, hitems, hstart]

/-- The branch being read has the item in front if it is the first. -/
theorem heads_branch (hitems : l'.items = l.items ++ [item]) (stop : Nat) :
    item.Heads (l.branch stop) (l'.branch stop) := by
  refine ⟨⟨l.start, stop⟩, ⟨l'.start, stop⟩, l.items.reverse, rfl, ?_⟩
  rw [Level.branch, hitems, List.reverse_append]
  rfl

theorem nextBranch (h : l.Headed item l') (stop : Nat) :
    (l.nextBranch stop).Headed item (l'.nextBranch stop) := by
  cases h with
  | first hverbose hbranches hbranches' hitems =>
      have hnew : (l.nextBranch stop).branches = [] ++ [l.branch stop] :=
        congrArg (l.branch stop :: ·) hbranches
      have hnew' : (l'.nextBranch stop).branches = [] ++ [l'.branch stop] :=
        congrArg (l'.branch stop :: ·) hbranches'
      exact .later hverbose (heads_branch hitems stop) hnew hnew' rfl rfl
  | @later branch branch' branches hverbose hheads hbranches hbranches' hitems hstart =>
      have hnew : (l.nextBranch stop).branches = (l.branch stop :: branches) ++ [branch] :=
        congrArg (l.branch stop :: ·) hbranches
      have hnew' : (l'.nextBranch stop).branches = (l.branch stop :: branches) ++ [branch'] := by
        show l'.branch stop :: l'.branches = _
        rw [branch_eq hitems hstart, hbranches']
        rfl
      exact .later hverbose hheads hnew hnew' rfl rfl

theorem body (h : l.Headed item l') (stop : Nat) :
    item.Leads (l.body stop) (l'.body stop) := by
  cases h with
  | first _ hbranches hbranches' hitems =>
      unfold Level.body
      rw [hbranches, hbranches']
      exact .row (heads_branch hitems stop)
  | @later branch branch' branches _ hheads hbranches hbranches' hitems hstart =>
      have hbody {l : Level} {last : Ast} (hl : l.branches = branches ++ [last]) :
          l.body stop = .alternation ⟨l.firstStart, stop⟩
            (last :: (branches.reverse ++ [l.branch stop])) := by
        have hreverse : l.branches.reverse = last :: branches.reverse := by
          rw [hl, List.reverse_append]
          rfl
        unfold Level.body
        cases hcases : l.branches with
        | nil =>
            rw [hcases] at hreverse
            cases hreverse
        | cons b bs =>
            rw [hcases] at hreverse
            show Ast.alternation _ ((b :: bs).reverse ++ _) = _
            rw [hreverse]
            rfl
      rw [hbody hbranches, hbody hbranches', branch_eq hitems hstart]
      exact .choice hheads

/-- What an operator repeats is the same, or there is nothing to repeat. -/
theorem popOperand (h : l.Headed item l') (hitem : item.isOperand = false) (operator : Span) :
    Same (fun r r' => r'.1 = r.1 ∧ r.2.Headed item r'.2) (l.popOperand operator)
      (l'.popOperand operator) := by
  cases h with
  | first hverbose hbranches hbranches' hitems =>
      cases hold : l.items with
      | nil =>
          rw [hold, List.nil_append] at hitems
          rw [popOperand_cons hitems, hitem, if_neg Bool.false_ne_true]
          unfold Level.popOperand
          rw [hold]
          exact .error
      | cons node items =>
          rw [hold, List.cons_append] at hitems
          rw [popOperand_cons hold, popOperand_cons hitems]
          split
          · exact .ok ⟨rfl, .first hverbose hbranches hbranches' rfl⟩
          · exact .error
  | later hverbose hheads hbranches hbranches' hitems hstart =>
      cases hold : l.items with
      | nil =>
          rw [hold] at hitems
          unfold Level.popOperand
          rw [hold, hitems]
          exact .error
      | cons node items =>
          rw [hold] at hitems
          rw [popOperand_cons hold, popOperand_cons hitems]
          split
          · exact .ok ⟨rfl, .later hverbose hheads hbranches hbranches' rfl hstart⟩
          · exact .error

end Level.Headed

/-! ## Readings -/

/-- Open levels that are the same, but for an item in front of all that is read in the lowest. -/
inductive Founded (item : Ast) : Level → List Level → Level → List Level → Prop where
  | bottom {l l' : Level} (h : l.Headed item l') : Founded item l [] l' []
  | inner {l parent parent' : Level} {outer outer' : List Level}
      (h : Founded item parent outer parent' outer') :
      Founded item l (parent :: outer) l (parent' :: outer')

namespace Founded

variable {item : Ast} {l l' : Level} {outer outer' : List Level}

theorem verbose (h : Founded item l outer l' outer') : l'.verbose = l.verbose := by
  cases h with
  | bottom h => exact h.verbose
  | inner _ => rfl

theorem push (h : Founded item l outer l' outer') (node : Ast) :
    Founded item (l.push node) outer (l'.push node) outer' := by
  cases h with
  | bottom h => exact .bottom (h.push node)
  | inner h => exact .inner h

theorem setVerbose (h : Founded item l outer l' outer') (verbose : Bool) :
    Founded item { l with verbose := verbose } outer { l' with verbose := verbose } outer' := by
  cases h with
  | bottom h => exact .bottom (h.setVerbose verbose)
  | inner h => exact .inner h

theorem nextBranch (h : Founded item l outer l' outer') (stop : Nat) :
    Founded item (l.nextBranch stop) outer (l'.nextBranch stop) outer' := by
  cases h with
  | bottom h => exact .bottom (h.nextBranch stop)
  | inner h => exact .inner h

theorem popOperand (h : Founded item l outer l' outer') (hitem : item.isOperand = false)
    (operator : Span) :
    Same (fun r r' => r'.1 = r.1 ∧ Founded item r.2 outer r'.2 outer') (l.popOperand operator)
      (l'.popOperand operator) := by
  cases h with
  | bottom h =>
      rcases (h.popOperand hitem operator).cases with ⟨r, r', hx, hx', hnode, hl⟩ | ⟨f, hx, hx'⟩
      · rw [hx, hx']
        exact .ok ⟨hnode, .bottom hl⟩
      · rw [hx, hx']
        exact .error
  | inner h =>
      cases l.popOperand operator with
      | ok r => exact .ok ⟨rfl, .inner h⟩
      | error f => exact .error

end Founded

/-- Readings of one text, the second of which has an item in front of all that was read. -/
structure Reading.Headed (item : Ast) (r r' : Reading) : Prop where
  levels : Founded item r.level r.outer r'.level r'.outer
  names : r'.names = r.names
  rest : r'.rest = r.rest

section Steps

variable {item : Ast} {r r' : Reading}

theorem openGroup_headed (h : r.Headed item r') (opening : Nat) (kind : GroupKind)
    (names : GroupNames) (rest : List Char) :
    (r.openGroup opening kind names rest).Headed item (r'.openGroup opening kind names rest) := by
  refine ⟨?_, rfl, rfl⟩
  unfold Reading.openGroup
  rw [h.levels.verbose]
  exact .inner h.levels

theorem flagGroup_headed (h : r.Headed item r') (opening : Span) (question s : List Char) :
    Same (Reading.Headed item) (flagGroup r opening question s)
      (flagGroup r' opening question s) := by
  cases hs : flagList ⟨[], none, false⟩ s with
  | error fault =>
      cases s with
      | nil => exact .error
      | cons c s =>
          unfold flagGroup
          rw [hs]
          exact .error
  | ok result =>
      obtain ⟨settings, rest⟩ := result
      obtain ⟨c, cs, rfl, hc⟩ := flagList_ends hs
      rcases hc with rfl | rfl
      · rw [flagGroup_colon hs, flagGroup_colon hs, h.names]
        exact .ok (openGroup_headed h _ _ _ _)
      · rw [flagGroup_parenthesis hs, flagGroup_parenthesis hs, h.levels.verbose]
        split
        · exact .error
        · exact .ok ⟨(h.levels.setVerbose _).push _, h.names, rfl⟩

theorem group_headed (h : r.Headed item r') (s : List Char) :
    Same (Reading.Headed item) (group r s) (group r' s) := by
  unfold group
  dsimp only
  rw [h.levels.verbose, h.names]
  generalize skip r.level.verbose s = t
  split
  · exact .error
  · split
    · split
      · exact .error
      · exact .ok (openGroup_headed h _ _ _ _)
    · split
      · exact flagGroup_headed h _ _ _
      · exact .ok (openGroup_headed h _ _ _ _)

theorem closeGroup_headed (h : r.Headed item r') (rest : List Char) :
    Same (Reading.Headed item) (r.closeGroup rest) (r'.closeGroup rest) := by
  obtain ⟨level, outer, names, _⟩ := r
  obtain ⟨level', outer', names', _⟩ := r'
  obtain ⟨hlevels, hnames, -⟩ := h
  cases hlevels with
  | bottom _ => exact .error
  | inner hlevels => exact .ok ⟨hlevels.push _, hnames, rfl⟩

theorem repeatLast_headed (h : r.Headed item r') (hitem : item.isOperand = false) (min : Nat)
    (max : Option Nat) (rest : List Char) :
    Same (Reading.Headed item) (r.repeatLast min max rest) (r'.repeatLast min max rest) := by
  unfold Reading.repeatLast
  dsimp only
  rcases (h.levels.popOperand hitem ⟨place rest + 1, place rest + 1⟩).cases with
    ⟨⟨node, l⟩, ⟨_, l'⟩, hx, hx', rfl, hl⟩ | ⟨f, hx, hx'⟩
  · simp only [hx, hx']
    exact .ok ⟨hl.push _, h.names, rfl⟩
  · simp only [hx, hx']
    exact .error

theorem counted_headed (h : r.Headed item r') (hitem : item.isOperand = false) (s : List Char) :
    Same (Reading.Headed item) (r.counted s) (r'.counted s) := by
  unfold Reading.counted
  dsimp only
  rw [h.levels.verbose]
  rcases (h.levels.popOperand hitem ⟨place s + 1, place s + 1⟩).cases with
    ⟨⟨node, l⟩, ⟨_, l'⟩, hx, hx', rfl, hl⟩ | ⟨f, hx, hx'⟩
  · simp only [hx, hx']
    split
    · exact .error
    · split
      · exact .error
      · exact .ok ⟨hl.push _, h.names, rfl⟩
  · simp only [hx, hx']
    exact .error

theorem take_headed (h : r.Headed item r') (result : Except Fault (Ast × List Char)) :
    Same (Reading.Headed item) (r.take result) (r'.take result) := by
  cases result with
  | error fault => exact .error
  | ok found => exact .ok ⟨h.levels.push _, h.names, rfl⟩

/-- **A step is the same with an item in front that no operator can repeat.** -/
theorem step_headed (h : r.Headed item r') (hitem : item.isOperand = false) (c : Char)
    (cs : List Char) : Same (Reading.Headed item) (step r c cs) (step r' c cs) := by
  by_cases hc : c ∈ starters
  · simp only [starters, List.mem_cons, List.not_mem_nil, or_false] at hc
    rcases hc with rfl | rfl | rfl | rfl | rfl | rfl | rfl | rfl
    · exact group_headed h cs
    · exact closeGroup_headed h cs
    · exact .ok ⟨h.levels.nextBranch _, h.names, rfl⟩
    · show Same _ (r.take (bracketedClass r.level.verbose cs))
        (r'.take (bracketedClass r'.level.verbose cs))
      rw [h.levels.verbose]
      exact take_headed h _
    · exact repeatLast_headed h hitem _ _ cs
    · exact repeatLast_headed h hitem _ _ cs
    · exact repeatLast_headed h hitem _ _ cs
    · exact counted_headed h hitem cs
  · rw [step_of_primitive hc, step_of_primitive hc, h.levels.verbose]
    exact take_headed h _

/-- **So is a whole run**: it fails with the same fault, or the item leads what is read. -/
theorem run_headed (h : r.Headed item r') (hitem : item.isOperand = false) :
    Same item.Leads r.run r'.run := by
  fun_induction Reading.run r generalizing r' with
  | case1 r hskip =>
      have hskip' : skip r'.level.verbose r'.rest = [] := by rw [h.levels.verbose, h.rest, hskip]
      rw [Reading.run_nil hskip']
      obtain ⟨level, outer, names, _⟩ := r
      obtain ⟨level', outer', names', _⟩ := r'
      obtain ⟨hlevels, -, -⟩ := h
      cases hlevels with
      | bottom hlevel => exact .ok (hlevel.body 0)
      | inner _ => exact .error
  | case2 r c cs hskip fault hstep =>
      have hskip' : skip r'.level.verbose r'.rest = c :: cs := by
        rw [h.levels.verbose, h.rest, hskip]
      rcases (step_headed h hitem c cs).cases with ⟨_, _, hx, -⟩ | ⟨_, hx, hx'⟩
      · cases hstep.symm.trans hx
      · cases hstep.symm.trans hx
        rw [Reading.run_stop hskip' hx']
        exact .error
  | case3 r c cs hskip r₁ hstep ih =>
      have hskip' : skip r'.level.verbose r'.rest = c :: cs := by
        rw [h.levels.verbose, h.rest, hskip]
      rcases (step_headed h hitem c cs).cases with ⟨_, r₁', hx, hx', hheaded⟩ | ⟨_, hx, -⟩
      · cases hstep.symm.trans hx
        rw [Reading.run_cons hskip' hx']
        exact ih hheaded
      · cases hstep.symm.trans hx

end Steps

end StyleLookup.Pattern
