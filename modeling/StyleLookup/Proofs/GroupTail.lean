import StyleLookup.Proofs.ClassTail
import StyleLookup.Proofs.PatternReading

/-!
# A text behind a pattern that has groups

Where reading stands is known by what is left and by the levels that are open. Two readings stand
side by side (`Beside`) if their levels are the same but for places, with further levels below
those of the second, and if the second has what the first has left, with a tail or without. A step
keeps them side by side (`step_keeps`). This covers both that a tail is put behind a pattern, and
that a pattern is read inside of a group.

Two steps go apart. A parenthesis that closes nothing is refused where the pattern stands alone,
and closes a level below where there is one. And with a parenthesis behind it a reader may get over
the end of the text; then nothing is left to close the levels below, and reading fails in the end.
-/

namespace StyleLookup.Pattern

open StyleLookup.Text

variable {tail : List Char} {reason : Prop} {s s' : List Char}

/-! ## Levels -/

/-- Levels that are the same but for places, and for what their group is. -/
structure Level.Alike (l l' : Level) : Prop where
  branches : l'.branches.map Ast.bare = l.branches.map Ast.bare
  items : l'.items.map Ast.bare = l.items.map Ast.bare
  verbose : l'.verbose = l.verbose

theorem Ast.inRow_bare (span : Span) (items : List Ast) :
    (Ast.inRow span items).bare = Ast.inRow nowhere (items.map Ast.bare) := by
  rcases items with _ | ⟨item, _ | ⟨item', items⟩⟩
  · rfl
  · rfl
  · show (Ast.concat span (item :: item' :: items)).bare = _
    rw [Ast.bare, Ast.bareAll_eq_map]
    rfl

/-- Whether a node may be repeated. -/
def Ast.isOperand : Ast → Bool
  | .empty _ | .flags _ _ => false
  | _ => true

theorem Ast.isOperand_bare (node : Ast) : node.bare.isOperand = node.isOperand := by
  cases node <;> rfl

theorem Level.popOperand_cons {l : Level} {item : Ast} {items : List Ast}
    (h : l.items = item :: items) (operator : Span) :
    l.popOperand operator
      = if item.isOperand then .ok (item, { l with items := items })
        else fail .repetitionMissing operator := by
  unfold popOperand
  rw [h]
  cases item <;> rfl

namespace Level.Alike

variable {l l' : Level}

theorem push (h : l.Alike l') {item item' : Ast} (hitem : item'.bare = item.bare) :
    (l.push item).Alike (l'.push item') := by
  refine ⟨h.branches, ?_, h.verbose⟩
  show (item' :: l'.items).map _ = (item :: l.items).map _
  rw [List.map_cons, List.map_cons, hitem, h.items]

theorem branch (h : l.Alike l') (stop stop' : Nat) :
    (l'.branch stop').bare = (l.branch stop).bare := by
  rw [Level.branch, Level.branch, Ast.inRow_bare, Ast.inRow_bare, List.map_reverse,
    List.map_reverse, h.items]

theorem nextBranch (h : l.Alike l') (stop stop' : Nat) :
    (l.nextBranch stop).Alike (l'.nextBranch stop') := by
  refine ⟨?_, rfl, h.verbose⟩
  show (l'.branch stop' :: l'.branches).map _ = (l.branch stop :: l.branches).map _
  rw [List.map_cons, List.map_cons, h.branch stop stop', h.branches]

theorem body (h : l.Alike l') (stop stop' : Nat) : (l'.body stop').bare = (l.body stop).bare := by
  have hbranches := h.branches
  unfold Level.body
  cases hold : l.branches with
  | nil =>
      rw [hold, List.map_nil, List.map_eq_nil_iff] at hbranches
      simp only [hbranches]
      exact h.branch _ _
  | cons branch branches =>
      rw [hold] at hbranches
      obtain ⟨branch', branches', hnew, -⟩ := List.map_eq_cons_iff.mp hbranches
      rw [hnew] at hbranches
      simp only [hnew, Ast.bare, Ast.bareAll_eq_map, List.map_append, List.map_reverse, hbranches,
        List.map_cons, List.map_nil, h.branch stop stop']

/-- The last item can be repeated in both or in neither. -/
theorem popOperand (h : l.Alike l') (operator operator' : Span) :
    Pattern.Alike (fun r r' => r'.1.bare = r.1.bare ∧ r.2.Alike r'.2 ∧ r.2.kind = l.kind
        ∧ r'.2.kind = l'.kind)
      (l.popOperand operator) (l'.popOperand operator') := by
  have hitems := h.items
  cases hold : l.items with
  | nil =>
      rw [hold, List.map_nil, List.map_eq_nil_iff] at hitems
      unfold Level.popOperand
      rw [hold, hitems]
      exact .error
  | cons item items =>
      rw [hold] at hitems
      obtain ⟨item', items', hnew, hitem, hrest⟩ := List.map_eq_cons_iff.mp hitems
      have hoperand : item'.isOperand = item.isOperand := by
        rw [← item'.isOperand_bare, hitem, item.isOperand_bare]
      rw [popOperand_cons hold, popOperand_cons hnew, hoperand]
      split
      · exact .ok ⟨hitem, ⟨h.branches, hrest, h.verbose⟩, rfl, rfl⟩
      · exact .error

end Level.Alike

/-! ## Readings side by side -/

/--
Open levels, the innermost apart from the others, and the same levels with `extra` below them. The
lowest of the second may be of another kind than that of the first, which stands for the whole
pattern.
-/
inductive Stacked (kind : GroupKind) (extra : List Level) :
    Level → List Level → Level → List Level → Prop where
  | bottom {l l' : Level} (h : l.Alike l') (hkind : l'.kind = kind) :
      Stacked kind extra l [] l' extra
  | inner {l l' parent parent' : Level} {outer outer' : List Level} (h : l.Alike l')
      (hkind : l'.kind = l.kind) (hs : Stacked kind extra parent outer parent' outer') :
      Stacked kind extra l (parent :: outer) l' (parent' :: outer')

namespace Stacked

variable {kind : GroupKind} {extra : List Level} {l l' m m' : Level} {outer outer' : List Level}

theorem alike (h : Stacked kind extra l outer l' outer') : l.Alike l' := by
  cases h with
  | bottom h _ => exact h
  | inner h _ _ => exact h

/-- The innermost levels may be read on. -/
theorem change (h : Stacked kind extra l outer l' outer') (hm : m.Alike m')
    (hkind : m.kind = l.kind) (hkind' : m'.kind = l'.kind) :
    Stacked kind extra m outer m' outer' := by
  cases h with
  | bottom _ hk => exact .bottom hm (hkind'.trans hk)
  | inner _ hk hs => exact .inner hm (by rw [hkind', hk, hkind]) hs

theorem outer_ne_nil (h : Stacked kind extra l outer l' outer') (hextra : extra ≠ []) :
    outer' ≠ [] := by
  cases h with
  | bottom _ _ => exact hextra
  | inner _ _ _ => exact List.cons_ne_nil _ _

end Stacked

/-- Readings with the same open levels, the second with more below, and the same names. -/
structure Around (kind : GroupKind) (extra : List Level) (r r' : Reading) : Prop where
  stacked : Stacked kind extra r.level r.outer r'.level r'.outer
  names : r'.names.map Prod.fst = r.names.map Prod.fst

/-- Such readings, of which the second has a tail left, or had one. -/
structure Beside (kind : GroupKind) (extra : List Level) (tail : List Char) (reason : Prop)
    (r r' : Reading) : Prop extends Around kind extra r r' where
  rest : Left tail reason r.rest r'.rest

variable {kind : GroupKind} {extra : List Level} {r r' : Reading}

theorem Around.verbose (h : Around kind extra r r') : r'.level.verbose = r.level.verbose :=
  h.stacked.alike.verbose

/-! ## Readings that cannot succeed -/

/-- A group that is open when nothing is left is refused. -/
theorem Reading.finish_of_cons {parent : Level} {outer : List Level}
    (houter : r.outer = parent :: outer) :
    r.finish = fail .groupUnclosed ⟨r.level.opening, r.level.opening - 1⟩ := by
  unfold finish
  rw [houter]

/-- A reading in which nothing is left, and some group is open. -/
structure Reading.Spent (r : Reading) : Prop where
  rest : r.rest.length ≤ 0
  outer : r.outer ≠ []

theorem Reading.Spent.run_ne_ok (h : r.Spent) (ast : Ast) : r.run ≠ .ok ast := by
  have hskip : skip r.level.verbose r.rest = [] := by
    rw [List.length_eq_zero_iff.mp (Nat.le_zero.mp h.rest)]
    cases r.level.verbose <;> rfl
  obtain ⟨parent, outer, houter⟩ := List.exists_cons_of_ne_nil h.outer
  rw [run_nil hskip, finish_of_cons houter]
  intro h
  cases h

/-- A step that fails is the end. -/
theorem Reading.run_stop {c : Char} {cs : List Char} {fault : Fault}
    (h : skip r.level.verbose r.rest = c :: cs) (hs : step r c cs = .error fault) :
    r.run = .error fault := by
  rw [run]
  split
  · rename_i h'
    rw [h] at h'
    cases h'
  · rename_i c' cs' h'
    rw [h] at h'
    cases h'
    split
    · rename_i hs'
      rw [hs] at hs'
      cases hs'
      rfl
    · rename_i hs'
      rw [hs] at hs'
      cases hs'

/--
The outcomes of a step for readings side by side. They stay side by side, or the first closes what
is not open, or it fails. If it fails, then a second reading that has levels below, and a closing
parenthesis behind it, comes to no good end.
-/
inductive Keeps (kind : GroupKind) (extra : List Level) (tail : List Char) (reason : Prop) :
    Except Fault Reading → Except Fault Reading → Prop where
  | ok {r r' : Reading} (h : Beside kind extra tail reason r r') :
      Keeps kind extra tail reason (.ok r) (.ok r')
  | unopened {fault : Fault} {result : Except Fault Reading} (h : fault.cause = .groupUnopened) :
      Keeps kind extra tail reason (.error fault) result
  | failed {fault : Fault} {result : Except Fault Reading}
      (h : tail = [')'] → extra ≠ [] → ∀ r, result = .ok r → ∀ ast, r.run ≠ .ok ast) :
      Keeps kind extra tail reason (.error fault) result

namespace Keeps

theorem refused {fault fault' : Fault} :
    Keeps kind extra tail reason (.error fault) (.error fault') :=
  .failed fun _ _ _ h => by cases h

theorem cases {x x' : Except Fault Reading} (h : Keeps kind extra tail reason x x') :
    (∃ r r', x = .ok r ∧ x' = .ok r' ∧ Beside kind extra tail reason r r')
      ∨ ∃ fault, x = .error fault ∧ (fault.cause = .groupUnopened
          ∨ (tail = [')'] → extra ≠ [] → ∀ r, x' = .ok r → ∀ ast, r.run ≠ .ok ast)) := by
  cases h with
  | ok h => exact .inl ⟨_, _, rfl, rfl, h⟩
  | unopened h => exact .inr ⟨_, rfl, .inl h⟩
  | failed h => exact .inr ⟨_, rfl, .inr h⟩

end Keeps

/-! ## Groups -/

theorem openGroup_beside (h : Around kind extra r r') (opening opening' : Nat) (group : GroupKind)
    {names names' : GroupNames} (hnames : names'.map Prod.fst = names.map Prod.fst)
    (hs : Left tail reason s s') :
    Beside kind extra tail reason (r.openGroup opening group names s)
      (r'.openGroup opening' group names' s') := by
  refine ⟨⟨.inner ⟨rfl, rfl, ?_⟩ rfl h.stacked, hnames⟩, hs⟩
  cases group with
  | capture => exact h.verbose
  | plain settings => exact congrArg (verboseAfter settings) h.verbose

/-- Flags end at a colon or at a closing parenthesis. -/
theorem flagList_ends {f : FlagScan} {settings : FlagSettings} {rest : List Char}
    (h : flagList f s = .ok (settings, rest)) : ∃ c cs, rest = c :: cs ∧ (c = ':' ∨ c = ')') := by
  fun_induction flagList f s with
  | case1 => cases h
  | case2 => cases h
  | case3 f c cs hc => cases h; exact ⟨c, cs, rfl, hc⟩
  | case4 f c cs hc => cases h; exact ⟨c, cs, rfl, hc⟩
  | case5 => cases h
  | case6 f c cs _ f' _ ih => exact ih h

theorem flagGroup_colon {opening : Span} {question cs : List Char} {settings : FlagSettings}
    (hs : flagList ⟨[], none, false⟩ s = .ok (settings, ':' :: cs)) :
    flagGroup r opening question s
      = .ok (r.openGroup opening.start (.plain settings) r.names cs) := by
  unfold flagGroup
  cases s with
  | nil => cases hs
  | cons c s => simp [hs]

theorem flagGroup_parenthesis {opening : Span} {question cs : List Char} {settings : FlagSettings}
    (hs : flagList ⟨[], none, false⟩ s = .ok (settings, ')' :: cs)) :
    flagGroup r opening question s
      = if settings.isEmpty then fail .repetitionMissing (spanAt question)
        else .ok ⟨{ r.level with verbose := verboseAfter settings r.level.verbose }.push
          (.flags ⟨opening.start, place cs⟩ settings), r.outer, r.names, cs⟩ := by
  unfold flagGroup
  cases s with
  | nil => cases hs
  | cons c s => simp [hs]

/-- Without flags that end there is no group of flags. -/
theorem flagGroup_error {opening : Span} {question : List Char} {fault : Fault}
    (hs : flagList ⟨[], none, false⟩ s = .error fault) :
    ∃ fault', flagGroup r opening question s = .error fault' := by
  unfold flagGroup
  cases s with
  | nil => exact ⟨_, rfl⟩
  | cons c s => exact ⟨fault, by simp [hs]⟩

/-- If flags leave their end alone, then nothing is left behind them. -/
theorem flagGroup_spent {opening : Span} {question : List Char} {r'' : Reading}
    (houter : r'.outer ≠ [])
    (hspent : ∀ settings rest, flagList ⟨[], none, false⟩ s = .ok (settings, rest) →
      rest.length ≤ 1)
    (hok : flagGroup r' opening question s = .ok r'') : r''.Spent := by
  cases hx : flagList ⟨[], none, false⟩ s with
  | error fault =>
      obtain ⟨_, hfault⟩ := flagGroup_error hx
      rw [hfault] at hok
      cases hok
  | ok result =>
      obtain ⟨settings, rest⟩ := result
      obtain ⟨c, cs, rfl, hc⟩ := flagList_ends hx
      have hnone : cs.length ≤ 0 := Nat.le_of_succ_le_succ (hspent _ _ hx)
      rcases hc with rfl | rfl
      · rw [flagGroup_colon hx] at hok
        cases hok
        exact ⟨hnone, List.cons_ne_nil _ _⟩
      · rw [flagGroup_parenthesis hx] at hok
        split at hok
        · cases hok
        · cases hok
          exact ⟨hnone, houter⟩

theorem flagGroup_keeps (h : Around kind extra r r') (opening opening' : Span)
    (question question' : List Char) (hs : Left tail reason s s') :
    Keeps kind extra tail reason (flagGroup r opening question s)
      (flagGroup r' opening' question' s') := by
  have hstart : FlagScan.Alike ⟨[], none, false⟩ ⟨[], none, false⟩ := ⟨rfl, rfl, rfl⟩
  rcases (flagList_agrees hstart hs).cases with
    ⟨settings, rest, _, rest', hx, hx', rfl, hrest⟩ | ⟨fault, hx, hspent⟩
  · obtain ⟨c, cs, rfl, hc⟩ := flagList_ends hx
    obtain ⟨t, rfl, ht⟩ := hrest.cons
    rcases hc with rfl | rfl
    · rw [flagGroup_colon hx, flagGroup_colon hx']
      exact .ok (openGroup_beside h _ _ _ h.names ht)
    · rw [flagGroup_parenthesis hx, flagGroup_parenthesis hx']
      split
      · exact .refused
      · refine .ok ⟨⟨h.stacked.change (Level.Alike.push ⟨?_, ?_, ?_⟩ rfl) rfl rfl, h.names⟩, ht⟩
        · exact h.stacked.alike.branches
        · exact h.stacked.alike.items
        · exact congrArg (verboseAfter settings) h.verbose
  · obtain ⟨_, hfault⟩ := flagGroup_error hx
    rw [hfault]
    refine .failed fun htail hextra r'' hok => ?_
    exact (flagGroup_spent (h.stacked.outer_ne_nil hextra) (hspent htail) hok).run_ne_ok

theorem lookAround?_of_ne (hequal : ∀ t, s ≠ ['?', '='] ++ t) (hnot : ∀ t, s ≠ ['?', '!'] ++ t)
    (hbehind : ∀ t, s ≠ ['?', '<', '='] ++ t) (hnotBehind : ∀ t, s ≠ ['?', '<', '!'] ++ t) :
    lookAround? s = none := by
  unfold lookAround?
  split
  · exact absurd rfl (hequal _)
  · exact absurd rfl (hnot _)
  · exact absurd rfl (hbehind _)
  · exact absurd rfl (hnotBehind _)
  · rfl

theorem lookAround?_left (h : Left tail reason s s') : lookAround? s' = lookAround? s := by
  rcases h.word (w := ['?', '=']) (by simp) with ⟨t, t', rfl, rfl, -⟩ | ⟨hequal, hequal'⟩
  · rfl
  rcases h.word (w := ['?', '!']) (by simp) with ⟨t, t', rfl, rfl, -⟩ | ⟨hnot, hnot'⟩
  · rfl
  rcases h.word (w := ['?', '<', '=']) (by simp) with
    ⟨t, t', rfl, rfl, -⟩ | ⟨hbehind, hbehind'⟩
  · rfl
  rcases h.word (w := ['?', '<', '!']) (by simp) with
    ⟨t, t', rfl, rfl, -⟩ | ⟨hnotBehind, hnotBehind'⟩
  · rfl
  rw [lookAround?_of_ne hequal hnot hbehind hnotBehind,
    lookAround?_of_ne hequal' hnot' hbehind' hnotBehind']

theorem namedGroup?_of_ne (hlong : ∀ t, s ≠ ['?', 'P', '<'] ++ t)
    (hshort : ∀ t, s ≠ ['?', '<'] ++ t) : namedGroup? s = none := by
  unfold namedGroup?
  split
  · exact absurd rfl (hlong _)
  · exact absurd rfl (hshort _)
  · rfl

/-- The sign of a named group is the same with a tail. -/
theorem namedGroup?_left (h : Left tail reason s s') :
    (namedGroup? s = none ∧ namedGroup? s' = none)
      ∨ ∃ rest rest', namedGroup? s = some rest ∧ namedGroup? s' = some rest'
        ∧ Left tail reason rest rest' := by
  rcases h.word (w := ['?', 'P', '<']) (by simp) with ⟨t, t', rfl, rfl, ht⟩ | ⟨hlong, hlong'⟩
  · exact .inr ⟨t, t', rfl, rfl, ht⟩
  rcases h.word (w := ['?', '<']) (by simp) with ⟨t, t', rfl, rfl, ht⟩ | ⟨hshort, hshort'⟩
  · exact .inr ⟨t, t', rfl, rfl, ht⟩
  exact .inl ⟨namedGroup?_of_ne hlong hshort, namedGroup?_of_ne hlong' hshort'⟩

theorem group_keeps (h : Around kind extra r r') (hs : Left tail reason s s') :
    Keeps kind extra tail reason (group r s) (group r' s') := by
  have hskip := hs.skip r.level.verbose
  unfold group
  dsimp only
  rw [h.verbose, lookAround?_left hskip]
  split
  · exact .refused
  · rcases namedGroup?_left hskip with ⟨hnone, hnone'⟩ | ⟨cs, cs', hx, hx', hcs⟩
    · simp only [hnone, hnone']
      by_cases hquestion : ∃ cs, skip r.level.verbose s = '?' :: cs
      · obtain ⟨cs, hcs⟩ := hquestion
        rw [hcs] at hskip
        obtain ⟨t, ht, htail⟩ := hskip.cons
        rw [hcs, ht]
        exact flagGroup_keeps h _ _ _ _ htail
      · have hne : ∀ cs, skip r.level.verbose s ≠ '?' :: cs := fun cs hcs => hquestion ⟨cs, hcs⟩
        have hne' := hskip.ne_cons (by decide) (by decide) hne
        split
        · rename_i hcs
          exact absurd hcs (hne _)
        · exact .ok (openGroup_beside h _ _ _ h.names hskip)
    · simp only [hx, hx']
      rcases (groupName_agrees h.names hcs).cases with
        ⟨names, rest, names', rest', hy, hy', hnames, hrest⟩ | ⟨fault, hy, hspent⟩
      · simp only [hy, hy']
        exact .ok (openGroup_beside h _ _ _ hnames hrest)
      · simp only [hy]
        refine .failed fun htail hextra r'' hok => ?_
        split at hok
        · cases hok
        · rename_i names' rest' hy'
          cases hok
          exact Reading.Spent.run_ne_ok ⟨hspent htail _ _ hy', List.cons_ne_nil _ _⟩

theorem closeGroup_keeps (h : Around kind extra r r') (hs : Left tail reason s s') :
    Keeps kind extra tail reason (r.closeGroup s) (r'.closeGroup s') := by
  obtain ⟨level, outer, names, rest⟩ := r
  obtain ⟨level', outer', names', rest'⟩ := r'
  obtain ⟨hstacked, hnames⟩ := h
  cases hstacked with
  | bottom => exact .unopened rfl
  | inner halike hkind hs' =>
      refine .ok ⟨⟨hs'.change (hs'.alike.push ?_) rfl rfl, hnames⟩, hs⟩
      rw [Ast.bare, Ast.bare, hkind, halike.body _ _]

/-! ## Repetitions -/

theorem takeLazy_of_ne (h : ∀ t, s ≠ '?' :: t) : takeLazy s = (false, s) := by
  unfold takeLazy
  split
  · exact absurd rfl (h _)
  · rfl

theorem takeLazy_left (h : Left tail reason s s') :
    (takeLazy s').1 = (takeLazy s).1
      ∧ Left tail reason (takeLazy s).2 (takeLazy s').2 := by
  rcases h.word (w := ['?']) (by simp) with ⟨t, t', rfl, rfl, ht⟩ | ⟨hne, hne'⟩
  · exact ⟨rfl, ht⟩
  · rw [takeLazy_of_ne hne, takeLazy_of_ne hne']
    exact ⟨rfl, h⟩

theorem repeatLast_keeps (h : Around kind extra r r') (min : Nat) (max : Option Nat)
    (hs : Left tail reason s s') :
    Keeps kind extra tail reason (r.repeatLast min max s) (r'.repeatLast min max s') := by
  obtain ⟨hlazy, hrest⟩ := takeLazy_left hs
  unfold Reading.repeatLast
  dsimp only
  rcases (h.stacked.alike.popOperand ⟨place s + 1, place s + 1⟩ ⟨place s' + 1, place s' + 1⟩).cases
    with ⟨⟨item, l⟩, ⟨item', l'⟩, hx, hx', hitem, hl, hkind, hkind'⟩ | ⟨_, _, hx, hx'⟩
  · simp only [hx, hx']
    refine .ok ⟨⟨h.stacked.change (hl.push ?_) hkind hkind', h.names⟩, hrest⟩
    rw [Ast.bare, Ast.bare, hlazy, hitem]
  · simp only [hx, hx']
    exact .refused

/-- Reads on behind the second number of a repetition. -/
def afterHigh (opening : Nat) :
    Except Fault Nat → Except Fault Nat × List Char → Except Fault (Nat × Option Nat × List Char)
  | .error fault, _ => .error fault
  | _, (.error fault, _) => .error fault
  | .ok low, (.ok high, '\x7d' :: rest) => .ok (low, some high, '\x7d' :: rest)
  | _, (_, rest) => fail .repetitionUnclosed ⟨opening, place rest⟩

/-- Reads on behind the comma of a repetition, where white space is passed over. -/
def afterComma (verbose : Bool) (opening : Nat) (low : Except Fault Nat) :
    List Char → Except Fault (Nat × Option Nat × List Char)
  | [] => fail .repetitionUnclosed ⟨opening, place []⟩
  | '\x7d' :: rest => low.map fun low => (low, none, '\x7d' :: rest)
  | s => afterHigh opening low (decimal verbose s)

/-- Reads on behind the first number of a repetition. -/
def afterLow (verbose : Bool) (opening : Nat) :
    Except Fault Nat × List Char → Except Fault (Nat × Option Nat × List Char)
  | (_, []) => fail .repetitionUnclosed ⟨opening, place []⟩
  | (low, ',' :: cs) => afterComma verbose opening low (skip verbose cs)
  | (.error fault, _) => .error fault
  | (.ok low, '\x7d' :: rest) => .ok (low, some low, '\x7d' :: rest)
  | (_, rest) => fail .repetitionUnclosed ⟨opening, place rest⟩

theorem counts_of_nil {verbose : Bool} {opening : Nat} (h : skip verbose s = []) :
    counts verbose opening s = fail .repetitionUnclosed ⟨opening, place []⟩ := by
  unfold counts
  simp only [h]

theorem counts_of_cons {verbose : Bool} {opening : Nat} {c : Char} {cs : List Char}
    (h : skip verbose s = c :: cs) :
    counts verbose opening s = afterLow verbose opening (decimal verbose (c :: cs)) := by
  unfold counts
  simp only [h]
  rfl

theorem afterComma_of_cons {verbose : Bool} {opening : Nat} {low : Except Fault Nat} {c : Char}
    (hc : c ≠ '\x7d') (cs : List Char) :
    afterComma verbose opening low (c :: cs)
      = afterHigh opening low (decimal verbose (c :: cs)) := by
  unfold afterComma
  split
  · contradiction
  · rename_i h
    cases h
    exact absurd rfl hc
  · rfl

/-- No number stands where nothing is left. -/
theorem decimal_nil (verbose : Bool) :
    decimal verbose [] = (fail .repetitionCountEmpty ⟨0, 0⟩, []) := by
  have hrun (test : Char → Bool) : takeRun verbose test [] = ([], []) := by rw [takeRun]
  unfold decimal
  simp only [List.dropWhile_nil, hrun]
  rfl

/-- Counts that are the same, up to the brace that closes them. -/
def SameCounts (tail : List Char) (reason : Prop) (r r' : Nat × Option Nat × List Char) : Prop :=
  r'.1 = r.1 ∧ r'.2.1 = r.2.1 ∧ ∃ rest rest', r.2.2 = '\x7d' :: rest ∧ r'.2.2 = '\x7d' :: rest'
    ∧ Left tail reason rest rest'

theorem afterHigh_of_ne {opening low high : Nat} (h : ∀ t, s ≠ '\x7d' :: t) :
    afterHigh opening (.ok low) (.ok high, s) = fail .repetitionUnclosed ⟨opening, place s⟩ := by
  unfold afterHigh
  split <;> simp_all

theorem afterHigh_alike (opening opening' : Nat) {low low' high high' : Except Fault Nat}
    (hlow : Alike Eq low low') (hhigh : Alike Eq high high') (h : Left tail reason s s') :
    Alike (SameCounts tail reason) (afterHigh opening low (high, s))
      (afterHigh opening' low' (high', s')) := by
  cases hlow with
  | error => exact .error
  | ok hlow =>
      cases hhigh with
      | error => exact .error
      | ok hhigh =>
          subst hlow hhigh
          rcases h.word (w := ['\x7d']) (by simp) with ⟨t, t', rfl, rfl, ht⟩ | ⟨hne, hne'⟩
          · exact .ok ⟨rfl, rfl, t, t', rfl, rfl, ht⟩
          · rw [afterHigh_of_ne hne, afterHigh_of_ne hne']
            exact .error

theorem afterComma_alike (verbose : Bool) (opening opening' : Nat) {low low' : Except Fault Nat}
    (hlow : Alike Eq low low') (h : Left tail reason s s') :
    Alike (SameCounts tail reason) (afterComma verbose opening low s)
      (afterComma verbose opening' low' s') := by
  cases s with
  | nil =>
      -- a tail is no number
      rcases h.nil with ⟨rfl, -⟩ | ⟨c, cs, rfl, -, hc⟩
      · exact .error
      · have hbrace : c ≠ '\x7d' := by rcases hc with rfl | rfl <;> decide
        have hhigh := (decimal_left verbose h).1
        rw [decimal_nil] at hhigh
        rw [afterComma_of_cons hbrace]
        rcases hd : decimal verbose (c :: cs) with ⟨high, rest⟩
        rw [hd] at hhigh
        rcases hhigh.cases with ⟨_, _, hx, -⟩ | ⟨_, _, -, hx⟩ <;> cases hx
        cases hlow <;> exact .error
  | cons c cs =>
      obtain ⟨t, rfl, ht⟩ := h.cons
      by_cases hbrace : c = '\x7d'
      · subst hbrace
        exact hlow.map fun _ _ hn => ⟨hn.symm, rfl, cs, t, rfl, rfl, ht⟩
      · rw [afterComma_of_cons hbrace, afterComma_of_cons hbrace]
        obtain ⟨hhigh, hrest⟩ := decimal_left verbose h
        exact afterHigh_alike opening opening' hlow hhigh hrest

theorem afterLow_alike (verbose : Bool) (opening opening' : Nat) {low low' : Except Fault Nat}
    (hlow : Alike Eq low low') (h : Left tail reason s s') :
    Alike (SameCounts tail reason) (afterLow verbose opening (low, s))
      (afterLow verbose opening' (low', s')) := by
  cases s with
  | nil =>
      rcases h.nil with ⟨rfl, -⟩ | ⟨c, cs, rfl, -, rfl | rfl⟩ <;> cases hlow <;> exact .error
  | cons c cs =>
      obtain ⟨t, rfl, ht⟩ := h.cons
      by_cases hcomma : c = ','
      · subst hcomma
        exact afterComma_alike verbose opening opening' hlow (ht.skip verbose)
      · by_cases hbrace : c = '\x7d'
        · subst hbrace
          cases hlow with
          | ok hn =>
              subst hn
              exact .ok ⟨rfl, rfl, cs, t, rfl, rfl, ht⟩
          | error => exact .error
        · cases hlow with
          | ok hn => simpa [afterLow, hcomma, hbrace, fail] using Alike.error
          | error => simpa [afterLow, hcomma, hbrace, fail] using Alike.error

theorem counts_alike (verbose : Bool) (opening opening' : Nat) (h : Left tail reason s s') :
    Alike (SameCounts tail reason) (counts verbose opening s) (counts verbose opening' s') := by
  have hskip := h.skip verbose
  rcases hs : skip verbose s with _ | ⟨c, cs⟩
  · rw [hs] at hskip
    have hnil : afterLow verbose opening (decimal verbose [])
        = fail .repetitionUnclosed ⟨opening, place []⟩ := by
      rw [decimal_nil]
      rfl
    rw [counts_of_nil hs, ← hnil]
    obtain ⟨hlow, hrest⟩ := decimal_left verbose hskip
    rcases hs' : skip verbose s' with _ | ⟨c, cs⟩
    · rw [counts_of_nil hs', hnil]
      exact .error
    · rw [hs'] at hlow hrest
      rw [counts_of_cons hs']
      exact afterLow_alike verbose opening opening' hlow hrest
  · rw [hs] at hskip
    obtain ⟨t, hs', -⟩ := hskip.cons
    rw [hs'] at hskip
    rw [counts_of_cons hs, counts_of_cons hs']
    obtain ⟨hlow, hrest⟩ := decimal_left verbose hskip
    exact afterLow_alike verbose opening opening' hlow hrest

theorem counted_keeps (h : Around kind extra r r') (hs : Left tail reason s s') :
    Keeps kind extra tail reason (r.counted s) (r'.counted s') := by
  unfold Reading.counted
  dsimp only
  rw [h.verbose]
  rcases (h.stacked.alike.popOperand ⟨place s + 1, place s + 1⟩ ⟨place s' + 1, place s' + 1⟩).cases
    with ⟨⟨item, l⟩, ⟨item', l'⟩, hx, hx', hitem, hl, hkind, hkind'⟩ | ⟨_, _, hx, hx'⟩
  · simp only [hx, hx']
    rcases (counts_alike r.level.verbose (place s + 1) (place s' + 1) hs).cases with
      ⟨⟨low, high, _⟩, ⟨_, _, _⟩, hy, hy', rfl, rfl, rest, rest', rfl, rfl, hrest⟩ | ⟨_, _, hy, hy'⟩
    · obtain ⟨hlazy, hleft⟩ := takeLazy_left (hrest.skip r.level.verbose)
      simp only [hy, hy', List.drop_succ_cons, List.drop_zero]
      split
      · exact .refused
      · refine .ok ⟨⟨h.stacked.change (hl.push ?_) hkind hkind', h.names⟩, hleft⟩
        rw [Ast.bare, Ast.bare, hlazy, hitem]
    · simp only [hy, hy']
      exact .refused
  · simp only [hx, hx']
    exact .refused

/-! ## Steps -/

theorem primitive_agrees {verbose : Bool} {c : Char} (h : Left tail reason s s')
    (hs : ¬ (c = '\\' ∧ OpensNothing verbose s)) :
    Agrees tail reason 0 (fun p p' => p'.bare = p.bare) (primitive verbose c s)
      (primitive verbose c s') := by
  unfold primitive
  dsimp only
  split
  · exact escape_agrees h fun hopens => hs ⟨rfl, hopens⟩
  · exact .ok rfl h
  · exact .ok rfl h
  · exact .ok rfl h
  · exact .ok rfl h

theorem take_keeps (h : Around kind extra r r') {x x' : Except Fault (Ast × List Char)}
    (hx : Agrees tail reason 0 (fun node node' => node'.bare = node.bare) x x') :
    Keeps kind extra tail reason (r.take x) (r'.take x') := by
  cases hx with
  | ok hnode hrest =>
      exact .ok ⟨⟨h.stacked.change (h.stacked.alike.push hnode) rfl rfl, h.names⟩, hrest⟩
  | failed hspent =>
      refine .failed fun htail hextra r'' hok => ?_
      cases x' with
      | error => cases hok
      | ok result =>
          cases hok
          exact Reading.Spent.run_ne_ok ⟨hspent htail _ _ rfl, h.stacked.outer_ne_nil hextra⟩

/-- Characters that something of its own begins with. -/
def starters : List Char := ['(', ')', '|', '[', '?', '*', '+', '\x7b']

theorem step_of_primitive {c : Char} (hc : c ∉ starters) (cs : List Char) :
    step r c cs
      = r.take ((primitive r.level.verbose c cs).map fun (p, rest) => (p.toAst, rest)) := by
  simp only [starters, List.mem_cons, List.not_mem_nil, or_false, not_or] at hc
  unfold step
  split <;> simp_all

/-- A parenthesis is no number. -/
theorem decimal_parenthesis (verbose : Bool) :
    decimal verbose [')'] = (fail .repetitionCountEmpty ⟨1, 1⟩, [')']) := by
  have hrun (test : Char → Bool) (htest : ¬ test ')' = true) :
      takeRun verbose test [')'] = ([], [')']) := by
    rw [takeRun, if_neg htest]
  have hdigits := hrun isDecimalDigit (by decide)
  have hblanks := hrun isBlank (by decide)
  have hdrop : [')'].dropWhile isBlank = [')'] := rfl
  unfold decimal
  simp only [hdrop, hdigits, hblanks]
  rfl

/-- A repetition whose count is a parenthesis is refused. -/
theorem counted_parenthesis {verbose : Bool} (hverbose : r.level.verbose = verbose)
    (hs : skip verbose s = [')']) : ∃ fault, r.counted s = .error fault := by
  unfold Reading.counted
  dsimp only
  cases r.level.popOperand ⟨place s + 1, place s + 1⟩ with
  | error fault => exact ⟨fault, rfl⟩
  | ok result =>
      rw [hverbose, counts_of_cons hs, decimal_parenthesis]
      exact ⟨_, rfl⟩

/-- A brace that opens nothing comes to no good end. -/
theorem step_opensNothing (hs : Left [')'] reason s s')
    (hopens : OpensNothing r.level.verbose s) (hok : step r '\\' s' = .ok r') (ast : Ast) :
    r'.run ≠ .ok ast := by
  have hstep : step r '\\' s'
      = r.take ((escape r.level.verbose s').map fun (p, rest) => (p.toAst, rest)) := rfl
  rw [hstep] at hok
  cases hescape : escape r.level.verbose s' with
  | error fault =>
      rw [hescape] at hok
      cases hok
  | ok result =>
      obtain ⟨p, rest⟩ := result
      obtain ⟨-, cs, rfl, hcs⟩ := escape_opensNothing hs hopens hescape
      rw [hescape] at hok
      cases hok
      let next : Reading := ⟨r.level.push p.toAst, r.outer, r.names, '\x7b' :: cs⟩
      obtain ⟨fault, hfault⟩ := counted_parenthesis (r := next) rfl hcs
      have hskip : skip next.level.verbose next.rest = '\x7b' :: cs :=
        skip_of_shown rfl (by decide) cs
      have hrun : next.run = .error fault := Reading.run_stop hskip hfault
      show next.run ≠ _
      rw [hrun]
      intro h
      cases h

/-- **A step keeps readings side by side.** -/
theorem step_keeps (h : Around kind extra r r') (c : Char) (hs : Left tail reason s s') :
    Keeps kind extra tail reason (step r c s) (step r' c s') := by
  by_cases hc : c ∈ starters
  · simp only [starters, List.mem_cons, List.not_mem_nil, or_false] at hc
    rcases hc with rfl | rfl | rfl | rfl | rfl | rfl | rfl | rfl
    · exact group_keeps h hs
    · exact closeGroup_keeps h hs
    · exact .ok ⟨⟨h.stacked.change (h.stacked.alike.nextBranch _ _) rfl rfl, h.names⟩, hs⟩
    · refine take_keeps h ?_
      rw [h.verbose]
      exact bracketedClass_agrees _ hs
    · exact repeatLast_keeps h _ _ hs
    · exact repeatLast_keeps h _ _ hs
    · exact repeatLast_keeps h _ _ hs
    · exact counted_keeps h hs
  · by_cases hopens : c = '\\' ∧ OpensNothing r.level.verbose s
    · obtain ⟨rfl, hopens⟩ := hopens
      obtain ⟨fault, hfault⟩ := escape_of_opensNothing hopens
      have hstep : step r '\\' s = .error fault := by
        show r.take ((escape r.level.verbose s).map _) = _
        rw [hfault]
        rfl
      rw [hstep]
      refine .failed fun htail _ r'' hok => ?_
      subst htail
      rw [← h.verbose] at hopens
      exact step_opensNothing hs hopens hok
    · rw [step_of_primitive hc, step_of_primitive hc, h.verbose]
      refine take_keeps h ((primitive_agrees hs hopens).map fun p p' hp => ?_)
      rw [← p'.toAst_bare, hp, p.toAst_bare]

end StyleLookup.Pattern
