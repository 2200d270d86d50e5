import StyleLookup.Proofs.AnchoredPattern
import StyleLookup.Proofs.LiteralPattern

/-!
# Sticky patterns

The sticky flag puts a pattern, as text, behind the start of the text to be tested. That it anchors
the pattern and does nothing else is what one expects, and it is not so: the parenthesis that closes
the pasted group may belong to a comment of the pattern, and the pattern may close that group
itself. A pattern with a comment at its end is accepted alone and refused as a sticky one; one that
closes a group without opening it is refused alone, and as a sticky one it may be accepted and found
anywhere.

Here it is proved that these are the only ways (`compile_with_sticky`). Limits on how deep a pattern
is and how large what it stands for are set aside (`OfLimit`): a sticky pattern is a little deeper
and a little larger.
-/

namespace StyleLookup.Matcher.Flags

open Pattern

variable {f : Flags} {pattern : List Char} {ast : Ast}

/-! ## Compiling -/

/-- A pattern is refused for how deep it is, or for how large what it stands for is. -/
inductive OfLimit : Refusal → Prop where
  | tooDeep (span : Span) : OfLimit (.faulty ⟨.nestedTooDeep, span, Option.none⟩)
  | tooLarge : OfLimit .tooLarge

theorem compile_of_unread [Platform] {fault : Fault}
    (h : Ast.readDeep (f.source pattern) = .error fault) :
    f.compile pattern = .error (.faulty fault) := by
  have hread : Ast.read (f.source pattern) = .error fault := by
    rw [Ast.readDeep, Reading.start] at h
    rw [Ast.read]
    simp only [h]
  simp only [Flags.compile, Pattern.compile, expressionOf, hread]

/-- A pattern that was read is refused for a limit, or else it has its meaning. -/
theorem compile_of_read [Platform] (h : Ast.readDeep (f.source pattern) = .ok ast) :
    (∃ refusal, OfLimit refusal ∧ f.compile pattern = .error refusal)
      ∨ (∃ fault, f.modes.meaning ast = .error fault
          ∧ f.compile pattern = .error (.faulty fault))
      ∨ ∃ meant, f.modes.meaning ast = .ok meant ∧ f.compile pattern = .ok meant.1.regex := by
  rw [Ast.readDeep, Reading.start] at h
  cases hdeep : ast.tooDeep? 0 with
  | some span =>
      have hread : Ast.read (f.source pattern) = fail .nestedTooDeep span := by
        rw [Ast.read]
        simp only [h, hdeep]
      refine .inl ⟨_, .tooDeep span, ?_⟩
      simp only [Flags.compile, Pattern.compile, expressionOf, hread, fail]
  | none =>
      have hread := read_of_run h hdeep
      cases hmeaning : f.modes.meaning ast with
      | error fault =>
          refine .inr (.inl ⟨fault, rfl, ?_⟩)
          simp only [Flags.compile, Pattern.compile, expressionOf, hread, hmeaning, Except.map]
      | ok meant =>
          cases hlarge : meant.1.isTooLarge with
          | true =>
              refine .inl ⟨_, .tooLarge, ?_⟩
              simp only [Flags.compile, Pattern.compile, expressionOf, hread, hmeaning, Except.map,
                hlarge, if_true]
          | false =>
              refine .inr (.inr ⟨meant, rfl, ?_⟩)
              simp only [Flags.compile, Pattern.compile, expressionOf, hread, hmeaning, Except.map,
                hlarge, Bool.false_eq_true, if_false]

/-- A pattern that is accepted was read and has a meaning. -/
theorem meaning_of_compile [Platform] {e : Regex Atom} (he : f.compile pattern = .ok e) :
    ∃ ast meant, Ast.readDeep (f.source pattern) = .ok ast ∧ f.modes.meaning ast = .ok meant
      ∧ meant.1.regex = e := by
  cases hread : Ast.readDeep (f.source pattern) with
  | error fault => cases he.symm.trans (compile_of_unread hread)
  | ok ast =>
      rcases compile_of_read hread with ⟨_, -, hx⟩ | ⟨_, -, hx⟩ | ⟨meant, hmeaning, hx⟩
      · cases he.symm.trans hx
      · cases he.symm.trans hx
      · exact ⟨ast, meant, rfl, hmeaning, Except.ok.inj (hx.symm.trans he)⟩

/-- A faulty pattern was not read, or has a part without meaning, or is too deep. -/
theorem fault_of_compile [Platform] {fault : Fault}
    (hfault : f.compile pattern = .error (.faulty fault)) (hdeep : fault.cause ≠ .nestedTooDeep) :
    Ast.readDeep (f.source pattern) = .error fault
      ∨ ∃ ast, Ast.readDeep (f.source pattern) = .ok ast
        ∧ f.modes.meaning ast = .error fault := by
  cases hread : Ast.readDeep (f.source pattern) with
  | error fault' =>
      cases hfault.symm.trans (compile_of_unread hread)
      exact .inl rfl
  | ok ast =>
      rcases compile_of_read hread with ⟨_, hlimit, hx⟩ | ⟨_, hmeaning, hx⟩ | ⟨_, -, hx⟩
      · cases hfault.symm.trans hx
        cases hlimit
        exact absurd rfl hdeep
      · cases hfault.symm.trans hx
        exact .inr ⟨ast, rfl, hmeaning⟩
      · cases hfault.symm.trans hx

/-- What succeeds has a result. -/
theorem exists_of_toBool {α β : Type} {x : Except α β} (h : x.toBool = true) :
    ∃ b, x = .ok b := by
  cases x with
  | error => cases h
  | ok b => exact ⟨b, rfl⟩

/-! ## Sticky patterns -/

/-- An item behind the start of the text means what it means alone. -/
theorem meaning_anchored (m : Modes) (span first outer : Span) (body : Ast) :
    m.meaning (.concat span [.assertion first .startText, .group outer (.plain []) body])
      = (m.meaning body).map fun meant => (.row [.look .textStart, meant.1], m) := by
  have hfirst : m.meaning (.assertion first .startText) = .ok (.look .textStart, m) := rfl
  have hgroup : m.meaning (.group outer (.plain []) body)
      = (m.meaning body).map fun meant => (meant.1, m) := by
    rw [Modes.meaning]
    rfl
  rw [Modes.meaning, Modes.meanings, hfirst]
  dsimp only
  rw [Modes.meanings, hgroup]
  cases m.meaning body <;> rfl

/-- An item behind the start of the text is found if it matches from there. -/
theorem foundIn_anchored (e : Expression) (text : List Char) :
    (Expression.row [.look .textStart, e]).regex.foundIn text = true
      ↔ ∃ j, Matches text e.regex 0 j := by
  have hrow (i j : Nat) : Matches text (Expression.row [.look .textStart, e]).regex i j
      ↔ i = 0 ∧ Matches text e.regex 0 j := by
    rw [Expression.regex, regexes_eq_map, List.map_cons, List.map_cons, List.map_nil,
      matches_inRow_cons_iff]
    simp only [Regex.inRow, Expression.regex, matches_textStart_iff]
    constructor
    · rintro ⟨_, ⟨rfl, rfl⟩, h⟩
      exact ⟨rfl, h⟩
    · rintro ⟨rfl, h⟩
      exact ⟨0, ⟨rfl, rfl⟩, h⟩
  simp only [Regex.foundIn_iff, hrow]
  constructor
  · rintro ⟨_, j, -, -, h⟩
    exact ⟨j, h⟩
  · rintro ⟨j, h⟩
    exact ⟨0, j, Nat.zero_le _, rfl, h⟩

/--
What becomes of a pattern that can be read, when it is made sticky. It is refused for its comment,
or for a limit, or for a part without meaning; or what it stands for is looked for from the start.
-/
theorem compile_sticky_of_read [Platform] (h : Ast.readDeep pattern = .ok ast) :
    (EndsInComment pattern ∧ ∃ span,
        (f.set 'y').compile pattern = .error (.faulty ⟨.groupUnclosed, span, Option.none⟩))
      ∨ ¬ EndsInComment pattern ∧
        ((∃ refusal, OfLimit refusal ∧ (f.set 'y').compile pattern = .error refusal)
          ∨ (∃ fault fault', f.modes.meaning ast = .error fault
              ∧ (f.set 'y').compile pattern = .error (.faulty fault'))
          ∨ ∃ meant, f.modes.meaning ast = .ok meant
              ∧ (f.set 'y').compile pattern
                = .ok (Expression.row [.look .textStart, meant.1]).regex) := by
  rcases readDeep_anchored h with ⟨hends, -, span, hread⟩ | ⟨hends, _, _, _, body, hread, hbare⟩
  · exact .inl ⟨hends, span, compile_of_unread (f := f.set 'y') hread⟩
  · refine .inr ⟨hends, ?_⟩
    have hmodes : (f.set 'y').modes = f.modes := rfl
    have halike := meaning_alike f.modes hbare
    rcases compile_of_read (f := f.set 'y') hread with
      hlimit | ⟨fault', hmeaning, hcompile⟩ | ⟨meant', hmeaning, hcompile⟩
    · exact .inl hlimit
    · rw [hmodes, meaning_anchored] at hmeaning
      rcases halike.cases with ⟨_, _, hbody, -⟩ | ⟨_, fault, -, hast⟩
      · rw [hbody] at hmeaning
        cases hmeaning
      · exact .inr (.inl ⟨fault, fault', hast, hcompile⟩)
    · rw [hmodes, meaning_anchored] at hmeaning
      rcases halike.cases with ⟨_, meant, hbody, hast, rfl⟩ | ⟨_, _, hbody, -⟩
      · rw [hbody] at hmeaning
        cases hmeaning
        exact .inr (.inr ⟨_, hast, hcompile⟩)
      · rw [hbody] at hmeaning
        cases hmeaning

/-- A pattern that cannot be read alone cannot be read in a group, with one exception. -/
theorem compile_sticky_of_unread [Platform] {fault : Fault}
    (h : Ast.readDeep pattern = .error fault) (hcause : fault.cause ≠ .groupUnopened) :
    ∃ fault', (f.set 'y').compile pattern = .error (.faulty fault') := by
  have hbeside : Beside (.plain []) [stickyParent pattern] [')']
      (SignInLastLine (pattern ++ [')'])) (Reading.start pattern) (Reading.inside pattern) :=
    ⟨⟨.bottom ⟨rfl, rfl, rfl⟩ rfl, rfl⟩, .behind isTail_parenthesis id⟩
  have hrun : Ast.readDeep (anchored pattern) = (Reading.inside pattern).run :=
    Reading.run_of_steps (steps_inside pattern)
  cases hread : Ast.readDeep (anchored pattern) with
  | error fault' => exact ⟨fault', compile_of_unread (f := f.set 'y') hread⟩
  | ok ast =>
      rw [hrun] at hread
      exact absurd hread (run_ne_ok_of_error h hcause (List.cons_ne_nil _ _) hbeside ast)

section Alone

variable [Platform] (halone : f.source pattern = pattern)

include halone

/-- A pattern that is accepted alone is accepted as a sticky one unless it ends in a comment. -/
theorem compile_sticky_of_compile {e : Regex Atom} (he : f.compile pattern = .ok e) :
    (EndsInComment pattern → SignInLastLine pattern ∧ ∃ span,
        (f.set 'y').compile pattern = .error (.faulty ⟨.groupUnclosed, span, Option.none⟩))
      ∧ (¬ EndsInComment pattern → (∃ e', (f.set 'y').compile pattern = .ok e')
        ∨ ∃ refusal, OfLimit refusal ∧ (f.set 'y').compile pattern = .error refusal) := by
  obtain ⟨ast, meant, hread, hmeaning, -⟩ := meaning_of_compile he
  rw [halone] at hread
  rcases compile_sticky_of_read (f := f) hread with ⟨hends, hrefused⟩ | ⟨hends, hcases⟩
  · exact ⟨fun _ => ⟨hends.signInLastLine, hrefused⟩, fun h => absurd hends h⟩
  · refine ⟨fun h => absurd h hends, fun _ => ?_⟩
    rcases hcases with hlimit | ⟨_, _, hx, -⟩ | ⟨_, -, hcompile⟩
    · exact .inr hlimit
    · cases hmeaning.symm.trans hx
    · exact .inl ⟨_, hcompile⟩

/-- A pattern that is refused alone is refused as a sticky one, with one exception. -/
theorem compile_sticky_of_faulty {fault : Fault}
    (hfault : f.compile pattern = .error (.faulty fault)) (hdeep : fault.cause ≠ .nestedTooDeep)
    (hcause : fault.cause ≠ .groupUnopened) :
    ∃ refusal, (f.set 'y').compile pattern = .error refusal := by
  rcases fault_of_compile hfault hdeep with hread | ⟨ast, hread, hmeaning⟩
  · rw [halone] at hread
    obtain ⟨fault', hrefused⟩ := compile_sticky_of_unread (f := f) hread hcause
    exact ⟨_, hrefused⟩
  · rw [halone] at hread
    rcases compile_sticky_of_read (f := f) hread with ⟨-, _, hrefused⟩ |
      ⟨-, ⟨_, -, hrefused⟩ | ⟨_, _, -, hrefused⟩ | ⟨_, hx, -⟩⟩
    · exact ⟨_, hrefused⟩
    · exact ⟨_, hrefused⟩
    · exact ⟨_, hrefused⟩
    · cases hmeaning.symm.trans hx

/-- What is found of a sticky pattern is what has a match alone at the start of a text. -/
theorem foundIn_sticky_iff {e e' : Regex Atom} (he : f.compile pattern = .ok e)
    (he' : (f.set 'y').compile pattern = .ok e') (text : List Char) :
    e'.foundIn text = true ↔ ∃ j, Matches text e 0 j := by
  obtain ⟨ast, meant, hread, hmeaning, rfl⟩ := meaning_of_compile he
  rw [halone] at hread
  rcases compile_sticky_of_read (f := f) hread with ⟨-, _, hx⟩ |
    ⟨-, ⟨_, -, hx⟩ | ⟨_, _, -, hx⟩ | ⟨meant', hmeaning', hcompile⟩⟩
  · cases he'.symm.trans hx
  · cases he'.symm.trans hx
  · cases he'.symm.trans hx
  · cases hmeaning.symm.trans hmeaning'
    cases he'.symm.trans hcompile
    exact foundIn_anchored _ _

end Alone

/--
**What a sticky pattern does.** Let the letter of the sticky flag be put into a text of flags that
is read and does not have it. Then the longer text is read too. Of any pattern,

* one that is accepted alone is accepted as a sticky one, or beyond a limit, unless it ends in a
  comment, which has its sign in the last line, and then it is refused for a group that is not
  closed;
* one that is refused alone is refused as a sticky one, unless it closes a group that it did not
  open;
* if it is accepted in both ways then the sticky one is found in those texts in which it has a match
  alone that starts where the text starts.
-/
theorem compile_with_sticky [Platform] {front back : List Char}
    (hread : read (front ++ back) = .ok f) (hsticky : 'y' ∉ front ++ back) (pattern : List Char) :
    ∃ g, read (front ++ 'y' :: back) = .ok g
      ∧ (∀ e, f.compile pattern = .ok e →
          (EndsInComment pattern → SignInLastLine pattern
            ∧ ∃ span, g.compile pattern = .error (.faulty ⟨.groupUnclosed, span, Option.none⟩))
          ∧ (¬ EndsInComment pattern → (∃ e', g.compile pattern = .ok e')
            ∨ ∃ refusal, OfLimit refusal ∧ g.compile pattern = .error refusal))
      ∧ (∀ fault, f.compile pattern = .error (.faulty fault) → fault.cause ≠ .nestedTooDeep →
          fault.cause ≠ .groupUnopened → ∃ refusal, g.compile pattern = .error refusal)
      ∧ ∀ e e', f.compile pattern = .ok e → g.compile pattern = .ok e' →
          ∀ text, e'.foundIn text = true ↔ ∃ j, Matches text e 0 j := by
  rw [List.mem_append, not_or] at hsticky
  have halone : f.sticky = false := by
    have := has_of_read hread 'y'
    rw [show f.has 'y' = f.sticky from rfl] at this
    rw [this, List.contains_eq_mem, decide_eq_false_iff_not, List.mem_append, not_or]
    exact hsticky
  have hsource : f.source pattern = pattern := by
    rw [source, halone, if_neg Bool.false_ne_true]
  refine ⟨f.set 'y', ?_, fun e he => compile_sticky_of_compile hsource he,
    fun fault hfault hdeep hcause => compile_sticky_of_faulty hsource hfault hdeep hcause,
    fun e e' he he' => foundIn_sticky_iff hsource he he'⟩
  rw [read_with 'y' (by decide) hsticky.1 hsticky.2, hread]
  rfl

/-- The flag stands between two others, and the pattern is accepted in both ways. -/
theorem compile_with_sticky_between :
    ∃ f g e e', read ['g', 'm'] = .ok f ∧ 'y' ∉ ['g'] ++ ['m'] ∧ read ['g', 'y', 'm'] = .ok g
      ∧ f.compile ['b', '|', '^', 'a', '$'] = .ok e ∧ g.compile ['b', '|', '^', 'a', '$'] = .ok e'
      ∧ ¬ EndsInComment ['b', '|', '^', 'a', '$']
      ∧ ∀ text, e'.foundIn text = true ↔ ∃ j, Matches text e 0 j := by
  have hread : read (['g'] ++ ['m']) = .ok ⟨true, false, true, false, false, false, false⟩ := rfl
  have haccepted : ((⟨true, false, true, false, false, false, false⟩ : Flags).compile
      ['b', '|', '^', 'a', '$']).toBool = true := by decide +kernel
  have hsticky : ((⟨true, false, true, false, false, true, false⟩ : Flags).compile
      ['b', '|', '^', 'a', '$']).toBool = true := by decide +kernel
  obtain ⟨e, he⟩ := exists_of_toBool haccepted
  obtain ⟨e', he'⟩ := exists_of_toBool hsticky
  obtain ⟨g, hg, haccept, -, hfound⟩ :=
    compile_with_sticky hread (by decide) ['b', '|', '^', 'a', '$']
  cases hg
  refine ⟨_, _, e, e', hread, by decide, rfl, he, he', fun hends => ?_, hfound e e' he he'⟩
  obtain ⟨-, span, hrefused⟩ := (haccept e he).1 hends
  cases he'.symm.trans hrefused

/--
The flag does more than to anchor. A pattern that ends in a comment is accepted, and refused as a
sticky one. A pattern that closes a group and opens one is refused, and accepted as a sticky one,
which is found behind the start of a text.
-/
theorem sticky_changes_acceptance :
    (∃ f g e span, read [] = .ok f ∧ read ['y'] = .ok g
      ∧ f.compile ['(', '?', 'x', ')', 'a', ' ', '#', 'c'] = .ok e
      ∧ g.compile ['(', '?', 'x', ')', 'a', ' ', '#', 'c']
        = .error (.faulty ⟨.groupUnclosed, span, Option.none⟩))
    ∧ ∃ f g span e', read [] = .ok f ∧ read ['y'] = .ok g
      ∧ f.compile ['a', ')', '|', '(', '?', ':', 'b']
        = .error (.faulty ⟨.groupUnopened, span, Option.none⟩)
      ∧ g.compile ['a', ')', '|', '(', '?', ':', 'b'] = .ok e'
      ∧ e'.foundIn ['x', 'b'] = true := by
  let alone : Flags := ⟨false, false, false, false, false, false, false⟩
  let sticky : Flags := ⟨false, false, false, false, false, true, false⟩
  constructor
  · let pattern := ['(', '?', 'x', ')', 'a', ' ', '#', 'c']
    have haccepted : (alone.compile pattern).toBool = true := by decide +kernel
    obtain ⟨e, he⟩ := exists_of_toBool haccepted
    have hread : Ast.readDeep (sticky.source pattern)
        = .error ⟨.groupUnclosed, ⟨12, 11⟩, Option.none⟩ :=
      -- the anchor, the group around the pattern, its flag, its character
      (Reading.run_cons rfl rfl).trans ((Reading.run_cons rfl rfl).trans
        ((Reading.run_cons rfl rfl).trans ((Reading.run_cons rfl rfl).trans (Reading.run_nil rfl))))
    exact ⟨alone, sticky, e, _, rfl, rfl, he, compile_of_unread hread⟩
  · let pattern := ['a', ')', '|', '(', '?', ':', 'b']
    have hread : Ast.readDeep (alone.source pattern)
        = .error ⟨.groupUnopened, ⟨6, 5⟩, Option.none⟩ :=
      (Reading.run_cons rfl rfl).trans (Reading.run_stop rfl rfl)
    have hfound : ((sticky.compile pattern).toOption.map (·.foundIn ['x', 'b'])) = some true := by
      decide +kernel
    cases he : sticky.compile pattern with
    | error => rw [he] at hfound; cases hfound
    | ok e =>
        rw [he] at hfound
        exact ⟨alone, sticky, _, e, rfl, rfl, compile_of_unread hread, he, Option.some.inj hfound⟩

end StyleLookup.Matcher.Flags
