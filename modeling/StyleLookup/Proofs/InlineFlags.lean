import StyleLookup.Proofs.HeadedPattern
import StyleLookup.Proofs.StickyPattern

/-!
# Flags in front of a pattern

A pattern may set flags itself, in parentheses at its start, and flags may be given apart from it.
For the flags that bear on what a pattern matches both ways come to the same (`compile_inlined`),
and not only because the same modes are set in the end: with flags in front, the pattern is read
behind an item that it does not have otherwise, and that item stands in the first of its branches
only.

Reading is the same behind such an item, as no operator can repeat it (`run_headed`). What is read
means the same, as flags match nothing of their own and are handed on, from branch to branch as
well (`meaning_leads`). Limits on how deep a pattern is and how large what it stands for are set
aside: flags in front make a row of what was a single item.
-/

namespace StyleLookup.Pattern

/-! ## Meaning the same -/

/-- A match ends where it starts or behind. -/
theorem Matches.le {text : List Char} {e : Regex Atom} {i j : Nat} (h : Matches text e i j) :
    i ≤ j := by
  induction h with
  | empty _ | done _ => exact Nat.le_refl _
  | leaf h =>
      cases h with
      | take _ _ => exact Nat.le_succ _
      | stay _ _ => exact Nat.le_refl _
  | seq _ _ iha ihb => exact Nat.le_trans iha ihb
  | left _ ih | right _ ih => exact ih
  | must _ _ ih ihs | again _ _ ih ihs | upTo _ _ ih ihs => exact Nat.le_trans ih ihs

/-- Expressions that match the same stretches of every text. -/
def Regex.Equivalent (e e' : Regex Atom) : Prop :=
  ∀ text i j, Matches text e i j ↔ Matches text e' i j

theorem Regex.Equivalent.foundIn_eq {e e' : Regex Atom} (h : e.Equivalent e') (text : List Char) :
    e.foundIn text = e'.foundIn text := by
  rw [Bool.eq_iff_iff, Regex.foundIn_iff, Regex.foundIn_iff]
  simp only [h text]

/-- What takes nothing may stand in front. -/
theorem Regex.inRow_empty (es : List (Regex Atom)) :
    (Regex.inRow es).Equivalent (Regex.inRow (.empty :: es)) := by
  intro text i j
  rw [matches_inRow_cons_iff]
  constructor
  · intro h
    exact ⟨i, .empty (Nat.le_trans h.le h.le_length), h⟩
  · rintro ⟨_, hempty, h⟩
    cases hempty
    exact h

theorem Regex.choice_congr {e e' : Regex Atom} (h : e.Equivalent e') (es : List (Regex Atom)) :
    (Regex.choice (e :: es)).Equivalent (Regex.choice (e' :: es)) := by
  cases es with
  | nil => exact h
  | cons next es =>
      intro text i j
      constructor
      · intro hmatches
        cases hmatches with
        | left hfirst => exact .left ((h text i j).mp hfirst)
        | right hrest => exact .right hrest
      · intro hmatches
        cases hmatches with
        | left hfirst => exact .left ((h text i j).mpr hfirst)
        | right hrest => exact .right hrest

/-- Expressions that match the same, with the same modes behind them. -/
structure AsMeant (r r' : Expression × Modes) : Prop where
  equivalent : r.1.regex.Equivalent r'.1.regex
  modes : r'.2 = r.2

/-- A row means its items, one after another. -/
theorem meaning_inRow (m : Modes) (span : Span) (items : List Ast) :
    Same (fun r rs => r.1.regex = Regex.inRow (Expression.regexes rs.1) ∧ rs.2 = r.2)
      (m.meaning (Ast.inRow span items)) (m.meanings items) := by
  rcases items with _ | ⟨item, _ | ⟨next, items⟩⟩
  · exact .ok ⟨rfl, rfl⟩
  · show Same _ (m.meaning item) _
    rw [Modes.meanings]
    cases m.meaning item with
    | error => exact .error
    | ok r => exact .ok ⟨rfl, rfl⟩
  · show Same _ (m.meaning (.concat span (item :: next :: items))) _
    rw [Modes.meaning]
    cases m.meanings (item :: next :: items) with
    | error => exact .error
    | ok rs => exact .ok ⟨rfl, rfl⟩

variable {m : Modes} {span : Span} {settings : FlagSettings} {node node' : Ast}

/-- A row with flags in front means what it means alone where the flags are set. -/
theorem meaning_heads (h : (Ast.flags span settings).Heads node node') :
    Same AsMeant ((m.apply settings).meaning node) (m.meaning node') := by
  obtain ⟨s, s', items, rfl, rfl⟩ := h
  have hflags : m.meanings (.flags span settings :: items)
      = ((m.apply settings).meanings items).map fun rs => (.empty :: rs.1, rs.2) := by
    have hfirst : m.meaning (.flags span settings) = .ok (.empty, m.apply settings) := rfl
    rw [Modes.meanings, hfirst]
  have hrow' := meaning_inRow m s' (.flags span settings :: items)
  rw [hflags] at hrow'
  rcases (meaning_inRow (m.apply settings) s items).cases with
    ⟨r, rs, hr, hrs, hregex, hmodes⟩ | ⟨fault, hr, hrs⟩
  · rw [hrs] at hrow'
    rcases hrow'.cases with ⟨r', _, hr', hx, hregex', hmodes'⟩ | ⟨_, -, hx⟩
    · cases hx
      rw [hr, hr']
      refine .ok ⟨?_, hmodes'.symm.trans hmodes⟩
      rw [hregex, hregex']
      exact Regex.inRow_empty _
    · cases hx
  · rw [hrs] at hrow'
    rcases hrow'.cases with ⟨_, _, -, hx, -⟩ | ⟨_, hr', hx⟩
    · cases hx
    · cases hx
      rw [hr, hr']
      exact .error

/-- **A pattern with flags in front means what it means alone where the flags are set.** -/
theorem meaning_leads (h : (Ast.flags span settings).Leads node node') :
    Same AsMeant ((m.apply settings).meaning node) (m.meaning node') := by
  cases h with
  | row h => exact meaning_heads h
  | @choice branch branch' branches s s' h =>
      -- the first branches leave the same modes, and the others are the same
      rw [Modes.meaning, Modes.meaning, Modes.meanings, Modes.meanings]
      rcases (meaning_heads (m := m) h).cases with ⟨r, r', hr, hr', hsame⟩ | ⟨fault, hr, hr'⟩
      · rw [hr, hr']
        dsimp only
        rw [hsame.modes]
        cases r.2.meanings branches with
        | error => exact .error
        | ok rs => exact .ok ⟨Regex.choice_congr hsame.equivalent _, rfl⟩
      · rw [hr, hr']
        exact .error

/-! ## Reading flags -/

/-- Flags that are turned on by letters, in their order. -/
def turnedOn (letters : List Char) : FlagSettings := (letters.filterMap flagOf?).map (·, true)

theorem turnedOn_cons {c : Char} {flag : Flag} (h : flagOf? c = some flag) (letters : List Char) :
    turnedOn (c :: letters) = (flag, true) :: turnedOn letters := by
  rw [turnedOn, List.filterMap_cons_some h, List.map_cons, turnedOn]

theorem flagOf?_injective {c d : Char} {flag : Flag} (hc : flagOf? c = some flag)
    (hd : flagOf? d = some flag) : c = d := by
  unfold flagOf? at hc hd
  split at hc <;> cases hc <;> split at hd <;> first | rfl | cases hd

/-- Letters of flags, none twice and none read before, are read up to the closing parenthesis. -/
theorem flagList_letters {letters : List Char} (hnodup : letters.Nodup)
    (hletters : ∀ c ∈ letters, ∃ flag, flagOf? c = some flag)
    {seen : List (Flag × Bool × Span)} (hseen : ∀ c ∈ letters, ∀ s ∈ seen, flagOf? c ≠ some s.1)
    (rest : List Char) :
    flagList ⟨seen, none, false⟩ (letters ++ ')' :: rest)
      = .ok (FlagScan.settings ⟨seen, none, false⟩ ++ turnedOn letters, ')' :: rest) := by
  induction letters generalizing seen with
  | nil =>
      rw [List.nil_append, flagList, if_pos (.inr rfl)]
      show Except.ok (_, _) = Except.ok (_ ++ [], _)
      rw [List.append_nil]
  | cons c letters ih =>
      rw [List.nodup_cons] at hnodup
      rw [List.forall_mem_cons] at hletters hseen
      obtain ⟨flag, hflag⟩ := hletters.1
      have hends : ¬ (c = ':' ∨ c = ')') := by
        rintro (rfl | rfl) <;> cases hflag
      have hminus : c ≠ '-' := by
        rintro rfl
        cases hflag
      have hnew : seen.find? (fun s => s.1 == flag) = none := by
        rw [List.find?_eq_none]
        intro s hs hsame
        exact hseen.1 s hs (by rw [hflag, beq_iff_eq.mp hsame])
      have htake (span : Span) : FlagScan.take ⟨seen, none, false⟩ c span
          = .ok ⟨(flag, true, span) :: seen, none, false⟩ := by
        unfold FlagScan.take
        rw [if_neg hminus, hflag]
        dsimp only
        rw [hnew]
        rfl
      rw [List.cons_append, flagList, if_neg hends, htake]
      dsimp only
      rw [ih hnodup.2 hletters.2, turnedOn_cons hflag]
      · simp [FlagScan.settings]
      · intro d hd s hs
        rcases List.mem_cons.mp hs with rfl | hs
        · intro hsame
          exact hnodup.1 (flagOf?_injective hflag hsame ▸ hd)
        · exact hseen.2 d hd s hs

/-- The letters of the flags that bear on what a pattern matches. -/
def modeLetters : List Char := ['i', 'm', 's']

/-- A pattern with flags in front, if there are any. -/
def inlined (letters pattern : List Char) : List Char :=
  if letters.isEmpty then pattern else '(' :: '?' :: (letters ++ ')' :: pattern)

section Letters

variable {letters : List Char} (hletters : ∀ c ∈ letters, c ∈ modeLetters)

include hletters

theorem exists_flagOf {c : Char} (hc : c ∈ letters) :
    ∃ flag, flagOf? c = some flag ∧ flag ≠ .verbose := by
  have hmode := hletters c hc
  simp only [modeLetters, List.mem_cons, List.not_mem_nil, or_false] at hmode
  rcases hmode with rfl | rfl | rfl
  · exact ⟨_, rfl, by decide⟩
  · exact ⟨_, rfl, by decide⟩
  · exact ⟨_, rfl, by decide⟩

/-- They leave white space alone. -/
theorem verboseAfter_turnedOn (verbose : Bool) :
    verboseAfter (turnedOn letters) verbose = verbose := by
  have hnone : (turnedOn letters).find? (fun s => s.1 == .verbose) = none := by
    rw [List.find?_eq_none]
    intro s hs hverbose
    obtain ⟨flag, hflag, rfl⟩ := List.mem_map.mp hs
    obtain ⟨c, hc, hsome⟩ := List.mem_filterMap.mp hflag
    obtain ⟨flag', hflag', hne⟩ := exists_flagOf hletters hc
    rw [hsome] at hflag'
    cases hflag'
    exact hne (beq_iff_eq.mp hverbose)
  unfold verboseAfter
  rw [hnone]

/-- What they do to the modes does not depend on their order. -/
theorem apply_turnedOn (m : Modes) :
    m.apply (turnedOn letters)
      = { m with ignoreCase := m.ignoreCase || letters.contains 'i'
                 multiLine := m.multiLine || letters.contains 'm'
                 dotAll := m.dotAll || letters.contains 's' } := by
  induction letters generalizing m with
  | nil => simp [turnedOn, Modes.apply]
  | cons c letters ih =>
      rw [List.forall_mem_cons] at hletters
      obtain ⟨hmode, hletters⟩ := hletters
      simp only [modeLetters, List.mem_cons, List.not_mem_nil, or_false] at hmode
      have happly {flag : Flag} (hflag : flagOf? c = some flag) :
          m.apply (turnedOn (c :: letters)) = (m.set (flag, true)).apply (turnedOn letters) := by
        rw [turnedOn_cons hflag]
        rfl
      rcases hmode with rfl | rfl | rfl
      · rw [happly rfl, ih hletters]
        simp [Modes.set]
      · rw [happly rfl, ih hletters]
        simp [Modes.set]
      · rw [happly rfl, ih hletters]
        simp [Modes.set]

/-- **A pattern with flags in front is read like the pattern alone**, up to the item in front. -/
theorem readDeep_inlined (hnodup : letters.Nodup) (hne : letters ≠ []) (pattern : List Char) :
    ∃ span, Same (Ast.flags span (turnedOn letters)).Leads (Ast.readDeep pattern)
      (Ast.readDeep (inlined letters pattern)) := by
  obtain ⟨c, cs, rfl⟩ := List.exists_cons_of_ne_nil hne
  let question := '?' :: (c :: cs ++ ')' :: pattern)
  let opening : Span := ⟨place question + 1, place question⟩
  let item := Ast.flags ⟨opening.start, place pattern⟩ (turnedOn (c :: cs))
  have hinlined : inlined (c :: cs) pattern = '(' :: question := rfl
  have hlist : flagList ⟨[], none, false⟩ (c :: cs ++ ')' :: pattern)
      = .ok (turnedOn (c :: cs), ')' :: pattern) :=
    flagList_letters hnodup (fun d hd => (exists_flagOf hletters hd).imp fun _ h => h.1)
      (fun _ _ _ hs => absurd hs List.not_mem_nil) pattern
  -- no look-around and no name starts with such a letter
  have hmode := hletters c List.mem_cons_self
  simp only [modeLetters, List.mem_cons, List.not_mem_nil, or_false] at hmode
  let start := Reading.start (inlined (c :: cs) pattern)
  have hgroup : step start '(' question
      = flagGroup start opening question (c :: cs ++ ')' :: pattern) := by
    rcases hmode with rfl | rfl | rfl <;> rfl
  have hsome : (turnedOn (c :: cs)).isEmpty = false := by
    obtain ⟨flag, hflag, -⟩ := exists_flagOf hletters (c := c) List.mem_cons_self
    rw [turnedOn_cons hflag]
    rfl
  have hstep : step start '(' question
      = .ok ⟨{ start.level with verbose := false }.push item, [], [], pattern⟩ := by
    rw [hgroup, flagGroup_parenthesis hlist, hsome, verboseAfter_turnedOn hletters]
    rfl
  refine ⟨⟨opening.start, place pattern⟩, ?_⟩
  have hrun : Ast.readDeep (inlined (c :: cs) pattern) = Reading.run _ :=
    Reading.run_cons (r := start) hinlined hstep
  rw [hrun]
  exact run_headed ⟨.bottom (.first rfl rfl rfl rfl), rfl, rfl⟩ rfl

end Letters

end StyleLookup.Pattern

namespace StyleLookup.Matcher.Flags

open Pattern

/-! ## Compiling -/

variable {f : Flags} {pattern : List Char}

/-- What is compiled where no limit is set on how deep a pattern is and how large. -/
def meant (f : Flags) (pattern : List Char) : Except Fault (Regex Atom) :=
  match Ast.readDeep (f.source pattern) with
  | .error fault => .error fault
  | .ok ast => (f.modes.meaning ast).map fun r => r.1.regex

/-- **Compiling does what it would do without limits, unless one is reached.** -/
theorem compile_or_limit [Platform] (f : Flags) (pattern : List Char) :
    (∃ refusal, OfLimit refusal ∧ f.compile pattern = .error refusal)
      ∨ f.compile pattern = (f.meant pattern).mapError .faulty := by
  cases hread : Ast.readDeep (f.source pattern) with
  | error fault =>
      have hmeant : f.meant pattern = .error fault := by rw [meant, hread]
      rw [hmeant]
      exact .inr (compile_of_unread hread)
  | ok ast =>
      have hmeant : f.meant pattern = (f.modes.meaning ast).map fun r => r.1.regex := by
        rw [meant, hread]
      rw [hmeant]
      rcases compile_of_read hread with hlimit | ⟨fault, hx, hcompile⟩ | ⟨r, hx, hcompile⟩
      · exact .inl hlimit
      · rw [hx]
        exact .inr hcompile
      · rw [hx]
        exact .inr hcompile

/-- What is accepted is accepted without limits. -/
theorem meant_of_compile [Platform] {e : Regex Atom} (h : f.compile pattern = .ok e) :
    f.meant pattern = .ok e := by
  rcases compile_or_limit f pattern with ⟨_, -, hx⟩ | hx
  · cases h.symm.trans hx
  · rw [h] at hx
    cases hmeant : f.meant pattern with
    | error fault =>
        rw [hmeant] at hx
        cases hx
    | ok e' =>
        rw [hmeant] at hx
        exact (congrArg _ (Except.ok.inj hx)).symm

/-- What is accepted without limits is accepted, or beyond one. -/
theorem compile_of_meant [Platform] {e : Regex Atom} (h : f.meant pattern = .ok e) :
    f.compile pattern = .ok e
      ∨ ∃ refusal, OfLimit refusal ∧ f.compile pattern = .error refusal := by
  rcases compile_or_limit f pattern with hlimit | hx
  · exact .inr hlimit
  · rw [h] at hx
    exact .inl hx

/--
What is accepted in the first way is accepted in the second, and found in the same texts. But the
second may reach a limit.
-/
def Matched (x y : Except Refusal (Regex Atom)) : Prop :=
  ∀ e, x = .ok e →
    (∃ e', y = .ok e' ∧ ∀ text, e.foundIn text = e'.foundIn text)
      ∨ ∃ refusal, OfLimit refusal ∧ y = .error refusal

theorem matched_of_meant [Platform] {g : Flags} {pattern' : List Char}
    (h : Same (fun e e' => ∀ text, e.foundIn text = e'.foundIn text) (f.meant pattern)
      (g.meant pattern')) :
    Matched (f.compile pattern) (g.compile pattern')
      ∧ Matched (g.compile pattern') (f.compile pattern) := by
  rcases h.cases with ⟨e, e', hx, hx', hsame⟩ | ⟨fault, hx, hx'⟩
  · refine ⟨fun e₁ he => ?_, fun e₁ he => ?_⟩
    · cases hx.symm.trans (meant_of_compile he)
      exact (compile_of_meant hx').imp (fun h => ⟨e', h, hsame⟩) id
    · cases hx'.symm.trans (meant_of_compile he)
      exact (compile_of_meant hx).imp (fun h => ⟨e, h, fun text => (hsame text).symm⟩) id
  · refine ⟨fun e₁ he => ?_, fun e₁ he => ?_⟩
    · cases hx.symm.trans (meant_of_compile he)
    · cases hx'.symm.trans (meant_of_compile he)

section Inlined

variable {letters : List Char} (hmodes : none.modes.apply (turnedOn letters) = f.modes)
  (hsource : f.source pattern = pattern)

include hmodes hsource

/-- A pattern under flags means what it means with letters in front that set the same modes. -/
theorem meant_inlined (hnodup : letters.Nodup) (hletters : ∀ c ∈ letters, c ∈ modeLetters) :
    Same (fun e e' => ∀ text, e.foundIn text = e'.foundIn text) (f.meant pattern)
      (none.meant (inlined letters pattern)) := by
  have hsource' : none.source (inlined letters pattern) = inlined letters pattern := rfl
  unfold meant
  rw [hsource, hsource']
  by_cases hne : letters = []
  · -- without letters nothing is put in front, and no mode is set
    subst hne
    have hsame : none.modes = f.modes := hmodes
    rw [hsame]
    show Same _ _ (match Ast.readDeep pattern with | .error fault => _ | .ok ast => _)
    cases Ast.readDeep pattern with
    | error => exact .error
    | ok ast =>
        dsimp only
        cases f.modes.meaning ast with
        | error => exact .error
        | ok r => exact .ok fun text => rfl
  · obtain ⟨span, hread⟩ := readDeep_inlined hletters hnodup hne pattern
    rcases hread.cases with ⟨ast, ast', hx, hx', hleads⟩ | ⟨fault, hx, hx'⟩
    · rw [hx, hx', ← hmodes]
      exact (meaning_leads hleads).map fun _ _ h => h.equivalent.foundIn_eq
    · rw [hx, hx']
      exact .error

end Inlined

/--
**The flags that bear on what a pattern matches mean their inline forms.**

Let a text of flags have no letter twice, and none but the three that set modes and the three that
do not bear on how a pattern is compiled. It is read. Put those of its letters that set modes, in any
order, in front of a pattern. Then, limits set aside, the pattern under the flags and the longer one
under none are both accepted and found in the same texts, or both refused for the same fault. So if
either is compiled, then the other is, unless it reaches a limit, and is found in the same texts.
-/
theorem compile_inlined [Platform] {given inline : List Char} (hgiven : given.Nodup)
    (hknown : ∀ c ∈ given, c ∈ modeLetters ∨ c ∈ ['g', 'u', 'd']) (hinline : inline.Nodup)
    (hmem : ∀ c, c ∈ inline ↔ c ∈ given ∧ c ∈ modeLetters) (pattern : List Char) :
    ∃ f, read given = .ok f ∧ read [] = .ok none
      ∧ Same (fun e e' => ∀ text, e.foundIn text = e'.foundIn text) (f.meant pattern)
          (none.meant (inlined inline pattern))
      ∧ Matched (f.compile pattern) (none.compile (inlined inline pattern))
      ∧ Matched (none.compile (inlined inline pattern)) (f.compile pattern) := by
  have hletters : ∀ c ∈ given, c ∈ Flags.letters ∧ c ≠ 'y' := by
    intro c hc
    have hcase := hknown c hc
    simp only [modeLetters, List.mem_cons, List.not_mem_nil, or_false] at hcase
    rcases hcase with (rfl | rfl | rfl) | (rfl | rfl | rfl) <;> decide
  have hread : read given = .ok (ofLetters given) :=
    read_eq_ok_iff.mpr ⟨⟨hgiven, fun c hc => (hletters c hc).1⟩, rfl⟩
  have hsource : (ofLetters given).source pattern = pattern := by
    have hsticky : (ofLetters given).sticky = false := by
      show given.contains 'y' = false
      rw [List.contains_eq_mem, decide_eq_false_iff_not]
      exact fun h => (hletters 'y' h).2 rfl
    rw [source, hsticky, if_neg Bool.false_ne_true]
  have hmodeLetters : ∀ c ∈ inline, c ∈ modeLetters := fun c hc => ((hmem c).mp hc).2
  have hsame (c : Char) (hc : c ∈ modeLetters) : inline.contains c = given.contains c := by
    rw [Bool.eq_iff_iff, List.contains_iff_mem, List.contains_iff_mem, hmem]
    exact ⟨fun h => h.1, fun h => ⟨h, hc⟩⟩
  have hmodes : none.modes.apply (turnedOn inline) = (ofLetters given).modes := by
    rw [apply_turnedOn hmodeLetters, hsame 'i' (by decide), hsame 'm' (by decide),
      hsame 's' (by decide)]
    rfl
  have hmeant := meant_inlined hmodes hsource hinline hmodeLetters
  exact ⟨_, hread, rfl, hmeant, matched_of_meant hmeant⟩

/-- Two flags under a pattern that turns one of them off again in its second branch. -/
theorem compile_inlined_branches :
    ∃ f e e', read ['s', 'g', 'm'] = .ok f
      ∧ f.compile "^a$|(?-m)b$".toList = .ok e
      ∧ none.compile "(?ms)^a$|(?-m)b$".toList = .ok e'
      ∧ ∀ text, e.foundIn text = e'.foundIn text := by
  have hknown : ∀ c ∈ ['s', 'g', 'm'], c ∈ modeLetters ∨ c ∈ ['g', 'u', 'd'] := by
    simp [modeLetters]
  have hmem : ∀ c, c ∈ ['m', 's'] ↔ c ∈ ['s', 'g', 'm'] ∧ c ∈ modeLetters := by
    intro c
    simp only [modeLetters, List.mem_cons, List.not_mem_nil, or_false]
    constructor
    · rintro (rfl | rfl) <;> decide
    · rintro ⟨rfl | rfl | rfl, hmode⟩ <;> revert hmode <;> decide
  obtain ⟨f, hread, -, -, hmatched, -⟩ :=
    compile_inlined (by decide) hknown (by decide) hmem "^a$|(?-m)b$".toList
  cases hread.symm.trans (rfl : read ['s', 'g', 'm']
    = .ok ⟨true, false, true, true, false, false, false⟩)
  have hunder : ((⟨true, false, true, true, false, false, false⟩ : Flags).compile
      "^a$|(?-m)b$".toList).toBool = true := by decide +kernel
  have hinlined : (none.compile "(?ms)^a$|(?-m)b$".toList).toBool = true := by decide +kernel
  obtain ⟨e, he⟩ := exists_of_toBool hunder
  obtain ⟨e', he'⟩ := exists_of_toBool hinlined
  refine ⟨_, e, e', hread, he, he', ?_⟩
  rcases hmatched e he with ⟨_, hx, hsame⟩ | ⟨_, -, hx⟩
  · cases he'.symm.trans hx
    exact hsame
  · cases he'.symm.trans hx

end StyleLookup.Matcher.Flags
