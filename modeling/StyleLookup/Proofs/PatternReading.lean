import StyleLookup.Pattern.Compiled

/-!
# Reading patterns that stand for one text

Reading a pattern goes on by steps until nothing is left, by a recursion that no proof wants to
open twice. `Reading.run_cons` and `Reading.run_nil` are all that is needed of it: a step that
succeeds may be taken, and at the end the reading is finished.

With these, a text is followed through the reader in which each character that means something in
patterns is escaped. However such a text is surrounded, its characters are read one by one as
themselves (`run_escaped`). What is left open is where the nodes stand in the pattern, which is of
no account for what they mean.
-/

namespace StyleLookup.Pattern

/-- Characters with a meaning of their own, at least in some place of a pattern. -/
def specials : List Char :=
  ['\\', '.', '+', '*', '?', '(', ')', '|', '[', ']', '\x7b', '\x7d', '^', '$', '#', '&', '-', '~']

/-- A text with a backslash before each character that has a meaning of its own. -/
def escaped (s : List Char) : List Char :=
  s.flatMap fun c => if c ∈ specials then ['\\', c] else [c]

/-- The pattern for one text and no other: its start, its characters, its end. -/
def wholly (s : List Char) : List Char := ['\\', 'A'] ++ escaped s ++ ['\\', 'z']

/-! ## Going on reading -/

namespace Reading

theorem run_nil {r : Reading} (h : skip r.level.verbose r.rest = []) : r.run = r.finish := by
  rw [run]
  split
  · rfl
  · rename_i h'
    rw [h] at h'
    cases h'

/-- A step that succeeds may be taken. -/
theorem run_cons {r r' : Reading} {c : Char} {cs : List Char}
    (h : skip r.level.verbose r.rest = c :: cs) (hs : step r c cs = .ok r') : r.run = r'.run := by
  rw [run]
  split
  · rename_i h'
    rw [h] at h'
    cases h'
  · rename_i c' cs' h'
    rw [h] at h'
    cases h'
    split
    · rename_i hs'
      rw [hs] at hs'
      cases hs'
    · rename_i hs'
      rw [hs] at hs'
      cases hs'
      rfl

end Reading

/-- Adds items, the first of them first. -/
def Level.pushAll (l : Level) (items : List Ast) : Level :=
  { l with items := items.reverse ++ l.items }

theorem Level.pushAll_push (l : Level) (item : Ast) (items : List Ast) :
    (l.push item).pushAll items = l.pushAll (item :: items) := by
  simp only [pushAll, push, List.reverse_cons, List.append_assoc, List.singleton_append]

theorem Level.pushAll_append (l : Level) (items more : List Ast) :
    (l.pushAll items).pushAll more = l.pushAll (items ++ more) := by
  simp only [pushAll, List.reverse_append, List.append_assoc]

/-- The branch of several items that were added to an empty one is these items. -/
theorem Level.branch_pushAll {l : Level} (h : l.items = []) (stop : Nat) (a b : Ast)
    (items : List Ast) :
    (l.pushAll (a :: (items ++ [b]))).branch stop = .concat ⟨l.start, stop⟩ (a :: (items ++ [b])) := by
  simp only [branch, pushAll, h, List.append_nil, List.reverse_reverse]
  cases items <;> rfl

/-! ## Characters that stand for themselves -/

/-- Behind a backslash a special character stands for itself. -/
theorem escape_special {c : Char} (hc : c ∈ specials) (verbose : Bool) (cs : List Char) :
    escape verbose (c :: cs) = .ok (.literal ⟨⟨place (c :: cs) + 1, place cs⟩, c, false⟩, cs) := by
  simp only [specials, List.mem_cons, List.not_mem_nil, or_false] at hc
  rcases hc with rfl | rfl | rfl | rfl | rfl | rfl | rfl | rfl | rfl | rfl | rfl | rfl | rfl | rfl
    | rfl | rfl | rfl | rfl <;> rfl

theorem step_special {c : Char} (hc : c ∈ specials) (r : Reading) (cs : List Char) :
    ∃ l : Literal, l.char = c
      ∧ step r '\\' (c :: cs) = .ok ⟨r.level.push (.literal l), r.outer, r.names, cs⟩ := by
  refine ⟨⟨⟨place (c :: cs) + 1, place cs⟩, c, false⟩, rfl, ?_⟩
  show r.take ((escape r.level.verbose (c :: cs)).map _) = _
  rw [escape_special hc]
  rfl

/-- Without one, every other character does. -/
theorem step_plain {c : Char} (hc : c ∉ specials) (r : Reading) (cs : List Char) :
    ∃ l : Literal, l.char = c
      ∧ step r c cs = .ok ⟨r.level.push (.literal l), r.outer, r.names, cs⟩ := by
  refine ⟨⟨spanOfNext (c :: cs), c, false⟩, rfl, ?_⟩
  simp only [specials, List.mem_cons, List.not_mem_nil, or_false, not_or] at hc
  have hprimitive : primitive r.level.verbose c cs
      = .ok (.literal ⟨spanOfNext (c :: cs), c, false⟩, cs) := by
    unfold primitive
    split <;> simp_all
  unfold step
  split <;> simp_all [Reading.take, Except.map, Primitive.toAst]

/-- **An escaped text is read as its characters, whatever comes before and behind it.** -/
theorem Reading.run_escaped (s rest : List Char) {r : Reading}
    (hverbose : r.level.verbose = false) (hrest : r.rest = escaped s ++ rest) :
    ∃ literals : List Literal, literals.map Literal.char = s
      ∧ r.run = Reading.run ⟨r.level.pushAll (literals.map .literal), r.outer, r.names, rest⟩ := by
  induction s generalizing r with
  | nil =>
      refine ⟨[], rfl, ?_⟩
      obtain ⟨level, outer, names, _⟩ := r
      cases hrest
      rfl
  | cons c s ih =>
      have hskip : skip r.level.verbose r.rest = r.rest := by rw [hverbose]; rfl
      -- the character is taken with its backslash, if it has one
      obtain ⟨l, hl, hrun⟩ : ∃ l : Literal, l.char = c ∧ r.run
          = Reading.run ⟨r.level.push (.literal l), r.outer, r.names, escaped s ++ rest⟩ := by
        by_cases hc : c ∈ specials
        · obtain ⟨l, hl, hstep⟩ := step_special hc r (escaped s ++ rest)
          refine ⟨l, hl, run_cons (hskip.trans ?_) hstep⟩
          rw [hrest, escaped, List.flatMap_cons, if_pos hc]
          rfl
        · obtain ⟨l, hl, hstep⟩ := step_plain hc r (escaped s ++ rest)
          refine ⟨l, hl, run_cons (hskip.trans ?_) hstep⟩
          rw [hrest, escaped, List.flatMap_cons, if_neg hc]
          rfl
      obtain ⟨literals, hchars, hrest⟩ := ih
        (r := ⟨r.level.push (.literal l), r.outer, r.names, escaped s ++ rest⟩) hverbose rfl
      refine ⟨l :: literals, by rw [List.map_cons, hl, hchars], ?_⟩
      rw [hrun, hrest, Level.pushAll_push]
      rfl

/-! ## Whole patterns -/

/-- The nodes of a pattern for one text, whose characters are given. -/
def nodesOf (start stop : Span) (literals : List Literal) : List Ast :=
  .assertion start .startText :: (literals.map .literal ++ [.assertion stop .endText])

theorem Reading.run_wholly (s rest : List Char) {r : Reading}
    (hverbose : r.level.verbose = false) (hrest : r.rest = wholly s ++ rest) :
    ∃ (start stop : Span) (literals : List Literal), literals.map Literal.char = s
      ∧ r.run = Reading.run ⟨r.level.pushAll (nodesOf start stop literals), r.outer, r.names, rest⟩ := by
  have hskip (level : Level) (h : level.verbose = false) (text : List Char) :
      skip level.verbose text = text := by rw [h]; rfl
  -- the start
  let text := escaped s ++ (['\\', 'z'] ++ rest)
  let start : Span := ⟨place ('A' :: text) + 1, place text⟩
  have hstart : r.run
      = Reading.run ⟨r.level.push (.assertion start .startText), r.outer, r.names, text⟩ := by
    refine run_cons ?_ (rfl : step r '\\' ('A' :: text) = _)
    rw [hskip _ hverbose, hrest]
    simp [wholly, text]
  -- the characters
  obtain ⟨literals, hchars, hliterals⟩ := Reading.run_escaped s (['\\', 'z'] ++ rest)
    (r := ⟨r.level.push (.assertion start .startText), r.outer, r.names, text⟩) hverbose rfl
  -- the end
  let stop : Span := ⟨place ('z' :: rest) + 1, place rest⟩
  let before := (r.level.push (.assertion start .startText)).pushAll (literals.map .literal)
  have hstop : Reading.run ⟨before, r.outer, r.names, ['\\', 'z'] ++ rest⟩
      = Reading.run ⟨before.push (.assertion stop .endText), r.outer, r.names, rest⟩ :=
    run_cons (hskip before hverbose _) rfl
  refine ⟨start, stop, literals, hchars, ?_⟩
  rw [hstart, hliterals, hstop]
  show Reading.run ⟨before.pushAll [.assertion stop .endText], _, _, _⟩ = _
  rw [Level.pushAll_append, Level.pushAll_push]
  rfl

theorem tooDeep_nodesOf (depth : Nat) (start stop : Span) (literals : List Literal) :
    Ast.anyTooDeep? depth (nodesOf start stop literals) = none := by
  have hliterals : Ast.anyTooDeep? depth (literals.map .literal ++ [.assertion stop .endText])
      = none := by
    induction literals with
    | nil => simp [Ast.anyTooDeep?, Ast.tooDeep?]
    | cons l literals ih =>
        rw [List.map_cons, List.cons_append, Ast.anyTooDeep?, ih]
        simp [Ast.tooDeep?]
  rw [nodesOf, Ast.anyTooDeep?, hliterals]
  simp [Ast.tooDeep?]

/-- What is read to the end is the pattern, if nothing in it lies too deep. -/
theorem read_of_run {pattern : List Char} {ast : Ast}
    (h : Reading.run ⟨Level.starting (place pattern) .capture (place pattern) false, [], [], pattern⟩
      = .ok ast) (hdepth : ast.tooDeep? 0 = none) : Ast.read pattern = .ok ast := by
  rw [Ast.read]
  simp only [h, hdepth]

/-- The pattern for one text is a row of its characters between two assertions. -/
theorem read_wholly (s : List Char) :
    ∃ (span start stop : Span) (literals : List Literal), literals.map Literal.char = s
      ∧ Ast.read (wholly s) = .ok (.concat span (nodesOf start stop literals)) := by
  let whole := Level.starting (place (wholly s)) .capture (place (wholly s)) false
  obtain ⟨start, stop, literals, hchars, hrun⟩ := Reading.run_wholly s []
    (r := ⟨whole, [], [], wholly s⟩) rfl (List.append_nil _).symm
  refine ⟨⟨whole.start, 0⟩, start, stop, literals, hchars, read_of_run ?_ ?_⟩
  · refine hrun.trans ((Reading.run_nil rfl).trans ?_)
    exact congrArg Except.ok (Level.branch_pushAll rfl 0 _ _ _)
  · simp [Ast.tooDeep?, nestLimit, tooDeep_nodesOf]

theorem step_plainGroup (r : Reading) (hverbose : r.level.verbose = false) (cs : List Char) :
    step r '(' ('?' :: ':' :: cs)
      = .ok ⟨Level.starting (place ('?' :: ':' :: cs) + 1) (.plain []) (place cs) false,
        r.level :: r.outer, r.names, cs⟩ := by
  have hstep : step r '(' ('?' :: ':' :: cs) = group r ('?' :: ':' :: cs) := rfl
  rw [hstep, group, hverbose]
  show Except.ok (r.openGroup _ (.plain []) _ _) = _
  rw [Reading.openGroup]
  show Except.ok (Reading.mk (Level.starting _ _ _ r.level.verbose) _ _ _) = _
  rw [hverbose]

/-- Put into a group at the start of a pattern, it is one item of that pattern. -/
theorem read_sticky_wholly (s : List Char) :
    ∃ (span first outer inner start stop : Span) (literals : List Literal),
      literals.map Literal.char = s
      ∧ Ast.read (['\\', 'A', '(', '?', ':'] ++ wholly s ++ [')'])
        = .ok (.concat span [.assertion first .startText,
            .group outer (.plain []) (.concat inner (nodesOf start stop literals))]) := by
  let inside := wholly s ++ [')']
  let group := '(' :: '?' :: ':' :: inside
  let pattern := '\\' :: 'A' :: group
  let whole := Level.starting (place pattern) .capture (place pattern) false
  -- the assertion and the opening of the group
  let first : Span := ⟨place ('A' :: group) + 1, place group⟩
  let parent := whole.push (.assertion first .startText)
  let level := Level.starting (place ('?' :: ':' :: inside) + 1) (.plain []) (place inside) false
  have hfirst : Reading.run ⟨whole, [], [], pattern⟩ = Reading.run ⟨parent, [], [], group⟩ :=
    Reading.run_cons rfl rfl
  have hopen : Reading.run ⟨parent, [], [], group⟩ = Reading.run ⟨level, [parent], [], inside⟩ :=
    Reading.run_cons rfl (step_plainGroup _ rfl inside)
  -- the inside, and the end of the group
  obtain ⟨start, stop, literals, hchars, hinside⟩ := Reading.run_wholly s [')']
    (r := ⟨level, [parent], [], inside⟩) rfl rfl
  let body := (level.pushAll (nodesOf start stop literals)).body 1
  let outer : Span := ⟨level.opening, 0⟩
  have hclose : Reading.run ⟨level.pushAll (nodesOf start stop literals), [parent], [], [')']⟩
      = Reading.run ⟨parent.push (.group outer (.plain []) body), [], [], []⟩ :=
    Reading.run_cons rfl rfl
  have hbody : body = .concat ⟨level.start, 1⟩ (nodesOf start stop literals) :=
    Level.branch_pushAll rfl 1 _ _ _
  have hpattern : ['\\', 'A', '(', '?', ':'] ++ wholly s ++ [')'] = pattern := by
    simp [pattern, group, inside]
  refine ⟨⟨whole.start, 0⟩, first, outer, ⟨level.start, 1⟩, start, stop, literals, hchars, ?_⟩
  rw [hpattern, ← hbody]
  refine read_of_run ?_ ?_
  · refine hfirst.trans (hopen.trans (hinside.trans (hclose.trans ?_)))
    rw [Reading.run_nil rfl]
    rfl
  · rw [hbody]
    simp [Ast.tooDeep?, Ast.anyTooDeep?, nestLimit, tooDeep_nodesOf]

end StyleLookup.Pattern
