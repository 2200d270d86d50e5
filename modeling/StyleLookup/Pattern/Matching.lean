import StyleLookup.Pattern.Regex

/-!
# Matching by sets agrees with matching as a relation

`Regex.endsIn` maps a set of positions to a set of positions; `Matches` relates single positions.
The two agree: a position is in the image of a set exactly if a match leads there from a position
of the set (`testBit_endsIn`). A text is therefore found to match exactly if it has a stretch that
matches (`foundIn_iff`).

Loops are the only hard part. A map of sets that agrees with a relation is applied over and over,
and stops early when nothing changes. Stopping is harmless because a set that its own image does
not leave can be reached no further, and there is time enough because every other step adds a
position.
-/

namespace StyleLookup.Pattern

/-- All members of a set of positions are at most `n`. -/
def Within (n s : Nat) : Prop := ∀ i, s.testBit i = true → i ≤ n

/-- `f` maps a set to the positions that a relation leads to from the set. -/
structure Follows (n : Nat) (f : Nat → Nat) (R : Nat → Nat → Prop) : Prop where
  testBit : ∀ s, Within n s → ∀ j, (f s).testBit j = true ↔ ∃ i, s.testBit i = true ∧ R i j
  le : ∀ i j, R i j → j ≤ n

/-- `Chain R k i j`: so many steps of a relation lead from `i` to `j`. -/
inductive Chain (R : Nat → Nat → Prop) : Nat → Nat → Nat → Prop where
  | nil {i : Nat} : Chain R 0 i i
  | cons {k i j l : Nat} (h : R i j) (hs : Chain R k j l) : Chain R (k + 1) i l

theorem Follows.within {n : Nat} {f : Nat → Nat} {R : Nat → Nat → Prop} (h : Follows n f R)
    {s : Nat} (hs : Within n s) : Within n (f s) := by
  intro j hj
  obtain ⟨i, _, hij⟩ := (h.testBit s hs j).1 hj
  exact h.le i j hij

theorem Within.or {n s t : Nat} (hs : Within n s) (ht : Within n t) : Within n (s ||| t) := by
  intro i hi
  rw [Nat.testBit_or, Bool.or_eq_true] at hi
  rcases hi with hi | hi
  · exact hs i hi
  · exact ht i hi

/-! ## Repetition -/

/-- From a set that its image does not leave, no chain leads out. -/
theorem Follows.closed {n : Nat} {f : Nat → Nat} {R : Nat → Nat → Prop} (h : Follows n f R)
    {s : Nat} (hs : Within n s) (stable : s ||| f s = s) {k i j : Nat}
    (hi : s.testBit i = true) (chain : Chain R k i j) : s.testBit j = true := by
  induction chain with
  | nil => exact hi
  | cons hij _ ih =>
    apply ih
    rw [← stable, Nat.testBit_or, Bool.or_eq_true]
    exact Or.inr ((h.testBit s hs _).2 ⟨_, hi, hij⟩)

/-- In a set that is its own image, chains of every length lead to each member. -/
theorem Follows.reached {n : Nat} {f : Nat → Nat} {R : Nat → Nat → Prop} (h : Follows n f R)
    {s : Nat} (hs : Within n s) (fixed : f s = s) (k : Nat) {j : Nat}
    (hj : s.testBit j = true) : ∃ i, s.testBit i = true ∧ Chain R k i j := by
  induction k with
  | zero => exact ⟨j, hj, .nil⟩
  | succ k ih =>
    obtain ⟨i, hi, chain⟩ := ih
    rw [← fixed] at hi
    obtain ⟨i', hi', step⟩ := (h.testBit s hs i).1 hi
    exact ⟨i', hi', .cons step chain⟩

theorem Follows.iterate {n : Nat} {f : Nat → Nat} {R : Nat → Nat → Prop} (h : Follows n f R)
    (k : Nat) {s : Nat} (hs : Within n s) (j : Nat) :
    (Pattern.iterate f k s).testBit j = true ↔ ∃ i, s.testBit i = true ∧ Chain R k i j := by
  induction k generalizing s with
  | zero =>
    constructor
    · intro hj
      exact ⟨j, hj, .nil⟩
    · rintro ⟨i, hi, chain⟩
      cases chain
      exact hi
  | succ k ih =>
    unfold Pattern.iterate
    dsimp only
    split
    · rename_i fixed
      constructor
      · intro hj
        exact h.reached hs fixed (k + 1) hj
      · rintro ⟨i, hi, chain⟩
        exact h.closed hs (by rw [fixed, Nat.or_self]) hi chain
    · rw [ih (h.within hs)]
      constructor
      · rintro ⟨i, hi, chain⟩
        obtain ⟨i', hi', step⟩ := (h.testBit s hs i).1 hi
        exact ⟨i', hi', .cons step chain⟩
      · rintro ⟨i, hi, chain⟩
        cases chain with
        | cons step chain => exact ⟨_, (h.testBit s hs _).2 ⟨i, hi, step⟩, chain⟩

theorem Follows.accumulate {n : Nat} {f : Nat → Nat} {R : Nat → Nat → Prop} (h : Follows n f R)
    (k : Nat) {s : Nat} (hs : Within n s) (j : Nat) :
    (Pattern.accumulate f k s).testBit j = true
      ↔ ∃ i, s.testBit i = true ∧ ∃ m, m ≤ k ∧ Chain R m i j := by
  induction k generalizing s with
  | zero =>
    constructor
    · intro hj
      exact ⟨j, hj, 0, Nat.le_refl 0, .nil⟩
    · rintro ⟨i, hi, m, hm, chain⟩
      cases Nat.le_zero.1 hm
      cases chain
      exact hi
  | succ k ih =>
    unfold Pattern.accumulate
    dsimp only
    split
    · rename_i stable
      constructor
      · intro hj
        exact ⟨j, hj, 0, Nat.zero_le _, .nil⟩
      · rintro ⟨i, hi, m, _, chain⟩
        exact h.closed hs stable hi chain
    · rw [ih (hs.or (h.within hs))]
      constructor
      · rintro ⟨i, hi, m, hm, chain⟩
        rw [Nat.testBit_or, Bool.or_eq_true] at hi
        rcases hi with hi | hi
        · exact ⟨i, hi, m, Nat.le_succ_of_le hm, chain⟩
        · obtain ⟨i', hi', step⟩ := (h.testBit s hs i).1 hi
          exact ⟨i', hi', m + 1, Nat.succ_le_succ hm, .cons step chain⟩
      · rintro ⟨i, hi, m, hm, chain⟩
        cases chain with
        | nil =>
          refine ⟨j, ?_, 0, Nat.zero_le _, .nil⟩
          rw [Nat.testBit_or, hi, Bool.true_or]
        | cons step chain =>
          refine ⟨_, ?_, _, Nat.le_of_succ_le_succ hm, chain⟩
          rw [Nat.testBit_or, Bool.or_eq_true]
          exact Or.inr ((h.testBit s hs _).2 ⟨i, hi, step⟩)

/-! ## Enough repetition -/

/-- The positions up to `n` that a set lacks. -/
def lacking (n s : Nat) : Nat := (List.range (n + 1)).countP fun i => !s.testBit i

theorem countP_lt_countP {α : Type} {p q : α → Bool} {l : List α}
    (imp : ∀ x ∈ l, p x = true → q x = true) {y : α} (hy : y ∈ l) (hq : q y = true)
    (hp : p y = false) : l.countP p < l.countP q := by
  induction l with
  | nil => simp at hy
  | cons x xs ih =>
    have rest : xs.countP p ≤ xs.countP q :=
      List.countP_mono_left fun z hz => imp z (List.mem_cons_of_mem x hz)
    rcases List.mem_cons.1 hy with rfl | hy
    · simp only [List.countP_cons, hp, hq]
      simp
      omega
    · have less := ih (fun z hz => imp z (List.mem_cons_of_mem x hz)) hy
      simp only [List.countP_cons]
      cases hpx : p x with
      | true =>
        rw [imp x List.mem_cons_self hpx]
        exact Nat.add_lt_add_right less _
      | false =>
        simp only [Bool.false_eq_true, if_false, Nat.add_zero]
        exact Nat.lt_of_lt_of_le less (Nat.le_add_right _ _)

/-- A set that grows lacks less. -/
theorem lacking_lt {n s t : Nat} (ht : Within n (s ||| t)) (grows : s ||| t ≠ s) :
    lacking n (s ||| t) < lacking n s := by
  have differs : ∃ i, (s ||| t).testBit i ≠ s.testBit i :=
    Classical.not_forall.1 fun same => grows (Nat.eq_of_testBit_eq same)
  obtain ⟨i, hi⟩ := differs
  have new : (s ||| t).testBit i = true ∧ s.testBit i = false := by
    rw [Nat.testBit_or] at hi ⊢
    cases hsi : s.testBit i <;> cases hti : t.testBit i <;> simp_all
  refine countP_lt_countP (y := i) ?_ ?_ ?_ ?_
  · intro x _ hx
    rw [Nat.testBit_or] at hx
    cases hsx : s.testBit x <;> simp_all
  · exact List.mem_range.2 (Nat.lt_succ_of_le (ht i new.1))
  · simp [new.2]
  · simp [new.1]

theorem lacking_le (n s : Nat) : lacking n s ≤ n + 1 := by
  unfold lacking
  exact Nat.le_trans List.countP_le_length (by simp)

/-- With as many steps as a set lacks positions, nothing more can be reached. -/
theorem Follows.accumulate_stable {n : Nat} {f : Nat → Nat} {R : Nat → Nat → Prop}
    (h : Follows n f R) (k : Nat) {s : Nat} (hs : Within n s) (enough : lacking n s ≤ k) :
    Pattern.accumulate f k s ||| f (Pattern.accumulate f k s) = Pattern.accumulate f k s := by
  induction k generalizing s with
  | zero =>
    unfold Pattern.accumulate
    refine Decidable.byContradiction fun grows => ?_
    have := lacking_lt (hs.or (h.within hs)) grows
    omega
  | succ k ih =>
    unfold Pattern.accumulate
    dsimp only
    split
    · assumption
    · rename_i grows
      have := lacking_lt (hs.or (h.within hs)) grows
      exact ih (hs.or (h.within hs)) (by omega)

theorem testBit_accumulate_self {f : Nat → Nat} (k : Nat) {s i : Nat} (hi : s.testBit i = true) :
    (Pattern.accumulate f k s).testBit i = true := by
  induction k generalizing s with
  | zero => exact hi
  | succ k ih =>
    unfold Pattern.accumulate
    dsimp only
    split
    · exact hi
    · exact ih (by rw [Nat.testBit_or, hi, Bool.true_or])

theorem Follows.within_accumulate {n : Nat} {f : Nat → Nat} {R : Nat → Nat → Prop}
    (h : Follows n f R) (k : Nat) {s : Nat} (hs : Within n s) :
    Within n (Pattern.accumulate f k s) := by
  induction k generalizing s with
  | zero => exact hs
  | succ k ih =>
    unfold Pattern.accumulate
    dsimp only
    split
    · exact hs
    · exact ih (hs.or (h.within hs))

/-- One step more than there are positions stands for any number of steps. -/
theorem Follows.accumulate_all {n : Nat} {f : Nat → Nat} {R : Nat → Nat → Prop}
    (h : Follows n f R) {s : Nat} (hs : Within n s) (j : Nat) :
    (Pattern.accumulate f (n + 1) s).testBit j = true
      ↔ ∃ i, s.testBit i = true ∧ ∃ m, Chain R m i j := by
  constructor
  · intro hj
    obtain ⟨i, hi, m, _, chain⟩ := (h.accumulate (n + 1) hs j).1 hj
    exact ⟨i, hi, m, chain⟩
  · rintro ⟨i, hi, m, chain⟩
    exact h.closed (h.within_accumulate (n + 1) hs)
      (h.accumulate_stable (n + 1) hs (lacking_le n s)) (testBit_accumulate_self _ hi) chain

/-! ## Steps -/

theorem testBit_two_mul_add (b : Bool) (m i : Nat) :
    ((if b then 1 else 0) + 2 * m).testBit i = if i = 0 then b else m.testBit (i - 1) := by
  cases i with
  | zero => cases b <;> simp [Nat.testBit_zero]
  | succ i =>
    have half : ((if b then 1 else 0) + 2 * m) / 2 = m := by
      cases b
      · simp
      · simp; omega
    rw [Nat.testBit_add_one, half]
    simp

theorem testBit_positionsOf (set : Unicode.Scalars) (text : List Char) (i : Nat) :
    (positionsOf set text).testBit i = text[i]?.any fun c => set.contains c.toNat := by
  induction text generalizing i with
  | nil => simp [positionsOf]
  | cons c cs ih =>
    unfold positionsOf
    rw [testBit_two_mul_add]
    cases i with
    | zero => simp
    | succ i => simp [ih]

/-- The characters around a position, with one given for the place before the text. -/
def sides (before : Option Char) (text : List Char) (i : Nat) : Option Char × Option Char :=
  (if i = 0 then before else text[i - 1]?, text[i]?)

theorem testBit_lookPositions (l : Look) (before : Option Char) (text : List Char) (i : Nat) :
    (lookPositions l before text).testBit i
      = (decide (i ≤ text.length) && l.holds (sides before text i).1 (sides before text i).2) := by
  induction text generalizing before i with
  | nil =>
    unfold lookPositions
    cases i with
    | zero => cases h : l.holds before none <;> simp [sides, h]
    | succ i =>
      have : (if l.holds before none = true then 1 else 0) = (if l.holds before none = true then 1
          else 0) + 2 * 0 := by simp
      rw [this, testBit_two_mul_add]
      simp
  | cons c cs ih =>
    unfold lookPositions
    rw [testBit_two_mul_add]
    cases i with
    | zero => simp [sides]
    | succ i =>
      simp only [Nat.add_one_ne_zero, if_false, Nat.add_sub_cancel, ih, List.length_cons,
        Nat.add_le_add_iff_right, sides, List.getElem?_cons_succ]
      congr 2
      cases i with
      | zero => simp
      | succ i => simp

theorem Atom.follows (text : List Char) (a : Atom) :
    Follows text.length (fun s => (a.plan text).ends s)
      (fun i j => Matches text (.leaf a) i j) := by
  cases a with
  | oneOf set =>
    refine ⟨fun s hs j => ?_, fun i j h => ?_⟩
    · simp only [Atom.plan, Plan.ends, Nat.testBit_shiftLeft, Nat.testBit_and, Bool.and_eq_true,
        decide_eq_true_eq, testBit_positionsOf]
      constructor
      · rintro ⟨hj, hi, hc⟩
        refine ⟨j - 1, hi, .leaf ?_⟩
        cases htext : text[j - 1]? with
        | none => simp [htext] at hc
        | some c =>
          simp only [htext, Option.any_some] at hc
          have move := Atom.Steps.take htext hc
          rwa [Nat.sub_add_cancel hj] at move
      · rintro ⟨i, hi, h⟩
        cases h with
        | leaf h =>
          cases h with
          | take htext hset => simp [hi, htext, hset]
    · cases h with
      | leaf h =>
        cases h with
        | take htext hset => exact (List.getElem?_eq_some_iff.1 htext).1
  | look l =>
    refine ⟨fun s hs j => ?_, fun i j h => ?_⟩
    · simp only [Atom.plan, Plan.ends, Nat.testBit_and, Bool.and_eq_true, testBit_lookPositions,
        decide_eq_true_eq]
      constructor
      · rintro ⟨hj, hle, hl⟩
        exact ⟨j, hj, .leaf (.stay hle hl)⟩
      · rintro ⟨i, hi, h⟩
        cases h with
        | leaf h =>
          cases h with
          | stay hle hl => exact ⟨hi, hle, hl⟩
    · cases h with
      | leaf h =>
        cases h with
        | stay hle _ => exact hle

/-! ## Expressions -/

theorem Matches.le_length {text : List Char} {e : Regex Atom} {i j : Nat}
    (h : Matches text e i j) : j ≤ text.length := by
  induction h with
  | empty hi | done hi => exact hi
  | leaf h =>
    cases h with
    | take h _ => exact (List.getElem?_eq_some_iff.1 h).1
    | stay h _ => exact h
  | seq _ _ _ ih | must _ _ _ ih | again _ _ _ ih | upTo _ _ _ ih => exact ih
  | left _ ih | right _ ih => exact ih

/-- How often a loop may go on after the times that it must. -/
def Allows (more : Option Nat) (m : Nat) : Prop := ∀ b, more = some b → m ≤ b

/-- A loop is a chain of matches of its body, as long as it must be and then as long as it may. -/
theorem Matches.chain {text : List Char} {e : Regex Atom} {i j : Nat} (h : Matches text e i j)
    {times : Nat} {more : Option Nat} {body : Regex Atom} (he : e = .loop times more body) :
    ∃ m x, Chain (Matches text body) times i x ∧ Allows more m ∧
      Chain (Matches text body) m x j := by
  induction h generalizing times more with
  | done hi =>
    injection he with ht hm hb
    subst ht
    exact ⟨0, _, .nil, fun _ _ => Nat.zero_le _, .nil⟩
  | must h _ _ ih =>
    injection he with ht hm hb
    subst ht hm hb
    obtain ⟨m, x, first, allowed, last⟩ := ih rfl
    exact ⟨m, x, .cons h first, allowed, last⟩
  | again h _ _ ih =>
    injection he with ht hm hb
    subst ht hm hb
    obtain ⟨m, x, first, _, last⟩ := ih rfl
    cases first
    exact ⟨m + 1, _, .nil, (fun _ hb => nomatch hb), .cons h last⟩
  | upTo h _ _ ih =>
    injection he with ht hm hb
    subst ht hm hb
    obtain ⟨m, x, first, allowed, last⟩ := ih rfl
    cases first
    refine ⟨m + 1, _, .nil, ?_, .cons h last⟩
    rintro b ⟨⟩
    exact Nat.succ_le_succ (allowed _ rfl)
  | _ => cases he

/-- As many matches as a loop still allows make a match of the loop. -/
theorem Matches.loopOfAllowed {text : List Char} {body : Regex Atom} {m i j : Nat}
    (chain : Chain (Matches text body) m i j) (hi : i ≤ text.length) {more : Option Nat}
    (allowed : Allows more m) : Matches text (.loop 0 more body) i j := by
  induction chain generalizing more with
  | nil => exact .done hi
  | cons h _ ih =>
    cases more with
    | none => exact .again h (ih h.le_length fun _ hb => nomatch hb)
    | some b =>
      cases b with
      | zero => exact absurd (allowed 0 rfl) (Nat.not_succ_le_zero _)
      | succ b =>
        refine .upTo h (ih h.le_length ?_)
        rintro _ ⟨⟩
        exact Nat.le_of_succ_le_succ (allowed _ rfl)

theorem Matches.loopOfChains {text : List Char} {body : Regex Atom} {more : Option Nat}
    {times m i x j : Nat} (first : Chain (Matches text body) times i x) (hi : i ≤ text.length)
    (allowed : Allows more m) (last : Chain (Matches text body) m x j) :
    Matches text (.loop times more body) i j := by
  induction first with
  | nil => exact loopOfAllowed last hi allowed
  | cons h _ ih => exact .must h (ih h.le_length last)

/-- A loop matches exactly if its body does so often enough and then no more often than allowed. -/
theorem matches_loop_iff {text : List Char} {body : Regex Atom} {times : Nat} {more : Option Nat}
    {i j : Nat} (hi : i ≤ text.length) :
    Matches text (.loop times more body) i j ↔
      ∃ m x, Chain (Matches text body) times i x ∧ Allows more m ∧
        Chain (Matches text body) m x j := by
  constructor
  · intro h
    exact h.chain rfl
  · rintro ⟨m, x, first, allowed, last⟩
    exact Matches.loopOfChains first hi allowed last

theorem Follows.within_iterate {n : Nat} {f : Nat → Nat} {R : Nat → Nat → Prop}
    (h : Follows n f R) (k : Nat) {s : Nat} (hs : Within n s) :
    Within n (Pattern.iterate f k s) := by
  induction k generalizing s with
  | zero => exact hs
  | succ k ih =>
    unfold Pattern.iterate
    dsimp only
    split
    · exact hs
    · exact ih (h.within hs)

/-- The two parts of a loop, one after the other. -/
theorem Follows.loop {n : Nat} {f : Nat → Nat} {R : Nat → Nat → Prop} (h : Follows n f R)
    (times : Nat) (more : Option Nat) {s : Nat} (hs : Within n s) (j : Nat) :
    (Pattern.accumulate f (more.getD (n + 1)) (Pattern.iterate f times s)).testBit j = true ↔
      ∃ i, s.testBit i = true ∧ ∃ m x, Chain R times i x ∧ Allows more m ∧ Chain R m x j := by
  have rest (t : Nat) (ht : Within n t) :
      (Pattern.accumulate f (more.getD (n + 1)) t).testBit j = true ↔
        ∃ x, t.testBit x = true ∧ ∃ m, Allows more m ∧ Chain R m x j := by
    cases more with
    | none => simp [h.accumulate_all ht, Allows]
    | some b => simp [h.accumulate b ht, Allows]
  rw [rest _ (h.within_iterate times hs)]
  simp only [h.iterate times hs]
  constructor
  · rintro ⟨x, ⟨i, hi, first⟩, m, allowed, last⟩
    exact ⟨i, hi, m, x, first, allowed, last⟩
  · rintro ⟨i, hi, m, x, first, allowed, last⟩
    exact ⟨x, ⟨i, hi, first⟩, m, allowed, last⟩

/-- The map of sets for an expression follows the stretches that the expression matches. -/
theorem Regex.follows (text : List Char) (e : Regex Atom) :
    Follows text.length ((e.map (Atom.plan text)).ends (text.length + 1)) (Matches text e) := by
  refine ⟨?_, fun _ _ h => h.le_length⟩
  induction e with
  | empty =>
    intro s hs j
    constructor
    · intro hj
      exact ⟨j, hj, .empty (hs j hj)⟩
    · rintro ⟨i, hi, h⟩
      cases h
      exact hi
  | leaf a => exact (Atom.follows text a).testBit
  | seq a b iha ihb =>
    intro s hs j
    have ha : Follows _ _ _ := ⟨iha, fun _ _ h => h.le_length⟩
    refine (ihb _ (ha.within hs) j).trans ?_
    constructor
    · rintro ⟨x, hx, hb⟩
      obtain ⟨i, hi, h⟩ := (iha s hs x).1 hx
      exact ⟨i, hi, .seq h hb⟩
    · rintro ⟨i, hi, h⟩
      cases h with
      | seq h hb => exact ⟨_, (iha s hs _).2 ⟨i, hi, h⟩, hb⟩
  | alt a b iha ihb =>
    intro s hs j
    simp only [Regex.map, Regex.ends, Nat.testBit_or, Bool.or_eq_true, iha s hs, ihb s hs]
    constructor
    · rintro (⟨i, hi, h⟩ | ⟨i, hi, h⟩)
      · exact ⟨i, hi, .left h⟩
      · exact ⟨i, hi, .right h⟩
    · rintro ⟨i, hi, h⟩
      cases h with
      | left h => exact .inl ⟨i, hi, h⟩
      | right h => exact .inr ⟨i, hi, h⟩
  | loop times more body ih =>
    intro s hs j
    have hbody : Follows _ _ _ := ⟨ih, fun _ _ h => h.le_length⟩
    refine (hbody.loop times more hs j).trans ?_
    constructor
    · rintro ⟨i, hi, h⟩
      exact ⟨i, hi, (matches_loop_iff (hs i hi)).2 h⟩
    · rintro ⟨i, hi, h⟩
      exact ⟨i, hi, (matches_loop_iff (hs i hi)).1 h⟩

/-- The positions that are found are those that some match leads to from the set. -/
theorem Regex.testBit_endsIn (e : Regex Atom) (text : List Char) {s : Nat}
    (hs : Within text.length s) (j : Nat) :
    (e.endsIn text s).testBit j = true ↔ ∃ i, s.testBit i = true ∧ Matches text e i j :=
  (e.follows text).testBit s hs j

theorem testBit_allPositions {length i : Nat} :
    (allPositions length).testBit i = true ↔ i ≤ length := by
  rw [allPositions, Nat.one_shiftLeft, Nat.testBit_two_pow_sub_one, decide_eq_true_eq,
    Nat.lt_succ_iff]

/-- An expression is found in a text exactly if it matches some stretch of it. -/
theorem Regex.foundIn_iff (e : Regex Atom) (text : List Char) :
    e.foundIn text = true ↔ ∃ i j, i ≤ text.length ∧ Matches text e i j := by
  have within : Within text.length (allPositions text.length) :=
    fun i hi => testBit_allPositions.1 hi
  have some_bit (t : Nat) : t ≠ 0 ↔ ∃ j, t.testBit j = true :=
    ⟨Nat.exists_testBit_of_ne_zero, by rintro ⟨j, hj⟩ rfl; simp at hj⟩
  unfold Regex.foundIn
  rw [bne_iff_ne, some_bit]
  constructor
  · rintro ⟨j, hj⟩
    obtain ⟨i, hi, h⟩ := (e.testBit_endsIn text within j).1 hj
    exact ⟨i, j, testBit_allPositions.1 hi, h⟩
  · rintro ⟨i, j, hi, h⟩
    exact ⟨j, (e.testBit_endsIn text within j).2 ⟨i, testBit_allPositions.2 hi, h⟩⟩

end StyleLookup.Pattern
