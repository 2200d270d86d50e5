import StyleLookup.Proofs.GlobalSearch
import StyleLookup.Proofs.PatternReading

/-!
# Patterns that stand for one selector

A selector can be asked for outright, or by a pattern that is its escaped text between the
assertions of start and end. Both ways find the same.

For the pattern this takes three steps. It is read as a row of characters between assertions, also
when the sticky flag wraps it in a group (`expressionOf_source`). Such a row matches nothing but
the text (`occursIn_exactly`): no case is folded, no line end lets an assertion hold inside of a
text, and nothing is left over on either side. And the machine of the row is small, so that only
a selector of some hundred thousand bytes is refused (`isTooLarge_exactly`).
-/

namespace StyleLookup.Pattern

open StyleLookup.Unicode Matcher

/-! ## What the pattern means -/

/-- The items that match a text from its start to its end. -/
def itemsOf (s : List Char) : List Expression :=
  .look .textStart
    :: (s.map (fun c => .oneOf (Scalars.single c.toNat) true) ++ [.look .textEnd])

/-- The expression for one text. A sticky one asks for the start of the text once more. -/
def exactly (sticky : Bool) (s : List Char) : Expression :=
  if sticky then .row [.look .textStart, .row (itemsOf s)] else .row (itemsOf s)

theorem meanings_nodesOf {m : Modes} (hunicode : m.unicode = true) (hcase : m.ignoreCase = false)
    (start stop : Span) (literals : List Literal) :
    m.meanings (nodesOf start stop literals)
      = .ok (itemsOf (literals.map Literal.char), m) := by
  have hliterals : m.meanings (literals.map .literal ++ [.assertion stop .endText])
      = .ok ((literals.map Literal.char).map (fun c => .oneOf (Scalars.single c.toNat) true)
          ++ [.look .textEnd], m) := by
    induction literals with
    | nil => rfl
    | cons l literals ih =>
        have hl : m.meaning (.literal l) = .ok (.oneOf (Scalars.single l.char.toNat) true, m) := by
          simp [Modes.meaning, Modes.single, Modes.literal, Modes.oneOf, Modes.fold, hunicode, hcase,
            Except.map]
        rw [List.map_cons, List.cons_append, Modes.meanings, hl]
        simp only [ih]
        rfl
  have hstart : m.meaning (.assertion start .startText) = .ok (.look .textStart, m) := rfl
  rw [nodesOf, Modes.meanings, hstart]
  simp only [hliterals]
  rfl

theorem meaning_row {m : Modes} (hunicode : m.unicode = true) (hcase : m.ignoreCase = false)
    (span start stop : Span) (literals : List Literal) :
    m.meaning (.concat span (nodesOf start stop literals))
      = .ok (.row (itemsOf (literals.map Literal.char)), m) := by
  rw [Modes.meaning, meanings_nodesOf hunicode hcase]
  rfl

theorem expressionOf_source {f : Flags} (hcase : f.ignoreCase = false) (s : List Char) :
    expressionOf f.modes (f.source (wholly s)) = .ok (exactly f.sticky s) := by
  cases hsticky : f.sticky with
  | false =>
      obtain ⟨span, start, stop, literals, rfl, hread⟩ := read_wholly s
      rw [Flags.source, hsticky, if_neg Bool.false_ne_true, expressionOf, hread]
      dsimp only
      rw [meaning_row rfl hcase]
      rfl
  | true =>
      obtain ⟨span, first, outer, inner, start, stop, literals, rfl, hread⟩ := read_sticky_wholly s
      have hfirst : f.modes.meaning (.assertion first .startText)
          = .ok (.look .textStart, f.modes) := rfl
      have hgroup : f.modes.meaning (.group outer (.plain []) (.concat inner
            (nodesOf start stop literals)))
          = .ok (.row (itemsOf (literals.map Literal.char)), f.modes) := by
        rw [Modes.meaning]
        show Except.map _ (f.modes.meaning _) = _
        rw [meaning_row rfl hcase]
        rfl
      rw [Flags.source, hsticky, if_pos rfl, expressionOf, hread]
      dsimp only
      rw [Modes.meaning, Modes.meanings, hfirst]
      dsimp only
      rw [Modes.meanings, hgroup]
      rfl

/-! ## What it matches -/

section Matches

variable {text : List Char} {i j : Nat}

theorem matches_inRow_cons_iff {e : Regex Atom} {es : List (Regex Atom)} :
    Matches text (Regex.inRow (e :: es)) i j
      ↔ ∃ k, Matches text e i k ∧ Matches text (Regex.inRow es) k j := by
  cases es with
  | nil =>
      constructor
      · intro h
        exact ⟨j, h, .empty h.le_length⟩
      · rintro ⟨k, h, hs⟩
        cases hs
        exact h
  | cons next es =>
      constructor
      · intro h
        cases h with
        | seq h hs => exact ⟨_, h, hs⟩
      · rintro ⟨k, h, hs⟩
        exact .seq h hs

theorem matches_look_iff {l : Look} :
    Matches text (.leaf (.look l)) i j
      ↔ i = j ∧ i ≤ text.length ∧ l.holds (around text i).1 (around text i).2 = true := by
  constructor
  · intro h
    cases h with
    | leaf h =>
      cases h with
      | stay hi hl => exact ⟨rfl, hi, hl⟩
  · rintro ⟨rfl, hi, hl⟩
    exact .leaf (.stay hi hl)

theorem matches_textStart_iff : Matches text (.leaf (.look .textStart)) i j ↔ i = 0 ∧ j = 0 := by
  rw [matches_look_iff]
  constructor
  · rintro ⟨rfl, hi, hl⟩
    have hzero : i = 0 := by
      rcases Nat.eq_zero_or_pos i with hzero | hpos
      · exact hzero
      · -- there is a character before every later position
        have hbefore : text.length ≤ i - 1 := by
          simpa [around, Nat.ne_of_gt hpos, Look.holds] using hl
        omega
    exact ⟨hzero, hzero⟩
  · rintro ⟨rfl, rfl⟩
    exact ⟨rfl, Nat.zero_le _, rfl⟩

theorem matches_textEnd_iff :
    Matches text (.leaf (.look .textEnd)) i j ↔ i = text.length ∧ j = text.length := by
  rw [matches_look_iff]
  constructor
  · rintro ⟨rfl, hi, hl⟩
    have : text.length ≤ i := by simpa [around, Look.holds] using hl
    omega
  · rintro ⟨rfl, rfl⟩
    exact ⟨rfl, Nat.le_refl _, by simp [around, Look.holds]⟩

theorem contains_single (n m : Nat) : (Scalars.single n).contains m = true ↔ m = n := by
  simp only [Scalars.single, Scalars.contains, Bool.or_false]
  split
  · simp
    omega
  · simp
    omega

theorem matches_single_iff {c : Char} :
    Matches text (.leaf (.oneOf (Scalars.single c.toNat))) i j ↔ text[i]? = some c ∧ j = i + 1 := by
  constructor
  · intro h
    cases h with
    | leaf h =>
      cases h with
      | take hc hset => rw [hc, Char.toNat_inj.mp ((contains_single _ _).mp hset)]; exact ⟨rfl, rfl⟩
  · rintro ⟨hc, rfl⟩
    exact .leaf (.take hc ((contains_single _ _).mpr rfl))

theorem drop_eq_cons_iff {α : Type} {as bs : List α} {a : α} {n : Nat} :
    as.drop n = a :: bs ↔ as[n]? = some a ∧ as.drop (n + 1) = bs := by
  constructor
  · intro h
    have hhead : (as.drop n)[0]? = as[n]? := by simp
    have htail : as.drop (n + 1) = (as.drop n).tail := by simp
    rw [← hhead, htail, h]
    exact ⟨rfl, rfl⟩
  · rintro ⟨ha, rfl⟩
    obtain ⟨hn, rfl⟩ := List.getElem?_eq_some_iff.mp ha
    exact List.drop_eq_getElem_cons hn

/-- The characters of a text and its end match exactly where these are all that is left. -/
theorem matches_characters_iff {s : List Char} :
    Matches text (Regex.inRow (s.map (fun c => .leaf (.oneOf (Scalars.single c.toNat)))
        ++ [.leaf (.look .textEnd)])) i j
      ↔ i ≤ text.length ∧ text.drop i = s ∧ j = text.length := by
  induction s generalizing i with
  | nil =>
      rw [List.map_nil, List.nil_append, Regex.inRow, matches_textEnd_iff, List.drop_eq_nil_iff]
      omega
  | cons c s ih =>
      rw [List.map_cons, List.cons_append, matches_inRow_cons_iff, drop_eq_cons_iff]
      simp only [matches_single_iff, ih]
      constructor
      · rintro ⟨k, ⟨hc, rfl⟩, hk, hs, hj⟩
        exact ⟨by omega, ⟨hc, hs⟩, hj⟩
      · rintro ⟨_, ⟨hc, hs⟩, hj⟩
        exact ⟨i + 1, ⟨hc, rfl⟩, (List.getElem?_eq_some_iff.mp hc).1, hs, hj⟩

theorem regexes_eq_map (es : List Expression) :
    Expression.regexes es = es.map Expression.regex := by
  induction es with
  | nil => rfl
  | cons e es ih => rw [Expression.regexes, ih, List.map_cons]

theorem matches_items_iff {s : List Char} :
    Matches text (Expression.row (itemsOf s)).regex i j
      ↔ i = 0 ∧ text = s ∧ j = text.length := by
  rw [Expression.regex, regexes_eq_map, itemsOf, List.map_cons, matches_inRow_cons_iff,
    List.map_append, List.map_map]
  have hregex : (Expression.regex ∘ fun c : Char => .oneOf (Scalars.single c.toNat) true)
      = fun c => .leaf (.oneOf (Scalars.single c.toNat)) := rfl
  simp only [hregex, List.map_cons, List.map_nil, Expression.regex, matches_textStart_iff,
    matches_characters_iff]
  constructor
  · rintro ⟨_, ⟨rfl, rfl⟩, _, hs, hj⟩
    exact ⟨rfl, by simpa using hs, hj⟩
  · rintro ⟨rfl, rfl, hj⟩
    exact ⟨0, ⟨rfl, rfl⟩, Nat.zero_le _, rfl, hj⟩

end Matches

/-- **The expression for a text occurs in that text and in no other.** -/
theorem occursIn_exactly (sticky : Bool) (s text : List Char) :
    (exactly sticky s).regex.OccursIn text ↔ text = s := by
  have hmatches (i j : Nat) : Matches text (exactly sticky s).regex i j
      ↔ i = 0 ∧ text = s ∧ j = text.length := by
    cases sticky with
    | false => exact matches_items_iff
    | true =>
        rw [exactly, if_pos rfl, Expression.regex, regexes_eq_map, List.map_cons, List.map_cons,
          List.map_nil, matches_inRow_cons_iff]
        simp only [Regex.inRow, Expression.regex, matches_textStart_iff]
        constructor
        · rintro ⟨_, ⟨rfl, rfl⟩, h⟩
          exact matches_items_iff.mp h
        · rintro ⟨rfl, h⟩
          exact ⟨0, ⟨rfl, rfl⟩, matches_items_iff.mpr ⟨rfl, h⟩⟩
  simp only [Regex.OccursIn, hmatches]
  constructor
  · rintro ⟨i, j, _, _, h, _⟩
    exact h
  · intro h
    exact ⟨0, _, Nat.zero_le _, rfl, h, rfl⟩

/-! ## How large its machine is -/

/-- The number of bytes that a text takes. -/
def byteCount (s : List Char) : Nat := ((s.map Char.toNat).flatMap encode).length

/-- The number of states that the machine of a text has. -/
def stateCount (sticky : Bool) (s : List Char) : Nat := byteCount s + (if sticky then 7 else 6)

/-- The characters of a text as one item, if there are any, and its end. -/
def joinedItems (s : List Char) : List Expression :=
  (if s = [] then [] else [.literal (s.map Char.toNat)]) ++ [.look .textEnd]

theorem simplifiedAll_eq_map (es : List Expression) :
    Expression.simplifiedAll es = es.map Expression.simplified := by
  induction es with
  | nil => rfl
  | cons e es ih => rw [Expression.simplifiedAll, ih, List.map_cons]

theorem simplified_single (c : Char) :
    (Expression.oneOf (Scalars.single c.toNat) true).simplified = .literal [c.toNat] := by
  simp [Expression.simplified, Expression.ofSet, Scalars.single]

/-- The characters of a text, each as an item of its own, and its end. -/
def singleItems (s : List Char) : List Expression :=
  s.map (fun c => .literal [c.toNat]) ++ [.look .textEnd]

/-- Characters that follow each other become one text. -/
theorem foldr_before_singleItems (s : List Char) :
    (singleItems s).foldr Expression.before [] = joinedItems s := by
  induction s with
  | nil => rfl
  | cons c s ih =>
      show Expression.before (.literal [c.toNat]) ((singleItems s).foldr Expression.before []) = _
      rw [ih]
      cases s <;> rfl

theorem foldr_before_joinedItems (s : List Char) :
    (joinedItems s).foldr Expression.before [] = joinedItems s := by
  unfold joinedItems
  split <;> rfl

theorem flatMap_items_singleItems (s : List Char) :
    (singleItems s).flatMap Expression.items = singleItems s := by
  induction s with
  | nil => rfl
  | cons c s ih =>
      show Expression.literal [c.toNat] :: (singleItems s).flatMap Expression.items = _
      rw [ih]
      rfl

theorem simplified_items (s : List Char) :
    (Expression.row (itemsOf s)).simplified = .row (.look .textStart :: joinedItems s) := by
  have hsimplified : Expression.simplifiedAll (itemsOf s) = .look .textStart :: singleItems s := by
    rw [simplifiedAll_eq_map, itemsOf, List.map_cons, List.map_append, List.map_map]
    simp only [Function.comp_def, simplified_single]
    rfl
  have hjoined : ((Expression.look .textStart :: singleItems s).flatMap
      Expression.items).foldr Expression.before [] = .look .textStart :: joinedItems s := by
    rw [List.flatMap_cons, flatMap_items_singleItems, List.foldr_append, foldr_before_singleItems]
    rfl
  rw [Expression.simplified, hsimplified, Expression.inRow, hjoined]
  cases s <;> rfl

/-- A text with its assertions is left, and of the group around it only the first assertion. -/
theorem simplified_exactly (sticky : Bool) (s : List Char) :
    (exactly sticky s).simplified
      = .row (List.replicate (if sticky then 2 else 1) (.look .textStart) ++ joinedItems s) := by
  cases sticky with
  | false => exact simplified_items s
  | true =>
      have hjoined : (([.look .textStart, .row (.look .textStart :: joinedItems s)] :
            List Expression).flatMap Expression.items).foldr Expression.before []
          = .look .textStart :: .look .textStart :: joinedItems s := by
        show Expression.before _ (Expression.before _
          ((joinedItems s ++ []).foldr Expression.before [])) = _
        rw [List.append_nil, foldr_before_joinedItems]
        rfl
      have hlook : (Expression.look .textStart).simplified = .look .textStart := rfl
      rw [exactly, if_pos rfl, Expression.simplified, simplifiedAll_eq_map, List.map_cons,
        List.map_cons, List.map_nil, simplified_items, hlook, Expression.inRow, hjoined]
      cases s <;> rfl

/-- Expressions that are made without a state that chooses. -/
inductive IsSimple : Expression → Prop where
  | look (l : Look) : IsSimple (.look l)
  | literal (text : List Nat) : IsSimple (.literal text)

/-- The number of states that simple expressions take. -/
def statesOf : List Expression → Nat
  | [] => 0
  | .literal text :: es => (text.flatMap encode).length + statesOf es
  | _ :: es => 1 + statesOf es

section Simple

variable {es : List Expression} (h : ∀ e ∈ es, IsSimple e)

theorem IsSimple.endsInChoice {e : Expression} (h : IsSimple e) (d : Direction) :
    e.endsInChoice d = false := by
  cases h <;> rfl

theorem IsSimple.make [Platform] {e : Expression} (h : IsSimple e) (d : Direction) (t : Tally) :
    e.make d t = t.add (statesOf [e]) := by
  cases h <;> rfl

theorem statesOf_cons (e : Expression) (es : List Expression) :
    statesOf (e :: es) = statesOf [e] + statesOf es := by
  cases e <;> rfl

theorem branch_zero (t : Tally) : t.branch 0 = t := rfl

theorem add_add (t : Tally) (m n : Nat) : (t.add m).add n = t.add (m + n) := by
  simp only [Tally.add, Nat.add_assoc]

include h

theorem lastEndsInChoice_simple : Expression.lastEndsInChoice es = false := by
  induction es with
  | nil => rfl
  | cons e es ih =>
      rw [List.forall_mem_cons] at h
      rw [Expression.lastEndsInChoice, ih h.2, h.1.endsInChoice]
      exact ite_self _

theorem firstEndsInChoice_simple : Expression.firstEndsInChoice es = false := by
  cases es with
  | nil => rfl
  | cons e es => exact (h e List.mem_cons_self).endsInChoice .backwards

theorem makeForwards_simple [Platform] (t : Tally) :
    Expression.makeForwards es t = t.add (statesOf es) := by
  induction es generalizing t with
  | nil => rfl
  | cons e es ih =>
      rw [List.forall_mem_cons] at h
      rw [Expression.makeForwards, h.1.make]
      cases es with
      | nil => rfl
      | cons next es =>
          rw [Expression.link, h.1.endsInChoice]
          show Expression.makeForwards (next :: es) ((t.add (statesOf [e])).branch 0) = _
          rw [branch_zero, ih h.2, add_add, ← statesOf_cons]

theorem makeBackwards_simple [Platform] (t : Tally) :
    Expression.makeBackwards es t = t.add (statesOf es) := by
  induction es generalizing t with
  | nil => rfl
  | cons e es ih =>
      rw [List.forall_mem_cons] at h
      rw [Expression.makeBackwards, firstEndsInChoice_simple h.2, h.1.make, ih h.2]
      show ((t.add (statesOf es)).branch 0).add _ = _
      rw [branch_zero, add_add, Nat.add_comm, ← statesOf_cons]

/-- What simple items need, between the assertions of start and end and with the states around. -/
theorem machine_simple [Platform] (hstart : Expression.anyStartsAtStart es = true)
    (hend : Expression.anyEndsAtEnd es = true) (d : Direction) :
    (Expression.row es).machine d = Tally.none.add (statesOf es + if d = .forwards then 4 else 2) := by
  cases d with
  | forwards =>
      have hmake (t : Tally) : (Expression.row es).make .forwards t = t.add (statesOf es) :=
        makeForwards_simple h t
      have hlink : (Expression.row es).link .forwards = 0 := by
        show (if Expression.lastEndsInChoice es = true then 1 else 0) = 0
        rw [lastEndsInChoice_simple h]
        rfl
      have hanchored : (Expression.row es).isAnchored .forwards = true := hstart
      rw [Expression.machine, hanchored, if_pos rfl]
      show (((Expression.row es).make _ _).branch _).add 2 = _
      rw [hmake, hlink, branch_zero, add_add, add_add, add_add, if_pos rfl]
      congr 1
      omega
  | backwards =>
      have hmake (t : Tally) : (Expression.row es).make .backwards t = t.add (statesOf es) :=
        makeBackwards_simple h t
      have hlink : (Expression.row es).link .backwards = 0 := by
        show (if Expression.firstEndsInChoice es = true then 1 else 0) = 0
        rw [firstEndsInChoice_simple h]
        rfl
      have hanchored : (Expression.row es).isAnchored .backwards = true := hend
      rw [Expression.machine, hanchored, if_pos rfl]
      show (((Expression.row es).make _ _).branch _).add 1 = _
      rw [hmake, hlink, branch_zero, add_add, add_add, if_neg (by decide)]
      congr 1
      omega

end Simple

/-- **Only the pattern of a very long text is too large.** -/
theorem isTooLarge_exactly [Platform] (sticky : Bool) (s : List Char) :
    (exactly sticky s).isTooLarge = decide (sizeLimit < stateSize * stateCount sticky s) := by
  let es := List.replicate (if sticky then 2 else 1) (Expression.look .textStart) ++ joinedItems s
  have hsimple : ∀ e ∈ es, IsSimple e := by
    intro e he
    rcases List.mem_append.mp he with he | he
    · rw [(List.mem_replicate.mp he).2]
      exact .look _
    · cases s <;> simp [joinedItems] at he
      · rw [he]; exact .look _
      · rcases he with rfl | rfl
        · exact .literal _
        · exact .look _
  have hstart : Expression.anyStartsAtStart es = true := by cases sticky <;> rfl
  have hend : Expression.anyEndsAtEnd es = true := by cases sticky <;> cases s <;> rfl
  have hstates : statesOf es + 4 = stateCount sticky s := by
    cases sticky <;> cases s <;> simp [es, joinedItems, statesOf, stateCount, byteCount] <;> omega
  have hsize (d : Direction) : ((Expression.row es).machine d).size
      = stateSize * (statesOf es + if d = .forwards then 4 else 2) := by
    rw [machine_simple hsimple hstart hend]
    simp [Tally.size, Tally.add, Tally.none]
  rw [Expression.isTooLarge, simplified_exactly]
  show (((Expression.row es).machine _).isOver || ((Expression.row es).machine _).isOver) = _
  rw [Tally.isOver, Tally.isOver, hsize, hsize, if_pos rfl, if_neg (by decide), hstates,
    ← Bool.decide_or, decide_eq_decide]
  -- reading backwards takes fewer states
  have hle : stateSize * (statesOf es + 2) ≤ stateSize * stateCount sticky s :=
    Nat.mul_le_mul_left _ (by omega)
  omega

end StyleLookup.Pattern

namespace StyleLookup

open Css Pattern Matcher

/-! ## Looking for it -/

theorem foundIn_exactly (sticky : Bool) (s selector : String) :
    (exactly sticky s.toList).regex.foundIn selector.toList = (selector == s) := by
  rw [Bool.eq_iff_iff, Regex.foundIn_iff, beq_iff_eq, ← String.toList_inj]
  exact occursIn_exactly sticky s.toList selector.toList

theorem results_exactly (sticky : Bool) (s : String) (format : Format) (rules : List Rule) :
    results (exactly sticky s.toList).regex format rules
      = (rules.filter (Rule.passes (· == s))).map (Formatted.ofRule format) := by
  simp only [results, foundIn_exactly]

theorem compile_wholly [Platform] {f : Flags} (hcase : f.ignoreCase = false) (s : List Char) :
    f.compile (wholly s)
      = if sizeLimit < stateSize * stateCount f.sticky s then .error .tooLarge
        else .ok (exactly f.sticky s).regex := by
  rw [Flags.compile, Pattern.compile, expressionOf_source hcase]
  simp only [isTooLarge_exactly, decide_eq_true_eq]

/-- A pattern was refused for the size of its machine. -/
def RefusedForSize (outcome : Except Problem Resolution) : Prop :=
  ∃ text compiled, outcome = .error (.invalidPattern text compiled .tooLarge)

/-- The flags that do not fold case and ask for one result. -/
def caselessFlags : List Char := ['m', 's', 'u', 'd', 'y']

/-- What is read from such flags: no case is folded, and one result is wanted. -/
theorem read_caselessFlags {flags : List Char} (hnodup : flags.Nodup)
    (hflags : ∀ c ∈ flags, c ∈ caselessFlags) :
    ∃ f, Flags.read flags = .ok f ∧ f.ignoreCase = false ∧ f.global = false
      ∧ f.sticky = flags.contains 'y' := by
  have hletters : ∀ c ∈ caselessFlags, c ∈ Flags.letters := by
    simp [caselessFlags, Flags.letters]
  obtain ⟨f, hread⟩ := Flags.exists_read hnodup fun c hc => hletters c (hflags c hc)
  have hunset (letter : Char) (h : letter ∉ caselessFlags) : f.has letter = false := by
    rw [Flags.has_of_read hread, List.contains_eq_mem, decide_eq_false_iff_not]
    exact fun hmem => h (hflags letter hmem)
  exact ⟨f, hread, hunset 'i' (by decide), hunset 'g' (by decide),
    Flags.has_of_read hread 'y'⟩

/--
**A pattern for one selector and the selector itself find the same.**

The flags may be any that do not fold case, each at most once. With the global flag among them, the
results are all rules that list the selector, in their order. The only such patterns that are
refused are those whose machine is larger than the limit, with and without the global flag.
-/
theorem resolve_wholly [Platform] (sheet : Stylesheet) (format : Format) (s : String)
    (flags : List Char) (hnodup : flags.Nodup) (hflags : ∀ c ∈ flags, c ∈ caselessFlags) :
    let resolved (flags : List Char) :=
      sheet.resolve format (.pattern (String.ofList (wholly s.toList)) (String.ofList flags))
    let size := stateSize * stateCount (flags.contains 'y') s.toList
    (size ≤ sizeLimit → resolved flags = sheet.resolve format (.selector s)
      ∧ ∀ front back, front ++ back = flags →
        ∃ found, Finds (fun r => s ∈ r.selectors) format sheet.rules found
          ∧ resolved (front ++ 'g' :: back) = .ok (.sequence (found.map some)))
    ∧ (sizeLimit < size → RefusedForSize (resolved flags)
      ∧ ∀ front back, front ++ back = flags →
        RefusedForSize (resolved (front ++ 'g' :: back))) := by
  intro resolved size
  obtain ⟨f, hread, hcase, hglobal, hsticky⟩ := read_caselessFlags hnodup hflags
  have honce : Flags.read (String.ofList flags).toList = .ok f := by rw [String.toList_ofList, hread]
  have hevery {front back : List Char} (h : front ++ back = flags) :
      Flags.read (String.ofList (front ++ 'g' :: back)).toList = .ok (f.set 'g') := by
    have hg : 'g' ∉ front ++ back := fun hmem => by
      have := hflags 'g' (h ▸ hmem)
      revert this
      decide
    rw [List.mem_append, not_or] at hg
    rw [String.toList_ofList, Flags.read_with 'g' (by decide) hg.1 hg.2, h, hread]
    rfl
  -- the global flag is of no account for how the pattern is compiled
  have hcompile : f.compile (String.ofList (wholly s.toList)).toList
      = if sizeLimit < size then .error .tooLarge
        else .ok (exactly f.sticky s.toList).regex := by
    rw [String.toList_ofList, compile_wholly hcase, hsticky]
  refine ⟨fun hsize => ?_, fun hsize => ?_⟩
  · rw [if_neg (Nat.not_lt.mpr hsize)] at hcompile
    refine ⟨?_, fun front back h => ⟨_, finds_filter (Rule.passes (· == s)) (fun r => ?_)
      format sheet.rules, ?_⟩⟩
    · show sheet.resolve _ _ = _
      rw [resolve_of_compiled honce hcompile, hglobal, search_single, results_exactly,
        List.head?_map, List.head?_filter]
      rfl
    · simp [Rule.passes]
    · show sheet.resolve _ _ = _
      rw [resolve_of_compiled (f := f.set 'g') (hevery h) hcompile]
      show Except.ok (sheet.search format true _) = _
      rw [search_global, results_exactly]
  · rw [if_pos hsize] at hcompile
    exact ⟨⟨_, _, resolve_of_refused honce hcompile⟩,
      fun front back h => ⟨_, _, resolve_of_refused (f := f.set 'g') (hevery h) hcompile⟩⟩

/-- A selector of special characters and a line feed, under the flags that could matter. -/
theorem resolve_wholly_special :
    ['m', 'y'].Nodup ∧ (∀ c ∈ ['m', 'y'], c ∈ caselessFlags)
    ∧ stateSize * stateCount true "a|\n$".toList ≤ sizeLimit
    ∧ ∀ sheet : Stylesheet,
      sheet.resolve .string (.pattern (String.ofList (wholly "a|\n$".toList)) (String.ofList ['m', 'y']))
          = sheet.resolve .string (.selector "a|\n$")
        ∧ ∃ found, Finds (fun r => "a|\n$" ∈ r.selectors) .string sheet.rules found
          ∧ sheet.resolve .string (.pattern (String.ofList (wholly "a|\n$".toList))
              (String.ofList ['m', 'g', 'y'])) = .ok (.sequence (found.map some)) := by
  have hsize : stateSize * stateCount true "a|\n$".toList ≤ sizeLimit := by decide +kernel
  have hflags : ∀ c ∈ ['m', 'y'], c ∈ caselessFlags := by simp [caselessFlags]
  refine ⟨by decide, hflags, hsize, fun sheet => ?_⟩
  have h := (resolve_wholly sheet .string "a|\n$" ['m', 'y'] (by decide) hflags).1 hsize
  exact ⟨h.1, h.2 ['m'] ['y'] rfl⟩

end StyleLookup
