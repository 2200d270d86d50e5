import Mathlib.Data.List.Basic
import Mathlib.Data.List.TakeWhile
import StyleLookup.Css.Lexer

/-!
# How far scanners look ahead

A scanner decides where its token ends by what follows, so a token may read differently when the
text behind it changes. It does not when both texts start at a **boundary**: a character that no
scanner looks ahead for. This file proves it scanner by scanner. If of `u` in front of `x` a scanner
leaves `w`, it leaves `w` of `u` in front of `y` as well, and reads the same.

One thing does change. An escape takes white space that comes to stand right behind it, so that a
scanner which took all of `u` may take white space of `y` as well; `Skips` says what is left of `y`.
And two things could spoil the rest. A backslash at the end of `u` would take the first character of
`y` along. A scanner that ran on to the end of the text would run on into `y`; such scanners are
treated in the file after this one.
-/

namespace StyleLookup.Css

open StyleLookup.Text

namespace Lexer

/-! ## Boundaries -/

/-- White space, vertical tabulators, and the brackets and marks of which every one is a token. -/
def boundaries : List Char :=
  [' ', '\t', '\n', '\r', '\x0c', '\x0b', ';', ':', ',', '/', '\x7b', '\x7d', ')', ']']

/-- Whether a character starts no longer token and continues none. -/
def isBoundary (c : Char) : Bool := boundaries.contains c

/-- A text that starts at a boundary, or has no characters. -/
def AtBoundary (x : List Char) : Prop := ∀ c ∈ x.head?, isBoundary c = true

/-- A text that ends with neither white space nor a backslash. -/
def Solid (u : List Char) : Prop := ∀ c ∈ u.getLast?, isSpace c = false ∧ c ≠ '\\'

/-- A scanner that leaves `w` of `u` in front of `x` may find `y` there. -/
structure Joins (u w x y : List Char) : Prop where
  source : AtBoundary x
  target : AtBoundary y
  /-- White space at the start of `y` may be taken, and then its rest is seen. -/
  calm : w ≠ [] ∨ AtBoundary (y.dropWhile isSpace)
  /-- The end of the text is no character for a backslash to take. -/
  whole : x = [] → u.getLast? ≠ some '\\'

/-- What `r` lacks of `y` is white space in front, and only behind an empty `w` it lacks any. -/
def Skips (w y r : List Char) : Prop :=
  ∃ s, y = s ++ r ∧ (∀ c ∈ s, isSpace c = true) ∧ (w ≠ [] → s = [])

/-- The texts `x` and `y` are alike for a scanner that leaves `w` of `u`. -/
structure Moves (u w x y : List Char) : Prop where
  solid : Solid u
  source : AtBoundary x
  target : AtBoundary y
  /-- If the scanner takes all of `u`, it stops there for the sake of `x`. -/
  apart : w ≠ [] ∨ x ≠ [] ∧ ∀ c ∈ y.head?, isSpace c = false

theorem atBoundary_cons {c : Char} {cs : List Char} (h : isBoundary c = true) :
    AtBoundary (c :: cs) := by
  intro d hd
  rw [List.head?_cons, Option.mem_def] at hd
  rw [← Option.some.inj hd]
  exact h

theorem isBoundary_of_isSpace {c : Char} (h : isSpace c = true) : isBoundary c = true := by
  unfold isSpace isNewline at h
  simp only [Bool.or_eq_true, beq_iff_eq] at h
  rcases h with (h | h) | (h | h) | h <;> (rw [h]; rfl)

theorem AtBoundary.ne {b c : Char} {x : List Char} (hx : AtBoundary (b :: x))
    (hc : isBoundary c = false) : b ≠ c := by
  intro h
  have hb := hx b rfl
  rw [h, hc] at hb
  exact Bool.false_ne_true hb

theorem isNameChar_of_isBoundary {c : Char} (h : isBoundary c = true) : isNameChar c = false := by
  have hall : boundaries.all (fun c => !isNameChar c) = true := by decide
  have := List.all_eq_true.mp hall c (List.contains_iff_mem.mp h)
  simpa using this

theorem isHexDigit_of_isBoundary {c : Char} (h : isBoundary c = true) :
    Hexadecimal.isDigit c = false := by
  have hall : boundaries.all (fun c => !Hexadecimal.isDigit c) = true := by decide
  have := List.all_eq_true.mp hall c (List.contains_iff_mem.mp h)
  simpa using this

theorem isNameStart_of_isBoundary {c : Char} (h : isBoundary c = true) :
    isNameStart c = false := by
  have hc := isNameChar_of_isBoundary h
  rw [isNameChar, Bool.or_eq_false_iff, Bool.or_eq_false_iff] at hc
  exact hc.1.1

theorem isDigit_of_isBoundary {c : Char} (h : isBoundary c = true) : isDigit c = false := by
  have hc := isNameChar_of_isBoundary h
  rw [isNameChar, Bool.or_eq_false_iff, Bool.or_eq_false_iff] at hc
  exact hc.1.2

theorem Solid.tail {c : Char} {u : List Char} (h : Solid (c :: u)) : Solid u := by
  cases u with
  | nil => intro d hd; exact absurd hd (by simp)
  | cons d u => intro e he; exact h e (by rwa [List.getLast?_cons_cons])

theorem Solid.append {u v : List Char} (hv : Solid v) (hne : v ≠ []) : Solid (u ++ v) := by
  obtain ⟨front, last, rfl⟩ := (List.eq_nil_or_concat' v).resolve_left hne
  intro c hc
  rw [← List.append_assoc, List.getLast?_concat] at hc
  refine hv c ?_
  rw [List.getLast?_concat]
  exact hc

theorem Solid.of_suffix {u v : List Char} (h : Solid u) (hv : v <:+ u) : Solid v := by
  obtain ⟨front, rfl⟩ := hv
  induction front with
  | nil => exact h
  | cons c front ih => exact ih h.tail

/-- White space is never the end of a solid text. -/
theorem Solid.dropWhile_ne_nil {u : List Char} (h : Solid u) (hu : u ≠ []) :
    u.dropWhile isSpace ≠ [] := by
  intro hnil
  have hall := List.dropWhile_eq_nil_iff.mp hnil
  obtain ⟨front, last, rfl⟩ := (List.eq_nil_or_concat' u).resolve_left hu
  have hlast := (h last (by simp)).1
  rw [hall last (by simp)] at hlast
  exact Bool.false_ne_true hlast.symm

theorem Joins.of_suffix {u v w x y : List Char} (h : Joins u w x y) (hv : v <:+ u) :
    Joins v w x y := by
  refine ⟨h.source, h.target, h.calm, ?_⟩
  intro hx hlast
  obtain ⟨front, rfl⟩ := hv
  exact h.whole hx (List.mem_getLast?_append_of_mem_getLast? hlast)

theorem Joins.tail {c : Char} {u w x y : List Char} (h : Joins (c :: u) w x y) : Joins u w x y :=
  h.of_suffix (List.suffix_cons c u)

theorem Joins.leave {u v w x y : List Char} (h : Joins u w x y) (hw : w <:+ v) :
    Joins u v x y := by
  refine ⟨h.source, h.target, h.calm.imp_left ?_, h.whole⟩
  intro hne hv
  subst hv
  exact hne (List.suffix_nil.mp hw)

theorem Skips.refl (w y : List Char) : Skips w y y :=
  ⟨[], rfl, fun _ h => absurd h List.not_mem_nil, fun _ => rfl⟩

theorem Skips.eq {w y r : List Char} (h : Skips w y r) (hw : w ≠ []) : r = y := by
  obtain ⟨s, rfl, _, hs⟩ := h
  rw [hs hw, List.nil_append]

theorem skips_dropWhile (y : List Char) : Skips [] y (y.dropWhile isSpace) :=
  ⟨y.takeWhile isSpace, List.takeWhile_append_dropWhile.symm,
    fun _ => List.mem_takeWhile_imp, fun h => absurd rfl h⟩

/-- Nothing is taken of a text that starts with no white space. -/
theorem Skips.eq_of_head? {w y r : List Char} (h : Skips w y r)
    (hy : ∀ c ∈ y.head?, isSpace c = false) : r = y := by
  obtain ⟨s, rfl, hs, _⟩ := h
  cases s with
  | nil => rfl
  | cons c s =>
      have hc := hs c List.mem_cons_self
      rw [hy c rfl] at hc
      exact absurd hc Bool.false_ne_true

/-- What is left of `y` starts at a boundary, however much of its white space is taken. -/
theorem Joins.atBoundary {u w x y r : List Char} (h : Joins u w x y) (hr : Skips w y r) :
    AtBoundary r := by
  by_cases hw : w = []
  · obtain ⟨s, rfl, hs, _⟩ := hr
    have hcalm := h.calm.resolve_left fun h => h hw
    rw [List.dropWhile_append_of_pos hs] at hcalm
    cases r with
    | nil => exact hcalm
    | cons c r =>
        by_cases hc : isSpace c = true
        · exact atBoundary_cons (isBoundary_of_isSpace hc)
        · rwa [List.dropWhile_cons_of_neg hc] at hcalm
  · rw [hr.eq hw]
    exact h.target

/-! ## What is left of a text -/

theorem suffix_of_append_suffix {v u x : List Char} (h : v ++ x <:+ u ++ x) : v <:+ u := by
  obtain ⟨front, hfront⟩ := h
  rw [← List.append_assoc] at hfront
  exact ⟨front, List.append_cancel_right hfront⟩

/-- What lies between two rests of a text is a rest as well. -/
theorem exists_between {u w x r : List Char} (hr : r <:+ u ++ x) (hw : w ++ x <:+ r) :
    ∃ v, r = v ++ x ∧ v <:+ u ∧ w <:+ v := by
  obtain ⟨front, rfl⟩ := hw
  rw [← List.append_assoc] at hr
  exact ⟨front ++ w, by rw [List.append_assoc], suffix_of_append_suffix hr, List.suffix_append _ _⟩

theorem eq_nil_of_suffix {w x : List Char} (h : w ++ x <:+ x) : w = [] := by
  have h : w ++ x <:+ [] ++ x := h
  exact List.suffix_nil.mp (suffix_of_append_suffix h)

/-- A scanner that goes into `x` does not leave `x`. -/
theorem absurd_of_suffix_tail {w x r : List Char} (hne : w ≠ [] ∨ x ≠ []) (hr : r <:+ x.tail)
    (h : r = w ++ x) : False := by
  subst h
  have hw : w = [] := eq_nil_of_suffix (hr.trans (List.tail_suffix x))
  have hx := hne.resolve_left fun h => h hw
  have hlength := hr.length_le
  have hpos := List.length_pos_iff.mpr hx
  rw [hw, List.nil_append, List.length_tail] at hlength
  omega

/-! ## Characters ahead -/

theorem atNewline_append {u : List Char} (hu : u ≠ []) (x : List Char) :
    atNewline (u ++ x) = atNewline u := by
  cases u with
  | nil => exact absurd rfl hu
  | cons c u => rfl

theorem any_head?_append {p : Char → Bool} (hp : ∀ c, isBoundary c = true → p c = false)
    {u x : List Char} (hx : AtBoundary x) : (u ++ x).head?.any p = u.head?.any p := by
  cases u with
  | cons c u => rfl
  | nil =>
      cases x with
      | nil => rfl
      | cons b x => exact hp b (hx b rfl)

/-- What a character and those behind it say about an identifier. -/
theorem atIdent_cons (c : Char) (cs : List Char) :
    atIdent (c :: cs) = if c = '-' then
        cs.head?.any (fun d => isNameStart d || d == '-' || d == '\\')
      else if c = '\\' then !atNewline cs else isNameStart c := by
  by_cases hminus : c = '-'
  · subst hminus
    rw [if_pos rfl]
    cases cs with
    | nil => decide
    | cons d cs => rfl
  · rw [if_neg hminus]
    by_cases hback : c = '\\'
    · subst hback
      rfl
    · rw [if_neg hback]
      unfold atIdent
      split
      · rename_i h; injection h with h; exact absurd h hminus
      · rename_i h; injection h with h; exact absurd h hback
      · rename_i h; injection h with h; rw [h]
      · rename_i h; exact absurd h (List.cons_ne_nil _ _)

theorem atIdent_append {u x : List Char} (hu : u ≠ ['\\']) (hx : AtBoundary x) :
    atIdent (u ++ x) = atIdent u := by
  cases u with
  | nil =>
      cases x with
      | nil => rfl
      | cons b x =>
          have hminus : b ≠ '-' := hx.ne rfl
          have hback : b ≠ '\\' := hx.ne rfl
          rw [List.nil_append, atIdent_cons, if_neg hminus, if_neg hback,
            isNameStart_of_isBoundary (hx b rfl), atIdent]
  | cons c u =>
      -- the second character may be the first of `x`, and that one starts no identifier
      have hahead : ∀ d, isBoundary d = true →
          (isNameStart d || d == '-' || d == '\\') = false := by
        intro d hd
        have hd : AtBoundary [d] := by simpa [AtBoundary] using hd
        have hminus : (d == '-') = false := beq_eq_false_iff_ne.mpr (hd.ne rfl)
        have hback : (d == '\\') = false := beq_eq_false_iff_ne.mpr (hd.ne rfl)
        rw [isNameStart_of_isBoundary (hd d rfl), hminus, hback]
        rfl
      rw [List.cons_append, atIdent_cons, atIdent_cons, any_head?_append hahead hx]
      by_cases hback : c = '\\'
      · subst hback
        have hne : u ≠ [] := fun h => hu (by rw [h])
        rw [atNewline_append hne]
      · rw [if_neg hback, if_neg hback]

theorem atNumber_cons (c : Char) (cs : List Char) :
    atNumber (c :: cs) = if c = '.' then cs.head?.any isDigit else isDigit c := by
  by_cases hc : c = '.'
  · subst hc
    cases cs with
    | nil => decide
    | cons d cs => rfl
  · rw [if_neg hc]
    unfold atNumber
    split
    · rename_i h; injection h with h; exact absurd h hc
    · rename_i h; injection h with h; rw [h]
    · rename_i h; exact absurd h (List.cons_ne_nil _ _)

theorem atNumber_append {u x : List Char} (hx : AtBoundary x) :
    atNumber (u ++ x) = atNumber u := by
  cases u with
  | nil =>
      cases x with
      | nil => rfl
      | cons b x =>
          have hpoint : b ≠ '.' := hx.ne rfl
          rw [List.nil_append, atNumber_cons, if_neg hpoint, isDigit_of_isBoundary (hx b rfl),
            atNumber]
  | cons c u =>
      rw [List.cons_append, atNumber_cons, atNumber_cons,
        any_head?_append (fun _ => isDigit_of_isBoundary) hx]

theorem startsNumber_append {c : Char} {u x : List Char} (hx : AtBoundary x) :
    startsNumber c (u ++ x) = startsNumber c u := by
  rw [startsNumber, startsNumber, atNumber_append hx,
    any_head?_append (fun _ => isDigit_of_isBoundary) hx]

/-! ## Numbers -/

theorem dropWhile_isDigit_append {u x : List Char} (hx : AtBoundary x) :
    (u ++ x).dropWhile isDigit = u.dropWhile isDigit ++ x
      ∧ (u ++ x).takeWhile isDigit = u.takeWhile isDigit := by
  induction u with
  | nil =>
      cases x with
      | nil => exact ⟨rfl, rfl⟩
      | cons b x =>
          have hb : ¬ isDigit b = true := by
            rw [isDigit_of_isBoundary (hx b rfl)]
            exact Bool.false_ne_true
          rw [List.nil_append, List.dropWhile_cons_of_neg hb, List.takeWhile_cons_of_neg hb]
          exact ⟨rfl, rfl⟩
  | cons c u ih =>
      by_cases hc : isDigit c = true
      · rw [List.cons_append, List.dropWhile_cons_of_pos hc, List.dropWhile_cons_of_pos hc,
          List.takeWhile_cons_of_pos hc, List.takeWhile_cons_of_pos hc, ih.1, ih.2]
        exact ⟨rfl, rfl⟩
      · rw [List.cons_append, List.dropWhile_cons_of_neg hc, List.dropWhile_cons_of_neg hc,
          List.takeWhile_cons_of_neg hc, List.takeWhile_cons_of_neg hc]
        exact ⟨rfl, rfl⟩

theorem sign_append {u x : List Char} (hx : AtBoundary x) :
    sign (u ++ x) = ((sign u).1, (sign u).2 ++ x) := by
  cases u with
  | cons c u => unfold sign; split <;> split <;> simp_all
  | nil =>
      cases x with
      | nil => rfl
      | cons b x =>
          have hminus : b ≠ '-' := hx.ne rfl
          have hplus : b ≠ '+' := hx.ne rfl
          unfold sign
          split <;> simp_all

theorem fraction_append {u x : List Char} (hx : AtBoundary x) :
    fraction (u ++ x) = ((fraction u).1, (fraction u).2 ++ x) := by
  match u with
  | [] =>
      cases x with
      | nil => rfl
      | cons b x =>
          have hpoint : b ≠ '.' := hx.ne rfl
          unfold fraction
          split <;> simp_all
  | [c] =>
      cases x with
      | nil => unfold fraction; split <;> simp_all
      | cons b x =>
          have hb : isDigit b = false := isDigit_of_isBoundary (hx b rfl)
          unfold fraction
          split <;> simp_all
  | c :: d :: u =>
      by_cases hpoint : c = '.'
      · subst hpoint
        rw [List.cons_append, List.cons_append, fraction, fraction, ← List.cons_append,
          (dropWhile_isDigit_append hx).1, (dropWhile_isDigit_append hx).2]
        split
        · rfl
        · rfl
      · unfold fraction
        split <;> simp_all

theorem exponent_append {u x : List Char} (hx : AtBoundary x) :
    exponent (u ++ x) = ((exponent u).1, (exponent u).2 ++ x) := by
  cases u with
  | nil =>
      cases x with
      | nil => rfl
      | cons b x =>
          have hlower : b ≠ 'e' := hx.ne rfl
          have hupper : b ≠ 'E' := hx.ne rfl
          simp [exponent, hlower, hupper]
  | cons c u =>
      rw [List.cons_append, exponent, exponent, sign_append hx]
      dsimp only
      rw [any_head?_append (fun _ => isDigit_of_isBoundary) hx, (dropWhile_isDigit_append hx).1,
        (dropWhile_isDigit_append hx).2]
      split
      · rfl
      · rfl

theorem numeral_append {u x : List Char} (hx : AtBoundary x) :
    numeral (u ++ x) = ((numeral u).1, (numeral u).2 ++ x) := by
  unfold numeral
  rw [sign_append hx]
  dsimp only
  rw [(dropWhile_isDigit_append hx).1, (dropWhile_isDigit_append hx).2, fraction_append hx]
  dsimp only
  rw [exponent_append hx]

/-! ## Escapes and names -/

theorem dropOneSpace_cons (c : Char) (s : List Char) :
    dropOneSpace (c :: s)
      = if c = '\r' ∧ s.head? = some '\n' then s.tail else if isSpace c then s else c :: s := by
  by_cases hpair : c = '\r' ∧ s.head? = some '\n'
  · rw [if_pos hpair]
    obtain ⟨rfl, hs⟩ := hpair
    obtain ⟨ds, rfl⟩ := List.head?_eq_some_iff.mp hs
    rfl
  · rw [if_neg hpair]
    unfold dropOneSpace
    split
    · rename_i h
      injection h with h1 h2
      exact absurd ⟨h1, by rw [h2]; rfl⟩ hpair
    · rename_i h
      injection h with h1 h2
      rw [← h1, ← h2]
    · rename_i h
      exact absurd h (List.cons_ne_nil _ _)

/-- What is dropped is white space. -/
theorem skips_dropOneSpace (y : List Char) : Skips [] y (dropOneSpace y) := by
  cases y with
  | nil => exact .refl _ _
  | cons c y =>
      have hline : isSpace '\n' = true := rfl
      rw [dropOneSpace_cons]
      split
      · rename_i hpair
        obtain ⟨rfl, hy⟩ := hpair
        obtain ⟨ds, rfl⟩ := List.head?_eq_some_iff.mp hy
        exact ⟨['\r', '\n'], rfl, List.forall_mem_cons.mpr ⟨rfl, List.forall_mem_singleton.mpr rfl⟩,
          fun h => absurd rfl h⟩
      · split
        · exact ⟨[c], rfl, List.forall_mem_singleton.mpr ‹_›, fun h => absurd rfl h⟩
        · exact .refl _ _

theorem dropOneSpace_joins {u v x : List Char} (h : dropOneSpace (u ++ x) = v ++ x)
    (y : List Char) : ∃ r, Skips v y r ∧ dropOneSpace (u ++ y) = v ++ r := by
  cases u with
  | nil =>
      have hv : v = [] := eq_nil_of_suffix (h ▸ dropOneSpace_suffix x)
      subst hv
      exact ⟨_, skips_dropOneSpace y, rfl⟩
  | cons c u =>
      rw [List.cons_append, dropOneSpace_cons] at h ⊢
      by_cases hu : u = []
      · -- only the line feed of a pair can still be taken, and of `x` it is not
        subst hu
        rw [List.nil_append] at h ⊢
        have hx : ¬ (c = '\r' ∧ x.head? = some '\n') := by
          intro hpair
          rw [if_pos hpair] at h
          refine absurd_of_suffix_tail (.inr ?_) (List.suffix_refl _) h
          intro hx
          rw [hx] at hpair
          cases hpair.2
        rw [if_neg hx] at h
        by_cases hc : isSpace c = true
        · rw [if_pos hc] at h
          have hv : v = [] := List.self_eq_append_left.mp h
          subst hv
          by_cases hy : c = '\r' ∧ y.head? = some '\n'
          · rw [if_pos hy]
            obtain ⟨ds, rfl⟩ := List.head?_eq_some_iff.mp hy.2
            exact ⟨ds, ⟨['\n'], rfl, List.forall_mem_singleton.mpr rfl, fun h => absurd rfl h⟩, rfl⟩
          · rw [if_neg hy, if_pos hc]
            exact ⟨y, .refl _ _, rfl⟩
        · have hy : ¬ (c = '\r' ∧ y.head? = some '\n') := fun hy => hc (by rw [hy.1]; rfl)
          rw [if_neg hc] at h
          have hv : [c] = v := List.append_cancel_right h
          rw [if_neg hy, if_neg hc, ← hv]
          exact ⟨y, .refl _ _, rfl⟩
      · obtain ⟨d, u, rfl⟩ := List.exists_cons_of_ne_nil hu
        refine ⟨y, .refl _ _, ?_⟩
        rw [List.cons_append, List.head?_cons, List.tail_cons] at h ⊢
        split at h
        · rw [if_pos ‹_›, List.append_cancel_right h]
        · rw [if_neg ‹_›]
          split at h
          · have hv : d :: u = v := List.append_cancel_right h
            rw [if_pos ‹_›, ← hv, List.cons_append]
          · have hv : c :: d :: u = v := List.append_cancel_right h
            rw [if_neg ‹_›, ← hv, List.cons_append, List.cons_append]

/-- The digits of an escape end at a boundary. -/
theorem takeWhile_isHexDigit_append {u x : List Char} (hx : AtBoundary x) (n : Nat) :
    ((u ++ x).take n).takeWhile Hexadecimal.isDigit = (u.take n).takeWhile Hexadecimal.isDigit := by
  induction u generalizing n with
  | nil =>
      cases x with
      | nil => rfl
      | cons b x =>
          cases n with
          | zero => rfl
          | succ n =>
              rw [List.nil_append, List.take_succ_cons, List.takeWhile_cons_of_neg]
              · rfl
              · rw [isHexDigit_of_isBoundary (hx b rfl)]
                exact Bool.false_ne_true
  | cons c u ih =>
      cases n with
      | zero => rfl
      | succ n =>
          rw [List.cons_append, List.take_succ_cons, List.take_succ_cons, List.takeWhile_cons,
            List.takeWhile_cons, ih]

/-- The digits of a hexadecimal escape do not depend on what follows at a boundary. -/
theorem escape_append_of_isHexDigit {c : Char} {cs x : List Char}
    (hc : Hexadecimal.isDigit c = true) (hx : AtBoundary x) :
    escape (c :: cs ++ x)
      = (scalar (Hexadecimal.value (((c :: cs).take 6).takeWhile Hexadecimal.isDigit)),
        dropOneSpace ((c :: cs).drop (((c :: cs).take 6).takeWhile Hexadecimal.isDigit).length
          ++ x)) := by
  have hdigits := takeWhile_isHexDigit_append (u := c :: cs) hx 6
  have hle : (((c :: cs).take 6).takeWhile Hexadecimal.isDigit).length ≤ (c :: cs).length :=
    (List.takeWhile_prefix _).length_le.trans (List.length_take_le' 6 (c :: cs))
  rw [← List.drop_append_of_le_length hle, ← hdigits, List.cons_append, escape, if_pos hc]

theorem escape_joins {u v x y : List Char} (hx : AtBoundary x) (hy : AtBoundary y) (hu : u ≠ [])
    (h : (escape (u ++ x)).2 = v ++ x) :
    ∃ r, Skips v y r ∧ escape (u ++ y) = ((escape (u ++ x)).1, v ++ r) := by
  cases u with
  | nil => exact absurd rfl hu
  | cons c cs =>
      by_cases hc : Hexadecimal.isDigit c = true
      · rw [escape_append_of_isHexDigit hc hx] at h ⊢
        rw [escape_append_of_isHexDigit hc hy]
        obtain ⟨r, hr, hread⟩ := dropOneSpace_joins h y
        exact ⟨r, hr, by rw [hread]⟩
      · -- without digits an escape takes one character, whatever that is
        rw [List.cons_append, escape, if_neg hc] at h ⊢
        rw [List.cons_append, escape, if_neg hc, List.append_cancel_right h]
        exact ⟨y, .refl _ _, rfl⟩

/-- At a boundary an escape takes a character. -/
theorem escape_suffix_tail {x : List Char} (hx : AtBoundary x) : (escape x).2 <:+ x.tail := by
  cases x with
  | nil => exact List.suffix_refl _
  | cons b x =>
      have hb : ¬ Hexadecimal.isDigit b = true := by
        rw [isHexDigit_of_isBoundary (hx b rfl)]
        exact Bool.false_ne_true
      rw [escape, if_neg hb]
      exact List.suffix_refl _

theorem name_of_atBoundary {x : List Char} (hx : AtBoundary x) : name x = ([], x) := by
  cases x with
  | nil => rw [name]
  | cons b x =>
      have hname : ¬ isNameChar b = true := by
        rw [isNameChar_of_isBoundary (hx b rfl)]
        exact Bool.false_ne_true
      have hback : b ≠ '\\' := hx.ne rfl
      rw [name, if_neg hname, if_neg (fun h => hback h.1)]

/-- A backslash in front of no line end takes a character. -/
theorem name_backslash_suffix {x : List Char} (hx : AtBoundary x) (hline : atNewline x = false) :
    (name ('\\' :: x)).2 <:+ x.tail := by
  rw [name, if_neg (by decide), if_pos ⟨rfl, hline⟩]
  exact (name_suffix _).trans (escape_suffix_tail hx)

/-- No name ends between a backslash and what the backslash takes. -/
theorem ne_backslash_of_name {u w x y : List Char} (hm : Joins u w x y) (hw : w ≠ ['\\'])
    (h : (name (u ++ x)).2 = w ++ x) : u ≠ ['\\'] := by
  intro hu
  subst hu
  have hx : x ≠ [] := fun hx => hm.whole hx rfl
  by_cases hline : atNewline x = false
  · exact absurd_of_suffix_tail (.inr hx) (name_backslash_suffix hm.source hline) h
  · rw [List.singleton_append, name, if_neg (by decide), if_neg (fun h => hline h.2)] at h
    have hback : ['\\'] = w := List.append_cancel_right h
    exact hw hback.symm

theorem name_joins {u w x y : List Char} (hm : Joins u w x y) (hw : w ≠ ['\\'])
    (h : (name (u ++ x)).2 = w ++ x) :
    ∃ r, Skips w y r ∧ name (u ++ y) = ((name (u ++ x)).1, w ++ r) := by
  -- the induction goes by length, because an escape takes several characters at once
  induction hn : u.length using Nat.strongRecOn generalizing u with
  | ind n ih =>
    have hlone := ne_backslash_of_name hm hw h
    cases u with
    | nil =>
        rw [List.nil_append, name_of_atBoundary hm.source] at h
        have hw : w = [] := List.self_eq_append_left.mp h
        rw [List.nil_append, List.nil_append, name_of_atBoundary hm.source,
          name_of_atBoundary hm.target, hw]
        exact ⟨y, .refl _ _, rfl⟩
    | cons c cs =>
        rw [List.length_cons] at hn
        rw [List.cons_append, name] at h ⊢
        rw [List.cons_append, name]
        by_cases hc : isNameChar c = true
        · rw [if_pos hc] at h ⊢
          rw [if_pos hc]
          dsimp only at h ⊢
          obtain ⟨r, hr, hread⟩ := ih cs.length (by omega) hm.tail h rfl
          exact ⟨r, hr, by rw [hread]⟩
        · rw [if_neg hc] at h ⊢
          rw [if_neg hc]
          by_cases hback : c = '\\'
          · subst hback
            -- what the backslash stands before is a character of `u`
            have hcs : cs ≠ [] := fun hcs => hlone (by rw [hcs])
            rw [atNewline_append hcs] at h ⊢
            rw [atNewline_append hcs]
            by_cases hline : atNewline cs = false
            · rw [if_pos ⟨rfl, hline⟩] at h ⊢
              rw [if_pos ⟨rfl, hline⟩]
              dsimp only at h ⊢
              obtain ⟨v, hv, hvcs, hwv⟩ :=
                exists_between (escape_suffix (cs ++ x)) (h ▸ name_suffix _)
              have hlength := hvcs.length_le
              obtain ⟨r, hr, hescape⟩ := escape_joins hm.source hm.target hcs hv
              rw [hv] at h
              rw [hescape, hv]
              dsimp only
              by_cases hvnil : v = []
              · -- the name ends with the escape, which may take white space of `y`
                subst hvnil
                have hwnil : w = [] := List.suffix_nil.mp hwv
                subst hwnil
                rw [List.nil_append, List.nil_append, name_of_atBoundary hm.source,
                  name_of_atBoundary (hm.atBoundary hr)]
                exact ⟨r, hr, rfl⟩
              · rw [hr.eq hvnil]
                obtain ⟨r', hr', hread⟩ := ih v.length (by omega) (hm.tail.of_suffix hvcs) h rfl
                exact ⟨r', hr', by rw [hread]⟩
            · rw [if_neg (fun h => hline h.2)] at h ⊢
              rw [if_neg (fun h => hline h.2)]
              have hw : '\\' :: cs = w := List.append_cancel_right h
              rw [← hw]
              exact ⟨y, .refl _ _, rfl⟩
          · rw [if_neg (fun h => hback h.1)] at h ⊢
            rw [if_neg (fun h => hback h.1)]
            have hw : c :: cs = w := List.append_cancel_right h
            rw [← hw]
            exact ⟨y, .refl _ _, rfl⟩

end Lexer

end StyleLookup.Css
