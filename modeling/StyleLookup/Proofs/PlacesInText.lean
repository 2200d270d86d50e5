import StyleLookup.Proofs.Concatenation
import StyleLookup.Proofs.TokenEnds

/-!
# Lines and columns that name one place

A line and a column are found by passing over the text in front of a place. Whoever is shown them
goes the other way: down the lines of the whole text, and along the line. `Marks` says what
is found so, and it is one place (`Marks.unique`), with one exception that it excludes. A
carriage return and the line feed behind it end one line, and between them there is no place on any
line; passing over the text up to there counts the carriage return as a line end of its own.

Faults stand between tokens, so the exception would matter if a token could end there. None does
(`Lexer.next_whole`), though tokens may well end in a carriage return, or have one inside. White
space takes all that there is of it. An escaped character code takes one white space along that
follows it, and an escape in a string takes a line end; both take the pair as one.
-/

namespace StyleLookup.Css

open Text Lexer

/-! ## What readers leave -/

namespace Lexer

variable {s t r : List Char} {c : Char}

/-- What is left of a text does not start between the two characters of a line end. -/
def Whole (s r : List Char) : Prop := r.head? = some '\n' → ¬ '\r' :: r <:+ s

namespace Whole

theorem refl (s : List Char) : Whole s s := by
  intro _ hsuffix
  have hlength := hsuffix.length_le
  rw [List.length_cons] at hlength
  omega

theorem of_head (h : r.head? ≠ some '\n') : Whole s r := fun hr => absurd hr h

/-- What was taken ends in another character. -/
theorem of_ends (h : c :: r <:+ s) (hc : c ≠ '\r') : Whole s r := by
  intro _ hreturn
  have hsuffix := List.suffix_of_suffix_length_le hreturn h (Nat.le_refl _)
  injection hsuffix.eq_of_length rfl with hsame
  exact hc hsame.symm

theorem cons (h : Whole s r) (hc : c ≠ '\r') : Whole (c :: s) r := by
  intro hr hsuffix
  rcases List.suffix_cons_iff.mp hsuffix with hall | hrest
  · injection hall with hsame
    exact hc hsame.symm
  · exact h hr hrest

/-- A reader goes on where another stopped. -/
theorem trans (h : Whole s t) (hs : t <:+ s) (h' : Whole t r) (ht : r <:+ t) : Whole s r := by
  intro hr hsuffix
  by_cases hlength : r.length < t.length
  · exact h' hr (List.suffix_of_suffix_length_le hsuffix hs hlength)
  · obtain rfl := ht.eq_of_length (Nat.le_antisymm ht.length_le (Nat.not_lt.mp hlength))
    exact h hr hsuffix

theorem tail (hc : c ≠ '\r') (s : List Char) : Whole (c :: s) s := (refl s).cons hc

theorem dropWhile {p : Char → Bool} (hp : p '\r' = false) (s : List Char) :
    Whole s (s.dropWhile p) := by
  induction s with
  | nil => exact refl []
  | cons c s ih =>
      rw [List.dropWhile_cons]
      split
      · rename_i hc
        refine ih.cons ?_
        rintro rfl
        rw [hp] at hc
        exact Bool.false_ne_true hc
      · exact refl _

/-- A carriage return that is taken alone has no line feed behind it. -/
theorem of_alone (h : ∀ r, c = '\r' → s ≠ '\n' :: r) : Whole (c :: s) s := by
  intro hhead hsuffix
  obtain ⟨r, hr⟩ := List.head?_eq_some_iff.mp hhead
  injection hsuffix.eq_of_length rfl with hc
  exact h r hc.symm hr

end Whole

theorem dropOneSpace_whole (s : List Char) : Whole s (dropOneSpace s) := by
  unfold dropOneSpace
  split
  · exact .of_ends (List.suffix_cons _ _) (by decide)
  · rename_i c cs hpair
    split
    · exact .of_alone hpair
    · exact .refl _
  · exact .refl _

theorem dropNewline_whole (s : List Char) : Whole s (dropNewline s) := by
  unfold dropNewline
  split
  · exact .of_ends (List.suffix_cons _ _) (by decide)
  · rename_i c cs hpair
    exact .of_alone hpair
  · exact .refl _

theorem ne_return_of_not_newline (h : isNewline c = false) : c ≠ '\r' := by
  rintro rfl
  exact absurd h (by decide)

theorem ne_return_of_isNameChar (h : isNameChar c = true) : c ≠ '\r' := by
  rintro rfl
  exact absurd h (by decide)

/-- An escape that is one. -/
theorem escape_whole (h : atNewline s = false) : Whole s (escape s).2 := by
  cases s with
  | nil => exact .refl []
  | cons c cs =>
      rw [escape]
      split
      · let digits := ((c :: cs).take 6).takeWhile Hexadecimal.isDigit
        have hdrop : Whole (c :: cs) ((c :: cs).drop digits.length) := by
          -- the last character that is dropped is a digit
          obtain ⟨back, hback⟩ : digits <+: c :: cs :=
            (List.takeWhile_prefix _).trans (List.take_prefix _ _)
          rcases List.eq_nil_or_concat' digits with hnil | ⟨front, d, hlast⟩
          · rw [hnil]
            exact .refl _
          · have hd : Hexadecimal.isDigit d = true :=
              List.mem_takeWhile_imp (l := (c :: cs).take 6) (by
                show d ∈ digits
                rw [hlast]
                exact List.mem_append_right _ List.mem_cons_self)
            have hrest : (c :: cs).drop digits.length = back := by
              rw [← hback, List.drop_left]
            rw [hrest]
            refine .of_ends (c := d) ⟨front, ?_⟩ ?_
            · rw [← hback, hlast, List.append_assoc]
              rfl
            · rintro rfl
              exact absurd hd (by decide)
        exact hdrop.trans (List.drop_suffix _ _) (dropOneSpace_whole _) (dropOneSpace_suffix _)
      · exact .tail (ne_return_of_not_newline h) cs

theorem name_whole (s : List Char) : Whole s (name s).2 := by
  fun_induction name s with
  | case1 => exact .refl []
  | case2 c cs hc more rest h ih =>
      rw [h] at ih
      exact ih.cons (ne_return_of_isNameChar hc)
  | case3 c cs _ hback more rest h ih =>
      rw [h] at ih
      have hrest := name_suffix (escape cs).2
      rw [h] at hrest
      obtain ⟨rfl, hline⟩ := hback
      exact ((escape_whole hline).trans (escape_suffix cs) ih hrest).cons (by decide)
  | case4 => exact .refl _

theorem string_whole {quote : Char} (hquote : quote ≠ '\r') (s : List Char) :
    Whole s (string quote s).2.2 := by
  fun_induction string quote s with
  | case1 => exact .refl []
  | case2 => exact .tail hquote _
  | case3 => exact .refl _
  | case4 cs _ _ hline ih =>
      exact ((dropNewline_whole cs).trans (dropNewline_suffix cs) ih (string_suffix _ _)).cons
        (by decide)
  | case5 => exact .of_head (by simp)
  | case6 cs hline _ more closed rest h _ _ ih =>
      rw [h] at ih
      have hrest := string_suffix quote (escape cs).2
      rw [h] at hrest
      exact ((escape_whole (Bool.not_eq_true _ ▸ hline)).trans (escape_suffix cs) ih hrest).cons
        (by decide)
  | case7 c cs _ hline _ more closed rest h ih =>
      rw [h] at ih
      exact ih.cons (ne_return_of_not_newline (Bool.not_eq_true _ ▸ hline))

/-- What was taken to an end that is looked for ends in it, or nothing is left. -/
theorem whole_of_ends (hc : c ≠ '\r') (h : r ≠ [] → c :: r <:+ s) : Whole s r := by
  by_cases hnil : r = []
  · exact .of_head (by simp [hnil])
  · exact .of_ends (h hnil) hc

theorem url_whole (functionName s : List Char) : Whole s (url functionName s).2 := by
  by_cases hnil : (url functionName s).2 = []
  · exact .of_head (by simp [hnil])
  · rcases url_ends hnil with hfunction | hends
    · rw [hfunction]
      exact .refl s
    · exact .of_ends hends (by decide)

theorem identLike_whole (s : List Char) : Whole s (identLike s).2 := by
  have hname := name_whole s
  have hsuffix := name_suffix s
  unfold identLike
  split
  · rename_i m rest h
    rw [h] at hname hsuffix
    have hrest : Whole s rest :=
      hname.trans hsuffix (.tail (by decide) rest) (List.suffix_cons _ _)
    have hsuffix : rest <:+ s := (List.suffix_cons _ _).trans hsuffix
    split
    · exact hrest.trans hsuffix (url_whole m rest) (url_suffix m rest)
    · exact hrest
  · rename_i h
    rw [h] at hname
    exact hname

theorem sign_whole (s : List Char) : Whole s (sign s).2 := by
  unfold sign
  split
  · exact .tail (by decide) _
  · exact .tail (by decide) _
  · exact .refl s

theorem fraction_whole (s : List Char) : Whole s (fraction s).2 := by
  unfold fraction
  split
  · split
    · exact (Whole.dropWhile (by decide) _).cons (by decide)
    · exact .refl _
  · exact .refl s

theorem exponent_whole (s : List Char) : Whole s (exponent s).2 := by
  unfold exponent
  split
  · rename_i c cs
    dsimp only
    split
    · rename_i h
      have hc : c ≠ '\r' := by rcases h.1 with rfl | rfl <;> decide
      exact ((sign_whole cs).trans (sign_suffix cs) (Whole.dropWhile (by decide) _)
        (List.dropWhile_suffix _)).cons hc
    · exact .refl _
  · exact .refl []

theorem numeral_whole (s : List Char) : Whole s (numeral s).2 := by
  have hdigits : Whole s ((sign s).2.dropWhile isDigit) :=
    (sign_whole s).trans (sign_suffix s) (Whole.dropWhile (by decide) _) (List.dropWhile_suffix _)
  have hsuffix : (sign s).2.dropWhile isDigit <:+ s :=
    (List.dropWhile_suffix _).trans (sign_suffix s)
  have hfraction := hdigits.trans hsuffix (fraction_whole _) (fraction_suffix _)
  exact hfraction.trans ((fraction_suffix _).trans hsuffix) (exponent_whole _) (exponent_suffix _)

theorem numeric_whole (s : List Char) : Whole s (numeric s).2 := by
  have hnumeral := numeral_whole s
  have hsuffix := numeral_suffix s
  unfold numeric
  dsimp only
  split
  · rename_i h
    rw [h] at hnumeral hsuffix
    exact hnumeral.trans hsuffix (.tail (by decide) _) (List.suffix_cons _ _)
  · split
    · exact hnumeral.trans hsuffix (name_whole _) (name_suffix _)
    · exact hnumeral

theorem matchOperator_whole (c : Char) (kind : Kind) (s : List Char) :
    Whole s (matchOperator c kind s).2 := by
  unfold matchOperator
  split
  · exact .tail (by decide) _
  · exact .refl s

theorem mark_whole (hc : c ≠ '\r') (cs : List Char) : Whole (c :: cs) (mark c cs).2 := by
  unfold mark
  split
  · refine Whole.cons ?_ hc
    unfold afterHash
    dsimp only
    split
    · exact name_whole cs
    · split
      · exact name_whole cs
      · exact .refl cs
  · unfold afterMinus
    split
    · exact (Whole.tail (by decide) _).cons (by decide) |>.cons hc
    · split
      · exact identLike_whole _
      · exact .tail hc _
  · refine Whole.cons ?_ hc
    unfold afterSlash
    split
    · exact (whole_of_ends (c := '/') (by decide) comment_ends).cons (by decide)
    · exact .refl cs
  · refine Whole.cons ?_ hc
    unfold afterLess
    split
    · exact ((Whole.tail (by decide) _).cons (by decide)).cons (by decide)
    · exact .refl cs
  · refine Whole.cons ?_ hc
    unfold afterAt
    split
    · exact name_whole cs
    · exact .refl cs
  · exact (matchOperator_whole _ _ cs).cons hc
  · exact (matchOperator_whole _ _ cs).cons hc
  · exact (matchOperator_whole _ _ cs).cons hc
  · exact (matchOperator_whole _ _ cs).cons hc
  · exact (matchOperator_whole _ _ cs).cons hc
  all_goals exact .tail hc cs

/-- **No token ends between the two characters of a line end.** -/
theorem next_whole (c : Char) (cs : List Char) : Whole (c :: cs) (next c cs).2 := by
  cases reading c cs with
  | blank _ heq =>
      rw [heq]
      refine .of_head fun hhead => ?_
      have hspace := List.head?_dropWhile_not isSpace cs
      rw [hhead] at hspace
      exact absurd hspace (by decide)
  | word _ heq =>
      rw [heq]
      exact identLike_whole _
  | number _ heq =>
      rw [heq]
      exact numeric_whole _
  | quoted hquote heq =>
      have hc : c ≠ '\r' := by rcases hquote with rfl | rfl <;> decide
      rw [heq]
      exact (string_whole hc cs).cons hc
  | @fixed w hw heq =>
      rcases List.eq_nil_or_concat' w with rfl | ⟨front, b, rfl⟩
      · rw [heq]
        exact .refl _
      · have hb := isWhite_of_fixed hw b (List.getLast?_concat)
        refine .of_ends (c := b) ⟨front, ?_⟩ ?_
        · rw [heq, List.append_assoc]
          rfl
        · rintro rfl
          exact absurd hb (by decide)
  | mark hmark heq =>
      rw [heq]
      refine mark_whole ?_ cs
      -- a carriage return is white space, and no mark
      rintro rfl
      rw [next_eq, if_pos (by decide)] at hmark
      cases hmark

end Lexer

/-! ## Tokens -/

/-- A place is not between a carriage return and the line feed that belongs to it. -/
def OnLine (before behind : List Char) : Prop :=
  ¬ (before.getLast? = some '\r' ∧ behind.head? = some '\n')

theorem Token.Stands.onLine {t : Token} {x : List Char} (h : t.Stands x) : OnLine t.text x := by
  rintro ⟨hlast, hhead⟩
  obtain ⟨c, u, htext, hnext⟩ := h
  obtain ⟨front, hfront⟩ := List.getLast?_eq_some_iff.mp hlast
  have hwhole := next_whole c (u ++ x)
  rw [hnext] at hwhole
  refine hwhole hhead ⟨front, ?_⟩
  rw [← List.cons_append, ← htext, hfront, List.append_assoc]
  rfl

/-- **Between tokens a place is on a line.** -/
theorem Stand.onLine {ts : List Token} {x : List Char} (h : Stand ts x) :
    OnLine (textOfTokens ts) x := by
  rcases List.eq_nil_or_concat' ts with rfl | ⟨front, t, rfl⟩
  · rintro ⟨hlast, -⟩
    cases hlast
  · have ht : t.Stands x := (stand_append.mp h).2.1
    rintro ⟨hlast, hhead⟩
    rw [textOfTokens_concat, List.getLast?_append_of_ne_nil _ ht.text_ne_nil] at hlast
    exact ht.onLine ⟨hlast, hhead⟩

/-! ## Lines and columns -/

/-- A text as whole lines and the start of the line behind them. -/
structure Lines (s above line : List Char) : Prop where
  text : s = above ++ line
  ended : ∀ c ∈ above.getLast?, isNewline c = true
  open_line : ∀ c ∈ line, isNewline c = false

/-- The number of columns that a text takes on its line. -/
def columns : List Char → Nat
  | [] => 0
  | c :: cs => utf16Width c + columns cs

/--
What a line and a column name in a text: the place with so many line ends in front of it, and
so many columns in front of it on its line, both counted from one.
-/
structure Marks (l : Location) (before behind : List Char) : Prop where
  onLine : OnLine before behind
  counts : ∃ above line, Lines before above line
    ∧ l = ⟨lineEnds above + 1, columns line + 1⟩

theorem utf16Width_pos (c : Char) : 0 < utf16Width c := by
  unfold utf16Width
  split
  · exact Nat.one_pos
  · exact Nat.two_pos

theorem Lines.cons {s above line : List Char} {c : Char} (h : Lines s above line)
    (hc : isNewline c = true ∨ above ≠ []) : Lines (c :: s) (c :: above) line := by
  refine ⟨by rw [h.text]; rfl, ?_, h.open_line⟩
  intro d hd
  cases above with
  | nil =>
      rw [List.getLast?_singleton, Option.mem_some_iff] at hd
      rw [← hd]
      exact hc.resolve_right fun hne => hne rfl
  | cons a above => exact h.ended d (List.getLast?_cons_cons ▸ hd)

/-- The first line end is counted with the others. -/
theorem place_nextLine (l : Location) (above line : List Char) :
    (if above = [] then (⟨l.nextLine.line, l.nextLine.column + columns line⟩ : Location)
      else ⟨l.nextLine.line + lineEnds above, columns line + 1⟩)
      = ⟨l.line + (lineEnds above + 1), columns line + 1⟩ := by
  split
  · rename_i hnil
    subst hnil
    rw [Location.nextLine, Nat.add_comm 1]
    rfl
  · rw [Location.nextLine, Nat.add_assoc, Nat.add_comm 1]

/-- Passing over a text counts its line ends, and the columns behind the last. -/
theorem exists_lines (l : Location) (s : List Char) :
    ∃ above line, Lines s above line
      ∧ l.advance s = if above = [] then ⟨l.line, l.column + columns line⟩
          else ⟨l.line + lineEnds above, columns line + 1⟩ := by
  fun_induction Location.advance l s with
  | case1 l => exact ⟨[], [], ⟨rfl, by simp, by simp⟩, rfl⟩
  | case2 l cs ih =>
      obtain ⟨above, line, hlines, hplace⟩ := ih
      refine ⟨'\r' :: '\n' :: above, line,
        (hlines.cons (.inl rfl)).cons (.inl rfl), hplace.trans ?_⟩
      rw [if_neg (List.cons_ne_nil _ _), lineEnds]
      exact place_nextLine l above line
  | case3 l c cs hpair hline ih =>
      obtain ⟨above, line, hlines, hplace⟩ := ih
      have hnewline : isNewline c = true := by simpa [isNewline, or_assoc] using hline
      have hends : lineEnds (c :: above) = lineEnds above + 1 := by
        rw [lineEnds_cons, if_pos hnewline]
        rintro ⟨hc, hhead⟩
        obtain ⟨ds, rfl⟩ := List.head?_eq_some_iff.mp hhead
        exact hpair _ hc hlines.text
      refine ⟨c :: above, line, hlines.cons (.inl hnewline), hplace.trans ?_⟩
      rw [if_neg (List.cons_ne_nil _ _), hends]
      exact place_nextLine l above line
  | case4 l c cs hpair hline ih =>
      obtain ⟨above, line, hlines, hplace⟩ := ih
      have hnewline : isNewline c = false := by
        rw [← Bool.not_eq_true]
        simpa [isNewline, or_assoc] using hline
      by_cases hnil : above = []
      · subst hnil
        refine ⟨[], c :: line, ⟨by rw [hlines.text]; rfl, by simp, ?_⟩, hplace.trans ?_⟩
        · exact List.forall_mem_cons.mpr ⟨hnewline, hlines.open_line⟩
        · rw [if_pos rfl, if_pos rfl, columns, Nat.add_assoc]
      · have hends : lineEnds (c :: above) = lineEnds above := by
          rw [lineEnds_cons, hnewline, if_neg Bool.false_ne_true]
          rintro ⟨rfl, -⟩
          exact absurd hnewline (by decide)
        refine ⟨c :: above, line, hlines.cons (.inr hnil), hplace.trans ?_⟩
        rw [if_neg hnil, if_neg (List.cons_ne_nil _ _), hends]

theorem Lines.unique {s above line above' line' : List Char} (h : Lines s above line)
    (h' : Lines s above' line') : above = above' ∧ line = line' := by
  -- what one has in its lines and the other behind them would end a line
  have key : ∀ {above line above' line' x : List Char}, Lines s above line →
      Lines s above' line' → above' = above ++ x → line = x ++ line' → x = [] := by
    intro above line above' line' x h h' habove hline
    rcases List.eq_nil_or_concat' x with hx | ⟨x, c, rfl⟩
    · exact hx
    · have hended := h'.ended c (by rw [habove, ← List.append_assoc]; simp)
      rw [h.open_line c (by rw [hline]; simp)] at hended
      exact absurd hended Bool.false_ne_true
  rcases List.append_eq_append_iff.mp (h.text.symm.trans h'.text) with
    ⟨x, habove, hline⟩ | ⟨x, habove, hline⟩
  · obtain rfl := key h h' habove hline
    exact ⟨(by simpa using habove.symm), hline⟩
  · obtain rfl := key h' h habove hline
    exact ⟨(by simpa using habove), hline.symm⟩

/-- **A line and a column that are found by passing over a text name the place behind it.** -/
theorem marks_iff {l : Location} {before behind : List Char} :
    Marks l before behind ↔ OnLine before behind ∧ l = Location.after before := by
  obtain ⟨above, line, hlines, hplace⟩ := exists_lines Location.start before
  have hafter : Location.after before = ⟨lineEnds above + 1, columns line + 1⟩ := by
    rw [Location.after, hplace, Location.start]
    split
    · rename_i hnil
      subst hnil
      rw [Nat.add_comm]
      rfl
    · rw [Nat.add_comm]
  constructor
  · rintro ⟨honLine, above', line', hlines', hl⟩
    obtain ⟨rfl, rfl⟩ := hlines.unique hlines'
    exact ⟨honLine, hl.trans hafter.symm⟩
  · rintro ⟨honLine, hl⟩
    exact ⟨honLine, above, line, hlines, hl.trans hafter⟩

theorem OnLine.tail {c : Char} {a b : List Char} (h : OnLine (c :: a) b) : OnLine a b := by
  rintro ⟨hlast, hhead⟩
  exact h ⟨by rw [List.getLast?_cons, hlast]; rfl, hhead⟩

theorem OnLine.head {c : Char} {a b : List Char} (h : OnLine (c :: a) b)
    (hpair : ∀ rest, c = '\r' → a ≠ '\n' :: rest) :
    ¬ (c = '\r' ∧ (a ++ b).head? = some '\n') := by
  rintro ⟨rfl, hhead⟩
  cases a with
  | nil => exact h ⟨rfl, hhead⟩
  | cons d ds =>
      rw [List.cons_append, List.head?_cons, Option.some.injEq] at hhead
      exact hpair ds rfl (by rw [hhead])

/-- Passing over a text may be interrupted at a place that is on a line. -/
theorem advance_append {a b : List Char} (h : OnLine a b) (l : Location) :
    l.advance (a ++ b) = (l.advance a).advance b := by
  fun_induction Location.advance l a with
  | case1 l => rfl
  | case2 l cs ih => exact ih h.tail.tail
  | case3 l c cs hpair hline ih =>
      have hnewline : isNewline c = true := by simpa [isNewline, or_assoc] using hline
      rw [List.cons_append, advance_cons (h.head hpair), if_pos hnewline]
      exact ih h.tail
  | case4 l c cs hpair hline ih =>
      have hnewline : ¬ isNewline c = true := by simpa [isNewline, or_assoc] using hline
      rw [List.cons_append, advance_cons (h.head hpair), if_neg hnewline]
      exact ih h.tail

/-- What lies on the next line or further down lies below. -/
theorem line_lt_of_nextLine {l m : Location} {p : Prop}
    (h : l.nextLine.line < m.line ∨ (m.line = l.nextLine.line ∧ p)) : l.line < m.line := by
  rcases h with hline | ⟨hline, -⟩
  · exact Nat.lt_trans (Nat.lt_succ_self _) hline
  · rw [hline]
    exact Nat.lt_succ_self _

/-- Passing over a text leads down, or along the line. -/
theorem advance_increases (l : Location) (s : List Char) :
    l.line < (l.advance s).line
      ∨ ((l.advance s).line = l.line ∧ l.column + s.length ≤ (l.advance s).column) := by
  fun_induction Location.advance l s with
  | case1 l => exact .inr ⟨rfl, Nat.le_refl _⟩
  | case2 l cs ih => exact .inl (line_lt_of_nextLine ih)
  | case3 l c cs _ _ ih => exact .inl (line_lt_of_nextLine ih)
  | case4 l c cs _ _ ih =>
      rcases ih with hline | ⟨hline, hcolumn⟩
      · exact .inl hline
      · have hwidth := utf16Width_pos c
        dsimp only at hcolumn
        rw [List.length_cons]
        exact .inr ⟨hline, by omega⟩

/-- Further on in a text there is another place. -/
theorem eq_nil_of_after_append {a b : List Char} (h : OnLine a b)
    (hsame : Location.after (a ++ b) = Location.after a) : b = [] := by
  have happend : Location.after (a ++ b) = (Location.after a).advance b := advance_append h _
  rw [happend] at hsame
  rcases advance_increases (Location.after a) b with hline | ⟨-, hcolumn⟩
  · rw [hsame] at hline
    exact absurd hline (Nat.lt_irrefl _)
  · rw [hsame] at hcolumn
    exact List.length_eq_zero_iff.mp (by omega)

/-- **A line and a column name one place of a text.** -/
theorem Marks.unique {l : Location} {before behind before' behind' : List Char}
    (h : Marks l before behind) (h' : Marks l before' behind')
    (htext : before ++ behind = before' ++ behind') : before = before' := by
  obtain ⟨honLine, hplace⟩ := marks_iff.mp h
  obtain ⟨honLine', hplace'⟩ := marks_iff.mp h'
  have key : ∀ {a x b c : List Char}, OnLine a c → c = x ++ b →
      Location.after (a ++ x) = Location.after a → x = [] := by
    intro a x b c honLine hc hsame
    refine eq_nil_of_after_append ?_ hsame
    rintro ⟨hlast, hhead⟩
    refine honLine ⟨hlast, ?_⟩
    rw [hc, List.head?_append, hhead]
    rfl
  rcases List.append_eq_append_iff.mp htext with ⟨x, hlonger, hrest⟩ | ⟨x, hlonger, hrest⟩
  · have hnil := key honLine hrest (by rw [← hlonger, ← hplace', hplace])
    rw [hlonger, hnil, List.append_nil]
  · have hnil := key honLine' hrest (by rw [← hlonger, ← hplace, hplace'])
    rw [hlonger, hnil, List.append_nil]

end StyleLookup.Css
