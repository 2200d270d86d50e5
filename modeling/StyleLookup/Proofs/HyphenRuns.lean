import Mathlib.Algebra.GroupWithZero.Nat
import Mathlib.Data.List.Chain
import Mathlib.Data.List.TakeWhile
import StyleLookup.Output.CamelCase

/-!
# Camel case by runs of hyphens

A hyphen takes the character behind it along, also when that is a hyphen. So hyphens are used up in
pairs, and what a hyphen does to a character depends on how many stand in front of it. The sentence
"a hyphen capitalises what follows" is wrong for every second one.

The right unit is the **run**: hyphens, and the stretch up to the next hyphen. Cutting a name into
runs is cutting it where no hyphen is open, because behind an even number of hyphens, none among
them, `camelCase` starts afresh (`camelCase_append`). What becomes of one run is then a matter of
parity (`HyphenRun.camelCase_text`), and of the whole name the runs one after the other
(`camelCase_hyphenRuns`).

Hyphens can be counted in this way because no other character brings one in: upper case never has a
hyphen (`hyphen_not_mem_upper`), which is a fact about the table of characters.
-/

namespace StyleLookup

/-! ## Upper case and hyphens -/

namespace Unicode

/-- The words of a row of characters, as `tableWords` finds them in a text. -/
def wordsOf (s : List Char) : List (List Char) :=
  let (word, words) := s.foldr
    (fun c (acc : List Char × List (List Char)) =>
      if c = ' ' ∨ c = '\n' then ([], if acc.1.isEmpty then acc.2 else acc.1 :: acc.2)
      else (c :: acc.1, acc.2))
    ([], [])
  if word.isEmpty then words else word :: words

/--
What holds of the words of the characters holds of the words of the text. A table is looked at in
this way because its characters can be listed, and evaluated, while its text would be decoded.
-/
theorem of_tableWords {P : List (List Char) → Prop} {text : String} {s : List Char}
    (htext : text = String.ofList s) (h : P (wordsOf s)) : P (tableWords text) := by
  have hwords : tableWords text = wordsOf s := by
    rw [htext, tableWords, String.toList_ofList]
    rfl
  rwa [hwords]

set_option maxRecDepth 20000 in
theorem expansion_ne_hyphen :
    ∀ e ∈ uppercaseExpansions, ∀ n ∈ e.2, Char.ofNat n ≠ '-' :=
  of_tableWords (P := fun words => ∀ e ∈ words.map expansionOfWord, ∀ n ∈ e.2,
    Char.ofNat n ≠ '-') rfl (by decide +kernel)

set_option maxRecDepth 20000 in
theorem shift_ne_hyphen :
    ∀ s ∈ uppercaseShifts, ∀ n ∈ List.range' s.1.lo (s.1.hi + 1 - s.1.lo),
      Char.ofNat (s.2 n) ≠ '-' :=
  of_tableWords (P := fun words => ∀ s ∈ words.flatMap shiftsOfWord,
    ∀ n ∈ List.range' s.1.lo (s.1.hi + 1 - s.1.lo), Char.ofNat (s.2 n) ≠ '-')
    rfl (by decide +kernel)

/-- Outside ASCII the tables are asked, and a character that is in neither stands for itself. -/
theorem upper_cases {c : Char} (hc : ¬ c.toNat < 128) :
    (∃ e ∈ uppercaseExpansions, upper c = e.2.map Char.ofNat)
      ∨ (∃ s ∈ uppercaseShifts, s.1.lo ≤ c.toNat ∧ c.toNat ≤ s.1.hi
        ∧ upper c = [Char.ofNat (s.2 c.toNat)])
      ∨ upper c = [c] := by
  rw [upper, if_neg hc]
  cases hexpansion : uppercaseExpansions.find? (fun e => e.1 == c.toNat) with
  | some e => exact .inl ⟨e, List.mem_of_find?_eq_some hexpansion, rfl⟩
  | none =>
      cases hshift : uppercaseShifts.find? (fun s => s.1.lo ≤ c.toNat && c.toNat ≤ s.1.hi) with
      | some s =>
          have hrange := List.find?_some hshift
          rw [Bool.and_eq_true, decide_eq_true_iff, decide_eq_true_iff] at hrange
          exact .inr (.inl ⟨s, List.mem_of_find?_eq_some hshift, hrange.1, hrange.2, rfl⟩)
      | none => exact .inr (.inr rfl)

theorem upper_ascii_ne_hyphen :
    ∀ n < 128, Char.ofNat n ≠ '-' → '-' ∉ upper (Char.ofNat n) := by decide +kernel

/-- **No character but the hyphen has a hyphen in its upper case.** -/
theorem hyphen_not_mem_upper {c : Char} (h : c ≠ '-') : '-' ∉ upper c := by
  intro hmem
  by_cases hc : c.toNat < 128
  · have hascii := upper_ascii_ne_hyphen c.toNat hc
    rw [Char.ofNat_toNat] at hascii
    exact hascii h hmem
  · rcases upper_cases hc with ⟨e, he, hupper⟩ | ⟨s, hs, hlo, hhi, hupper⟩ | hupper
    · rw [hupper] at hmem
      obtain ⟨n, hn, hhyphen⟩ := List.mem_map.mp hmem
      exact expansion_ne_hyphen e he n hn hhyphen
    · rw [hupper] at hmem
      have hrange : c.toNat ∈ List.range' s.1.lo (s.1.hi + 1 - s.1.lo) := by
        rw [List.mem_range'_1]
        omega
      exact shift_ne_hyphen s hs c.toNat hrange (List.mem_singleton.mp hmem).symm
    · rw [hupper] at hmem
      exact h (List.mem_singleton.mp hmem).symm

end Unicode

open Unicode

/-! ## Behind an even number of hyphens -/

/-- The number of hyphens that a name ends in. -/
def trailingHyphens (s : List Char) : Nat := (s.reverse.takeWhile (· == '-')).length

theorem trailingHyphens_le (s : List Char) : trailingHyphens s ≤ s.length := by
  have hprefix := (List.takeWhile_prefix (· == '-') (l := s.reverse)).length_le
  rwa [List.length_reverse] at hprefix

/-- A character in front counts only if it is a hyphen and nothing but hyphens follow. -/
theorem trailingHyphens_cons (c : Char) (s : List Char) :
    trailingHyphens (c :: s)
      = trailingHyphens s + if trailingHyphens s = s.length ∧ c = '-' then 1 else 0 := by
  unfold trailingHyphens
  rw [List.reverse_cons, List.takeWhile_append, List.length_reverse]
  by_cases hall : (s.reverse.takeWhile (· == '-')).length = s.length
  · rw [if_pos hall, List.length_append, List.length_reverse, hall]
    by_cases hc : c = '-'
    · rw [if_pos ⟨rfl, hc⟩, hc]
      rfl
    · rw [if_neg fun h => hc h.2, List.takeWhile_cons_of_neg (by simpa using hc)]
      rfl
  · rw [if_neg hall, if_neg fun h => hall h.1]
    rfl

theorem trailingHyphens_append {u : List Char} (hu : trailingHyphens u = 0) (v : List Char) :
    trailingHyphens (u ++ v) = trailingHyphens v := by
  unfold trailingHyphens at hu ⊢
  rw [List.reverse_append, List.takeWhile_append]
  split
  · rename_i hall
    rw [List.length_append, hu, hall, Nat.add_zero]
  · rfl

theorem trailingHyphens_eq_zero {s : List Char} (h : '-' ∉ s) :
    trailingHyphens s = 0 := by
  rw [trailingHyphens, List.length_eq_zero_iff, List.takeWhile_eq_nil_iff]
  intro hlength hhyphen
  exact h (List.mem_reverse.mp (eq_of_beq hhyphen ▸ List.getElem_mem hlength))

/-- A hyphen and the character that it takes along leave the parity as it is. -/
theorem trailingHyphens_pair (next : Char) (s : List Char) :
    trailingHyphens ('-' :: next :: s) % 2 = trailingHyphens s % 2 := by
  have hle := trailingHyphens_le s
  have hinner := trailingHyphens_cons next s
  rw [trailingHyphens_cons, List.length_cons]
  by_cases hall : trailingHyphens s = s.length ∧ next = '-'
  · -- only hyphens follow, so both count
    rw [if_pos hall] at hinner
    rw [if_pos ⟨by omega, rfl⟩]
    omega
  · rw [if_neg hall] at hinner
    rw [if_neg fun h => by omega]
    omega

/-! ## One step of camel case -/

theorem camelCase_hyphen_cons (c : Char) (s : List Char) :
    camelCase ('-' :: c :: s) = upper c ++ camelCase s := rfl

theorem camelCase_cons {c : Char} (hc : c ≠ '-') (s : List Char) :
    camelCase (c :: s) = c :: camelCase s := by
  rw [camelCase.eq_def]
  exact if_neg hc

theorem camelCase_of_no_hyphen {s : List Char} (h : '-' ∉ s) : camelCase s = s := by
  induction s with
  | nil => rfl
  | cons c s ih =>
      rw [List.mem_cons, not_or] at h
      rw [camelCase_cons (Ne.symm h.1), ih h.2]

/-- **Behind an even number of hyphens, camel case starts afresh.** -/
theorem camelCase_append {u : List Char} (h : trailingHyphens u % 2 = 0) (v : List Char) :
    camelCase (u ++ v) = camelCase u ++ camelCase v := by
  fun_induction camelCase u with
  | case1 => rfl
  | case2 => cases h
  | case3 next rest ih =>
      rw [trailingHyphens_pair] at h
      rw [List.append_assoc, ← ih h]
      rfl
  | case4 c cs hc ih =>
      rw [trailingHyphens_cons, if_neg fun h => hc h.2] at h
      rw [List.cons_append, camelCase_cons hc, ih h, List.cons_append]

/-! ## Runs -/

/-- Hyphens, and the characters up to the next hyphen. -/
structure HyphenRun where
  hyphens : Nat
  stretch : List Char
deriving Repr, DecidableEq

namespace HyphenRun

variable {r : HyphenRun}

/-- The text of a run. -/
def text (r : HyphenRun) : List Char := List.replicate r.hyphens '-' ++ r.stretch

/--
A run in camel case: one hyphen for two. A hyphen that is left over takes the first character of the
stretch to its upper case, and stays where there is none.
-/
def camel (r : HyphenRun) : List Char :=
  List.replicate (r.hyphens / 2) '-'
    ++ if r.hyphens % 2 = 0 then r.stretch
      else match r.stretch with
        | [] => ['-']
        | c :: cs => upper c ++ cs

theorem trailingHyphens_text (h : '-' ∉ r.stretch) :
    trailingHyphens r.text = if r.stretch = [] then r.hyphens else 0 := by
  unfold text
  split
  · rename_i hempty
    rw [hempty, List.append_nil, trailingHyphens, List.reverse_replicate,
      List.takeWhile_replicate, if_pos (beq_self_eq_true '-'), List.length_replicate]
  · rename_i hne
    have hzero := trailingHyphens_eq_zero h
    unfold trailingHyphens at hzero ⊢
    rw [List.reverse_append, List.takeWhile_append, if_neg, hzero]
    rw [hzero, List.length_reverse]
    exact fun hlength => hne (List.length_eq_zero_iff.mp hlength.symm)

theorem camelCase_replicate_append (n : Nat) (s : List Char) :
    camelCase (List.replicate (2 * n) '-' ++ s) = List.replicate n '-' ++ camelCase s := by
  induction n with
  | zero => rfl
  | succ n ih =>
      rw [Nat.mul_succ, List.replicate_succ, List.replicate_succ, List.replicate_succ,
        List.cons_append, List.cons_append, camelCase_hyphen_cons, ih]
      rfl

/-- **What becomes of a run is a matter of parity.** -/
theorem camelCase_text (h : '-' ∉ r.stretch) : camelCase r.text = r.camel := by
  have hhalves : r.hyphens = 2 * (r.hyphens / 2) + r.hyphens % 2 := (Nat.div_add_mod _ 2).symm
  have hsplit : r.text = List.replicate (2 * (r.hyphens / 2)) '-'
      ++ (List.replicate (r.hyphens % 2) '-' ++ r.stretch) := by
    rw [← List.append_assoc, List.replicate_append_replicate, ← hhalves, text]
  rw [hsplit, camelCase_replicate_append, camel]
  rcases Nat.mod_two_eq_zero_or_one r.hyphens with heven | hodd
  · rw [heven, if_pos rfl, List.replicate_zero, List.nil_append, camelCase_of_no_hyphen h]
  · rw [hodd, if_neg Nat.one_ne_zero, List.replicate_one, List.singleton_append]
    cases hstretch : r.stretch with
    | nil => rfl
    | cons c cs =>
        rw [hstretch, List.mem_cons, not_or] at h
        rw [camelCase_hyphen_cons, camelCase_of_no_hyphen h.2]

/-- A run in camel case has one hyphen for two, and the odd one if it ends the name. -/
theorem count_camel (h : '-' ∉ r.stretch) :
    r.camel.count '-' = r.hyphens / 2 + trailingHyphens r.text % 2 := by
  rw [trailingHyphens_text h, camel, List.count_append, List.count_replicate_self]
  congr 1
  rcases Nat.mod_two_eq_zero_or_one r.hyphens with heven | hodd
  · rw [if_pos heven, List.count_eq_zero.mpr h]
    split
    · exact heven.symm
    · rfl
  · rw [if_neg (by omega)]
    cases hstretch : r.stretch with
    | nil => rw [if_pos rfl, hodd]; rfl
    | cons c cs =>
        rw [hstretch, List.mem_cons, not_or] at h
        rw [if_neg (List.cons_ne_nil _ _), List.count_append, List.count_eq_zero.mpr h.2,
          List.count_eq_zero.mpr (hyphen_not_mem_upper (Ne.symm h.1))]

end HyphenRun

/-- Cuts a name into runs. -/
def hyphenRuns : List Char → List HyphenRun
  | [] => []
  | c :: cs =>
      match hyphenRuns cs with
      | [] => if c = '-' then [⟨1, []⟩] else [⟨0, [c]⟩]
      | r :: rs =>
          if c = '-' then ⟨r.hyphens + 1, r.stretch⟩ :: rs
          else if r.hyphens = 0 then ⟨0, c :: r.stretch⟩ :: rs
          else ⟨0, [c]⟩ :: r :: rs

/--
The runs make up the name, and they are as long as they can be: stretches hold no hyphen, and where
one run follows another there is a stretch that ends and there are hyphens that start.
-/
structure CutsAtHyphens (s : List Char) (runs : List HyphenRun) : Prop where
  text : runs.flatMap HyphenRun.text = s
  nonempty : ∀ r ∈ runs, r.text ≠ []
  stretches : ∀ r ∈ runs, '-' ∉ r.stretch
  maximal : runs.IsChain fun r next => r.stretch ≠ [] ∧ 0 < next.hyphens

namespace CutsAtHyphens

variable {s : List Char} {r : HyphenRun} {rs : List HyphenRun}

/-- A hyphen in front makes the first run longer. -/
theorem cons_hyphen (h : CutsAtHyphens s (r :: rs)) :
    CutsAtHyphens ('-' :: s) (⟨r.hyphens + 1, r.stretch⟩ :: rs) := by
  have hnonempty := List.forall_mem_cons.mp h.nonempty
  have hstretches := List.forall_mem_cons.mp h.stretches
  have hmaximal := List.isChain_cons.mp h.maximal
  refine ⟨?_, ?_, ?_, ?_⟩
  · rw [← h.text]
    rfl
  · exact List.forall_mem_cons.mpr ⟨by simp [HyphenRun.text], hnonempty.2⟩
  · exact List.forall_mem_cons.mpr hstretches
  · exact List.isChain_cons.mpr hmaximal

/-- Any other character in front makes a first run longer that has no hyphens. -/
theorem cons_of_no_hyphens {c : Char} (h : CutsAtHyphens s (r :: rs)) (hc : c ≠ '-')
    (hzero : r.hyphens = 0) : CutsAtHyphens (c :: s) (⟨0, c :: r.stretch⟩ :: rs) := by
  have hnonempty := List.forall_mem_cons.mp h.nonempty
  have hstretches := List.forall_mem_cons.mp h.stretches
  have hmaximal := List.isChain_cons.mp h.maximal
  refine ⟨?_, ?_, ?_, ?_⟩
  · rw [← h.text, List.flatMap_cons, List.flatMap_cons, HyphenRun.text, HyphenRun.text, hzero]
    rfl
  · exact List.forall_mem_cons.mpr ⟨by simp [HyphenRun.text], hnonempty.2⟩
  · refine List.forall_mem_cons.mpr ⟨?_, hstretches.2⟩
    exact List.not_mem_cons_of_ne_of_not_mem (Ne.symm hc) hstretches.1
  · refine List.isChain_cons.mpr ⟨?_, hmaximal.2⟩
    intro next hnext
    exact ⟨List.cons_ne_nil _ _, (hmaximal.1 next hnext).2⟩

/-- In front of a run with hyphens it is a run of its own. -/
theorem cons_of_hyphens {c : Char} (h : CutsAtHyphens s (r :: rs)) (hc : c ≠ '-')
    (hpos : 0 < r.hyphens) : CutsAtHyphens (c :: s) (⟨0, [c]⟩ :: r :: rs) := by
  refine ⟨?_, ?_, ?_, ?_⟩
  · rw [← h.text]
    rfl
  · exact List.forall_mem_cons.mpr ⟨by simp [HyphenRun.text], h.nonempty⟩
  · exact List.forall_mem_cons.mpr ⟨by simpa using Ne.symm hc, h.stretches⟩
  · exact List.isChain_cons_cons.mpr ⟨⟨List.cons_ne_nil _ _, hpos⟩, h.maximal⟩

end CutsAtHyphens

/-- A character in front joins the first run, or makes one. -/
theorem cutsAtHyphens_hyphenRuns (s : List Char) : CutsAtHyphens s (hyphenRuns s) := by
  induction s with
  | nil => exact ⟨rfl, by simp [hyphenRuns], by simp [hyphenRuns], .nil⟩
  | cons c cs ih =>
      rw [hyphenRuns]
      cases hruns : hyphenRuns cs with
      | nil =>
          have hcs : cs = [] := by rw [← ih.text, hruns, List.flatMap_nil]
          dsimp only
          split
          · rename_i hc
            exact ⟨by rw [hc, hcs]; rfl, by simp [HyphenRun.text], by simp, .singleton _⟩
          · rename_i hc
            exact ⟨by rw [hcs]; rfl, by simp [HyphenRun.text], by simpa using Ne.symm hc,
              .singleton _⟩
      | cons r rs =>
          rw [hruns] at ih
          dsimp only
          by_cases hc : c = '-'
          · rw [if_pos hc, hc]
            exact ih.cons_hyphen
          rw [if_neg hc]
          by_cases hzero : r.hyphens = 0
          · rw [if_pos hzero]
            exact ih.cons_of_no_hyphens hc hzero
          · rw [if_neg hzero]
            exact ih.cons_of_hyphens hc (Nat.pos_of_ne_zero hzero)

example : hyphenRuns ['-', 'a', 'b', '-', '-', '-'] = [⟨1, ['a', 'b']⟩, ⟨3, []⟩] := by decide

/-- Behind a run that another one follows, camel case starts afresh. -/
theorem CutsAtHyphens.tail {s : List Char} {r next : HyphenRun} {rs : List HyphenRun}
    (h : CutsAtHyphens s (r :: next :: rs)) :
    ∃ rest, s = r.text ++ rest ∧ trailingHyphens r.text = 0 ∧ CutsAtHyphens rest (next :: rs) := by
  have hchain := List.isChain_cons_cons.mp h.maximal
  refine ⟨(next :: rs).flatMap HyphenRun.text, ?_, ?_, rfl, ?_, ?_, hchain.2⟩
  · rw [← h.text, List.flatMap_cons]
  · rw [HyphenRun.trailingHyphens_text (h.stretches r List.mem_cons_self), if_neg hchain.1.1]
  · exact fun q hq => h.nonempty q (List.mem_cons_of_mem r hq)
  · exact fun q hq => h.stretches q (List.mem_cons_of_mem r hq)

theorem CutsAtHyphens.singleton {s : List Char} {r : HyphenRun} (h : CutsAtHyphens s [r]) :
    s = r.text := by
  rw [← h.text, List.flatMap_singleton]

theorem CutsAtHyphens.camelCase_eq {runs : List HyphenRun} :
    ∀ {s : List Char}, CutsAtHyphens s runs → camelCase s = runs.flatMap HyphenRun.camel := by
  induction runs with
  | nil =>
      intro s h
      rw [← h.text]
      rfl
  | cons r rs ih =>
      intro s h
      have hrun := HyphenRun.camelCase_text (h.stretches r List.mem_cons_self)
      cases rs with
      | nil => rw [h.singleton, hrun, List.flatMap_singleton]
      | cons next rs =>
          obtain ⟨rest, rfl, hzero, hrest⟩ := h.tail
          rw [camelCase_append (by rw [hzero]), hrun, ih hrest]
          rfl

theorem CutsAtHyphens.count_camelCase {runs : List HyphenRun} :
    ∀ {s : List Char}, CutsAtHyphens s runs → (camelCase s).count '-'
      = (runs.map fun r => r.hyphens / 2).sum + trailingHyphens s % 2 := by
  induction runs with
  | nil =>
      intro s h
      rw [← h.text]
      rfl
  | cons r rs ih =>
      intro s h
      have hstretch := h.stretches r List.mem_cons_self
      have hrun := HyphenRun.camelCase_text hstretch
      have hcount := HyphenRun.count_camel hstretch
      rw [List.map_cons, List.sum_cons]
      cases rs with
      | nil => rw [h.singleton, hrun, hcount, List.map_nil, List.sum_nil, Nat.add_zero]
      | cons next rs =>
          obtain ⟨rest, rfl, hzero, hrest⟩ := h.tail
          rw [camelCase_append (by rw [hzero]), List.count_append, hrun, hcount, ih hrest, hzero,
            trailingHyphens_append hzero]
          omega

/--
**Camel case goes by runs of hyphens.**

Run by run, camel case writes one hyphen for two, lets a hyphen that is left over take the next
character to its upper case, or stay at the end of the name, and copies all else. So the hyphens
that are left can be counted, and a name that ends in an even number of hyphens does not touch what
is put behind it.
-/
theorem camelCase_hyphenRuns :
    (∀ s, CutsAtHyphens s (hyphenRuns s)
      ∧ camelCase s = (hyphenRuns s).flatMap HyphenRun.camel
      ∧ (camelCase s).count '-'
        = ((hyphenRuns s).map fun r => r.hyphens / 2).sum + trailingHyphens s % 2)
    ∧ ∀ u v, trailingHyphens u % 2 = 0 → camelCase (u ++ v) = camelCase u ++ camelCase v := by
  refine ⟨?_, fun u v h => camelCase_append h v⟩
  intro s
  have hcut := cutsAtHyphens_hyphenRuns s
  exact ⟨hcut, hcut.camelCase_eq, hcut.count_camelCase⟩

/-- Two hyphens between names, and one in front of a sharp s. -/
theorem camelCase_hyphenRuns_sharp :
    trailingHyphens "-moz--".toList % 2 = 0
      ∧ camelCase ("-moz--".toList ++ "-ße---".toList)
        = camelCase "-moz--".toList ++ camelCase "-ße---".toList := by
  have heven : trailingHyphens "-moz--".toList % 2 = 0 := by decide
  exact ⟨heven, camelCase_hyphenRuns.2 _ _ heven⟩

end StyleLookup
