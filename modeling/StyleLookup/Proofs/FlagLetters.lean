import Mathlib.Data.List.Basic
import Mathlib.Data.List.Induction
import StyleLookup.Matcher.Basic

/-!
# Flags by their letters

A text of flags is read letter by letter, and each letter has a field of its own. Said field by
field, every fact about flags would be seven facts. Here the fields are addressed by their letters
instead (`has`, `set`), so that a letter is one and the same thing for all flags: it is unknown, or
it is set already, or it is set now (`insert_eq`).

Setting flags does not depend on the order, and a letter that a text does not have is of no account
for the other letters of the text. So a new letter may be put in anywhere: it sets its flag and
changes nothing else, and what is wrong with the text stays wrong for the same reason
(`read_with`).

Reading keeps no record of the letters but the flags themselves, and that is enough: behind letters
that are accepted the flags that are set are those of the letters. So a text is read exactly if its
letters are known and all different (`read_eq_ok_iff`), and in any other text the leftmost letter
that is unknown or stands further left is blamed (`read_eq_error_iff`), whatever comes behind it.
-/

namespace StyleLookup.Matcher.Flags

/-- The letters that set a flag. -/
def letters : List Char := ['g', 'i', 'm', 's', 'u', 'y', 'd']

/-- Whether the flag of a letter is set. -/
def has (f : Flags) : Char → Bool
  | 'g' => f.global
  | 'i' => f.ignoreCase
  | 'm' => f.multiLine
  | 's' => f.dotAll
  | 'u' => f.unicode
  | 'y' => f.sticky
  | 'd' => f.hasIndices
  | _ => false

/-- Sets the flag of a letter, whether or not it is set. -/
def set (f : Flags) : Char → Flags
  | 'g' => { f with global := true }
  | 'i' => { f with ignoreCase := true }
  | 'm' => { f with multiLine := true }
  | 's' => { f with dotAll := true }
  | 'u' => { f with unicode := true }
  | 'y' => { f with sticky := true }
  | 'd' => { f with hasIndices := true }
  | _ => f

/-! ## One letter -/

theorem mem_letters {c : Char} :
    c ∈ letters ↔ c = 'g' ∨ c = 'i' ∨ c = 'm' ∨ c = 's' ∨ c = 'u' ∨ c = 'y' ∨ c = 'd' := by
  simp [letters]

/-- **A letter is unknown, or repeated, or sets its flag.** -/
theorem insert_eq (f : Flags) (c : Char) :
    f.insert c = if c ∈ letters then (if f.has c then .error (.repeated c) else .ok (f.set c))
      else .error (.unknown c) := by
  by_cases hc : c ∈ letters
  · rw [if_pos hc]
    rcases mem_letters.mp hc with rfl | rfl | rfl | rfl | rfl | rfl | rfl <;> rfl
  · rw [if_neg hc]
    rw [mem_letters] at hc
    simp only [not_or] at hc
    unfold insert
    split <;> simp_all

theorem has_none (c : Char) : none.has c = false := by
  unfold has
  split <;> rfl

theorem has_set (f : Flags) {letter : Char} (h : letter ∈ letters) (c : Char) :
    (f.set letter).has c = (f.has c || c == letter) := by
  by_cases hc : c ∈ letters
  · rcases mem_letters.mp h with rfl | rfl | rfl | rfl | rfl | rfl | rfl <;>
      rcases mem_letters.mp hc with rfl | rfl | rfl | rfl | rfl | rfl | rfl <;> simp [set, has]
  · have hne : c ≠ letter := by
      rintro rfl
      exact hc h
    have hnone : ∀ g : Flags, g.has c = false := by
      intro g
      rw [mem_letters] at hc
      simp only [not_or] at hc
      unfold has
      split <;> simp_all
    simp [hnone, hne]

theorem set_comm (f : Flags) {a b : Char} (ha : a ∈ letters) (hb : b ∈ letters) :
    (f.set a).set b = (f.set b).set a := by
  rcases mem_letters.mp ha with rfl | rfl | rfl | rfl | rfl | rfl | rfl <;>
    rcases mem_letters.mp hb with rfl | rfl | rfl | rfl | rfl | rfl | rfl <;> rfl

/-! ## Texts of letters -/

theorem insertAll_cons (f : Flags) (c : Char) (s : List Char) :
    f.insertAll (c :: s) = (f.insert c).bind fun g => g.insertAll s := by
  rw [insertAll]
  cases f.insert c <;> rfl

theorem has_foldl_set (f : Flags) {s : List Char} (hs : ∀ c ∈ s, c ∈ letters) (c : Char) :
    (s.foldl set f).has c = (f.has c || s.contains c) := by
  induction s generalizing f with
  | nil => simp
  | cons a s ih =>
      rw [List.forall_mem_cons] at hs
      rw [List.foldl_cons, ih _ hs.2, has_set f hs.1, List.contains_cons, Bool.or_assoc]

/-- A text is read exactly if its letters are known, new, and all different. -/
theorem insertAll_eq_ok_iff {f g : Flags} {s : List Char} :
    f.insertAll s = .ok g
      ↔ s.Nodup ∧ (∀ c ∈ s, c ∈ letters ∧ f.has c = false) ∧ g = s.foldl set f := by
  induction s generalizing f with
  | nil =>
      simp only [insertAll, List.nodup_nil, List.foldl_nil, Except.ok.injEq]
      exact ⟨fun h => ⟨trivial, fun _ hc => absurd hc List.not_mem_nil, h.symm⟩, fun h => h.2.2.symm⟩
  | cons c s ih =>
      rw [insertAll_cons, insert_eq]
      by_cases hc : c ∈ letters
      · rw [if_pos hc]
        cases hset : f.has c with
        | true => simp [Except.bind, hset]
        | false =>
            simp only [Except.bind, ih, List.nodup_cons, List.forall_mem_cons, List.foldl_cons,
              has_set f hc, Bool.or_eq_false_iff, beq_eq_false_iff_ne, Bool.false_eq_true, if_false]
            constructor
            · rintro ⟨hnodup, hfresh, hg⟩
              exact ⟨⟨fun hmem => (hfresh c hmem).2.2 rfl, hnodup⟩,
                ⟨⟨hc, hset⟩, fun d hd => ⟨(hfresh d hd).1, (hfresh d hd).2.1⟩⟩, hg⟩
            · rintro ⟨⟨hmem, hnodup⟩, ⟨_, hfresh⟩, hg⟩
              refine ⟨hnodup, fun d hd => ⟨(hfresh d hd).1, (hfresh d hd).2, ?_⟩, hg⟩
              rintro rfl
              exact hmem hd
      · rw [if_neg hc]
        simp [Except.bind, hc]

/-- The flags that are set by a text which is read are those of its letters. -/
theorem has_of_read {s : List Char} {f : Flags} (h : read s = .ok f) (c : Char) :
    f.has c = s.contains c := by
  obtain ⟨_, hknown, rfl⟩ := insertAll_eq_ok_iff.mp h
  rw [has_foldl_set none (fun d hd => (hknown d hd).1), has_none, Bool.false_or]

/-- A text of different letters is read. -/
theorem exists_read {s : List Char} (hnodup : s.Nodup) (hs : ∀ c ∈ s, c ∈ letters) :
    ∃ f, read s = .ok f :=
  ⟨_, insertAll_eq_ok_iff.mpr ⟨hnodup, fun c hc => ⟨hs c hc, has_none c⟩, rfl⟩⟩

/-! ## One letter more -/

/-- A flag that is set beforehand stays set and bears on no other letter. -/
theorem insertAll_set (f : Flags) {letter : Char} (h : letter ∈ letters) {s : List Char}
    (hs : letter ∉ s) :
    (f.set letter).insertAll s = (f.insertAll s).map (·.set letter) := by
  induction s generalizing f with
  | nil => rfl
  | cons c s ih =>
      rw [List.mem_cons, not_or] at hs
      rw [insertAll_cons, insertAll_cons, insert_eq, insert_eq, has_set f h]
      by_cases hc : c ∈ letters
      · rw [if_pos hc, if_pos hc, beq_eq_false_iff_ne.mpr (Ne.symm hs.1), Bool.or_false]
        split
        · rfl
        · show ((f.set letter).set c).insertAll s = ((f.set c).insertAll s).map _
          rw [set_comm f h hc, ih _ hs.2]
      · rw [if_neg hc, if_neg hc]
        rfl

/-- A new letter sets its flag, wherever it stands among the others. -/
theorem insertAll_with (f : Flags) {letter : Char} (h : letter ∈ letters)
    (hf : f.has letter = false) {front back : List Char} (hfront : letter ∉ front)
    (hback : letter ∉ back) :
    f.insertAll (front ++ letter :: back)
      = (f.insertAll (front ++ back)).map (·.set letter) := by
  induction front generalizing f with
  | nil =>
      rw [List.nil_append, List.nil_append, insertAll_cons, insert_eq, if_pos h, hf]
      exact insertAll_set f h hback
  | cons c front ih =>
      rw [List.mem_cons, not_or] at hfront
      rw [List.cons_append, List.cons_append, insertAll_cons, insertAll_cons, insert_eq]
      by_cases hc : c ∈ letters
      · rw [if_pos hc]
        split
        · rfl
        · refine ih (f.set c) ?_ hfront.2
          rw [has_set f hc, hf, Bool.false_or, beq_eq_false_iff_ne]
          exact hfront.1
      · rw [if_neg hc]
        rfl

/--
**A new letter sets its flag and does nothing else**, wherever it is put into a text of flags. If
the text is refused, then the longer one is refused for the same letter.
-/
theorem read_with (letter : Char) (h : letter ∈ letters) {front back : List Char}
    (hfront : letter ∉ front) (hback : letter ∉ back) :
    read (front ++ letter :: back) = (read (front ++ back)).map (·.set letter) :=
  insertAll_with none h (has_none letter) hfront hback

/-! ## Texts that are read -/

/-- The flags that are asked for by the letters of a text. -/
def ofLetters (s : List Char) : Flags :=
  ⟨s.contains 'g', s.contains 'i', s.contains 'm', s.contains 's', s.contains 'u', s.contains 'y',
    s.contains 'd'⟩

/-- **A text is read exactly if its letters are known and all different.** -/
theorem read_eq_ok_iff {s : List Char} {f : Flags} :
    read s = .ok f ↔ (s.Nodup ∧ ∀ c ∈ s, c ∈ letters) ∧ f = ofLetters s := by
  have hfields : ∀ g, read s = .ok g → g = ofLetters s := by
    intro g hg
    have hhas := has_of_read hg
    obtain ⟨global, ignoreCase, multiLine, dotAll, unicode, sticky, hasIndices⟩ := g
    rw [ofLetters, ← hhas 'g', ← hhas 'i', ← hhas 'm', ← hhas 's', ← hhas 'u', ← hhas 'y',
      ← hhas 'd']
    rfl
  constructor
  · intro h
    obtain ⟨hnodup, hknown, -⟩ := insertAll_eq_ok_iff.mp h
    exact ⟨⟨hnodup, fun c hc => (hknown c hc).1⟩, hfields f h⟩
  · rintro ⟨⟨hnodup, hknown⟩, rfl⟩
    obtain ⟨g, hg⟩ := exists_read hnodup hknown
    rw [hg, hfields g hg]

/-- The order of the letters is of no account. -/
theorem read_eq_ok_iff_of_perm {s t : List Char} (h : s.Perm t) (f : Flags) :
    read s = .ok f ↔ read t = .ok f := by
  have hmem : ∀ c, s.contains c = t.contains c := fun c => h.contains_eq
  have hsame : ofLetters s = ofLetters t := by
    simp only [ofLetters, hmem]
  rw [read_eq_ok_iff, read_eq_ok_iff, h.nodup_iff, hsame]
  simp only [h.mem_iff]

/-! ## Texts that are refused -/

/-- Behind others a letter cannot be accepted: it is unknown, or it is one of them. -/
def Offends (front : List Char) (c : Char) : Prop := c ∉ letters ∨ c ∈ front

/-- Behind `front` a text has a letter that cannot be accepted, and none such further left. -/
structure Blames (s front : List Char) (c : Char) : Prop where
  here : ∃ back, s = front ++ c :: back
  offends : Offends front c
  leftmost : ∀ front' d back, front = front' ++ d :: back → ¬ Offends front' d

/-- The letters of a text are known and different if none of them offends in its place. -/
theorem not_offends_iff {s : List Char} :
    (∀ front c back, s = front ++ c :: back → ¬ Offends front c)
      ↔ s.Nodup ∧ ∀ c ∈ s, c ∈ letters := by
  constructor
  · intro h
    induction s using List.reverseRecOn with
    | nil => exact ⟨List.nodup_nil, fun _ hc => absurd hc List.not_mem_nil⟩
    | append_singleton s c ih =>
        have hlast := h s c [] rfl
        rw [Offends, not_or, not_not] at hlast
        obtain ⟨hnodup, hknown⟩ := ih fun front d back hs =>
          h front d (back ++ [c]) (by rw [hs, List.append_assoc]; rfl)
        refine ⟨List.nodup_append.mpr ⟨hnodup, by simp, ?_⟩, ?_⟩
        · intro a ha b hb hab
          rw [List.mem_singleton.mp hb] at hab
          exact hlast.2 (hab ▸ ha)
        · intro d hd
          rcases List.mem_append.mp hd with hd | hd
          · exact hknown d hd
          · rw [List.mem_singleton.mp hd]
            exact hlast.1
  · rintro ⟨hnodup, hknown⟩ front c back rfl hoffends
    rcases hoffends with hunknown | hrepeated
    · exact hunknown (hknown c (by simp))
    · exact (List.nodup_append.mp hnodup).2.2 c hrepeated c List.mem_cons_self rfl

/-- If some letter of a text offends, then there is a leftmost one. -/
theorem exists_blames {s : List Char} (h : ¬ (s.Nodup ∧ ∀ c ∈ s, c ∈ letters)) :
    ∃ front c, Blames s front c := by
  induction s using List.reverseRecOn with
  | nil => exact absurd ⟨List.nodup_nil, fun _ hc => absurd hc List.not_mem_nil⟩ h
  | append_singleton s c ih =>
      by_cases hs : s.Nodup ∧ ∀ c ∈ s, c ∈ letters
      · -- all letters before the last are accepted, so the last is to blame
        refine ⟨s, c, ⟨[], rfl⟩, ?_, not_offends_iff.mpr hs⟩
        by_contra hlast
        refine h (not_offends_iff.mp ?_)
        intro front d back hrow
        rcases List.eq_nil_or_concat' back with rfl | ⟨back, e, rfl⟩
        · obtain ⟨hfront, hd⟩ := List.append_inj' hrow rfl
          injection hd with hd _
          rw [← hfront, ← hd]
          exact hlast
        · rw [← List.cons_append, ← List.append_assoc] at hrow
          exact not_offends_iff.mpr hs front d back (List.append_inj' hrow rfl).1
      · obtain ⟨front, d, ⟨back, rfl⟩, hoffends, hleftmost⟩ := ih hs
        exact ⟨front, d, ⟨back ++ [c], by rw [List.append_assoc]; rfl⟩, hoffends, hleftmost⟩

/-- Behind letters that are accepted the next one decides, whatever follows it. -/
theorem read_of_offends {front : List Char} {c : Char} (hoffends : Offends front c)
    (hleftmost : ∀ front' d back, front = front' ++ d :: back → ¬ Offends front' d)
    (back : List Char) :
    read (front ++ c :: back)
      = .error (if c ∈ letters then .repeated c else .unknown c) := by
  have happend : ∀ (s : List Char) (f : Flags),
      f.insertAll (s ++ c :: back) = (f.insertAll s).bind fun g => g.insertAll (c :: back) := by
    intro s
    induction s with
    | nil => exact fun f => rfl
    | cons d s ih =>
        intro f
        rw [List.cons_append, insertAll_cons, insertAll_cons]
        cases f.insert d with
        | error fault => rfl
        | ok g => exact ih g
  obtain ⟨hnodup, hknown⟩ := not_offends_iff.mp hleftmost
  obtain ⟨g, hg⟩ := exists_read hnodup hknown
  have hhas := has_of_read hg c
  have hfront : none.insertAll front = .ok g := hg
  rw [read, happend, hfront]
  show g.insertAll (c :: back) = _
  rw [insertAll_cons, insert_eq]
  by_cases hc : c ∈ letters
  · have hset : g.has c = true := by
      rw [hhas, List.contains_iff_mem]
      exact hoffends.resolve_left (not_not_intro hc)
    rw [if_pos hc, if_pos hc, if_pos hset]
    rfl
  · rw [if_neg hc, if_neg hc]
    rfl

/-- **A text that is refused is refused for its leftmost letter that offends.** -/
theorem read_eq_error_iff {s : List Char} {fault : FlagFault} :
    read s = .error fault ↔ ∃ front c, Blames s front c
      ∧ fault = if c ∈ letters then .repeated c else .unknown c := by
  constructor
  · intro h
    obtain ⟨front, c, hblames⟩ := exists_blames (s := s) (by
      rintro ⟨hnodup, hknown⟩
      obtain ⟨f, hf⟩ := exists_read hnodup hknown
      cases hf.symm.trans h)
    obtain ⟨back, rfl⟩ := hblames.here
    rw [read_of_offends hblames.offends hblames.leftmost] at h
    exact ⟨front, c, hblames, (Except.error.inj h).symm⟩
  · rintro ⟨front, c, hblames, rfl⟩
    obtain ⟨back, rfl⟩ := hblames.here
    exact read_of_offends hblames.offends hblames.leftmost back

/--
**Which texts of flags are accepted, and what is blamed in the others.**

A text is read exactly if its letters are known and all different. Then each flag is set whose
letter occurs, and any other order of the letters gives the same flags. Any other text is refused as
a whole, for the leftmost letter that is unknown or stands further left as well, whatever follows
it.
-/
theorem read_blames_leftmost [Platform] (text : String) :
    (∀ f, read text.toList = .ok f
      ↔ (text.toList.Nodup ∧ ∀ c ∈ text.toList, c ∈ letters) ∧ f = ofLetters text.toList)
    ∧ (∀ other : List Char, other.Perm text.toList →
        ∀ f, read other = .ok f ↔ read text.toList = .ok f)
    ∧ ∀ fault, read text.toList = .error fault ↔ ∃ front c, Blames text.toList front c
      ∧ fault = (if c ∈ letters then .repeated c else .unknown c)
      ∧ (∀ back, read (front ++ c :: back) = .error fault)
      ∧ ∀ pattern, ∃ problem, Matcher.compile pattern text = .error problem
        ∧ problem = .invalidFlags text fault
        ∧ problem.message = "invalid regex flags '" ++ text ++ "': "
          ++ ((if c ∈ letters then "repeated flag '" else "unknown flag '") ++ c.toString ++ "'") := by
  refine ⟨fun f => read_eq_ok_iff, fun other h f => read_eq_ok_iff_of_perm h f, fun fault => ?_⟩
  constructor
  · intro hread
    obtain ⟨front, c, hblames, hfault⟩ := read_eq_error_iff.mp hread
    have hreason : fault.reason
        = (if c ∈ letters then "repeated flag '" else "unknown flag '") ++ c.toString ++ "'" := by
      rw [hfault]
      split
      · rfl
      · rfl
    refine ⟨front, c, hblames, hfault, fun back => ?_,
      fun pattern => ⟨.invalidFlags text fault, ?_, rfl, ?_⟩⟩
    · rw [hfault]
      exact read_of_offends hblames.offends hblames.leftmost back
    · rw [Matcher.compile, hread]
    · show "invalid regex flags '" ++ text ++ "': " ++ fault.reason = _
      rw [hreason]
  · rintro ⟨front, c, hblames, hfault, -⟩
    exact read_eq_error_iff.mpr ⟨front, c, hblames, hfault⟩

/-- A letter that is repeated in front of one that is unknown, and two letters in another order. -/
theorem read_blames_leftmost_repeated :
    ['y', 'd'].Perm "dy".toList
    ∧ read ['y', 'd'] = .ok ⟨false, false, false, false, false, true, true⟩
    ∧ ∃ front, Blames "gigx".toList front 'g'
      ∧ (∀ back, read (front ++ 'g' :: back) = .error (.repeated 'g'))
      ∧ ∃ problem, Matcher.compile "a" "gigx" = .error problem
        ∧ problem.message = "invalid regex flags 'gigx': repeated flag 'g'" := by
  have hperm : ['y', 'd'].Perm "dy".toList := by decide
  have hread : read "gigx".toList = .error (.repeated 'g') := by decide +kernel
  obtain ⟨-, -, hrefused⟩ := read_blames_leftmost "gigx"
  obtain ⟨front, c, hblames, hfault, hall, hcompile⟩ := (hrefused _).mp hread
  have hc : c = 'g' := by
    split at hfault
    · injection hfault with hfault
      exact hfault.symm
    · cases hfault
  subst hc
  obtain ⟨problem, hproblem, rfl, -⟩ := hcompile "a"
  exact ⟨hperm, ((read_blames_leftmost "dy").2.1 _ hperm _).mpr rfl, front, hblames, hall, _,
    hproblem, by decide⟩

end StyleLookup.Matcher.Flags
