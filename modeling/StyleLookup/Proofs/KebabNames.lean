import StyleLookup.Output.Formatted
import StyleLookup.Proofs.HyphenRuns

/-!
# Kebab-case names

The names of standard properties are segments of small letters and digits, joined by single hyphens,
with one more hyphen in front if a vendor made them up. On these names camel case can be undone: a
capital can only have come from a hyphen and a small letter, because the names hold no capitals and
every hyphen has a small letter behind it, never a digit.

So no two of these names have the same key (`camelCase_kebab`), and declarations as an object repeat
a key exactly where the rule repeats a property. On other names this fails: `a-1` and `a1` have the
same key.

A name is a row of **words** here, each a segment or a hyphen with a segment. No word ends in a
hyphen, so that camel case goes word by word (`camelCase_append`).
-/

namespace StyleLookup

open Css Text Unicode

/-- The characters of a segment: small letters and digits of ASCII. -/
def IsPlain (c : Char) : Prop := c.isLower = true ∨ c.isDigit = true

instance : DecidablePred IsPlain := fun _ => inferInstanceAs (Decidable (_ ∨ _))

/-- A small letter, and then small letters and digits. -/
def IsSegment : List Char → Prop
  | [] => False
  | c :: cs => c.isLower = true ∧ ∀ d ∈ cs, IsPlain d

instance : DecidablePred IsSegment
  | [] => inferInstanceAs (Decidable False)
  | c :: cs =>
      letI : Decidable (∀ d ∈ cs, IsPlain d) := List.decidableBAll _ cs
      inferInstanceAs (Decidable (c.isLower = true ∧ ∀ d ∈ cs, IsPlain d))

/-- Segments with single hyphens between them, and perhaps one in front. -/
def IsKebab (name : List Char) : Prop :=
  ∃ segments, segments ≠ [] ∧ (∀ s ∈ segments, IsSegment s)
    ∧ (name = joinWith ['-'] segments ∨ name = '-' :: joinWith ['-'] segments)

/-- The name that a key comes from: each capital stands for a hyphen and a small letter. -/
def kebabCase (key : List Char) : List Char :=
  key.flatMap fun c => if c.isUpper then ['-', c.toLower] else [c]

/-! ## Keys and the names that they come from -/

/-- A key without hyphens that has the letters of the name, and a capital where it has a hyphen. -/
structure IsKeyOf (key name : List Char) : Prop where
  noHyphen : '-' ∉ key
  letters : key.map Char.toLower = name.filter (· != '-')
  back : kebabCase key = name

theorem IsKeyOf.append {key name key' name' : List Char} (h : IsKeyOf key name)
    (h' : IsKeyOf key' name') : IsKeyOf (key ++ key') (name ++ name') where
  noHyphen := by
    rw [List.mem_append, not_or]
    exact ⟨h.noHyphen, h'.noHyphen⟩
  letters := by rw [List.map_append, List.filter_append, h.letters, h'.letters]
  back := by
    rw [kebabCase, List.flatMap_append]
    exact congrArg₂ (· ++ ·) h.back h'.back

/-! ## Characters -/

theorem IsPlain.lt {c : Char} (h : IsPlain c) : c.toNat < 128 := by
  unfold IsPlain Char.isLower Char.isDigit at h
  rw [Bool.and_eq_true, Bool.and_eq_true, decide_eq_true_iff, decide_eq_true_iff,
    decide_eq_true_iff, decide_eq_true_iff] at h
  rcases h with h | h
  · have hle : c.toNat ≤ 122 := UInt32.le_iff_toNat_le.mp h.2
    omega
  · have hle : c.toNat ≤ 57 := UInt32.le_iff_toNat_le.mp h.2
    omega

theorem plain_ascii : ∀ n < 128,
    (Char.ofNat n).isLower = true ∨ (Char.ofNat n).isDigit = true →
      Char.ofNat n ≠ '-' ∧ (Char.ofNat n).isUpper = false
        ∧ (Char.ofNat n).toLower = Char.ofNat n := by decide +kernel

theorem upper_ascii : ∀ n < 128, (Char.ofNat n).isLower = true →
    upper (Char.ofNat n) = [(Char.ofNat n).toUpper] ∧ (Char.ofNat n).toUpper ≠ '-'
      ∧ (Char.ofNat n).toUpper.isUpper = true
      ∧ (Char.ofNat n).toUpper.toLower = Char.ofNat n := by decide +kernel

theorem IsPlain.ne_hyphen {c : Char} (h : IsPlain c) : c ≠ '-' := by
  have hfacts := plain_ascii c.toNat h.lt
  rw [Char.ofNat_toNat] at hfacts
  exact (hfacts h).1

/-- A small letter or a digit is its own key. -/
theorem IsPlain.isKeyOf {c : Char} (h : IsPlain c) : IsKeyOf [c] [c] := by
  have hfacts := plain_ascii c.toNat h.lt
  rw [Char.ofNat_toNat] at hfacts
  obtain ⟨hne, hupper, hlower⟩ := hfacts h
  refine ⟨?_, ?_, ?_⟩
  · simpa using Ne.symm hne
  · simp [hlower, hne]
  · simp [kebabCase, hupper]

/-- A hyphen and a small letter have a capital as their key. -/
theorem isKeyOf_upper {c : Char} (h : c.isLower = true) : IsKeyOf (upper c) ['-', c] := by
  have hfacts := upper_ascii c.toNat (IsPlain.lt (.inl h))
  rw [Char.ofNat_toNat] at hfacts
  obtain ⟨hcapital, hne, hupper, hlower⟩ := hfacts h
  rw [hcapital]
  refine ⟨?_, ?_, ?_⟩
  · simpa using Ne.symm hne
  · simp [hlower, IsPlain.ne_hyphen (.inl h)]
  · simp [kebabCase, hupper, hlower]

theorem isKeyOf_plain {s : List Char} (h : ∀ c ∈ s, IsPlain c) : IsKeyOf s s := by
  induction s with
  | nil => exact ⟨List.not_mem_nil, rfl, rfl⟩
  | cons c s ih =>
      rw [List.forall_mem_cons] at h
      exact h.1.isKeyOf.append (ih h.2)

/-! ## Words -/

/-- A segment, or a hyphen with one. -/
def IsWord (w : List Char) : Prop := ∃ s, IsSegment s ∧ (w = s ∨ w = '-' :: s)

theorem joinWith_cons_eq (separator piece : List Char) (pieces : List (List Char)) :
    joinWith separator (piece :: pieces) = piece ++ (pieces.map (separator ++ ·)).flatten := by
  induction pieces generalizing piece with
  | nil => rw [joinWith, List.map_nil, List.flatten_nil, List.append_nil]
  | cons next pieces ih => simp [joinWith, ih]

/-- A name is a row of words. -/
theorem IsKebab.exists_words {name : List Char} (h : IsKebab name) :
    ∃ words : List (List Char), (∀ w ∈ words, IsWord w) ∧ name = words.flatten := by
  obtain ⟨segments, hne, hsegments, hname⟩ := h
  cases segments with
  | nil => exact absurd rfl hne
  | cons s segments =>
      rw [List.forall_mem_cons] at hsegments
      have hmore : ∀ w ∈ segments.map (['-'] ++ ·), IsWord w := by
        intro w hw
        obtain ⟨segment, hsegment, rfl⟩ := List.mem_map.mp hw
        exact ⟨segment, hsegments.2 segment hsegment, .inr rfl⟩
      rw [joinWith_cons_eq] at hname
      rcases hname with rfl | rfl
      · exact ⟨s :: segments.map (['-'] ++ ·),
          List.forall_mem_cons.mpr ⟨⟨s, hsegments.1, .inl rfl⟩, hmore⟩, rfl⟩
      · exact ⟨('-' :: s) :: segments.map (['-'] ++ ·),
          List.forall_mem_cons.mpr ⟨⟨s, hsegments.1, .inr rfl⟩, hmore⟩, rfl⟩

theorem IsSegment.exists_cons {s : List Char} (h : IsSegment s) :
    ∃ c cs, s = c :: cs ∧ c.isLower = true ∧ ∀ d ∈ cs, IsPlain d := by
  cases s with
  | nil => exact h.elim
  | cons c cs => exact ⟨c, cs, rfl, h.1, h.2⟩

theorem IsSegment.plain {s : List Char} (h : IsSegment s) : ∀ c ∈ s, IsPlain c := by
  obtain ⟨c, cs, rfl, hc, hcs⟩ := h.exists_cons
  exact List.forall_mem_cons.mpr ⟨.inl hc, hcs⟩

theorem IsSegment.no_hyphen {s : List Char} (h : IsSegment s) : '-' ∉ s :=
  fun hmem => (h.plain '-' hmem).ne_hyphen rfl

/-- **Of a word, camel case makes a key.** -/
theorem IsWord.isKeyOf {w : List Char} (h : IsWord w) : IsKeyOf (camelCase w) w := by
  obtain ⟨s, hs, rfl | rfl⟩ := h
  · rw [camelCase_of_no_hyphen hs.no_hyphen]
    exact isKeyOf_plain hs.plain
  · have hplain := hs.plain
    have hnone := hs.no_hyphen
    obtain ⟨c, cs, rfl, hc, _⟩ := hs.exists_cons
    rw [List.forall_mem_cons] at hplain
    rw [List.mem_cons, not_or] at hnone
    rw [camelCase_hyphen_cons, camelCase_of_no_hyphen hnone.2]
    exact (isKeyOf_upper hc).append (isKeyOf_plain hplain.2)

/-- No word ends in a hyphen. -/
theorem IsWord.trailingHyphens_eq {w : List Char} (h : IsWord w) : trailingHyphens w = 0 := by
  obtain ⟨s, hs, rfl | rfl⟩ := h
  · exact trailingHyphens_eq_zero hs.no_hyphen
  · have hzero := trailingHyphens_eq_zero hs.no_hyphen
    obtain ⟨c, cs, rfl, _⟩ := hs.exists_cons
    rw [trailingHyphens_cons, hzero, if_neg]
    exact fun hall => absurd hall.1 (by simp)

theorem isKeyOf_flatten {words : List (List Char)} (h : ∀ w ∈ words, IsWord w) :
    IsKeyOf (camelCase words.flatten) words.flatten := by
  induction words with
  | nil => exact ⟨List.not_mem_nil, rfl, rfl⟩
  | cons w words ih =>
      rw [List.forall_mem_cons] at h
      rw [List.flatten_cons, camelCase_append (by rw [h.1.trailingHyphens_eq])]
      exact h.1.isKeyOf.append (ih h.2)

/-! ## Names -/

theorem IsKebab.isKeyOf {name : List Char} (h : IsKebab name) : IsKeyOf (camelCase name) name := by
  obtain ⟨words, hwords, rfl⟩ := h.exists_words
  exact isKeyOf_flatten hwords

theorem IsKebab.eq_of_camelCase {a b : List Char} (ha : IsKebab a) (hb : IsKebab b)
    (h : camelCase a = camelCase b) : a = b := by
  rw [← ha.isKeyOf.back, ← hb.isKeyOf.back, h]

/-- Two places of declarations have equal keys exactly if they set the same property. -/
theorem key_eq_iff {ds : List Declaration} (h : ∀ d ∈ ds, IsKebab d.property.toList) (i j : Nat) :
    ((declarationEntries ds).map Prod.fst)[i]? = ((declarationEntries ds).map Prod.fst)[j]?
      ↔ (ds.map Declaration.property)[i]? = (ds.map Declaration.property)[j]? := by
  have hkey : ∀ k : Nat, ((declarationEntries ds).map Prod.fst)[k]?
      = ds[k]?.map fun d => String.ofList (camelCase d.property.toList) := by
    intro k
    rw [declarationEntries, List.map_map, List.getElem?_map]
    rfl
  rw [hkey, hkey, List.getElem?_map, List.getElem?_map]
  cases hi : ds[i]? with
  | none => cases ds[j]? <;> simp
  | some d =>
      cases hj : ds[j]? with
      | none => simp
      | some e =>
          rw [Option.map_some, Option.map_some, Option.map_some, Option.map_some, Option.some_inj,
            Option.some_inj]
          refine ⟨?_, fun hproperty => by rw [hproperty]⟩
          intro hcamel
          have hcamel := congrArg String.toList hcamel
          rw [String.toList_ofList, String.toList_ofList] at hcamel
          have hd := h d (List.mem_of_getElem? hi)
          have he := h e (List.mem_of_getElem? hj)
          exact String.toList_inj.mp (hd.eq_of_camelCase he hcamel)

/--
**On kebab-case names camel case loses nothing.**

The key of a name has no hyphen and the letters of the name, and the name comes back when each of
its capitals is made a hyphen and a small letter. So different names have different keys, and
declarations over such names have two equal keys exactly where they set a property twice.
-/
theorem camelCase_kebab :
    (∀ name, IsKebab name → '-' ∉ camelCase name
      ∧ (camelCase name).map Char.toLower = name.filter (· != '-')
      ∧ kebabCase (camelCase name) = name)
    ∧ (∀ a b, IsKebab a → IsKebab b → camelCase a = camelCase b → a = b)
    ∧ ∀ ds : List Declaration, (∀ d ∈ ds, IsKebab d.property.toList) → ∀ i j : Nat,
      ((declarationEntries ds).map Prod.fst)[i]? = ((declarationEntries ds).map Prod.fst)[j]?
        ↔ (ds.map Declaration.property)[i]? = (ds.map Declaration.property)[j]? := by
  refine ⟨?_, fun a b ha hb h => ha.eq_of_camelCase hb h, fun ds h i j => key_eq_iff h i j⟩
  intro name h
  exact ⟨h.isKeyOf.noHyphen, h.isKeyOf.letters, h.isKeyOf.back⟩

-- a digit behind a hyphen leaves no trace of it
example : camelCase ['a', '-', '1'] = camelCase ['a', '1'] := by decide

/-- A property of a vendor that is set twice, and between the two one with a digit. -/
theorem camelCase_kebab_vendor :
    let ds : List Declaration := [⟨"-ms-flex", "1"⟩, ⟨"grid-area2", "a"⟩, ⟨"-ms-flex", "2"⟩]
    (∀ d ∈ ds, IsKebab d.property.toList)
      ∧ kebabCase (camelCase "-ms-flex".toList) = "-ms-flex".toList
      ∧ (camelCase "-ms-flex".toList = camelCase "grid-area2".toList →
        "-ms-flex".toList = "grid-area2".toList)
      ∧ ∀ i j : Nat,
        ((declarationEntries ds).map Prod.fst)[i]? = ((declarationEntries ds).map Prod.fst)[j]?
          ↔ (ds.map Declaration.property)[i]? = (ds.map Declaration.property)[j]? := by
  intro ds
  have hflex : IsKebab "-ms-flex".toList :=
    ⟨["ms".toList, "flex".toList], by decide, by decide, .inr (by decide)⟩
  have hgrid : IsKebab "grid-area2".toList :=
    ⟨["grid".toList, "area2".toList], by decide, by decide, .inl (by decide)⟩
  have hds : ∀ d ∈ ds, IsKebab d.property.toList := by
    rw [List.forall_mem_cons, List.forall_mem_cons, List.forall_mem_singleton]
    exact ⟨hflex, hgrid, hflex⟩
  exact ⟨hds, (camelCase_kebab.1 _ hflex).2.2, camelCase_kebab.2.1 _ _ hflex hgrid,
    camelCase_kebab.2.2 ds hds⟩

end StyleLookup
