import StyleLookup.Literal.Script
import StyleLookup.Literal.Serializer
import StyleLookup.Proofs.LiteralReader

/-!
# Written values can be read back

A value that is written in a layout is read back, whole and unchanged, in any dialect that
**understands** the layout: what the layout puts between parts is a gap of the dialect, and what it
makes of a character is read as that character. Nothing else about the two matters, so the
argument over values is made once (`Understands.readsBack`).

Resolutions are not written by way of values. Script literals and serializers go through a
resolution each in its own way, so it is shown of each that it comes to the same as writing the
value (`literal_eq_write`, `Serializer.Makes.serialize`).

For script literals that gives `script_lossless`. The expression that stands for a resolution has
no character that could end a line or that controls anything, and it says all that the resolution
holds: two resolutions have the same expression exactly if they have the same value.
-/

namespace StyleLookup

open Text

namespace Dialect

/-- The characters that parts of a literal start and end with. -/
def marks : List Char := ['n', '"', '[', ']', '\x7b', '\x7d', ',', ':']

/-- A dialect reads what a layout writes, character by character. -/
structure Understands (d : Dialect) (l : Layout) : Prop where
  listGap : ∀ depth, ∀ c ∈ l.listGap depth, d.isGap c = true
  objectGap : ∀ depth, ∀ c ∈ l.objectGap depth, d.isGap c = true
  commaGap : ∀ depth, ∀ c ∈ l.commaGap depth, d.isGap c = true
  colonGap : ∀ c ∈ l.colonGap, d.isGap c = true
  /-- No part can be taken for a gap. -/
  marks : ∀ c ∈ marks, d.isGap c = false
  /-- A character stands for itself or is written behind a backslash. -/
  escape : ∀ c, (l.escape c = [c] ∧ c ≠ '"' ∧ c ≠ '\\' ∧ d.isPlain c = true)
    ∨ ∃ e, l.escape c = '\\' :: e ∧ ∀ rest, d.unescape (e ++ rest) = some ([c], rest)

variable {d : Dialect} {l : Layout}

theorem skip_append {gap : List Char} (hgap : ∀ c ∈ gap, d.isGap c = true) (rest : List Char) :
    d.skip (gap ++ rest) = d.skip rest := List.dropWhile_append_of_pos hgap

theorem Understands.skip_mark (h : d.Understands l) {c : Char} (hc : c ∈ Dialect.marks)
    (rest : List Char) : d.skip (c :: rest) = c :: rest := by
  rw [skip, List.dropWhile_cons_of_neg (by rw [h.marks c hc]; exact Bool.false_ne_true)]

/-! ## Texts -/

theorem Understands.length_le_escape (h : d.Understands l) (s : List Char) :
    s.length ≤ (s.flatMap l.escape).length := by
  induction s with
  | nil => exact Nat.le_refl _
  | cons c s ih =>
      rw [List.flatMap_cons, List.length_append, List.length_cons]
      have : 1 ≤ (l.escape c).length := by
        rcases h.escape c with ⟨he, _⟩ | ⟨e, he, _⟩
        · rw [he]; exact Nat.le_refl 1
        · rw [he, List.length_cons]; exact Nat.le_add_left 1 _
      omega

/-- **A written text is read back, whatever follows its closing quote.** -/
theorem Understands.readText_escape (h : d.Understands l) (s rest : List Char) {n : Nat}
    (hn : s.length < n) :
    d.readText n (s.flatMap l.escape ++ '"' :: rest) = some (s, rest) := by
  induction s generalizing n with
  | nil =>
      obtain ⟨m, rfl⟩ := Nat.exists_eq_add_of_lt hn
      rw [List.flatMap_nil, List.nil_append, readText, if_pos rfl]
  | cons c s ih =>
      obtain ⟨m, rfl⟩ : ∃ m, n = m + 1 := ⟨n - 1, by omega⟩
      have hm : s.length < m := by rw [List.length_cons] at hn; omega
      rw [List.flatMap_cons, List.append_assoc]
      rcases h.escape c with ⟨he, hquote, hslash, hplain⟩ | ⟨e, he, hread⟩
      · rw [he, List.singleton_append, readText, if_neg hquote, if_neg hslash, if_pos hplain, ih hm]
        rfl
      · rw [he, List.cons_append, readText, if_neg (by decide), if_pos rfl, hread]
        simp only [Option.bind_eq_bind, Option.bind_some]
        rw [ih hm]
        rfl

theorem Understands.readText_quote (h : d.Understands l) (s rest : List Char) {n : Nat}
    (hn : (l.quote s).length < n) :
    ∃ written, l.quote s ++ rest = '"' :: written
      ∧ d.readText (n - 1) written = some (s, rest) := by
  refine ⟨s.flatMap l.escape ++ '"' :: rest, by simp [Layout.quote], ?_⟩
  refine h.readText_escape s rest ?_
  have := h.length_le_escape s
  rw [Layout.quote, List.length_append, List.length_cons] at hn
  omega

/-! ## Values -/

/-- A written value starts with a mark, and not with the one that closes a list. -/
theorem exists_write_eq_cons (l : Layout) (depth : Nat) (v : Value) :
    ∃ c cs, v.write l depth = c :: cs ∧ c ∈ marks ∧ c ≠ ']' := by
  cases v with
  | null => exact ⟨'n', _, by rw [Value.write], by decide, by decide⟩
  | text s => exact ⟨'"', _, by rw [Value.write, Layout.quote]; rfl, by decide, by decide⟩
  | list items =>
      rw [Value.write, Layout.enclose]
      split
      · exact ⟨'[', _, rfl, by decide, by decide⟩
      · exact ⟨'[', _, rfl, by decide, by decide⟩
  | object entries =>
      rw [Value.write, Layout.enclose]
      split
      · exact ⟨'\x7b', _, rfl, by decide, by decide⟩
      · exact ⟨'\x7b', _, rfl, by decide, by decide⟩

theorem joinWith_cons_cons (separator piece next : List Char) (pieces : List (List Char)) :
    joinWith separator (piece :: next :: pieces)
      = piece ++ separator ++ joinWith separator (next :: pieces) := rfl

/-- What comes first in a row of pieces is the first piece. -/
theorem exists_joinWith_eq_append (separator piece : List Char) (pieces : List (List Char)) :
    ∃ more, joinWith separator (piece :: pieces) = piece ++ more := by
  cases pieces with
  | nil => exact ⟨[], by rw [joinWith, List.append_nil]⟩
  | cons next pieces => exact ⟨_, by rw [joinWith_cons_cons, List.append_assoc]⟩

theorem writeItems_eq_map (l : Layout) (depth : Nat) (items : List Value) :
    Value.writeItems l depth items = items.map (Value.write l depth) := by
  induction items with
  | nil => rw [Value.writeItems]; rfl
  | cons item items ih => rw [Value.writeItems, ih]; rfl

/-- An entry as it is written. -/
def writeEntry (l : Layout) (depth : Nat) (entry : String × Value) : List Char :=
  l.quote entry.1.toList ++ [':'] ++ l.colonGap ++ entry.2.write l depth

theorem writeEntries_eq_map (l : Layout) (depth : Nat) (entries : List (String × Value)) :
    Value.writeEntries l depth entries = entries.map (writeEntry l depth) := by
  induction entries with
  | nil => rw [Value.writeEntries]; rfl
  | cons entry entries ih => rw [Value.writeEntries, ih]; rfl

/-- A value is read back wherever it is written. -/
def ReadsBack (d : Dialect) (l : Layout) (v : Value) : Prop :=
  ∀ (depth : Nat) (lead rest : List Char) (n : Nat), (∀ c ∈ lead, d.isGap c = true) →
    (v.write l depth).length < n →
      d.readValue n (lead ++ (v.write l depth ++ rest)) = some (v, rest)

/-- Items with commas between them, up to the closing bracket. -/
theorem Understands.readItems_joinWith (h : d.Understands l) (depth : Nat)
    {gap : List Char} (hgap : ∀ c ∈ gap, d.isGap c = true) (rest : List Char)
    (items : List Value) :
    ∀ (item : Value) (lead : List Char) (n : Nat), (∀ v ∈ item :: items, ReadsBack d l v) →
      (∀ c ∈ lead, d.isGap c = true) →
      (joinWith (',' :: l.commaGap depth) ((item :: items).map (Value.write l depth))).length + 1
        < n →
      d.readItems n (lead ++ (joinWith (',' :: l.commaGap depth)
        ((item :: items).map (Value.write l depth)) ++ (gap ++ ']' :: rest)))
        = some (item :: items, rest) := by
  induction items with
  | nil =>
      intro item lead n hall hlead hn
      obtain ⟨m, rfl⟩ : ∃ m, n = m + 1 := ⟨n - 1, by omega⟩
      rw [List.map_singleton, joinWith] at hn ⊢
      refine readItems_last (hall item List.mem_cons_self depth lead _ m hlead (by omega)) ?_
      rw [skip_append hgap, h.skip_mark (by decide)]
  | cons next items ih =>
      intro item lead n hall hlead hn
      obtain ⟨m, rfl⟩ : ∃ m, n = m + 1 := ⟨n - 1, by omega⟩
      rw [List.map_cons, List.map_cons, joinWith_cons_cons, ← List.map_cons] at hn ⊢
      simp only [List.length_append, List.length_cons] at hn
      simp only [List.append_assoc, List.cons_append]
      refine readItems_cons (hall item List.mem_cons_self depth lead _ m hlead (by omega))
        (h.skip_mark (by decide) _) ?_
      exact ih next _ m (fun v hv => hall v (List.mem_cons_of_mem _ hv)) (h.commaGap depth)
        (by omega)

/-- The key, the colon and the item of an entry, in front of anything. -/
theorem Understands.readEntry (h : d.Understands l) (depth : Nat) {entry : String × Value}
    (hitem : ReadsBack d l entry.2) {lead : List Char} (hlead : ∀ c ∈ lead, d.isGap c = true)
    (after : List Char) {m : Nat} (hm : (writeEntry l depth entry).length ≤ m) :
    ∃ t u v, d.skip (lead ++ (writeEntry l depth entry ++ after)) = '"' :: t
      ∧ d.readText m t = some (entry.1.toList, u) ∧ d.skip u = ':' :: v
      ∧ d.readValue m v = some (entry.2, after) := by
  rw [writeEntry] at hm ⊢
  simp only [List.length_append, List.length_cons, List.length_nil] at hm
  simp only [List.append_assoc]
  obtain ⟨t, ht, hread⟩ := h.readText_quote entry.1.toList
    ([':'] ++ (l.colonGap ++ (entry.2.write l depth ++ after))) (n := m + 1) (by omega)
  refine ⟨t, _, _, ?_, hread, h.skip_mark (by decide) _, ?_⟩
  · rw [skip_append hlead, ht, h.skip_mark (by decide)]
  · exact hitem depth _ after m h.colonGap (by omega)

/-- Entries with commas between them, up to the closing brace. -/
theorem Understands.readEntries_joinWith (h : d.Understands l) (depth : Nat)
    {gap : List Char} (hgap : ∀ c ∈ gap, d.isGap c = true) (rest : List Char)
    (entries : List (String × Value)) :
    ∀ (entry : String × Value) (lead : List Char) (n : Nat),
      (∀ e ∈ entry :: entries, ReadsBack d l e.2) → (∀ c ∈ lead, d.isGap c = true) →
      (joinWith (',' :: l.commaGap depth) ((entry :: entries).map (writeEntry l depth))).length + 1
        < n →
      d.readEntries n (lead ++ (joinWith (',' :: l.commaGap depth)
        ((entry :: entries).map (writeEntry l depth)) ++ (gap ++ '\x7d' :: rest)))
        = some (entry :: entries, rest) := by
  induction entries with
  | nil =>
      intro entry lead n hall hlead hn
      obtain ⟨m, rfl⟩ : ∃ m, n = m + 1 := ⟨n - 1, by omega⟩
      rw [List.map_singleton, joinWith] at hn ⊢
      obtain ⟨t, u, v, ht, hkey, hu, hitem⟩ := h.readEntry depth
        (hall entry List.mem_cons_self) hlead (gap ++ '\x7d' :: rest) (m := m) (by omega)
      have hread := readEntries_last ht hkey hu hitem
        (by rw [skip_append hgap, h.skip_mark (by decide)])
      rwa [String.ofList_toList] at hread
  | cons next entries ih =>
      intro entry lead n hall hlead hn
      obtain ⟨m, rfl⟩ : ∃ m, n = m + 1 := ⟨n - 1, by omega⟩
      rw [List.map_cons, List.map_cons, joinWith_cons_cons, ← List.map_cons] at hn ⊢
      simp only [List.length_append, List.length_cons] at hn
      simp only [List.append_assoc, List.cons_append]
      obtain ⟨t, u, v, ht, hkey, hu, hitem⟩ := h.readEntry depth
        (hall entry List.mem_cons_self) hlead _ (m := m) (by omega)
      have hread := readEntries_cons ht hkey hu hitem (h.skip_mark (by decide) _)
        (ih next _ m (fun e he => hall e (List.mem_cons_of_mem _ he)) (h.commaGap depth) (by omega))
      rwa [String.ofList_toList] at hread

theorem Understands.readsBack_null (h : d.Understands l) : ReadsBack d l .null := by
  intro depth lead rest n hlead hn
  obtain ⟨m, rfl⟩ : ∃ m, n = m + 1 := ⟨n - 1, by omega⟩
  refine readValue_null ?_
  rw [skip_append hlead, Value.write, List.cons_append, h.skip_mark (by decide)]
  rfl

theorem Understands.readsBack_text (h : d.Understands l) (s : String) :
    ReadsBack d l (.text s) := by
  intro depth lead rest n hlead hn
  obtain ⟨m, rfl⟩ : ∃ m, n = m + 1 := ⟨n - 1, by omega⟩
  rw [Value.write] at hn ⊢
  obtain ⟨t, ht, hread⟩ := h.readText_quote s.toList rest hn
  have htext : d.readValue (m + 1) (lead ++ (l.quote s.toList ++ rest))
      = some (.text (String.ofList s.toList), rest) :=
    readValue_text (by rw [skip_append hlead, ht, h.skip_mark (by decide)]) hread
  rwa [String.ofList_toList] at htext

theorem Understands.readsBack_list (h : d.Understands l) {items : List Value}
    (hall : ∀ v ∈ items, ReadsBack d l v) : ReadsBack d l (.list items) := by
  intro depth lead rest n hlead hn
  obtain ⟨m, rfl⟩ : ∃ m, n = m + 1 := ⟨n - 1, by omega⟩
  rw [Value.write, Layout.enclose, writeItems_eq_map] at hn ⊢
  cases items with
  | nil =>
      refine readValue_emptyList (t := ']' :: rest) ?_ (h.skip_mark (by decide) rest)
      rw [skip_append hlead]
      exact h.skip_mark (by decide) _
  | cons item items =>
      rw [if_neg (by rw [List.map_cons]; exact Bool.false_ne_true)] at hn ⊢
      simp only [List.length_cons, List.length_append, List.length_nil] at hn
      have hitems := h.readItems_joinWith (depth + 1) (h.listGap depth) rest items item [] m hall
        (by simp) (by omega)
      -- behind the bracket stands the first item
      obtain ⟨c, cs, hitem, hmark, hclose⟩ := exists_write_eq_cons l (depth + 1) item
      obtain ⟨more, hmore⟩ := exists_joinWith_eq_append (',' :: l.commaGap (depth + 1))
        (item.write l (depth + 1)) (items.map (Value.write l (depth + 1)))
      rw [List.map_cons, hmore, hitem] at hitems ⊢
      simp only [List.append_assoc, List.cons_append, List.nil_append] at hitems ⊢
      refine readValue_list (t := l.listGap (depth + 1) ++ (c :: (cs ++ (more ++
        (l.listGap depth ++ ']' :: rest))))) ?_ ?_ hclose hitems
      · rw [skip_append hlead]
        exact h.skip_mark (by decide) _
      · rw [skip_append (h.listGap _), h.skip_mark hmark]

theorem Understands.readsBack_object (h : d.Understands l) {entries : List (String × Value)}
    (hall : ∀ e ∈ entries, ReadsBack d l e.2) : ReadsBack d l (.object entries) := by
  intro depth lead rest n hlead hn
  obtain ⟨m, rfl⟩ : ∃ m, n = m + 1 := ⟨n - 1, by omega⟩
  rw [Value.write, Layout.enclose, writeEntries_eq_map] at hn ⊢
  cases entries with
  | nil =>
      refine readValue_emptyObject (t := '\x7d' :: rest) ?_ (h.skip_mark (by decide) rest)
      rw [skip_append hlead]
      exact h.skip_mark (by decide) _
  | cons entry entries =>
      rw [if_neg (by rw [List.map_cons]; exact Bool.false_ne_true)] at hn ⊢
      simp only [List.length_cons, List.length_append, List.length_nil] at hn
      have hentries := h.readEntries_joinWith (depth + 1) (h.objectGap depth) rest entries entry []
        m hall (by simp) (by omega)
      -- behind the brace stands the first key
      obtain ⟨more, hmore⟩ := exists_joinWith_eq_append (',' :: l.commaGap (depth + 1))
        (writeEntry l (depth + 1) entry) (entries.map (writeEntry l (depth + 1)))
      obtain ⟨key, hkey⟩ : ∃ key, writeEntry l (depth + 1) entry = '"' :: key :=
        ⟨_, by rw [writeEntry, Layout.quote]; rfl⟩
      rw [List.map_cons, hmore, hkey] at hentries ⊢
      simp only [List.append_assoc, List.cons_append, List.nil_append] at hentries ⊢
      refine readValue_object (t := l.objectGap (depth + 1) ++ ('"' :: (key ++ (more ++
        (l.objectGap depth ++ '\x7d' :: rest))))) ?_ ?_ (by decide) hentries
      · rw [skip_append hlead]
        exact h.skip_mark (by decide) _
      · rw [skip_append (h.objectGap _), h.skip_mark (by decide)]

/-- **A written value is read back, whatever surrounds it.** -/
theorem Understands.readsBack (h : d.Understands l) : ∀ v : Value, ReadsBack d l v
  | .null => h.readsBack_null
  | .text s => h.readsBack_text s
  | .list items => h.readsBack_list fun v _ => h.readsBack v
  | .object entries => h.readsBack_object fun e _ => h.readsBack e.2
termination_by v => sizeOf v
decreasing_by
  · rename_i hv
    have := List.sizeOf_lt_of_mem hv
    simp only [Value.list.sizeOf_spec]
    omega
  · rename_i he
    have := List.sizeOf_lt_of_mem he
    obtain ⟨key, v⟩ := e
    simp only [Value.object.sizeOf_spec, Prod.mk.sizeOf_spec] at this ⊢
    omega

/-- **A written value is all that its text holds.** -/
theorem Understands.read_write (h : d.Understands l) (v : Value) :
    d.read (v.write l 0) = some v := by
  have hread := h.readsBack v 0 [] [] ((v.write l 0).length + 1) (by simp) (Nat.lt_succ_self _)
  rw [List.nil_append, List.append_nil] at hread
  rw [read, hread]
  rfl

theorem Understands.read_written (h : d.Understands l) (v : Value) :
    d.read (v.written l).toList = some v := by
  rw [Value.written, String.toList_ofList]
  exact h.read_write v

/-! ## Script literals -/

theorem digit?_digitChar (n : Nat) (h : n < 16) :
    Hexadecimal.digit? (Hexadecimal.digitChar n) = some n := by
  have hall : ∀ k < 16, Hexadecimal.digit? (Hexadecimal.digitChar k) = some k := by decide
  exact hall n h

theorem hexadecimal_fourDigits {n : Nat} (h : n < 0x10000) (rest : List Char) :
    hexadecimal 4 (Hexadecimal.fourDigits n ++ rest) = some (n, rest) := by
  have hdigits : (Hexadecimal.fourDigits n ++ rest).take 4 = Hexadecimal.fourDigits n := rfl
  have hrest : (Hexadecimal.fourDigits n ++ rest).drop 4 = rest := rfl
  have h1 := digit?_digitChar (n / 4096 % 16) (Nat.mod_lt _ (by omega))
  have h2 := digit?_digitChar (n / 256 % 16) (Nat.mod_lt _ (by omega))
  have h3 := digit?_digitChar (n / 16 % 16) (Nat.mod_lt _ (by omega))
  have h4 := digit?_digitChar (n % 16) (Nat.mod_lt _ (by omega))
  have hall : (Hexadecimal.fourDigits n).all Hexadecimal.isDigit = true := by
    simp [Hexadecimal.fourDigits, Hexadecimal.isDigit, h1, h2, h3, h4]
  have hvalue : Hexadecimal.value (Hexadecimal.fourDigits n) = n := by
    simp only [Hexadecimal.value, Hexadecimal.fourDigits, List.foldl_cons, List.foldl_nil, h1, h2,
      h3, h4, Option.getD_some]
    omega
  rw [hexadecimal, hdigits, hrest, if_pos ⟨rfl, hall⟩, hvalue]

/-- Four digits below the surrogates are a character of their own. -/
theorem utf16Unit_fourDigits {c : Char} (h : c.toNat < 0xD800) (rest : List Char) :
    utf16Unit (Hexadecimal.fourDigits c.toNat ++ rest) = some ([c], rest) := by
  have hvalid : c.toNat.isValidChar := .inl h
  rw [utf16Unit, hexadecimal_fourDigits (by omega)]
  simp only [Option.bind_eq_bind, Option.bind_some]
  rw [if_neg (by omega), character, if_pos hvalid, Char.ofNat_toNat]
  rfl

/-- A dialect that knows the escapes of script literals. -/
structure KnowsEscapes (d : Dialect) : Prop where
  itself : ∀ c, c = '"' ∨ c = '\\' → ∀ rest, d.unescape (c :: rest) = some ([c], rest)
  newline : ∀ rest, d.unescape ('n' :: rest) = some (['\n'], rest)
  carriageReturn : ∀ rest, d.unescape ('r' :: rest) = some (['\r'], rest)
  tab : ∀ rest, d.unescape ('t' :: rest) = some (['\t'], rest)
  numbered : ∀ c : Char, c.toNat < 0xD800 → ∀ rest,
    d.unescape ('u' :: Hexadecimal.fourDigits c.toNat ++ rest) = some ([c], rest)

/-- It reads these escapes back, if it takes all other characters for themselves. -/
theorem KnowsEscapes.reads_escapeForScript (h : d.KnowsEscapes)
    (hplain : ∀ c, ¬ (isControl c ∨ c = '\u2028' ∨ c = '\u2029') → d.isPlain c = true) (c : Char) :
    (Layout.escapeForScript c = [c] ∧ c ≠ '"' ∧ c ≠ '\\' ∧ d.isPlain c = true)
      ∨ ∃ e, Layout.escapeForScript c = '\\' :: e
        ∧ ∀ rest, d.unescape (e ++ rest) = some ([c], rest) := by
  unfold Layout.escapeForScript
  by_cases hquote : c = '"' ∨ c = '\\'
  · rw [if_pos hquote]
    exact .inr ⟨[c], rfl, h.itself c hquote⟩
  by_cases hnewline : c = '\n'
  · rw [if_neg hquote, if_pos hnewline, hnewline]
    exact .inr ⟨['n'], rfl, h.newline⟩
  by_cases hreturn : c = '\r'
  · rw [if_neg hquote, if_neg hnewline, if_pos hreturn, hreturn]
    exact .inr ⟨['r'], rfl, h.carriageReturn⟩
  by_cases htab : c = '\t'
  · rw [if_neg hquote, if_neg hnewline, if_neg hreturn, if_pos htab, htab]
    exact .inr ⟨['t'], rfl, h.tab⟩
  rw [if_neg hquote, if_neg hnewline, if_neg hreturn, if_neg htab]
  by_cases hloud : isControl c ∨ c = '\u2028' ∨ c = '\u2029'
  · rw [if_pos hloud]
    refine .inr ⟨_, rfl, h.numbered c ?_⟩
    -- none of them is as far up as the surrogates
    rcases hloud with hcontrol | rfl | rfl
    · simp only [isControl, Bool.or_eq_true, decide_eq_true_eq, Bool.and_eq_true] at hcontrol
      omega
    · decide
    · decide
  · rw [if_neg hloud]
    rw [not_or] at hquote
    exact .inl ⟨rfl, hquote.1, hquote.2, hplain c hloud⟩

/-- A numbered character is read by its number. -/
theorem unescapeScript_numbered {c : Char} (h : c.toNat < 0xD800) (rest : List Char) :
    unescapeScript ('u' :: Hexadecimal.fourDigits c.toNat ++ rest) = some ([c], rest) := by
  -- the first digit is no brace, so the digits are four
  have hbrace : ∀ k < 16, Hexadecimal.digitChar k ≠ '\x7b' := by decide
  have hfirst := hbrace (c.toNat / 4096 % 16) (Nat.mod_lt _ (by omega))
  rw [List.cons_append, unescapeScript]
  · rw [if_neg (by decide)]
    exact utf16Unit_fourDigits h rest
  · intro _ hc _
    exact absurd hc (by decide)
  · intro more hmore
    injection hmore with hd _
    exact hfirst hd

theorem script_knowsEscapes : script.KnowsEscapes where
  itself := by rintro c (rfl | rfl) rest <;> rfl
  newline _ := rfl
  carriageReturn _ := rfl
  tab _ := rfl
  numbered _ h rest := unescapeScript_numbered h rest

theorem script_understands : script.Understands .script where
  listGap := by intro _ c hc; exact absurd hc List.not_mem_nil
  objectGap := by intro _ c hc; rw [List.mem_singleton.mp hc]; rfl
  commaGap := by intro _ c hc; rw [List.mem_singleton.mp hc]; rfl
  colonGap := by intro c hc; rw [List.mem_singleton.mp hc]; rfl
  marks := by
    have hall : (Dialect.marks.all fun c => !script.isGap c) = true := by decide
    intro c hc
    simpa using List.all_eq_true.mp hall c hc
  escape := by
    refine script_knowsEscapes.reads_escapeForScript fun c hquiet => ?_
    simp only [not_or] at hquiet
    have hnewline : c ≠ '\n' := by rintro rfl; exact hquiet.1 rfl
    have hreturn : c ≠ '\r' := by rintro rfl; exact hquiet.1 rfl
    simp [script, isLineEnd, hnewline, hreturn, hquiet.2.1, hquiet.2.2]

end Dialect

/-! ## What a literal cannot contain -/

/-- A property of all characters that a layout writes. -/
structure Layout.WritesOnly (l : Layout) (p : Char → Prop) : Prop where
  listGap : ∀ depth, ∀ c ∈ l.listGap depth, p c
  objectGap : ∀ depth, ∀ c ∈ l.objectGap depth, p c
  commaGap : ∀ depth, ∀ c ∈ l.commaGap depth, p c
  colonGap : ∀ c ∈ l.colonGap, p c
  escape : ∀ c, ∀ e ∈ l.escape c, p e
  marks : ∀ c ∈ 'u' :: 'l' :: Dialect.marks, p c

namespace Layout.WritesOnly

variable {l : Layout} {p : Char → Prop}

theorem quote (h : l.WritesOnly p) (s : List Char) : ∀ c ∈ l.quote s, p c := by
  intro c hc
  rw [Layout.quote, List.mem_append, List.mem_cons, List.mem_singleton] at hc
  rcases hc with (hc | hc) | hc
  · exact h.marks c (by rw [hc]; decide)
  · obtain ⟨s', _, hs'⟩ := List.mem_flatMap.mp hc
    exact h.escape s' c hs'
  · exact h.marks c (by rw [hc]; decide)

theorem joinWith {separator : List Char} (hs : ∀ c ∈ separator, p c) {pieces : List (List Char)}
    (hp : ∀ piece ∈ pieces, ∀ c ∈ piece, p c) : ∀ c ∈ Text.joinWith separator pieces, p c := by
  induction pieces with
  | nil => intro c hc; exact absurd hc List.not_mem_nil
  | cons piece pieces ih =>
      have hrest := ih fun q hq => hp q (List.mem_cons_of_mem _ hq)
      cases pieces with
      | nil => exact hp piece List.mem_cons_self
      | cons next pieces =>
          intro c hc
          rw [Dialect.joinWith_cons_cons, List.mem_append, List.mem_append] at hc
          rcases hc with (hc | hc) | hc
          · exact hp piece List.mem_cons_self c hc
          · exact hs c hc
          · exact hrest c hc

theorem enclose (h : l.WritesOnly p) {gap : Nat → List Char} (hgap : ∀ n, ∀ c ∈ gap n, p c)
    (depth : Nat) {opening closing : Char} (hopening : p opening) (hclosing : p closing)
    {pieces : List (List Char)} (hp : ∀ piece ∈ pieces, ∀ c ∈ piece, p c) :
    ∀ c ∈ l.enclose gap depth opening closing pieces, p c := by
  have hcomma : ∀ c ∈ ',' :: l.commaGap (depth + 1), p c := by
    rw [List.forall_mem_cons]
    exact ⟨h.marks ',' (by decide), h.commaGap _⟩
  intro c hc
  unfold Layout.enclose at hc
  split at hc
  · simp only [List.mem_cons, List.not_mem_nil, or_false] at hc
    rcases hc with hc | hc
    · rw [hc]; exact hopening
    · rw [hc]; exact hclosing
  · rw [List.cons_append, List.cons_append, List.cons_append, List.mem_cons, List.mem_append,
      List.mem_append, List.mem_append, List.mem_singleton] at hc
    rcases hc with hc | ((hc | hc) | hc) | hc
    · rw [hc]; exact hopening
    · exact hgap _ c hc
    · exact joinWith hcomma hp c hc
    · exact hgap _ c hc
    · rw [hc]; exact hclosing

/-- **All of a written value has the property.** -/
theorem write (h : l.WritesOnly p) : ∀ (v : Value) (depth : Nat), ∀ c ∈ v.write l depth, p c
  | .null, _, c, hc => by
      rw [Value.write] at hc
      simp only [List.mem_cons, List.not_mem_nil, or_false] at hc
      rcases hc with rfl | rfl | rfl | rfl <;> exact h.marks _ (by decide)
  | .text s, _, c, hc => by
      rw [Value.write] at hc
      exact h.quote _ c hc
  | .list items, depth, c, hc => by
      rw [Value.write, Dialect.writeItems_eq_map] at hc
      refine h.enclose h.listGap depth (h.marks '[' (by decide)) (h.marks ']' (by decide)) ?_ c hc
      intro piece hpiece
      obtain ⟨v, hv, rfl⟩ := List.mem_map.mp hpiece
      exact h.write v (depth + 1)
  | .object entries, depth, c, hc => by
      rw [Value.write, Dialect.writeEntries_eq_map] at hc
      refine h.enclose h.objectGap depth (h.marks '\x7b' (by decide)) (h.marks '\x7d' (by decide))
        ?_ c hc
      intro piece hpiece
      obtain ⟨e, he, rfl⟩ := List.mem_map.mp hpiece
      intro c hc
      rw [Dialect.writeEntry, List.mem_append, List.mem_append, List.mem_append,
        List.mem_singleton] at hc
      rcases hc with ((hc | hc) | hc) | hc
      · exact h.quote _ c hc
      · exact h.marks c (by rw [hc]; decide)
      · exact h.colonGap c hc
      · exact h.write e.2 (depth + 1) c hc
termination_by v => sizeOf v
decreasing_by
  · have := List.sizeOf_lt_of_mem hv
    simp only [Value.list.sizeOf_spec]
    omega
  · have := List.sizeOf_lt_of_mem he
    obtain ⟨key, v⟩ := e
    simp only [Value.object.sizeOf_spec, Prod.mk.sizeOf_spec] at this ⊢
    omega

end Layout.WritesOnly

/-- A character that neither controls anything nor separates lines or paragraphs. -/
def IsQuiet (c : Char) : Prop := isControl c = false ∧ c ≠ '\u2028' ∧ c ≠ '\u2029'

instance (c : Char) : Decidable (IsQuiet c) := inferInstanceAs (Decidable (_ ∧ _))

theorem script_writesOnly : Layout.script.WritesOnly IsQuiet where
  listGap := by intro _ c hc; exact absurd hc List.not_mem_nil
  objectGap := by intro _ c hc; rw [List.mem_singleton.mp hc]; decide
  commaGap := by intro _ c hc; rw [List.mem_singleton.mp hc]; decide
  colonGap := by intro c hc; rw [List.mem_singleton.mp hc]; decide
  marks := by
    have hall : (('u' :: 'l' :: Dialect.marks).all fun c => decide (IsQuiet c)) = true := by decide
    intro c hc
    simpa using List.all_eq_true.mp hall c hc
  escape := by
    intro c
    show ∀ e ∈ Layout.escapeForScript c, IsQuiet e
    unfold Layout.escapeForScript
    have hpair : ∀ e, IsQuiet e → ∀ c ∈ ['\\', e], IsQuiet c := by
      intro e he
      rw [List.forall_mem_cons, List.forall_mem_singleton]
      exact ⟨by decide, he⟩
    have hdigit : ∀ n, IsQuiet (Hexadecimal.digitChar (n % 16)) := by
      have hall : ∀ k < 16, IsQuiet (Hexadecimal.digitChar k) := by decide
      exact fun n => hall (n % 16) (Nat.mod_lt _ (by omega))
    split
    · rename_i h
      rcases h with rfl | rfl <;> exact hpair _ (by decide)
    · split
      · exact hpair 'n' (by decide)
      · split
        · exact hpair 'r' (by decide)
        · split
          · exact hpair 't' (by decide)
          · split
            · simp only [Layout.numbered, Hexadecimal.fourDigits, List.forall_mem_cons]
              exact ⟨by decide, by decide, hdigit _, hdigit _, hdigit _, hdigit _, by simp⟩
            · rename_i h
              rw [not_or, not_or, Bool.not_eq_true] at h
              rw [List.forall_mem_singleton]
              exact h

/-! ## How a resolution is written -/

/-- The layout of scripts has nothing between the brackets of a list and its items. -/
theorem enclose_scriptList (depth : Nat) (items : List (List Char)) :
    Layout.script.enclose Layout.script.listGap depth '[' ']' items
      = ['['] ++ joinWith [',', ' '] items ++ [']'] := by
  cases items with
  | nil => rfl
  | cons item items => exact congrArg (· ++ [']']) (List.append_nil _)

/-- It has a blank on the inner sides of braces, unless nothing is between them. -/
theorem enclose_scriptObject (depth : Nat) (parts : List (List Char)) :
    Layout.script.enclose Layout.script.objectGap depth '{' '}' parts
      = if parts.isEmpty then ['{', '}']
        else ['{', ' '] ++ joinWith [',', ' '] parts ++ [' ', '}'] := by
  cases parts with
  | nil => rfl
  | cons part parts => exact List.append_assoc _ _ _

/-- The layout of scripts makes an initializer of an object, at any depth. -/
theorem objectLiteral_eq_write (depth : Nat) (entries : List (String × Value)) :
    objectLiteral (entries.map fun e => (e.1, e.2.write .script (depth + 1)))
      = (Value.object entries).write .script depth := by
  have hpart : ∀ e : String × Value, Dialect.writeEntry .script (depth + 1) e
      = textLiteral e.1 ++ [':', ' '] ++ e.2.write .script (depth + 1) :=
    fun e => congrArg (· ++ e.2.write .script (depth + 1)) (List.append_assoc _ [':'] [' '])
  rw [Value.write, Dialect.writeEntries_eq_map, enclose_scriptObject,
    List.map_congr_left fun e _ => hpart e, objectLiteral, List.map_map]
  rfl

theorem Formatted.literal_eq_write (f : Formatted) (depth : Nat) :
    f.literal = f.value.write .script depth := by
  cases f with
  | text lines =>
      rw [Formatted.value, Value.write]
      rfl
  | object entries =>
      rw [Formatted.value, ← objectLiteral_eq_write, List.map_map]
      refine congrArg objectLiteral (List.map_congr_left fun e _ => ?_)
      show (e.1, textLiteral e.2) = (e.1, (Value.text e.2).write .script (depth + 1))
      rw [Value.write]
      rfl

theorem resultLiteral_eq_write (result : Option Formatted) (depth : Nat) :
    resultLiteral result = (Value.ofResult result).write .script depth := by
  cases result with
  | none =>
      rw [Value.ofResult, Value.write]
      rfl
  | some f => exact f.literal_eq_write depth

/-- **An expression is written as the value of its resolution in the layout of scripts.** -/
theorem Resolution.literal_eq_write (r : Resolution) (depth : Nat) :
    r.literal = r.value.write .script depth := by
  cases r with
  | single result => exact resultLiteral_eq_write result depth
  | sequence results =>
      rw [Resolution.value, Value.write, Dialect.writeItems_eq_map, List.map_map,
        enclose_scriptList, Resolution.literal,
        List.map_congr_left fun x _ => resultLiteral_eq_write x (depth + 1)]
      rfl
  | mapping entries =>
      rw [Resolution.value, ← objectLiteral_eq_write, List.map_map]
      exact congrArg objectLiteral (List.map_congr_left fun e _ =>
        congrArg (Prod.mk e.1) (resultLiteral_eq_write e.2 (depth + 1)))

theorem Resolution.script_eq_written (r : Resolution) : r.script = r.value.written .script :=
  congrArg String.ofList (r.literal_eq_write 0)

/-- The expression of a resolution is read as its value. -/
theorem Resolution.read_script (r : Resolution) :
    Dialect.script.read r.script.toList = some r.value := by
  rw [r.script_eq_written]
  exact Dialect.script_understands.read_written r.value

/-- A serializer makes of each kind of part what a function makes of the value of that kind. -/
structure Serializer.Makes {α : Type} (s : Serializer α) (f : Value → α) : Prop where
  null : s.nothing = f .null
  text : ∀ content, s.text content = f (.text content)
  list : ∀ items, s.sequence (items.map f) = f (.list items)
  object : ∀ entries, s.map (entries.map fun e => (e.1, f e.2)) = f (.object entries)

/-- **What a serializer makes of a resolution, it makes of the value of the resolution.** -/
theorem Serializer.Makes.serialize {α : Type} {s : Serializer α} {f : Value → α}
    (h : s.Makes f) (r : Resolution) : r.serialize s = f r.value := by
  have hformatted : ∀ x : Formatted, x.serialize s = f x.value := by
    intro x
    cases x with
    | text lines => exact h.text lines
    | object entries =>
        rw [Formatted.value, ← h.object, List.map_map]
        exact congrArg s.map (List.map_congr_left fun e _ => congrArg (Prod.mk e.1) (h.text e.2))
  have hresult : ∀ x : Option Formatted, serializeResult s x = f (Value.ofResult x) := by
    intro x
    cases x with
    | none => exact h.null
    | some x => exact hformatted x
  cases r with
  | single result => exact hresult result
  | sequence results =>
      rw [Resolution.value, ← h.list, List.map_map]
      exact congrArg s.sequence (List.map_congr_left fun x _ => hresult x)
  | mapping entries =>
      rw [Resolution.value, ← h.object, List.map_map]
      exact congrArg s.map (List.map_congr_left fun e _ => congrArg (Prod.mk e.1) (hresult e.2))

theorem Serializer.tree_makes : Serializer.tree.Makes id where
  null := rfl
  text _ := rfl
  list items := congrArg Value.list (List.map_id items)
  object entries := congrArg Value.object (List.map_id entries)

theorem Layout.serializer_makes (l : Layout) :
    l.serializer.Makes fun v depth => v.write l depth where
  null := by
    funext depth
    rw [Value.write]
    rfl
  text content := by
    funext depth
    rw [Value.write]
    rfl
  list items := by
    funext depth
    rw [Value.write, Dialect.writeItems_eq_map]
    exact congrArg (l.enclose l.listGap depth '[' ']') List.map_map
  object entries := by
    funext depth
    rw [Value.write, Dialect.writeEntries_eq_map]
    exact congrArg (l.enclose l.objectGap depth '{' '}') List.map_map

theorem Resolution.data_eq_written (l : Layout) (r : Resolution) :
    r.data l = r.value.written l :=
  congrArg String.ofList (congrFun (l.serializer_makes.serialize r) 0)

/--
**A script literal loses nothing and cannot be broken out of.**

It has no control character and no separator of lines or paragraphs; reading it takes all of it and
gives the value of the resolution; and it stands for that value alone.
-/
theorem script_lossless (r : Resolution) :
    (∀ c ∈ r.script.toList, IsQuiet c) ∧ Dialect.script.read r.script.toList = some r.value
      ∧ ∀ r' : Resolution, r.script = r'.script ↔ r.value = r'.value := by
  refine ⟨?_, r.read_script, ?_⟩
  · rw [r.script_eq_written, Value.written, String.toList_ofList]
    exact script_writesOnly.write r.value 0
  · intro r'
    refine ⟨?_, ?_⟩
    · intro h
      have hr := r.read_script
      rw [h, r'.read_script] at hr
      exact (Option.some.inj hr).symm
    · intro h
      rw [r.script_eq_written, r'.script_eq_written, h]

end StyleLookup
