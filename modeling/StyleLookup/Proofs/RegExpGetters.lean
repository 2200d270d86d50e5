import Mathlib.Data.List.Sublists

/-!
# What a RegExp gives back

A script makes a RegExp of a text and of flags, and a call sees of it what its getters `source` and
`flags` give. These need not be the same texts. A source is such that it could stand between
slashes, so what would end a literal there is escaped (ECMAScript, EscapeRegExpPattern); and flags
come in the order of the alphabet, each at most once (ECMAScript, get RegExp.prototype.flags).

Texts without slashes and line ends are left alone (`source_eq_self`), and so are flags that stand
in that order already (`flags_eq_self_iff`). Whether a script could make a RegExp of the text at all
is not asked here.
-/

namespace StyleLookup.CallSite.RegExp

/-- What is written behind a backslash for a character that ends a line. -/
def lineEnd? (c : Char) : Option (List Char) :=
  if c = '\n' then some ['n']
  else if c = '\r' then some ['r']
  else if c = '\u2028' then some ['u', '2', '0', '2', '8']
  else if c = '\u2029' then some ['u', '2', '0', '2', '9']
  else none

/--
Writes a text so that it can stand between slashes. A slash is escaped unless it stands behind a
backslash or in a class.
-/
def escape : (escaped inClass : Bool) → List Char → List Char
  | _, _, [] => []
  | escaped, inClass, c :: cs =>
      let written :=
        match lineEnd? c with
        | some letters => if escaped then letters else '\\' :: letters
        | none => if c = '/' ∧ !escaped ∧ !inClass then ['\\', c] else [c]
      let inClass := if escaped then inClass else c == '[' || (inClass && c != ']')
      written ++ escape (c == '\\' && !escaped) inClass cs

/-- What the getter `source` gives of a RegExp that was made of a text. -/
def source (text : String) : String :=
  if text = "" then "(?:)" else String.ofList (escape false false text.toList)

/-- The letters of flags, as they are given. -/
def letters : List Char := ['d', 'g', 'i', 'm', 's', 'u', 'v', 'y']

/-- What the getter `flags` gives of a RegExp that was made with flags. -/
def flags (given : String) : String :=
  String.ofList (letters.filter fun letter => given.toList.contains letter)

theorem escape_eq_self {s : List Char} (h : ∀ c ∈ s, c ≠ '/' ∧ lineEnd? c = none)
    (escaped inClass : Bool) : escape escaped inClass s = s := by
  induction s generalizing escaped inClass with
  | nil => rfl
  | cons c cs ih =>
      rw [List.forall_mem_cons] at h
      rw [escape, h.1.2, ih h.2]
      simp [h.1.1]

/-- **A text without slashes and line ends is left alone.** -/
theorem source_eq_self {text : String} (hne : text ≠ "")
    (h : ∀ c ∈ text.toList, c ≠ '/' ∧ lineEnd? c = none) : source text = text := by
  rw [source, if_neg hne, escape_eq_self h, String.ofList_toList]

/-- **Flags are left alone if they are in order, each at most once.** -/
theorem flags_eq_self_iff {given : String} :
    flags given = given ↔ given.toList.Sublist letters := by
  rw [flags, ← String.toList_inj, String.toList_ofList]
  constructor
  · intro h
    rw [← h]
    exact List.filter_sublist
  · have hall : ∀ s ∈ letters.sublists, letters.filter (fun c => s.contains c) = s := by
      decide +kernel
    exact fun h => hall _ (List.mem_sublists.mpr h)

end StyleLookup.CallSite.RegExp
