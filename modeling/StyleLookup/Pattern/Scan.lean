import StyleLookup.Pattern.Fault
import StyleLookup.Text.Blank

/-!
# Scanning patterns

The small readers that a pattern is made of: white space, numbers, hexadecimal digits, names and
flags. A reader takes the characters that are left and returns what it read with the rest, which
is never longer (`..._length`). In verbose mode white space and comments count for nothing, and
readers pass over them as they go.
-/

namespace StyleLookup.Pattern

open StyleLookup.Text

/-- Where a reading stands: the number of characters left. -/
def place (s : List Char) : Nat := s.length

/-- The span of the next character. -/
def spanOfNext (s : List Char) : Span := ⟨s.length, s.length - 1⟩

/-- The empty span at a place. -/
def spanAt (s : List Char) : Span := ⟨s.length, s.length⟩

/-- A fault at one place. -/
def fail {α : Type} (cause : Cause) (span : Span) : Except Fault α := .error ⟨cause, span, none⟩

/-! ## White space -/

/-- Drops white space and comments; the flag tells that a comment is open. -/
def dropVerbose : Bool → List Char → List Char
  | _, [] => []
  | true, c :: cs => dropVerbose (c != '\n') cs
  | false, c :: cs =>
      if isBlank c then dropVerbose false cs
      else if c = '#' then dropVerbose true cs
      else c :: cs

/-- Passes over what counts for nothing. -/
def skip (verbose : Bool) (s : List Char) : List Char :=
  if verbose then dropVerbose false s else s

theorem dropVerbose_length (comment : Bool) (s : List Char) :
    (dropVerbose comment s).length ≤ s.length := by
  fun_induction dropVerbose comment s with
  | case1 => exact Nat.le_refl _
  | case2 => simp only [List.length_cons]; omega
  | case3 => simp only [List.length_cons]; omega
  | case4 => simp only [List.length_cons]; omega
  | case5 => exact Nat.le_refl _

theorem skip_length (verbose : Bool) (s : List Char) : (skip verbose s).length ≤ s.length := by
  unfold skip
  split
  · exact dropVerbose_length _ _
  · exact Nat.le_refl _

/-! ## Runs of characters -/

/-- Takes characters that pass a test, passing over what counts for nothing after each. -/
def takeRun (verbose : Bool) (test : Char → Bool) : List Char → List Char × List Char
  | [] => ([], [])
  | c :: cs =>
      if test c then
        let (more, rest) := takeRun verbose test (skip verbose cs)
        (c :: more, rest)
      else ([], c :: cs)
termination_by s => s.length
decreasing_by exact Nat.lt_succ_of_le (skip_length verbose cs)

theorem takeRun_length (verbose : Bool) (test : Char → Bool) (s : List Char) :
    (takeRun verbose test s).2.length ≤ s.length := by
  fun_induction takeRun verbose test s with
  | case1 => exact Nat.le_refl _
  | case2 c cs _ more rest h ih =>
      have := skip_length verbose cs
      rw [h] at ih
      simp only [List.length_cons] at ih ⊢
      omega
  | case3 => exact Nat.le_refl _

/-- Whether a character is a decimal digit. -/
def isDecimalDigit (c : Char) : Bool := '0' ≤ c && c ≤ '9'

/-- The number that decimal digits write. -/
def decimalValue (digits : List Char) : Nat :=
  digits.foldl (fun n c => 10 * n + (c.toNat - '0'.toNat)) 0

/-- Numbers are below this bound: they fit into 32 bits. -/
def numberBound : Nat := 0x100000000

/-- Reads a number with white space around it. -/
def decimal (verbose : Bool) (s : List Char) : Except Fault Nat × List Char :=
  let s := s.dropWhile isBlank
  let (digits, rest) := takeRun verbose isDecimalDigit s
  let span : Span := ⟨place s, place rest⟩
  let result : Except Fault Nat :=
    if digits.isEmpty then fail .repetitionCountEmpty span
    else if decimalValue digits < numberBound then .ok (decimalValue digits)
    else fail .decimalInvalid span
  (result, (takeRun verbose isBlank rest).2)

theorem decimal_length (verbose : Bool) (s : List Char) :
    (decimal verbose s).2.length ≤ s.length :=
  Nat.le_trans (takeRun_length _ _ _)
    (Nat.le_trans (takeRun_length _ _ _) (List.dropWhile_suffix _).length_le)

/-! ## Hexadecimal escapes -/

/-- The character with a number, if there is one. -/
def scalar? (n : Nat) : Option Char := if n.isValidChar then some (Char.ofNat n) else none

/-- Reads so many hexadecimal digits. -/
def hexRun (verbose : Bool) : Nat → List Char → Except Fault (List Char × List Char)
  | 0, s => .ok ([], s)
  | _ + 1, [] => fail .escapeUnexpectedEnd (spanAt [])
  | n + 1, c :: cs =>
      if Hexadecimal.isDigit c then
        match hexRun verbose n (skip verbose cs) with
        | .error fault => .error fault
        | .ok (digits, rest) => .ok (c :: digits, rest)
      else fail .hexInvalidDigit (spanOfNext (c :: cs))

theorem hexRun_length {verbose : Bool} {n : Nat} {s digits rest : List Char}
    (h : hexRun verbose n s = .ok (digits, rest)) : rest.length ≤ s.length := by
  fun_induction hexRun verbose n s generalizing digits rest with
  | case1 => simp_all
  | case2 => simp [fail] at h
  | case3 => simp at h
  | case4 n c cs _ digits' rest' heq ih =>
      have := ih heq
      have := skip_length verbose cs
      simp only [Except.ok.injEq, Prod.mk.injEq] at h
      simp only [List.length_cons, ← h.2]
      omega
  | case5 => simp [fail] at h

/-- Reads digits through a closing brace; `opening` is the place of the opening one. -/
def hexBraced (verbose : Bool) (opening : Nat) (s : List Char) :
    Except Fault (Char × List Char) :=
  let start := skip verbose s
  match takeRun verbose Hexadecimal.isDigit start with
  | (_, []) => fail .escapeUnexpectedEnd ⟨opening, 0⟩
  | (digits, '\x7d' :: rest) =>
      let rest' := skip verbose rest
      if digits.isEmpty then fail .hexEmpty ⟨opening, place rest'⟩
      else
        match scalar? (Hexadecimal.value digits) with
        | some c => .ok (c, rest')
        | none => fail .hexInvalid ⟨place s, place rest + 1⟩
  | (_, rest) => fail .hexInvalidDigit (spanOfNext rest)

theorem hexBraced_length {verbose : Bool} {opening : Nat} {s rest : List Char} {c : Char}
    (h : hexBraced verbose opening s = .ok (c, rest)) : rest.length ≤ s.length := by
  unfold hexBraced at h
  dsimp only at h
  split at h
  · simp [fail] at h
  · rename_i digits tail heq
    have run := takeRun_length verbose Hexadecimal.isDigit (skip verbose s)
    rw [heq] at run
    have := skip_length verbose s
    have := skip_length verbose tail
    split at h
    · simp [fail] at h
    · split at h
      · simp only [Except.ok.injEq, Prod.mk.injEq] at h
        simp only [List.length_cons] at run
        rw [← h.2]
        omega
      · simp [fail] at h
  · simp [fail] at h

/-- Reads what follows `\x`, `\u` or `\U`: digits in braces, or a fixed number of them. -/
def hexEscape (verbose : Bool) (count : Nat) (s : List Char) : Except Fault (Char × List Char) :=
  match skip verbose s with
  | [] => fail .escapeUnexpectedEnd (spanAt [])
  | '\x7b' :: cs => hexBraced verbose (place cs + 1) cs
  | s' =>
      match hexRun verbose count s' with
      | .error fault => .error fault
      | .ok (digits, rest) =>
          match scalar? (Hexadecimal.value digits) with
          | some c => .ok (c, rest)
          | none => fail .hexInvalid ⟨place s', place rest⟩

theorem hexEscape_length {verbose : Bool} {count : Nat} {s rest : List Char} {c : Char}
    (h : hexEscape verbose count s = .ok (c, rest)) : rest.length ≤ s.length := by
  have skipped := skip_length verbose s
  unfold hexEscape at h
  split at h
  · simp [fail] at h
  · rename_i cs heq
    have := hexBraced_length h
    rw [heq] at skipped
    simp only [List.length_cons] at skipped
    omega
  · split at h
    · simp at h
    · rename_i digits rest' heq
      have := hexRun_length heq
      split at h
      · simp only [Except.ok.injEq, Prod.mk.injEq] at h
        rw [← h.2]
        omega
      · simp [fail] at h

/-! ## Unicode classes -/

/-- Cuts a text at the first place where a separator stands. -/
def cutAt? (separator : List Char) : List Char → Option (List Char × List Char)
  | [] => none
  | c :: cs =>
      if separator.isPrefixOf (c :: cs) then some ([], (c :: cs).drop separator.length)
      else (cutAt? separator cs).map fun (front, back) => (c :: front, back)

/-- The query that the text between braces asks: a name, or a property and a value. -/
def queryOf (text : List Char) : Unicode.Query :=
  match cutAt? ['!', '='] text with
  | some (property, value) => .differing property value
  | none =>
      match (cutAt? [':'] text).or (cutAt? ['='] text) with
      | some (property, value) => .valued property value
      | none => .named text

/-- Reads what follows `\p`: one letter, or a query in braces. -/
def unicodeClass (verbose : Bool) (s : List Char) :
    Except Fault (Unicode.Query × List Char) :=
  match skip verbose s with
  | [] => fail .escapeUnexpectedEnd (spanAt [])
  | '\x7b' :: cs =>
      match takeRun verbose (· != '\x7d') (skip verbose cs) with
      | (_, []) => fail .escapeUnexpectedEnd (spanAt [])
      | (text, _ :: rest) => .ok (queryOf text, rest)
  | c :: cs =>
      if c = '\\' then fail .unicodeClassInvalid (spanOfNext (c :: cs))
      else .ok (.named [c], skip verbose cs)

theorem unicodeClass_length {verbose : Bool} {s rest : List Char} {q : Unicode.Query}
    (h : unicodeClass verbose s = .ok (q, rest)) : rest.length ≤ s.length := by
  have skipped := skip_length verbose s
  unfold unicodeClass at h
  split at h
  · simp [fail] at h
  · rename_i cs heq
    have inner := skip_length verbose cs
    rw [heq] at skipped
    simp only [List.length_cons] at skipped
    split at h
    · simp [fail] at h
    · rename_i text c rest' heq'
      have run := takeRun_length verbose (· != '\x7d') (skip verbose cs)
      rw [heq'] at run
      simp only [Except.ok.injEq, Prod.mk.injEq] at h
      simp only [List.length_cons] at run
      rw [← h.2]
      omega
  · rename_i c cs _ heq
    rw [heq] at skipped
    simp only [List.length_cons] at skipped
    have := skip_length verbose cs
    split at h
    · simp [fail] at h
    · simp only [Except.ok.injEq, Prod.mk.injEq] at h
      rw [← h.2]
      omega

/-! ## Names of groups -/

/-- Names of groups that were read, with their places. -/
abbrev GroupNames := List (List Char × Span)

/-- Whether a character may stand in the name of a group. -/
def isGroupNameChar (first : Bool) (c : Char) : Bool :=
  if first then c == '_' || Unicode.nameLetters.contains c.toNat
  else
    c == '_' || c == '.' || c == '[' || c == ']' || Unicode.nameAlphanumerics.contains c.toNat

/-- Reads the characters of a name; the first must start one. The end is at `>`. -/
def groupNameChars (first : Bool) : List Char → Except Fault (List Char × List Char)
  | [] => fail .groupNameUnexpectedEnd (spanAt [])
  | '>' :: cs => .ok ([], '>' :: cs)
  | c :: cs =>
      if isGroupNameChar first c then
        match groupNameChars false cs with
        | .error fault => .error fault
        | .ok (name, rest) => .ok (c :: name, rest)
      else fail .groupNameInvalid (spanOfNext (c :: cs))

/-- Reads the name of a group through its closing `>`, and adds it to the names. -/
def groupName (names : GroupNames) (s : List Char) : Except Fault (GroupNames × List Char) :=
  match groupNameChars true s with
  | .error fault => .error fault
  | .ok (name, rest) =>
      let span : Span := ⟨place s, place rest⟩
      if name.isEmpty then fail .groupNameEmpty (spanAt s)
      else
        match names.find? (fun n => n.1 == name) with
        | some (_, earlier) => .error ⟨.groupNameDuplicate, span, some earlier⟩
        | none => .ok ((name, span) :: names, rest.drop 1)

theorem groupNameChars_length {first : Bool} {s name rest : List Char}
    (h : groupNameChars first s = .ok (name, rest)) : rest.length ≤ s.length := by
  fun_induction groupNameChars first s generalizing name rest with
  | case1 => simp [fail] at h
  | case2 => simp_all
  | case3 => simp at h
  | case4 first c cs _ _ name' rest' heq ih =>
      have := ih heq
      simp only [Except.ok.injEq, Prod.mk.injEq] at h
      simp only [List.length_cons, ← h.2]
      omega
  | case5 => simp [fail] at h

theorem groupName_length {names names' : GroupNames} {s rest : List Char}
    (h : groupName names s = .ok (names', rest)) : rest.length ≤ s.length := by
  unfold groupName at h
  split at h
  · simp at h
  · rename_i name tail heq
    have := groupNameChars_length heq
    dsimp only at h
    split at h
    · simp [fail] at h
    · split at h
      · simp at h
      · simp only [Except.ok.injEq, Prod.mk.injEq] at h
        rw [← h.2, List.length_drop]
        omega

/-! ## Flags -/

/-- The flag of a letter. -/
def flagOf? : Char → Option Flag
  | 'i' => some .ignoreCase
  | 'm' => some .multiLine
  | 's' => some .dotAll
  | 'U' => some .swapGreed
  | 'u' => some .unicode
  | 'R' => some .crlf
  | 'x' => some .verbose
  | _ => none

/-- Flags while they are read: where each was, and the last minus sign if nothing followed it. -/
structure FlagScan where
  seen : List (Flag × Bool × Span)
  minus : Option Span
  dangling : Bool

/-- The flags that were read, first to last. -/
def FlagScan.settings (f : FlagScan) : FlagSettings :=
  f.seen.reverse.map fun (flag, on, _) => (flag, on)

/-- Takes one character of a list of flags. -/
def FlagScan.take (f : FlagScan) (c : Char) (span : Span) : Except Fault FlagScan :=
  if c = '-' then
    match f.minus with
    | some earlier => .error ⟨.flagRepeatedNegation, span, some earlier⟩
    | none => .ok ⟨f.seen, some span, true⟩
  else
    match flagOf? c with
    | none => fail .flagUnrecognized span
    | some flag =>
        match f.seen.find? (fun s => s.1 == flag) with
        | some (_, _, earlier) => .error ⟨.flagDuplicate, span, some earlier⟩
        | none => .ok ⟨(flag, f.minus.isNone, span) :: f.seen, f.minus, false⟩

/-- Reads flags up to a colon or a closing parenthesis, which is left. -/
def flagList (f : FlagScan) : List Char → Except Fault (FlagSettings × List Char)
  | [] => fail .flagUnexpectedEnd (spanAt [])
  | c :: cs =>
      if c = ':' ∨ c = ')' then
        match f.minus with
        | some span =>
            if f.dangling then fail .flagDanglingNegation span else .ok (f.settings, c :: cs)
        | none => .ok (f.settings, c :: cs)
      else
        match f.take c (spanOfNext (c :: cs)) with
        | .error fault => .error fault
        | .ok f => flagList f cs

theorem flagList_length {f : FlagScan} {s rest : List Char} {flags : FlagSettings}
    (h : flagList f s = .ok (flags, rest)) : rest.length ≤ s.length := by
  fun_induction flagList f s with
  | case1 => simp [fail] at h
  | case2 => simp [fail] at h
  | case3 => simp_all
  | case4 => simp_all
  | case5 => simp at h
  | case6 f c cs _ f' _ ih =>
      have := ih h
      simp only [List.length_cons]
      omega

end StyleLookup.Pattern
