import StyleLookup.Pattern.Escape

/-!
# Reading bracketed classes

A class is read with a list of levels, one for each bracket that is open. A level holds the items
read so far, and the set to the left of an operator that still waits for its right side.
-/

namespace StyleLookup.Pattern

open StyleLookup.Text

/-- An open bracket and what is read after it. -/
structure ClassLevel where
  /-- The bracket, with the sign of negation and the hyphens that follow it. -/
  span : Span
  negated : Bool
  /-- The set to the left of an operator. -/
  pending : Option (SetOperator × ClassSet)
  /-- Items since the bracket or the operator, last first. -/
  items : List ClassSet
  /-- Where these items start. -/
  start : Nat

namespace ClassLevel

/-- The items as one set. -/
def operand (l : ClassLevel) : ClassSet :=
  match l.items with
  | [] => .empty ⟨l.start, l.start⟩
  | [item] => item
  | last :: _ =>
      let items := l.items.reverse
      .union ⟨(items.head?.map (fun i => i.span.start)).getD l.start, last.span.stop⟩ items

/-- Everything since the bracket as one set. -/
def set (l : ClassLevel) : ClassSet :=
  match l.pending with
  | none => l.operand
  | some (operator, left) =>
      .operation ⟨left.span.start, l.operand.span.stop⟩ operator left l.operand

/-- Adds an item. -/
def push (l : ClassLevel) (item : ClassSet) : ClassLevel := { l with items := item :: l.items }

/-- Starts the right side of an operator; `start` is the place after it. -/
def operate (l : ClassLevel) (operator : SetOperator) (start : Nat) : ClassLevel :=
  { l with pending := some (operator, l.set), items := [], start := start }

end ClassLevel

/-! ## The opening of a class -/

/-- Reads hyphens at the start of a class; each stands for itself. -/
def hyphens (verbose : Bool) : List Char → List ClassSet × List Char
  | '-' :: cs =>
      let (more, rest) := hyphens verbose (skip verbose cs)
      (.literal ⟨spanOfNext ('-' :: cs), '-', false⟩ :: more, rest)
  | s => ([], s)
termination_by s => s.length
decreasing_by exact Nat.lt_succ_of_le (skip_length verbose cs)

theorem hyphens_length (verbose : Bool) (s : List Char) :
    (hyphens verbose s).2.length ≤ s.length := by
  fun_induction hyphens verbose s with
  | case1 cs more rest h ih =>
      have := skip_length verbose cs
      rw [h] at ih
      simp only [List.length_cons] at ih ⊢
      omega
  | case2 => exact Nat.le_refl _

/--
Reads what follows an opening bracket: a sign of negation, hyphens, and a closing bracket that
stands for itself because it comes first.
-/
def openClass (verbose : Bool) (s : List Char) : Except Fault (ClassLevel × List Char) :=
  let start := place s + 1
  let afterBracket := skip verbose s
  let negated := afterBracket.head? == some '^'
  let items := if negated then skip verbose (afterBracket.drop 1) else afterBracket
  match items with
  | [] => fail .classUnclosed ⟨start, 0⟩
  | _ :: _ =>
      let level : ClassLevel := ⟨⟨start, 0⟩, negated, none, [], place items⟩
      match hyphens verbose items with
      | ([], ']' :: cs) =>
          match skip verbose cs with
          | [] => fail .classUnclosed ⟨start, 0⟩
          | rest =>
              let bracket := ClassSet.literal ⟨spanOfNext (']' :: cs), ']', false⟩
              .ok ({ level with span := ⟨start, place rest⟩, items := [bracket] }, rest)
      | (_ :: _, []) => fail .classUnclosed ⟨start, start⟩
      | (found, rest) =>
          .ok ({ level with span := ⟨start, place rest⟩, items := found.reverse }, rest)

theorem openClass_length {verbose : Bool} {s rest : List Char} {level : ClassLevel}
    (h : openClass verbose s = .ok (level, rest)) : rest.length ≤ s.length := by
  unfold openClass at h
  dsimp only at h
  have first := skip_length verbose s
  have second := skip_length verbose ((skip verbose s).drop 1)
  rw [List.length_drop] at second
  split at h
  · simp [fail] at h
  · rename_i c cs heq
    have all : (c :: cs).length ≤ s.length := by
      rw [← heq]
      split <;> omega
    have dashes := hyphens_length verbose
      (if ((skip verbose s).head? == some '^') = true then skip verbose ((skip verbose s).drop 1)
        else skip verbose s)
    rw [heq] at dashes h
    split at h
    · rename_i tail heq'
      rw [heq'] at dashes
      have := skip_length verbose tail
      split at h
      · simp [fail] at h
      · simp only [Except.ok.injEq, Prod.mk.injEq] at h
        simp only [List.length_cons] at dashes all
        rw [← h.2]
        omega
    · simp [fail] at h
    · rename_i heq'
      rw [heq'] at dashes
      simp only [Except.ok.injEq, Prod.mk.injEq] at h
      simp only at dashes
      rw [← h.2]
      omega

/-! ## Items -/

/-- The classes of ASCII characters by name. -/
def asciiKindOf? (name : List Char) : Option AsciiKind :=
  ([("alnum", .alnum), ("alpha", .alpha), ("ascii", .ascii), ("blank", .blank),
    ("cntrl", .cntrl), ("digit", .digit), ("graph", .graph), ("lower", .lower),
    ("print", .print), ("punct", .punct), ("space", .space), ("upper", .upper),
    ("word", .word), ("xdigit", .xdigit)].find? (fun e => e.1.toList == name)).map Prod.snd

/-- Reads a class of ASCII characters, after its opening bracket, if one stands here. -/
def asciiClass? (s : List Char) : Option (ClassSet × List Char) :=
  match s with
  | ':' :: cs =>
      let negated := cs.head? == some '^'
      let name := (if negated then cs.drop 1 else cs).takeWhile (· != ':')
      match (if negated then cs.drop 1 else cs).dropWhile (· != ':') with
      | ':' :: ']' :: rest =>
          (asciiKindOf? name).map fun kind => (.ascii ⟨place s + 1, place rest⟩ kind negated, rest)
      | _ => none
  | _ => none

theorem asciiClass?_length {s rest : List Char} {set : ClassSet}
    (h : asciiClass? s = some (set, rest)) : rest.length ≤ s.length := by
  unfold asciiClass? at h
  split at h
  · rename_i cs
    dsimp only at h
    split at h
    · rename_i tail heq
      obtain ⟨kind, _, h⟩ := Option.map_eq_some_iff.1 h
      simp only [Prod.mk.injEq] at h
      have drop := (List.dropWhile_suffix (l := if (cs.head? == some '^') = true then cs.drop 1
        else cs) (fun x => x != ':')).length_le
      rw [heq] at drop
      have : (if (cs.head? == some '^') = true then cs.drop 1 else cs).length ≤ cs.length := by
        split
        · simp
        · exact Nat.le_refl _
      simp only [List.length_cons] at drop ⊢
      rw [← h.2]
      omega
    · simp at h
  · simp at h

/-- Reads one item: an escape, or a character that stands for itself. -/
def classItem (verbose : Bool) (c : Char) (cs : List Char) :
    Except Fault (Primitive × List Char) :=
  if c = '\\' then escape verbose cs
  else .ok (.literal ⟨spanOfNext (c :: cs), c, false⟩, cs)

theorem classItem_length {verbose : Bool} {c : Char} {cs rest : List Char} {p : Primitive}
    (h : classItem verbose c cs = .ok (p, rest)) : rest.length ≤ cs.length := by
  unfold classItem at h
  split at h
  · have := escape_length h
    omega
  · simp_all

/-- An item as a set; assertions are none. -/
def Primitive.toSet : Primitive → Except Fault ClassSet
  | .literal l => .ok (.literal l)
  | .letterClass s kind negated => .ok (.letterClass s kind negated)
  | .unicode s query negated => .ok (.unicode s query negated)
  | p => fail .classEscapeInvalid p.span

/-- An item as an end of a range: only a character can be one. -/
def Primitive.toLiteral : Primitive → Except Fault Literal
  | .literal l => .ok l
  | p => fail .classRangeLiteral p.span

/-- The range between two items. -/
def rangeOf (first last : Primitive) : Except Fault ClassSet :=
  match first.toLiteral, last.toLiteral with
  | .error fault, _ => .error fault
  | _, .error fault => .error fault
  | .ok a, .ok b =>
      let span : Span := ⟨first.span.start, last.span.stop⟩
      if a.char ≤ b.char then .ok (.range span a b) else fail .classRangeInvalid span

/-- The first character that is neither white space nor the sign of a comment. -/
def firstShown (comment : Bool) : List Char → Option Char
  | [] => none
  | c :: cs =>
      if isBlank c then firstShown comment cs
      else if !comment && c == '#' then firstShown true cs
      else some c

/-- The character that decides whether a hyphen before it makes a range. -/
def afterHyphen (verbose : Bool) (s : List Char) : Option Char :=
  if verbose then (firstShown false s).or s.head? else s.head?

/-- Whether a hyphen that makes a range stands here. -/
def atRange (verbose : Bool) : List Char → Bool
  | '-' :: cs =>
      let next := afterHyphen verbose cs
      next != some ']' && next != some '-'
  | _ => false

/-- Reads an item or a range. `unclosed` is the place of the innermost open bracket. -/
def classRange (verbose : Bool) (unclosed : Span) (c : Char) (cs : List Char) :
    Except Fault (ClassSet × List Char) :=
  match classItem verbose c cs with
  | .error fault => .error fault
  | .ok (first, rest) =>
      let rest := skip verbose rest
      if rest.isEmpty then fail .classUnclosed unclosed
      else if atRange verbose rest then
        match skip verbose (rest.drop 1) with
        | [] => fail .classUnclosed unclosed
        | d :: ds =>
            match classItem verbose d ds with
            | .error fault => .error fault
            | .ok (last, rest) => (rangeOf first last).map (·, rest)
      else first.toSet.map (·, rest)

theorem classRange_length {verbose : Bool} {unclosed : Span} {c : Char} {cs rest : List Char}
    {set : ClassSet} (h : classRange verbose unclosed c cs = .ok (set, rest)) :
    rest.length ≤ cs.length := by
  unfold classRange at h
  split at h
  · simp at h
  · rename_i first tail heq
    have item := classItem_length heq
    have skipped := skip_length verbose tail
    dsimp only at h
    split at h
    · simp [fail] at h
    · split at h
      · have skipped' := skip_length verbose ((skip verbose tail).drop 1)
        rw [List.length_drop] at skipped'
        split at h
        · simp [fail] at h
        · rename_i d ds heq'
          rw [heq'] at skipped'
          split at h
          · simp at h
          · rename_i last rest' heq''
            have := classItem_length heq''
            cases hr : rangeOf first last with
            | error e => simp [hr, Except.map] at h
            | ok a =>
                simp only [hr, Except.map, Except.ok.injEq, Prod.mk.injEq] at h
                simp only [List.length_cons] at skipped'
                rw [← h.2]
                omega
      · cases hs : first.toSet with
        | error e => simp [hs, Except.map] at h
        | ok a =>
            simp only [hs, Except.map, Except.ok.injEq, Prod.mk.injEq] at h
            rw [← h.2]
            omega

/-! ## Whole classes -/

/-- The operator that stands here, if one does. -/
def operatorOf? (c : Char) (cs : List Char) : Option SetOperator :=
  match c, cs with
  | '&', '&' :: _ => some .intersection
  | '-', '-' :: _ => some .difference
  | '~', '~' :: _ => some .symmetricDifference
  | _, _ => none

/-- One step of reading a class: what is open afterwards, or the finished class. -/
inductive ClassStep where
  | inside (level : ClassLevel) (outer : List ClassLevel) (rest : List Char)
  | done (class' : Ast) (rest : List Char)

/-- Reads one thing inside a class. -/
def classStep (verbose : Bool) (level : ClassLevel) (outer : List ClassLevel) (c : Char)
    (cs : List Char) : Except Fault ClassStep :=
  if c = '[' then
    match asciiClass? cs with
    | some (item, rest) => .ok (.inside (level.push item) outer rest)
    | none =>
        match openClass verbose cs with
        | .error fault => .error fault
        | .ok (inner, rest) => .ok (.inside inner (level :: outer) rest)
  else if c = ']' then
    let span : Span := ⟨level.span.start, place cs⟩
    match outer with
    | [] => .ok (.done (.bracketed span level.negated level.set) cs)
    | parent :: outer =>
        .ok (.inside (parent.push (.bracketed span level.negated level.set)) outer cs)
  else
    match operatorOf? c cs with
    | some operator =>
        let rest := cs.drop 1
        .ok (.inside (level.operate operator (place rest)) outer rest)
    | none =>
        match classRange verbose level.span c cs with
        | .error fault => .error fault
        | .ok (item, rest) => .ok (.inside (level.push item) outer rest)

/-- What is left after a step. -/
def ClassStep.rest : ClassStep → List Char
  | .inside _ _ rest => rest
  | .done _ rest => rest

theorem classStep_length {verbose : Bool} {level : ClassLevel} {outer : List ClassLevel} {c : Char}
    {cs : List Char} {step : ClassStep} (h : classStep verbose level outer c cs = .ok step) :
    step.rest.length ≤ cs.length := by
  unfold classStep at h
  split at h
  · split at h
    · rename_i heq
      have := asciiClass?_length heq
      cases h
      exact this
    · split at h
      · simp at h
      · rename_i heq
        have := openClass_length heq
        cases h
        exact this
  · split at h
    · split at h <;> cases h <;> exact Nat.le_refl _
    · split at h
      · cases h
        simp [ClassStep.rest]
      · split at h
        · simp at h
        · rename_i heq
          have := classRange_length heq
          cases h
          exact this

/-- Reads the rest of a class. -/
def classRest (verbose : Bool) (level : ClassLevel) (outer : List ClassLevel) (s : List Char) :
    Except Fault (Ast × List Char) :=
  match _h : skip verbose s with
  | [] => fail .classUnclosed level.span
  | c :: cs =>
      match _h' : classStep verbose level outer c cs with
      | .error fault => .error fault
      | .ok (.done class' rest) => .ok (class', rest)
      | .ok (.inside level outer rest) => classRest verbose level outer rest
termination_by s.length
decreasing_by
  have := classStep_length _h'
  have skipped := skip_length verbose s
  rw [_h] at skipped
  simp only [ClassStep.rest, List.length_cons] at this skipped
  omega

theorem classRest_length {verbose : Bool} {level : ClassLevel} {outer : List ClassLevel}
    {s rest : List Char} {class' : Ast}
    (h : classRest verbose level outer s = .ok (class', rest)) : rest.length ≤ s.length := by
  fun_induction classRest verbose level outer s with
  | case1 => simp [fail] at h
  | case2 => simp at h
  | case3 level outer s c cs hs class'' rest' hstep =>
      have := classStep_length hstep
      have skipped := skip_length verbose s
      rw [hs] at skipped
      simp only [Except.ok.injEq, Prod.mk.injEq] at h
      simp only [ClassStep.rest, List.length_cons] at this skipped
      rw [← h.2]
      omega
  | case4 level outer s c cs hs level' outer' rest' hstep ih =>
      have := classStep_length hstep
      have skipped := skip_length verbose s
      rw [hs] at skipped
      have := ih h
      simp only [ClassStep.rest, List.length_cons] at *
      omega

/-- Reads a class after its opening bracket. -/
def bracketedClass (verbose : Bool) (s : List Char) : Except Fault (Ast × List Char) :=
  match openClass verbose s with
  | .error fault => .error fault
  | .ok (level, rest) => classRest verbose level [] rest

theorem bracketedClass_length {verbose : Bool} {s rest : List Char} {class' : Ast}
    (h : bracketedClass verbose s = .ok (class', rest)) : rest.length ≤ s.length := by
  unfold bracketedClass at h
  split at h
  · simp at h
  · rename_i heq
    exact Nat.le_trans (classRest_length h) (openClass_length heq)

end StyleLookup.Pattern
