import Mathlib.Data.List.Forall2
import StyleLookup.Proofs.RangeTail

/-!
# A text behind a class

A bracketed class is the same with a tail behind it, and a class that is not closed is not closed
by a tail. For this each reader inside of a class is asked how much it leaves of a parenthesis that
the text alone has not: one character at most, and behind a class nothing is left of it.
-/

namespace StyleLookup.Pattern

open StyleLookup.Text

variable {tail : List Char} {reason : Prop} {s s' : List Char}

/-! ## Levels -/

/-- Open brackets that are the same but for their places. -/
structure ClassLevel.Alike (l l' : ClassLevel) : Prop where
  negated : l'.negated = l.negated
  pending : l'.pending.map (fun p => (p.1, p.2.bare)) = l.pending.map (fun p => (p.1, p.2.bare))
  items : l'.items.map ClassSet.bare = l.items.map ClassSet.bare

namespace ClassLevel

/-- Items without places as one set, from the last to the first. -/
def joined : List ClassSet → ClassSet
  | [] => .empty nowhere
  | [item] => item
  | items => .union nowhere items.reverse

theorem operand_bare (l : ClassLevel) : l.operand.bare = joined (l.items.map ClassSet.bare) := by
  unfold operand
  rcases l.items with _ | ⟨item, _ | ⟨item', items⟩⟩
  · rfl
  · rfl
  · dsimp only
    rw [ClassSet.bare, ClassSet.bareAll_eq_map, List.map_reverse]
    rfl

namespace Alike

variable {l l' : ClassLevel}

theorem operand (h : l.Alike l') : l'.operand.bare = l.operand.bare := by
  rw [operand_bare, operand_bare, h.items]

theorem set (h : l.Alike l') : l'.set.bare = l.set.bare := by
  have hpending := h.pending
  unfold ClassLevel.set
  cases hold : l.pending with
  | none =>
      rw [hold, Option.map_none, Option.map_eq_none_iff] at hpending
      simp only [hpending]
      exact h.operand
  | some left =>
      rw [hold, Option.map_some, Option.map_eq_some_iff] at hpending
      obtain ⟨left', hnew, hleft⟩ := hpending
      obtain ⟨hoperator, hset⟩ := Prod.mk.inj hleft
      simp only [hnew, ClassSet.bare, hoperator, hset, h.operand]

theorem push (h : l.Alike l') {item item' : ClassSet} (hitem : item'.bare = item.bare) :
    (l.push item).Alike (l'.push item') := by
  refine ⟨h.negated, h.pending, ?_⟩
  show (item' :: l'.items).map _ = (item :: l.items).map _
  rw [List.map_cons, List.map_cons, hitem, h.items]

theorem operate (h : l.Alike l') (operator : SetOperator) (start start' : Nat) :
    (l.operate operator start).Alike (l'.operate operator start') :=
  ⟨h.negated, by simp only [ClassLevel.operate, Option.map_some, h.set], rfl⟩

end Alike

end ClassLevel

/-! ## The opening of a class -/

/-- Takes the sign of negation of a class, if it is there. -/
def afterCaret (s : List Char) : Bool × List Char :=
  (s.head? == some '^', if s.head? == some '^' then s.drop 1 else s)

theorem afterCaret_left (h : Left tail reason s s') :
    (afterCaret s').1 = (afterCaret s).1
      ∧ Left tail reason (afterCaret s).2 (afterCaret s').2 := by
  cases s with
  | nil => rcases h.nil with ⟨rfl, -⟩ | ⟨c, cs, rfl, -, rfl | rfl⟩ <;> exact ⟨rfl, h⟩
  | cons c cs =>
      obtain ⟨t, rfl, ht⟩ := h.cons
      unfold afterCaret
      by_cases hc : (some c == some '^') = true
      · rw [List.head?_cons, List.head?_cons, if_pos hc, if_pos hc]
        exact ⟨rfl, ht⟩
      · rw [List.head?_cons, List.head?_cons, if_neg hc, if_neg hc]
        exact ⟨rfl, h⟩

theorem hyphens_cons (verbose : Bool) (cs : List Char) :
    hyphens verbose ('-' :: cs)
      = (.literal ⟨spanOfNext ('-' :: cs), '-', false⟩ :: (hyphens verbose (skip verbose cs)).1,
          (hyphens verbose (skip verbose cs)).2) := by
  rw [hyphens]

theorem hyphens_of_ne {verbose : Bool} (h : ∀ cs, s ≠ '-' :: cs) : hyphens verbose s = ([], s) := by
  rw [hyphens]
  rintro cs rfl
  exact h cs rfl

theorem hyphens_left (verbose : Bool) (h : Left tail reason s s') :
    (hyphens verbose s').1.map ClassSet.bare = (hyphens verbose s).1.map ClassSet.bare
      ∧ Left tail reason (hyphens verbose s).2 (hyphens verbose s').2 := by
  fun_induction hyphens verbose s generalizing s' with
  | case1 cs more rest hmore ih =>
      obtain ⟨t, rfl, ht⟩ := h.cons
      have ih := ih (ht.skip verbose)
      rw [hmore] at ih
      rw [hyphens_cons]
      exact ⟨by rw [List.map_cons, List.map_cons, ih.1]; rfl, ih.2⟩
  | case2 s hne =>
      rw [hyphens_of_ne (h.ne_cons (by decide) (by decide) hne)]
      exact ⟨rfl, h⟩

/-- Takes the sign of negation and what counts for nothing behind it. -/
def afterSign (verbose : Bool) (s : List Char) : Bool × List Char :=
  if s.head? == some '^' then (true, skip verbose (s.drop 1)) else (false, s)

theorem afterSign_eq (verbose : Bool) (s : List Char) :
    afterSign verbose s
      = if (afterCaret s).1 then (true, skip verbose (afterCaret s).2)
        else (false, (afterCaret s).2) := by
  unfold afterSign afterCaret
  cases s.head? == some '^' <;> rfl

/-- Opens a class whose sign of negation is read; `start` is the place of the bracket. -/
def openItems (verbose : Bool) (start : Nat) (negated : Bool) (items : List Char) :
    Except Fault (ClassLevel × List Char) :=
  match items with
  | [] => fail .classUnclosed ⟨start, 0⟩
  | _ :: _ =>
      let level : ClassLevel := ⟨⟨start, 0⟩, negated, none, [], place items⟩
      match hyphens verbose items with
      | ([], ']' :: cs) =>
          match skip verbose cs with
          | [] => fail .classUnclosed ⟨start, 0⟩
          | rest =>
              let bracket := ClassSet.literal ⟨spanOfNext (']' :: cs), ']', false⟩
              .ok ({ level with span := ⟨start, place rest⟩, items := [bracket] }, rest)
      | (_ :: _, []) => fail .classUnclosed ⟨start, start⟩
      | (found, rest) =>
          .ok ({ level with span := ⟨start, place rest⟩, items := found.reverse }, rest)

theorem openClass_eq (verbose : Bool) (s : List Char) :
    openClass verbose s
      = openItems verbose (place s + 1) (afterSign verbose (skip verbose s)).1
          (afterSign verbose (skip verbose s)).2 := by
  unfold openClass afterSign
  split <;> rename_i h <;> simp only [h] <;> rfl

theorem afterSign_left (verbose : Bool) (h : Left tail reason s s') :
    (afterSign verbose s').1 = (afterSign verbose s).1
      ∧ Left tail reason (afterSign verbose s).2 (afterSign verbose s').2 := by
  obtain ⟨hsign, hrest⟩ := afterCaret_left h
  rw [afterSign_eq, afterSign_eq, hsign]
  split
  · exact ⟨rfl, hrest.skip verbose⟩
  · exact ⟨rfl, hrest⟩

/-- Without hyphens, and without a bracket that comes first, the items are left. -/
theorem openItems_of_ne {verbose : Bool} {c : Char} {cs rest : List Char}
    (hs : hyphens verbose (c :: cs) = ([], rest)) (hne : ∀ ds, rest ≠ ']' :: ds) (start : Nat)
    (negated : Bool) :
    openItems verbose start negated (c :: cs)
      = .ok (⟨⟨start, place rest⟩, negated, none, [], place (c :: cs)⟩, rest) := by
  unfold openItems
  simp only [hs]
  split
  · rename_i h
    cases h
    exact absurd rfl (hne _)
  · rename_i h
    cases h
  · rename_i h
    cases h
    rfl

theorem openItems_agrees (verbose : Bool) (start start' : Nat) (negated : Bool)
    (h : Left tail reason s s') :
    Agrees tail reason 1 ClassLevel.Alike (openItems verbose start negated s)
      (openItems verbose start' negated s') := by
  cases s with
  | nil =>
      refine .failed fun htail level rest hok => ?_
      rcases h.nil_parenthesis htail with rfl | rfl
      · cases hok
      · unfold openItems at hok
        rw [hyphens_of_ne (by simp)] at hok
        cases hok
        exact Nat.le_refl 1
  | cons c cs =>
      have hhyphens := hyphens_left verbose h
      obtain ⟨t, rfl, -⟩ := h.cons
      rcases hs : hyphens verbose (c :: cs) with ⟨found, rest⟩
      rcases hs' : hyphens verbose (c :: t) with ⟨found', rest'⟩
      rw [hs, hs'] at hhyphens
      obtain ⟨hfound, hrest⟩ : found'.map ClassSet.bare = found.map ClassSet.bare
        ∧ Left tail reason rest rest' := hhyphens
      cases found with
      | nil =>
          obtain rfl := List.map_eq_nil_iff.mp hfound
          by_cases hbracket : ∃ ds, rest = ']' :: ds
          · obtain ⟨ds, rfl⟩ := hbracket
            obtain ⟨ds', rfl, hds⟩ := hrest.cons
            have hskip := hds.skip verbose
            unfold openItems
            simp only [hs, hs']
            rcases hd : skip verbose ds with _ | ⟨e, es⟩
            · rw [hd] at hskip
              refine .failed fun htail level rest hok => ?_
              rcases hskip.nil_parenthesis htail with hd' | hd' <;> simp only [hd'] at hok
              · cases hok
              · cases hok
                exact Nat.le_refl 1
            · rw [hd] at hskip
              obtain ⟨es', hd', -⟩ := hskip.cons
              rw [hd'] at hskip
              simp only [hd']
              exact .ok ⟨rfl, rfl, rfl⟩ hskip
          · have hne : ∀ ds, rest ≠ ']' :: ds := fun ds hds => hbracket ⟨ds, hds⟩
            rw [openItems_of_ne hs hne,
              openItems_of_ne hs' (hrest.ne_cons (by decide) (by decide) hne)]
            exact .ok ⟨rfl, rfl, rfl⟩ hrest
      | cons item found =>
          obtain ⟨item', found', rfl, -⟩ := List.map_eq_cons_iff.mp hfound
          unfold openItems
          cases rest with
          | nil =>
              simp only [hs, hs']
              refine .failed fun htail level rest hok => ?_
              rcases hrest.nil_parenthesis htail with rfl | rfl <;> simp only at hok
              · cases hok
              · cases hok
                exact Nat.le_refl 1
          | cons d rest =>
              obtain ⟨t', rfl, -⟩ := hrest.cons
              simp only [hs, hs']
              refine .ok ⟨rfl, rfl, ?_⟩ hrest
              rw [List.map_reverse, List.map_reverse, hfound]

theorem openClass_agrees (verbose : Bool) (h : Left tail reason s s') :
    Agrees tail reason 1 ClassLevel.Alike (openClass verbose s) (openClass verbose s') := by
  obtain ⟨hnegated, hitems⟩ := afterSign_left verbose (h.skip verbose)
  rw [openClass_eq, openClass_eq, hnegated]
  exact openItems_agrees verbose _ _ _ hitems

/-! ## Named classes -/

/-- No character that starts a tail is in the name of a class. -/
theorem asciiKindOf?_eq_none {name : List Char} {c : Char} (hc : c = ')' ∨ c = '#')
    (hname : c ∈ name) : asciiKindOf? name = none := by
  unfold asciiKindOf?
  rw [Option.map_eq_none_iff, List.find?_eq_none]
  rintro entry hentry hequal
  obtain rfl := beq_iff_eq.mp hequal
  clear hequal
  rcases hc with rfl | rfl <;> (revert hname hentry entry; decide)

/-- Reads the end of a named class; `start` is the place of its bracket. -/
def closeNamed (start : Nat) (negated : Bool) (name : List Char) :
    List Char → Option (ClassSet × List Char)
  | ':' :: ']' :: rest =>
      (asciiKindOf? name).map fun kind => (.ascii ⟨start, place rest⟩ kind negated, rest)
  | _ => none

theorem closeNamed_of_ne {start : Nat} {negated : Bool} {name : List Char}
    (h : ∀ rest, s ≠ ']' :: rest) : closeNamed start negated name (':' :: s) = none := by
  unfold closeNamed
  split
  · rename_i hs
    cases hs
    exact absurd rfl (h _)
  · rfl

theorem closeNamed_of_kind {start : Nat} {negated : Bool} {name : List Char}
    (h : asciiKindOf? name = none) (s : List Char) : closeNamed start negated name s = none := by
  unfold closeNamed
  split
  · rw [h, Option.map_none]
  · rfl

theorem asciiClass?_colon (cs : List Char) :
    asciiClass? (':' :: cs)
      = closeNamed (place (':' :: cs) + 1) (afterCaret cs).1
          ((afterCaret cs).2.takeWhile (· != ':')) ((afterCaret cs).2.dropWhile (· != ':')) := by
  rfl

theorem asciiClass?_of_ne (h : ∀ cs, s ≠ ':' :: cs) : asciiClass? s = none := by
  unfold asciiClass?
  split
  · exact absurd rfl (h _)
  · rfl

/-- The rest of a named class ends before a tail, or else it is none. -/
theorem closeNamed_left (start start' : Nat) (negated : Bool) (h : Left tail reason s s') :
    (closeNamed start negated (s.takeWhile (· != ':')) (s.dropWhile (· != ':')) = none
        ∧ closeNamed start' negated (s'.takeWhile (· != ':')) (s'.dropWhile (· != ':')) = none)
      ∨ ∃ set set' rest rest',
        closeNamed start negated (s.takeWhile (· != ':')) (s.dropWhile (· != ':'))
          = some (set, rest)
        ∧ closeNamed start' negated (s'.takeWhile (· != ':')) (s'.dropWhile (· != ':'))
          = some (set', rest')
        ∧ set'.bare = set.bare ∧ Left tail reason rest rest' := by
  have hpast : ∀ name : List Char, ':' ∉ name → ∀ c ∈ name, (c != ':') = true := by
    intro name hnot c hc
    exact bne_iff_ne.mpr fun h => hnot (h ▸ hc)
  by_cases hin : ':' ∈ s
  · -- the name ends before the tail
    obtain ⟨name, back, rfl, hnot⟩ := List.eq_append_cons_of_mem hin
    obtain ⟨t, rfl, hcolon⟩ := h.suffix _
    obtain ⟨back', rfl, hback⟩ := hcolon.cons
    have htake (more : List Char) : (name ++ ':' :: more).takeWhile (· != ':') = name := by
      rw [List.takeWhile_append_of_pos (hpast name hnot)]
      simp
    have hdrop (more : List Char) :
        (name ++ ':' :: more).dropWhile (· != ':') = ':' :: more := by
      rw [List.dropWhile_append_of_pos (hpast name hnot)]
      simp
    rw [htake, htake, hdrop, hdrop]
    by_cases hclose : ∃ rest, back = ']' :: rest
    · obtain ⟨rest, rfl⟩ := hclose
      obtain ⟨rest', rfl, hrest⟩ := hback.cons
      cases hkind : asciiKindOf? name with
      | none => exact .inl ⟨closeNamed_of_kind hkind _, closeNamed_of_kind hkind _⟩
      | some kind =>
          have hclosed (start : Nat) (more : List Char) :
              closeNamed start negated name (':' :: ']' :: more)
                = some (.ascii ⟨start, place more⟩ kind negated, more) := by
            rw [closeNamed, hkind, Option.map_some]
          exact .inr ⟨_, _, rest, rest', hclosed _ _, hclosed _ _, rfl, hrest⟩
    · have hne : ∀ rest, back ≠ ']' :: rest := fun rest h => hclose ⟨rest, h⟩
      exact .inl ⟨closeNamed_of_ne hne,
        closeNamed_of_ne (hback.ne_cons (by decide) (by decide) hne)⟩
  · have hnone (start : Nat) (name : List Char) :
        closeNamed start negated name (s.dropWhile (· != ':')) = none := by
      have hdrop : (s ++ []).dropWhile (· != ':') = [] :=
        List.dropWhile_append_of_pos (hpast s hin)
      rw [List.append_nil] at hdrop
      rw [hdrop]
      rfl
    refine .inl ⟨hnone _ _, ?_⟩
    cases h with
    | gone => exact hnone _ _
    | behind htail _ =>
        -- a name that goes on into the tail is the name of no class
        obtain ⟨c, cs, rfl, hc⟩ := htail.starts
        refine closeNamed_of_kind (asciiKindOf?_eq_none hc ?_) _
        have hpass : (c != ':') = true := by rcases hc with rfl | rfl <;> rfl
        rw [List.takeWhile_append_of_pos (hpast s hin),
          List.takeWhile_cons_of_pos (p := (· != ':')) hpass]
        exact List.mem_append_right _ List.mem_cons_self

/-- A named class is the same with a tail, and what is none is none with a tail. -/
theorem asciiClass?_left (h : Left tail reason s s') :
    (asciiClass? s = none ∧ asciiClass? s' = none)
      ∨ ∃ set set' rest rest', asciiClass? s = some (set, rest)
        ∧ asciiClass? s' = some (set', rest') ∧ set'.bare = set.bare
        ∧ Left tail reason rest rest' := by
  by_cases hcolon : ∃ cs, s = ':' :: cs
  · obtain ⟨cs, rfl⟩ := hcolon
    obtain ⟨t, rfl, ht⟩ := h.cons
    obtain ⟨hnegated, hname⟩ := afterCaret_left ht
    rw [asciiClass?_colon, asciiClass?_colon, hnegated]
    exact closeNamed_left _ _ _ hname
  · have hne : ∀ cs, s ≠ ':' :: cs := fun cs hcs => hcolon ⟨cs, hcs⟩
    exact .inl ⟨asciiClass?_of_ne hne,
      asciiClass?_of_ne (h.ne_cons (by decide) (by decide) hne)⟩

/-! ## Whole classes -/

theorem operatorOf?_nil (c : Char) : operatorOf? c [] = none := by
  unfold operatorOf?
  split <;> first | rfl | contradiction

/-- An operator is a character that is doubled. -/
theorem operatorOf?_cons (c d : Char) (ds : List Char) :
    operatorOf? c (d :: ds)
      = if c = d then
          (if c = '&' then some .intersection
          else if c = '-' then some .difference
          else if c = '~' then some .symmetricDifference
          else none)
        else none := by
  unfold operatorOf?
  split <;> simp_all
  grind

theorem operatorOf?_left (c : Char) (h : Left tail reason s s') :
    operatorOf? c s' = operatorOf? c s := by
  cases s with
  | nil =>
      rw [operatorOf?_nil]
      rcases h.nil with ⟨rfl, -⟩ | ⟨d, ds, rfl, -, rfl | rfl⟩
      · exact operatorOf?_nil c
      · rw [operatorOf?_cons]
        grind
      · rw [operatorOf?_cons]
        grind
  | cons d ds =>
      obtain ⟨t, rfl, -⟩ := h.cons
      rw [operatorOf?_cons, operatorOf?_cons]

/-- What is open after a step, or the class that is finished, is the same but for its places. -/
inductive ClassStep.Alike (tail : List Char) (reason : Prop) : ClassStep → ClassStep → Prop where
  | inside {level level' : ClassLevel} {outer outer' : List ClassLevel} {rest rest' : List Char}
      (hlevel : level.Alike level') (houter : List.Forall₂ ClassLevel.Alike outer outer')
      (hrest : Left tail reason rest rest') :
      ClassStep.Alike tail reason (.inside level outer rest) (.inside level' outer' rest')
  | done {node node' : Ast} {rest rest' : List Char} (hnode : node'.bare = node.bare)
      (hrest : Left tail reason rest rest') :
      ClassStep.Alike tail reason (.done node rest) (.done node' rest')

section Steps

variable {level level' : ClassLevel} {outer outer' : List ClassLevel}

/--
A step inside of a class is the same with a tail. If the text alone has none, then the class is
open after the step, and at most a parenthesis is left.
-/
theorem classStep_cases (verbose : Bool) (hlevel : level.Alike level')
    (houter : List.Forall₂ ClassLevel.Alike outer outer') (c : Char)
    (h : Left tail reason s s') :
    (∃ step step', classStep verbose level outer c s = .ok step
        ∧ classStep verbose level' outer' c s' = .ok step' ∧ step.Alike tail reason step')
      ∨ ∃ fault, classStep verbose level outer c s = .error fault
        ∧ (tail = [')'] → ∀ step, classStep verbose level' outer' c s' = .ok step →
            ∃ level outer rest, step = .inside level outer rest ∧ rest.length ≤ 1) := by
  unfold classStep
  split
  · -- an opening bracket
    rcases asciiClass?_left h with ⟨hnone, hnone'⟩ | ⟨set, set', rest, rest', hx, hx', hset, hrest⟩
    · simp only [hnone, hnone']
      rcases (openClass_agrees verbose h).cases with
        ⟨inner, rest, inner', rest', hx, hx', hinner, hrest⟩ | ⟨fault, hx, hspent⟩
      · simp only [hx, hx']
        exact .inl ⟨_, _, rfl, rfl, .inside hinner (.cons hlevel houter) hrest⟩
      · simp only [hx]
        refine .inr ⟨fault, rfl, fun htail step hok => ?_⟩
        split at hok
        · cases hok
        · rename_i inner rest hx'
          cases hok
          exact ⟨_, _, _, rfl, hspent htail _ _ hx'⟩
    · simp only [hx, hx']
      exact .inl ⟨_, _, rfl, rfl, .inside (hlevel.push hset) houter hrest⟩
  · split
    · -- a closing bracket
      have hbracketed (span span' : Span) :
          (ClassSet.bracketed span' level'.negated level'.set).bare
            = (ClassSet.bracketed span level.negated level.set).bare := by
        rw [ClassSet.bare, ClassSet.bare, hlevel.negated, hlevel.set]
      cases houter with
      | nil =>
          refine .inl ⟨_, _, rfl, rfl, .done ?_ h⟩
          rw [Ast.bare, Ast.bare, hlevel.negated, hlevel.set]
      | cons hparent houter =>
          exact .inl ⟨_, _, rfl, rfl, .inside (hparent.push (hbracketed _ _)) houter h⟩
    · rw [operatorOf?_left c h]
      cases hoperator : operatorOf? c s with
      | some operator =>
          cases s with
          | nil =>
              rw [operatorOf?_nil] at hoperator
              cases hoperator
          | cons d ds =>
              obtain ⟨t, rfl, ht⟩ := h.cons
              exact .inl ⟨_, _, rfl, rfl, .inside (hlevel.operate _ _ _) houter ht⟩
      | none =>
          rcases (classRange_agrees verbose level.span level'.span c h).cases with
            ⟨set, rest, set', rest', hx, hx', hset, hrest⟩ | ⟨fault, hx, hspent⟩
          · simp only [hx, hx']
            exact .inl ⟨_, _, rfl, rfl, .inside (hlevel.push hset) houter hrest⟩
          · simp only [hx]
            refine .inr ⟨fault, rfl, fun htail step hok => ?_⟩
            split at hok
            · cases hok
            · rename_i set rest hx'
              cases hok
              exact ⟨_, _, _, rfl, hspent htail _ _ hx'⟩

theorem classRest_of_nil {verbose : Bool} (hs : skip verbose s = []) (level : ClassLevel)
    (outer : List ClassLevel) :
    classRest verbose level outer s = fail .classUnclosed level.span := by
  rw [classRest]
  split
  · rfl
  · rename_i hcs
    rw [hs] at hcs
    cases hcs

theorem classRest_of_cons {verbose : Bool} {c : Char} {cs : List Char}
    (hs : skip verbose s = c :: cs) (level : ClassLevel) (outer : List ClassLevel) :
    classRest verbose level outer s
      = match classStep verbose level outer c cs with
        | .error fault => .error fault
        | .ok (.done node rest) => .ok (node, rest)
        | .ok (.inside level outer rest) => classRest verbose level outer rest := by
  rw [classRest]
  split
  · rename_i hnil
    rw [hs] at hnil
    cases hnil
  · rename_i hcs
    rw [hs] at hcs
    cases hcs
    split <;> rename_i hstep <;> rw [hstep]

/-- The rest of a class has at least one character. -/
theorem classRest_lt {verbose : Bool} {node : Ast} {rest : List Char}
    (h : classRest verbose level outer s = .ok (node, rest)) :
    rest.length < (skip verbose s).length := by
  rcases hs : skip verbose s with _ | ⟨c, cs⟩
  · rw [classRest_of_nil hs] at h
    cases h
  · rw [classRest_of_cons hs] at h
    split at h
    · cases h
    · rename_i hstep
      cases h
      exact Nat.lt_succ_of_le (classStep_length hstep)
    · rename_i hstep
      exact Nat.lt_succ_of_le (Nat.le_trans (classRest_length h) (classStep_length hstep))

/-- From a parenthesis nothing is left behind a class. -/
theorem classRest_parenthesis {verbose : Bool} {node : Ast} {rest : List Char}
    (h : classRest verbose level outer s = .ok (node, rest)) (hs : s.length ≤ 1) :
    rest.length ≤ 0 :=
  Nat.le_of_lt_succ (Nat.lt_of_lt_of_le (classRest_lt h) (Nat.le_trans (skip_length verbose s) hs))

theorem classRest_agrees (verbose : Bool) (hlevel : level.Alike level')
    (houter : List.Forall₂ ClassLevel.Alike outer outer') (h : Left tail reason s s') :
    Agrees tail reason 0 (fun node node' => node'.bare = node.bare)
      (classRest verbose level outer s) (classRest verbose level' outer' s') := by
  fun_induction classRest verbose level outer s generalizing level' outer' s' with
  | case1 level outer s hs =>
      refine .failed fun htail node rest hok => ?_
      have hskip := h.skip verbose
      rw [hs] at hskip
      have hlength := classRest_lt hok
      rcases hskip.nil_parenthesis htail with hs' | hs' <;> rw [hs'] at hlength
      · exact absurd hlength (Nat.not_lt_zero _)
      · exact Nat.le_of_lt_succ hlength
  | case2 level outer s c cs hs fault hstep =>
      obtain ⟨t, hs', ht⟩ := h.skip_cons hs
      rw [classRest_of_cons hs']
      rcases classStep_cases verbose hlevel houter c ht with ⟨_, _, hx, -⟩ | ⟨_, -, hspent⟩
      · rw [hstep] at hx
        cases hx
      · refine .failed fun htail node rest hok => ?_
        split at hok
        · cases hok
        · rename_i hstep'
          obtain ⟨_, _, _, hinside, -⟩ := hspent htail _ hstep'
          cases hinside
        · rename_i hstep'
          obtain ⟨_, _, _, hinside, hlength⟩ := hspent htail _ hstep'
          cases hinside
          exact classRest_parenthesis hok hlength
  | case3 level outer s c cs hs node rest hstep =>
      obtain ⟨t, hs', ht⟩ := h.skip_cons hs
      rw [classRest_of_cons hs']
      rcases classStep_cases verbose hlevel houter c ht with
        ⟨step, step', hx, hx', halike⟩ | ⟨_, hx, -⟩
      · rw [hstep] at hx
        cases hx
        cases halike with
        | done hnode hrest =>
            simp only [hx']
            exact .ok hnode hrest
      · rw [hstep] at hx
        cases hx
  | case4 level outer s c cs hs level₁ outer₁ rest hstep ih =>
      obtain ⟨t, hs', ht⟩ := h.skip_cons hs
      rw [classRest_of_cons hs']
      rcases classStep_cases verbose hlevel houter c ht with
        ⟨step, step', hx, hx', halike⟩ | ⟨_, hx, -⟩
      · rw [hstep] at hx
        cases hx
        cases halike with
        | inside hlevel houter hrest =>
            simp only [hx']
            exact ih hlevel houter hrest
      · rw [hstep] at hx
        cases hx

end Steps

/-- **A class is the same with a tail.** -/
theorem bracketedClass_agrees (verbose : Bool) (h : Left tail reason s s') :
    Agrees tail reason 0 (fun node node' => node'.bare = node.bare) (bracketedClass verbose s)
      (bracketedClass verbose s') := by
  unfold bracketedClass
  rcases (openClass_agrees verbose h).cases with
    ⟨level, rest, level', rest', hx, hx', hlevel, hrest⟩ | ⟨fault, hx, hspent⟩
  · simp only [hx, hx']
    exact classRest_agrees verbose hlevel .nil hrest
  · simp only [hx]
    refine .failed fun htail node rest hok => ?_
    split at hok
    · cases hok
    · rename_i level' rest' hx'
      exact classRest_parenthesis hok (hspent htail _ _ hx')

end StyleLookup.Pattern
