import StyleLookup.Proofs.PatternTail

/-!
# A text behind an escape

What a backslash stands for is the same with a tail behind it. One reader looks further than it
reads: behind `\b` a brace may open the name of a boundary or a counted repetition, and which of
them it is shows only behind the brace. If nothing is there, the text alone is refused, and with a
tail the brace opens a repetition without a count. This case is set apart (`OpensNothing`); it is
refused too, but by a later reader.
-/

namespace StyleLookup.Pattern

open StyleLookup.Text

/-- The part without its place. -/
def Primitive.bare : Primitive → Primitive
  | .literal l => .literal l.bare
  | .dot _ => .dot nowhere
  | .assertion _ kind => .assertion nowhere kind
  | .letterClass _ kind negated => .letterClass nowhere kind negated
  | .unicode _ query negated => .unicode nowhere query negated

theorem Primitive.toAst_bare (p : Primitive) : p.bare.toAst = p.toAst.bare := by
  cases p <;> rfl

/-- Behind `\b` there is a brace, and behind that nothing that counts. -/
def OpensNothing (verbose : Bool) (s : List Char) : Prop :=
  ∃ cs, s = 'b' :: '\x7b' :: cs ∧ skip verbose cs = []

variable {tail : List Char} {reason : Prop} {s s' : List Char}

/-! ## Boundaries -/

/-- With a tail there is the same name, or no name either. -/
theorem boundaryName_alike (verbose : Bool) (start start' : Nat) (h : Left tail reason s s')
    (hs : skip verbose s ≠ []) :
    Alike (fun found found' => (found = none ∧ found' = none)
        ∨ ∃ kind rest rest', found = some (kind, rest) ∧ found' = some (kind, rest')
          ∧ Left tail reason rest rest')
      (boundaryName verbose start s) (boundaryName verbose start' s') := by
  have hskip := h.skip verbose
  rcases hcs : skip verbose s with _ | ⟨c, cs⟩
  · exact absurd hcs hs
  · rw [hcs] at hskip
    obtain ⟨t, hcs', -⟩ := hskip.cons
    rw [hcs'] at hskip
    unfold boundaryName
    simp only [hcs, hcs']
    split
    · have hrun := takeRun_left verbose isBoundaryChar rfl rfl hskip
      rcases hr : takeRun verbose isBoundaryChar (c :: cs) with ⟨name, rest⟩
      rcases hr' : takeRun verbose isBoundaryChar (c :: t) with ⟨name', rest'⟩
      rw [hr, hr'] at hrun
      obtain ⟨rfl, hrest⟩ : name' = name ∧ Left tail reason rest rest' := hrun
      cases rest with
      | nil =>
          rcases hrest.nil with ⟨rfl, -⟩ | ⟨c, cs, rfl, -, rfl | rfl⟩ <;> exact .error
      | cons d rest =>
          obtain ⟨t, rfl, ht⟩ := hrest.cons
          by_cases hd : d = '\x7d'
          · subst hd
            cases hkind : boundaryOf? name' with
            | none =>
                simp only [hkind]
                exact .error
            | some kind =>
                simp only [hkind]
                exact .ok (.inr ⟨kind, rest, t, rfl, rfl, ht⟩)
          · simpa [hd, fail] using Alike.error
    · exact .ok (.inl ⟨rfl, rfl⟩)

theorem afterBoundary_of_ne {verbose : Bool} {start : Nat} {boundary : Primitive}
    (h : ∀ cs, s ≠ '\x7b' :: cs) : afterBoundary verbose start boundary s = .ok (boundary, s) := by
  unfold afterBoundary
  split
  · exact absurd rfl (h _)
  · rfl

theorem afterBoundary_agrees {verbose : Bool} (start start' : Nat) {boundary boundary' : Primitive}
    (hboundary : boundary'.bare = boundary.bare) (h : Left tail reason s s')
    (hs : ∀ cs, s = '\x7b' :: cs → skip verbose cs ≠ []) :
    Agrees tail reason 0 (fun p p' => p'.bare = p.bare) (afterBoundary verbose start boundary s)
      (afterBoundary verbose start' boundary' s') := by
  by_cases hbrace : ∃ cs, s = '\x7b' :: cs
  · obtain ⟨cs, rfl⟩ := hbrace
    obtain ⟨t, rfl, ht⟩ := h.cons
    unfold afterBoundary
    rcases (boundaryName_alike verbose start start' ht (hs cs rfl)).cases with
      ⟨found, found', hx, hx', hfound⟩ | ⟨_, _, hx, hx'⟩
    · rcases hfound with ⟨rfl, rfl⟩ | ⟨kind, rest, rest', rfl, rfl, hrest⟩
      · simp only [hx, hx']
        exact .ok hboundary h
      · simp only [hx, hx']
        exact .ok rfl hrest
    · simp only [hx, hx']
      exact .refused
  · have hne : ∀ cs, s ≠ '\x7b' :: cs := fun cs hcs => hbrace ⟨cs, hcs⟩
    rw [afterBoundary_of_ne hne, afterBoundary_of_ne (h.ne_cons (by decide) (by decide) hne)]
    exact .ok hboundary h

/-! ## Escapes -/

theorem hexCount?_pos {c : Char} {count : Nat} (h : hexCount? c = some count) : 0 < count := by
  unfold hexCount? at h
  split at h <;> cases h <;> decide

/-- Whether a hexadecimal escape has braces shows in the text. -/
theorem head?_skip_of_hexEscape {verbose : Bool} {count : Nat} {c : Char} {rest : List Char}
    (h : Left tail reason s s') (hs : hexEscape verbose count s = .ok (c, rest)) :
    (skip verbose s').head? = (skip verbose s).head? := by
  rcases hcs : skip verbose s with _ | ⟨c, cs⟩
  · unfold hexEscape at hs
    simp only [hcs] at hs
    cases hs
  · obtain ⟨t, hcs', -⟩ := h.skip_cons hcs
    rw [hcs']
    rfl

/-- **An escape is the same with a tail.** -/
theorem escape_agrees {verbose : Bool} (h : Left tail reason s s')
    (hs : ¬ OpensNothing verbose s) :
    Agrees tail reason 0 (fun p p' => p'.bare = p.bare) (escape verbose s)
      (escape verbose s') := by
  cases s with
  | nil =>
      refine .failed fun htail p rest hok => ?_
      have hlength := escape_length hok
      rcases h.nil_parenthesis htail with rfl | rfl
      · exact absurd hlength (Nat.not_lt_zero _)
      · exact Nat.le_of_lt_succ hlength
  | cons c cs =>
      obtain ⟨t, rfl, ht⟩ := h.cons
      unfold escape
      dsimp only
      split
      · exact .refused
      · cases hcount : hexCount? c with
        | some count =>
            rcases (hexEscape_agrees verbose (hexCount?_pos hcount) ht).cases with
              ⟨char, rest, _, rest', hx, hx', rfl, hrest⟩ | ⟨fault, hx, hspent⟩
            · simp only [hx, hx', head?_skip_of_hexEscape ht hx]
              exact .ok rfl hrest
            · simp only [hx]
              refine .failed fun htail p rest hok => ?_
              split at hok
              · cases hok
              · rename_i char rest' hx'
                cases hok
                exact hspent htail _ _ hx'
        | none =>
            cases letterClassOf? c with
            | some kind => exact .ok rfl ht
            | none =>
                cases controlOf? c with
                | some control => exact .ok rfl ht
                | none =>
                    cases assertionOf? c with
                    | some kind =>
                        dsimp only
                        split
                        · rename_i hb
                          subst hb
                          exact afterBoundary_agrees _ _ rfl ht fun cs' hcs' hskip =>
                            hs ⟨cs', by rw [hcs'], hskip⟩
                        · exact .ok rfl ht
                    | none =>
                        dsimp only
                        split
                        · rcases (unicodeClass_agrees verbose ht).cases with
                            ⟨query, rest, _, rest', hx, hx', rfl, hrest⟩ | ⟨fault, hx, hspent⟩
                          · simp only [hx, hx']
                            exact .ok rfl hrest
                          · simp only [hx]
                            refine .failed fun htail p rest hok => ?_
                            split at hok
                            · cases hok
                            · rename_i query rest' hx'
                              cases hok
                              exact hspent htail _ _ hx'
                        · split
                          · exact .ok rfl ht
                          · exact .refused

/-! ## A brace that opens nothing -/

theorem escape_b (verbose : Bool) (cs : List Char) :
    escape verbose ('b' :: cs)
      = afterBoundary verbose (place ('b' :: cs) + 1)
          (.assertion ⟨place ('b' :: cs) + 1, place cs⟩ .wordBoundary) cs := rfl

/-- A brace that opens nothing is refused. -/
theorem escape_of_opensNothing {verbose : Bool} (hs : OpensNothing verbose s) :
    ∃ fault, escape verbose s = .error fault := by
  obtain ⟨cs, rfl, hskip⟩ := hs
  refine ⟨⟨.boundaryOrRepetitionUnexpectedEnd, ⟨place ('b' :: '\x7b' :: cs) + 1, 0⟩, none⟩, ?_⟩
  rw [escape_b]
  unfold afterBoundary boundaryName
  simp only [hskip]
  rfl

/-- With a closing parenthesis the brace is left, and nothing else stands behind it. -/
theorem escape_opensNothing {verbose : Bool} (h : Left [')'] reason s s')
    (hs : OpensNothing verbose s) {p : Primitive} {rest : List Char}
    (hok : escape verbose s' = .ok (p, rest)) :
    (∃ span, p = .assertion span .wordBoundary)
      ∧ ∃ cs, rest = '\x7b' :: cs ∧ skip verbose cs = [')'] := by
  obtain ⟨cs, rfl, hskip⟩ := hs
  obtain ⟨_, rfl, hbrace⟩ := h.cons
  obtain ⟨t, rfl, ht⟩ := hbrace.cons
  rw [escape_b] at hok
  have hend := ht.skip verbose
  rw [hskip] at hend
  rcases hend.nil_parenthesis rfl with hrest | hrest
  · unfold afterBoundary boundaryName at hok
    simp only [hrest] at hok
    cases hok
  · have hname (start : Nat) : boundaryName verbose start t = .ok none := by
      unfold boundaryName
      simp only [hrest]
      rfl
    unfold afterBoundary at hok
    simp only [hname] at hok
    cases hok
    exact ⟨⟨_, rfl⟩, t, rfl, hrest⟩

end StyleLookup.Pattern
