import StyleLookup.Pattern.Compiled

/-!
# Patterns apart from their places

A place in a pattern is named by the number of characters from there to the end, so a text that is
put behind a pattern moves every place in it. Places are for messages only. `bare` takes them away:
two trees that are the same when bare are the same pattern, read in different surroundings, and
they mean the same (`meaning_bare`).

Faults are left out of this. A fault is about a place, and with trees that are the same when bare
it can only be said that both have a meaning or neither has one (`Alike`).
-/

namespace StyleLookup.Pattern

open StyleLookup.Unicode

/-- Both succeed with results that belong together, or both fail. -/
inductive Alike {α β : Type} (Q : α → β → Prop) : Except Fault α → Except Fault β → Prop where
  | ok {a : α} {b : β} (h : Q a b) : Alike Q (.ok a) (.ok b)
  | error {f f' : Fault} : Alike Q (.error f) (.error f')

namespace Alike

variable {α β γ δ : Type} {Q : α → β → Prop} {R : γ → δ → Prop} {x : Except Fault α}
  {y : Except Fault β}

theorem refl {Q : α → α → Prop} (hQ : ∀ a, Q a a) (x : Except Fault α) : Alike Q x x := by
  cases x with
  | error => exact .error
  | ok a => exact .ok (hQ a)

theorem cases (h : Alike Q x y) :
    (∃ a b, x = .ok a ∧ y = .ok b ∧ Q a b) ∨ ∃ f f', x = .error f ∧ y = .error f' := by
  cases h with
  | ok h => exact .inl ⟨_, _, rfl, rfl, h⟩
  | error => exact .inr ⟨_, _, rfl, rfl⟩

theorem map (h : Alike Q x y) {f : α → γ} {g : β → δ} (hfg : ∀ a b, Q a b → R (f a) (g b)) :
    Alike R (x.map f) (y.map g) := by
  cases h with
  | ok h => exact .ok (hfg _ _ h)
  | error => exact .error

end Alike

/-! ## Taking the places away -/

/-- The span that stands for any. -/
def nowhere : Span := ⟨0, 0⟩

/-- The character without its place. -/
def Literal.bare (l : Literal) : Literal := { l with span := nowhere }

theorem Literal.bare_char (l : Literal) : l.bare.char = l.char := rfl

mutual

/-- The set without places. -/
def ClassSet.bare : ClassSet → ClassSet
  | .empty _ => .empty nowhere
  | .literal l => .literal l.bare
  | .range _ first last => .range nowhere first.bare last.bare
  | .ascii _ kind negated => .ascii nowhere kind negated
  | .unicode _ query negated => .unicode nowhere query negated
  | .letterClass _ kind negated => .letterClass nowhere kind negated
  | .bracketed _ negated set => .bracketed nowhere negated set.bare
  | .union _ items => .union nowhere (ClassSet.bareAll items)
  | .operation _ operator left right => .operation nowhere operator left.bare right.bare

/-- Several sets without places. -/
def ClassSet.bareAll : List ClassSet → List ClassSet
  | [] => []
  | item :: items => item.bare :: ClassSet.bareAll items

end

mutual

/-- The pattern without places. -/
def Ast.bare : Ast → Ast
  | .empty _ => .empty nowhere
  | .flags _ settings => .flags nowhere settings
  | .literal l => .literal l.bare
  | .dot _ => .dot nowhere
  | .assertion _ kind => .assertion nowhere kind
  | .letterClass _ kind negated => .letterClass nowhere kind negated
  | .unicode _ query negated => .unicode nowhere query negated
  | .bracketed _ negated set => .bracketed nowhere negated set.bare
  | .repetition _ min max isLazy body => .repetition nowhere min max isLazy body.bare
  | .group _ kind body => .group nowhere kind body.bare
  | .alternation _ branches => .alternation nowhere (Ast.bareAll branches)
  | .concat _ items => .concat nowhere (Ast.bareAll items)

/-- Several nodes without places. -/
def Ast.bareAll : List Ast → List Ast
  | [] => []
  | node :: nodes => node.bare :: Ast.bareAll nodes

end

theorem ClassSet.bareAll_eq_map (items : List ClassSet) :
    ClassSet.bareAll items = items.map ClassSet.bare := by
  induction items with
  | nil => rfl
  | cons item items ih => rw [ClassSet.bareAll, ih, List.map_cons]

theorem Ast.bareAll_eq_map (nodes : List Ast) : Ast.bareAll nodes = nodes.map Ast.bare := by
  induction nodes with
  | nil => rfl
  | cons node nodes ih => rw [Ast.bareAll, ih, List.map_cons]

/-! ## What bare classes mean -/

namespace Modes

variable (m : Modes) (span span' : Span)

theorem encodable_alike (set : Scalars) :
    Alike Eq (m.encodable span set) (m.encodable span' set) := by
  unfold encodable
  split
  · exact .ok rfl
  · exact .error

theorem classSet_alike (negated : Bool) (set : Scalars) :
    Alike Eq (m.classSet span negated set) (m.classSet span' negated set) :=
  m.encodable_alike span span' _

theorem letterSet_alike (kind : LetterClass) (negated : Bool) :
    Alike Eq (m.letterSet span kind negated) (m.letterSet span' kind negated) :=
  m.encodable_alike span span' _

theorem querySet_alike (query : Query) (negated : Bool) :
    Alike Eq (m.querySet span query negated) (m.querySet span' query negated) := by
  unfold querySet
  split
  · exact .error
  · split
    · exact .error
    · exact .error
    · exact m.classSet_alike span span' _ _

theorem classLiteral_bare (l : Literal) : Alike Eq (m.classLiteral l.bare) (m.classLiteral l) := by
  unfold classLiteral Literal.bare
  dsimp only
  split
  · exact .ok rfl
  · split <;> exact .error

mutual

theorem setOf_bare : ∀ set : ClassSet, Alike Eq (m.setOf set.bare) (m.setOf set)
  | .empty _ => .ok rfl
  | .literal l => (m.classLiteral_bare l).map fun _ _ h => congrArg Scalars.single h
  | .range _ first last => by
      rw [ClassSet.bare, setOf, setOf]
      rcases (m.classLiteral_bare first).cases with ⟨a, _, ha, ha', rfl⟩ | ⟨_, _, ha, ha'⟩
      · rcases (m.classLiteral_bare last).cases with ⟨b, _, hb, hb', rfl⟩ | ⟨_, _, hb, hb'⟩
        · simpa only [ha, ha', hb, hb'] using Alike.ok rfl
        · simpa only [ha, ha', hb, hb'] using Alike.error
      · simpa only [ha, ha'] using Alike.error
  | .ascii _ _ _ => m.classSet_alike _ _ _ _
  | .unicode _ _ _ => m.querySet_alike _ _ _ _
  | .letterClass _ _ _ => m.letterSet_alike _ _ _ _
  | .bracketed _ _ set => by
      rw [ClassSet.bare, setOf, setOf]
      rcases (setOf_bare set).cases with ⟨a, _, ha, ha', rfl⟩ | ⟨_, _, ha, ha'⟩
      · simpa only [ha, ha'] using m.classSet_alike _ _ _ _
      · simpa only [ha, ha'] using Alike.error
  | .union _ items => setOfAll_bare items
  | .operation _ _ left right => by
      rw [ClassSet.bare, setOf, setOf]
      rcases (setOf_bare left).cases with ⟨a, _, ha, ha', rfl⟩ | ⟨_, _, ha, ha'⟩
      · rcases (setOf_bare right).cases with ⟨b, _, hb, hb', rfl⟩ | ⟨_, _, hb, hb'⟩
        · simpa only [ha, ha', hb, hb'] using Alike.ok rfl
        · simpa only [ha, ha', hb, hb'] using Alike.error
      · simpa only [ha, ha'] using Alike.error

theorem setOfAll_bare :
    ∀ items : List ClassSet, Alike Eq (m.setOfAll (ClassSet.bareAll items)) (m.setOfAll items)
  | [] => .ok rfl
  | item :: items => by
      rw [ClassSet.bareAll, setOfAll, setOfAll]
      rcases (setOf_bare item).cases with ⟨a, _, ha, ha', rfl⟩ | ⟨_, _, ha, ha'⟩
      · simpa only [ha, ha'] using (setOfAll_bare items).map fun _ _ h => congrArg _ h
      · simpa only [ha, ha'] using Alike.error

end

/-! ## What bare patterns mean -/

theorem literal_bare (l : Literal) : Alike Eq (m.literal l.bare) (m.literal l) := by
  unfold literal Literal.bare
  dsimp only
  split
  · exact .error
  · exact .ok rfl

theorem dot_alike : Alike Eq (m.dot span) (m.dot span') := by
  unfold dot
  split
  · exact .error
  · exact Alike.refl (fun _ => rfl) _

theorem bracketed_bare (negated : Bool) (set : ClassSet) :
    Alike Eq (m.single (.bracketed span' negated set.bare))
      (m.single (.bracketed span negated set)) := by
  rw [single, single]
  rcases (m.setOf_bare set).cases with ⟨a, _, ha, ha', rfl⟩ | ⟨_, _, ha, ha'⟩
  · simpa only [ha, ha'] using (m.classSet_alike _ _ _ _).map fun _ _ h => congrArg m.oneOf h
  · simpa only [ha, ha'] using Alike.error

end Modes

mutual

/-- **What a pattern means does not depend on its places.** -/
theorem meaning_bare (m : Modes) :
    ∀ node : Ast, Alike Eq (m.meaning node.bare) (m.meaning node)
  | .empty _ | .flags _ _ | .assertion _ _ => .ok rfl
  | .literal l => (m.literal_bare l).map fun _ _ h => by rw [h]
  | .dot _ => (m.dot_alike _ _).map fun _ _ h => by rw [h]
  | .letterClass _ _ _ =>
      ((m.letterSet_alike _ _ _ _).map fun _ _ h => congrArg m.oneOf h).map fun _ _ h => by rw [h]
  | .unicode _ _ _ =>
      ((m.querySet_alike _ _ _ _).map fun _ _ h => congrArg m.oneOf h).map fun _ _ h => by rw [h]
  | .bracketed _ _ _ => (m.bracketed_bare _ _ _ _).map fun _ _ h => by rw [h]
  | .repetition _ _ _ _ body => (meaning_bare m body).map fun _ _ h => by rw [h]
  | .group _ .capture body => (meaning_bare m body).map fun _ _ h => by rw [h]
  | .group _ (.plain settings) body =>
      (meaning_bare (m.apply settings) body).map fun _ _ h => by rw [h]
  | .alternation _ branches => (meanings_bare m branches).map fun _ _ h => by rw [h]
  | .concat _ items => (meanings_bare m items).map fun _ _ h => by rw [h]

theorem meanings_bare (m : Modes) :
    ∀ nodes : List Ast, Alike Eq (m.meanings (Ast.bareAll nodes)) (m.meanings nodes)
  | [] => .ok rfl
  | node :: nodes => by
      rw [Ast.bareAll, Modes.meanings, Modes.meanings]
      rcases (meaning_bare m node).cases with ⟨a, _, ha, ha', rfl⟩ | ⟨_, _, ha, ha'⟩
      · simpa only [ha, ha'] using (meanings_bare _ nodes).map fun _ _ h => by rw [h]
      · simpa only [ha, ha'] using Alike.error

end

/-- Patterns that are the same when bare mean the same. -/
theorem meaning_alike (m : Modes) {node node' : Ast} (h : node'.bare = node.bare) :
    Alike Eq (m.meaning node') (m.meaning node) := by
  have hleft := meaning_bare m node'
  have hright := meaning_bare m node
  rw [h] at hleft
  rcases hleft.cases with ⟨a, _, ha, ha', rfl⟩ | ⟨_, _, ha, ha'⟩
  · rcases hright.cases with ⟨b, _, hb, hb', rfl⟩ | ⟨_, _, hb, _⟩
    · rw [ha', hb']
      exact .ok (Except.ok.inj (ha.symm.trans hb))
    · rw [ha] at hb
      cases hb
  · rcases hright.cases with ⟨b, _, hb, _⟩ | ⟨_, _, _, hb'⟩
    · rw [ha] at hb
      cases hb
    · rw [ha', hb']
      exact .error

end StyleLookup.Pattern
