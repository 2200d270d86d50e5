import StyleLookup.Css.Component

/-!
# Top-level items

At its top level a stylesheet is a row of items: rules, at-rules, and what may stand between
them. The items keep every component: put in a row they are what was cut
(`flatMap_components_ofComponents`).
-/

namespace StyleLookup.Css

/-- A block in curly brackets. -/
structure Block where
  opening : Token
  body : List Component
  closing : Option Token

/-- A piece of a stylesheet at its top level. -/
inductive Item where
  /-- White space, a comment, or a mark of embedding, between other items. -/
  | filler (c : Component)
  /-- An at-rule: through its first semicolon or block, or to the end of the text. -/
  | atRule (parts : List Component)
  /-- Any other rule; the block is missing if the text ends before it. -/
  | rule (prelude : List Component) (block : Option Block)

namespace Item

/-- The components of an item. -/
def components : Item → List Component
  | .filler c => [c]
  | .atRule parts => parts
  | .rule prelude none => prelude
  | .rule prelude (some b) => prelude ++ [.block b.opening b.body b.closing]

/-- The text of an item. -/
def text (i : Item) : List Char := Component.textOf i.components

/-- Whether a component may stand between items without being part of one. -/
def isFiller (c : Component) : Bool :=
  c.isLayout || c.kind == .markupOpen || c.kind == .markupClose

/-- Whether a component ends an at-rule: a semicolon, or a block in curly brackets. -/
def endsAtRule (c : Component) : Bool := c.isSemicolon || c.isCurly

/-- Whether a component is an at-keyword. -/
def isAtKeyword (c : Component) : Bool :=
  match c.kind with
  | .atKeyword _ => true
  | _ => false

/-- The components before the first that passes the test, and the others. -/
def before (test : Component → Bool) (cs : List Component) : List Component × List Component :=
  (cs.takeWhile (fun c => !test c), cs.dropWhile (fun c => !test c))

theorem length_before (test : Component → Bool) (cs : List Component) :
    (before test cs).2.length ≤ cs.length :=
  (List.dropWhile_suffix _).length_le

theorem before_append (test : Component → Bool) (cs : List Component) :
    (before test cs).1 ++ (before test cs).2 = cs :=
  List.takeWhile_append_dropWhile

/-- Cuts components into items. -/
def ofComponents : List Component → List Item
  | [] => []
  | c :: cs =>
      if isFiller c then .filler c :: ofComponents cs
      else if isAtKeyword c then
        match _h : before endsAtRule cs with
        | (parts, []) => [.atRule (c :: parts)]
        | (parts, last :: rest) => .atRule (c :: parts ++ [last]) :: ofComponents rest
      else
        match _h : before Component.isCurly (c :: cs) with
        | (prelude, .block opening body closing :: rest) =>
            .rule prelude (some ⟨opening, body, closing⟩) :: ofComponents rest
        | (prelude, rest) => [.rule (prelude ++ rest) none]
termination_by cs => cs.length
decreasing_by
  · simp
  · have := length_before endsAtRule cs
    rw [_h] at this
    simp only [List.length_cons] at this ⊢
    omega
  · have := length_before Component.isCurly (c :: cs)
    rw [_h] at this
    simp only [List.length_cons] at this ⊢
    omega

theorem flatMap_components_ofComponents (cs : List Component) :
    (ofComponents cs).flatMap components = cs := by
  fun_induction ofComponents cs with
  | case1 => rfl
  | case2 c cs _ ih => simp [components, ih]
  | case3 c cs _ _ parts h =>
      have := before_append endsAtRule cs
      rw [h] at this
      simpa [components] using this
  | case4 c cs _ _ parts last rest h ih =>
      have := before_append endsAtRule cs
      rw [h] at this
      simpa [components, ih] using this
  | case5 c cs _ _ prelude opening body closing rest h ih =>
      have := before_append Component.isCurly (c :: cs)
      rw [h] at this
      simpa [components, ih] using this
  | case6 c cs _ _ prelude rest _ h =>
      have := before_append Component.isCurly (c :: cs)
      rw [h] at this
      simpa [components] using this

end Item

end StyleLookup.Css
