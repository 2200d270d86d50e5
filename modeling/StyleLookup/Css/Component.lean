import StyleLookup.Css.Lexer

/-!
# Components

Tokens nest: a function or an opening bracket starts a block that runs to the matching closing
bracket. A component is a token outside of any block or a whole block. Inside a block only the
bracket that closes the innermost block matters; other closing brackets are plain tokens. Blocks
that are open at the end of the text end there.

No text is lost by nesting: `textOf_ofTokens`.
-/

namespace StyleLookup.Css

/-- A token, or a block with its contents; a block that the text's end closes has no closing. -/
inductive Component where
  | token (t : Token)
  | block (opening : Token) (body : List Component) (closing : Option Token)
deriving Repr

namespace Component

mutual

/-- The text of a component. -/
def text : Component → List Char
  | .token t => t.text
  | .block opening body closing =>
      opening.text ++ textOf body ++ (closing.map Token.text).getD []

/-- The text of components in a row. -/
def textOf : List Component → List Char
  | [] => []
  | c :: cs => text c ++ textOf cs

end

/-- The first token of a component. -/
def head : Component → Token
  | .token t => t
  | .block opening _ _ => opening

/-- The kind of a component's first token. -/
def kind (c : Component) : Kind := c.head.kind

/-- Whether a component is white space or a comment. -/
def isLayout (c : Component) : Bool := c.kind.isLayout

/-- Whether a component is a comment. -/
def isComment (c : Component) : Bool := c.kind == .comment

/-- Whether a component is a semicolon. -/
def isSemicolon (c : Component) : Bool := c.kind == .semicolon

/-- Whether a component is a block in curly brackets. -/
def isCurly (c : Component) : Bool := c.kind == .openCurly

theorem textOf_append (a b : List Component) : textOf (a ++ b) = textOf a ++ textOf b := by
  induction a with
  | nil => rfl
  | cons c cs ih => simp [textOf, ih]

end Component

/-! ## Nesting -/

/--
The state of nesting while tokens come in: the components of the innermost open block, last first,
and for each open block, innermost first, its opening token and the components before it.
-/
structure Nesting where
  items : List Component
  enclosing : List (Token × List Component)

namespace Nesting

/-- Nothing is read and no block is open. -/
def empty : Nesting := ⟨[], []⟩

/-- Takes a component that is complete. -/
def add (n : Nesting) (c : Component) : Nesting := ⟨c :: n.items, n.enclosing⟩

/-- Takes one token: it opens a block, closes the innermost one, or stands for itself. -/
def push (n : Nesting) (t : Token) : Nesting :=
  if t.kind.closer?.isSome then ⟨[], (t, n.items) :: n.enclosing⟩
  else
    match n.enclosing with
    | [] => n.add (.token t)
    | (opening, before) :: rest =>
        if opening.kind.closer? = some t.kind then
          ⟨.block opening n.items.reverse (some t) :: before, rest⟩
        else n.add (.token t)

/-- Closes all open blocks. -/
def finish (items : List Component) : List (Token × List Component) → List Component
  | [] => items.reverse
  | (opening, before) :: rest => finish (.block opening items.reverse none :: before) rest

/-- The text of all that was taken. -/
def text (items : List Component) : List (Token × List Component) → List Char
  | [] => Component.textOf items.reverse
  | (opening, before) :: rest =>
      text before rest ++ opening.text ++ Component.textOf items.reverse

theorem text_cons (c : Component) (items : List Component)
    (enclosing : List (Token × List Component)) :
    text (c :: items) enclosing = text items enclosing ++ c.text := by
  cases enclosing <;>
    simp [text, Component.textOf_append, Component.textOf]

theorem text_push (n : Nesting) (t : Token) :
    text (n.push t).items (n.push t).enclosing = text n.items n.enclosing ++ t.text := by
  unfold push
  split
  · simp [text, Component.textOf]
  · split
    · simp [add, text_cons, Component.text]
    · rename_i opening before rest h
      split
      · simp [text_cons, Component.text, h, text]
      · simp [add, text_cons, Component.text]

theorem textOf_finish (items : List Component) (enclosing : List (Token × List Component)) :
    Component.textOf (finish items enclosing) = text items enclosing := by
  induction enclosing generalizing items with
  | nil => rfl
  | cons entry rest ih =>
      obtain ⟨opening, before⟩ := entry
      simp [finish, ih, text_cons, text, Component.text]

end Nesting

/-- Nests tokens. -/
def Component.ofTokens (ts : List Token) : List Component :=
  let n := ts.foldl Nesting.push Nesting.empty
  Nesting.finish n.items n.enclosing

/-- The components of a text. -/
def Component.ofText (s : List Char) : List Component := ofTokens (tokenize s)

theorem Component.textOf_ofTokens (ts : List Token) :
    textOf (ofTokens ts) = ts.flatMap Token.text := by
  have key : ∀ (ts : List Token) (n : Nesting),
      Nesting.text (ts.foldl Nesting.push n).items (ts.foldl Nesting.push n).enclosing
        = Nesting.text n.items n.enclosing ++ ts.flatMap Token.text := by
    intro ts
    induction ts with
    | nil => simp
    | cons t ts ih =>
        intro n
        simp [ih, Nesting.text_push]
  simp [ofTokens, Nesting.textOf_finish, key, Nesting.empty, Nesting.text, textOf]

/-- The components of a text make up the text. -/
theorem Component.textOf_ofText (s : List Char) : textOf (ofText s) = s := by
  rw [ofText, textOf_ofTokens, flatMap_text_tokenize]

end StyleLookup.Css
