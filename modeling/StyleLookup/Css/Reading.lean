import StyleLookup.Css.Fault
import StyleLookup.Css.Item
import StyleLookup.Css.Stylesheet
import StyleLookup.Text.Blank
import StyleLookup.Text.Pieces

/-!
# Reading stylesheets

The items of a text become the rules of a stylesheet. A rule without selectors is dropped after
its body is checked. The first fault ends the reading.
-/

namespace StyleLookup.Css

open StyleLookup.Text Component

/-! ## Pieces of text -/

/--
The text of components without their comments. Of a block that has a comment right behind it only
the opening is kept.
-/
def textWithoutComments : List Component → List Char
  | [] => []
  | .token t :: cs =>
      if t.kind == .comment then textWithoutComments cs else t.text ++ textWithoutComments cs
  | .block opening body closing :: cs =>
      if (cs.head?.any isComment) then opening.text ++ textWithoutComments cs
      else text (.block opening body closing) ++ textWithoutComments cs

/-- The text of components as it is stored: without comments, and trimmed. -/
def storedText (cs : List Component) : List Char := trim (textWithoutComments cs)

/-- The selectors of a prelude; pieces that are empty do not count. -/
def selectorsOf (prelude : List Component) : List String :=
  let pieces := (cutWhere (fun c => c.kind == .comma) prelude).map storedText
  (pieces.filter (fun s => !s.isEmpty)).map String.ofList

/-! ## Bodies -/

/--
Reads what follows the name of a declaration: a colon, with layout before it, and the value. The
value runs to the next semicolon, which is left. A token in place of the colon is faulted where
the layout starts, a missing colon where it ends.
-/
def valueAfterName (cs : List Component) : Except Fault (List Char × List Component) :=
  let gap := cs.takeWhile isLayout
  match cs.dropWhile isLayout with
  | [] => .error ⟨(textOf gap).length, .unexpectedEnd⟩
  | c :: rest =>
      if c.kind == .colon then
        .ok (storedText (rest.takeWhile (fun c => !c.isSemicolon)),
          rest.dropWhile (fun c => !c.isSemicolon))
      else if c.isSemicolon then .error ⟨(textOf gap).length, .unexpectedEnd⟩
      else .error ⟨0, .unexpectedToken c.kind⟩

/-- The declarations come after the value, so they are fewer components than before it. -/
theorem length_valueAfterName {cs rest : List Component} {value : List Char}
    (h : valueAfterName cs = .ok (value, rest)) : rest.length < cs.length := by
  have gap := (List.dropWhile_suffix (l := cs) isLayout).length_le
  unfold valueAfterName at h
  dsimp only at h
  split at h
  · cases h
  · rename_i c tail heq
    rw [heq] at gap
    split at h
    · injection h with h
      injection h with _ h
      have := (List.dropWhile_suffix (l := tail) (fun c => !c.isSemicolon)).length_le
      rw [h] at this
      simp only [List.length_cons] at gap
      omega
    · split at h <;> cases h

/-- Reads the declarations of a body. -/
def declarationsOf : List Component → Except Fault (List Declaration)
  | [] => .ok []
  | c :: cs =>
      let width := c.text.length
      if c.isLayout || c.isSemicolon then shifted width (declarationsOf cs)
      else
        match c.kind with
        | .ident name =>
            match _h : valueAfterName cs with
            | .error fault => .error (fault.shift width)
            | .ok (value, rest) =>
                let width := width + ((textOf cs).length - (textOf rest).length)
                (shifted width (declarationsOf rest)).map
                  (⟨String.ofList name, String.ofList value⟩ :: ·)
        | .atKeyword name => .error ⟨width, .invalidAtRule name⟩
        | kind => .error ⟨0, .unexpectedToken kind⟩
termination_by cs => cs.length
decreasing_by
  · simp
  · have := length_valueAfterName _h
    simp only [List.length_cons]
    omega

/-! ## Rules -/

/-- Whether a prelude starts like the declaration of a custom property. -/
def startsCustomProperty (prelude : List Component) : Bool :=
  match prelude with
  | c :: cs =>
      match c.kind, cs.dropWhile isLayout with
      | .ident ('-' :: '-' :: _), next :: _ => next.kind == .colon
      | _, _ => false
  | [] => false

/-- Reads a rule: none is stored if no selector is left. -/
def ruleOf (prelude : List Component) (block : Option Block) :
    Except Fault (Option Rule) :=
  if startsCustomProperty prelude then .error ⟨0, .invalidRule⟩
  else
    match block with
    | none => .error ⟨(textOf prelude).length, .unexpectedEnd⟩
    | some b =>
        let start := (textOf prelude).length + b.opening.text.length
        (shifted start (declarationsOf b.body)).map fun declarations =>
          let selectors := selectorsOf prelude
          if selectors.isEmpty then none else some ⟨selectors, declarations⟩

/-- The rule of an item; only a rule can have one. -/
def Item.rule? : Item → Except Fault (Option Rule)
  | .rule prelude body => ruleOf prelude body
  | _ => .ok none

/-- The rules of items, up to the first fault. -/
def rulesOf : List Item → Except Fault (List Rule)
  | [] => .ok []
  | i :: is =>
      match i.rule? with
      | .error fault => .error fault
      | .ok found => (shifted i.text.length (rulesOf is)).map (found.toList ++ ·)

/-- Reads the rules of a text. -/
def readRules (text : List Char) : Except Fault (List Rule) :=
  rulesOf (Item.ofComponents (Component.ofText text))

/-- Reads a stylesheet; `source` names the text. -/
def Stylesheet.parse (text source : String) : Except ParseError Stylesheet :=
  match readRules text.toList with
  | .ok rules => .ok ⟨source, rules⟩
  | .error fault => .error (fault.inText source text.toList)

end StyleLookup.Css
