/-!
# Pieces

Cutting a list at separators, and joining pieces with one. The two undo each other: a text is its
pieces with the separator between them.
-/

namespace StyleLookup.Text

/-- Puts a separator between neighbours. -/
def joinWith (separator : List Char) : List (List Char) → List Char
  | [] => []
  | [piece] => piece
  | piece :: pieces => piece ++ separator ++ joinWith separator pieces

/-- The stretches between separators; there is one more of them than separators. -/
def cutWhere {α : Type} (isSeparator : α → Bool) : List α → List (List α)
  | [] => [[]]
  | c :: cs =>
      match cutWhere isSeparator cs with
      | [] => [[c]]
      | piece :: pieces =>
          if isSeparator c then [] :: piece :: pieces else (c :: piece) :: pieces

/-- The stretches of a text between occurrences of a character. -/
def cutAt (separator : Char) (text : List Char) : List (List Char) :=
  cutWhere (· == separator) text

theorem cutWhere_ne_nil {α : Type} (isSeparator : α → Bool) (s : List α) :
    cutWhere isSeparator s ≠ [] := by
  cases s with
  | nil => simp [cutWhere]
  | cons c cs =>
    unfold cutWhere
    split
    · simp
    · split <;> simp

theorem joinWith_cutAt (separator : Char) (s : List Char) :
    joinWith [separator] (cutAt separator s) = s := by
  unfold cutAt
  induction s with
  | nil => rfl
  | cons c cs ih =>
    unfold cutWhere
    cases h : cutWhere (· == separator) cs with
    | nil => exact absurd h (cutWhere_ne_nil _ cs)
    | cons piece pieces =>
      rw [h] at ih
      by_cases hc : c = separator
      · simp [joinWith, hc, ih]
      · cases pieces with
        | nil => simpa [joinWith, hc] using ih
        | cons next pieces => simpa [joinWith, hc] using ih

theorem length_joinWith_append (separator : List Char) (a b : List (List Char)) :
    (joinWith separator a).length + (joinWith separator b).length
      ≤ (joinWith separator (a ++ b)).length := by
  induction a with
  | nil => simp [joinWith]
  | cons piece pieces ih =>
    cases pieces with
    | nil =>
      cases b with
      | nil => simp [joinWith]
      | cons first rest => simp [joinWith]
    | cons next pieces => simp [joinWith] at ih ⊢; omega

/-- Without the last pieces of a text, the rest joined is shorter by the first of those at least. -/
theorem length_joinWith_reverse (separator : List Char) {ps rest : List (List Char)}
    {piece : List Char} {isDropped : List Char → Bool}
    (h : ps.reverse.dropWhile isDropped = piece :: rest) :
    (joinWith separator rest.reverse).length + piece.length ≤ (joinWith separator ps).length := by
  have whole : rest.reverse ++ (piece :: (ps.reverse.takeWhile isDropped).reverse) = ps := by
    have := congrArg List.reverse
      (List.takeWhile_append_dropWhile (p := isDropped) (l := ps.reverse))
    rw [h] at this
    simpa using this
  have outer := length_joinWith_append separator rest.reverse
    (piece :: (ps.reverse.takeWhile isDropped).reverse)
  have inner := length_joinWith_append separator [piece] (ps.reverse.takeWhile isDropped).reverse
  rw [whole] at outer
  simp only [List.cons_append, List.nil_append, joinWith] at inner
  omega

theorem length_joinWith_reverse_dropWhile (separator : List Char) (isDropped : List Char → Bool)
    (ps : List (List Char)) :
    (joinWith separator (ps.dropWhile isDropped).reverse).length
      ≤ (joinWith separator ps.reverse).length := by
  have whole := congrArg List.reverse (List.takeWhile_append_dropWhile (p := isDropped) (l := ps))
  rw [List.reverse_append] at whole
  have := length_joinWith_append separator (ps.dropWhile isDropped).reverse
    (ps.takeWhile isDropped).reverse
  rw [whole] at this
  omega

example : cutAt '/' ['a', '/', '/', 'b'] = [['a'], [], ['b']] := by decide

end StyleLookup.Text
