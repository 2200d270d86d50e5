import StyleLookup.Text.Pieces

/-!
# Paths

A path is kept as it was written. Slashes cut it into pieces, of which those that are empty or a
dot lead nowhere; only a dot at the very start of a relative path counts as a step of its own.

The parent of a path is what is left without its last step. The text in front of that step stays as
it is, except that pieces which lead nowhere are removed from its end.
-/

namespace StyleLookup.Files

open Text

/-- A path as it is written. -/
structure Path where
  chars : List Char
deriving Repr, DecidableEq

namespace Path

/-- The path that a text writes. -/
def ofText (text : String) : Path := ⟨text.toList⟩

/-- The text of a path. -/
def text (p : Path) : String := String.ofList p.chars

/-- Whether a path starts at the root. -/
def isAbsolute (p : Path) : Bool := p.chars.head? == some '/'

/-- A path inside a directory. An absolute path stays what it is. -/
def join (base p : Path) : Path :=
  if p.isAbsolute then p
  else if base.chars = [] ∨ base.chars.getLast? = some '/' then ⟨base.chars ++ p.chars⟩
  else ⟨base.chars ++ '/' :: p.chars⟩

/-- What stands before the pieces: the root, the dot that starts a relative path, or nothing. -/
def lead (p : Path) : List Char :=
  match p.chars with
  | '/' :: _ => ['/']
  | ['.'] => ['.']
  | '.' :: '/' :: _ => ['.']
  | _ => []

/-- What follows the lead. -/
def body (p : Path) : List Char := p.chars.drop p.lead.length

/-- Whether a piece leads nowhere. -/
def isIdle (piece : List Char) : Bool := piece == [] || piece == ['.']

/-- The path without its last step, if it has one. -/
def parent? (p : Path) : Option Path :=
  match (cutAt '/' p.body).reverse.dropWhile isIdle with
  | [] => if p.lead = ['.'] then some ⟨[]⟩ else none
  | _ :: pieces => some ⟨p.lead ++ joinWith ['/'] (pieces.dropWhile isIdle).reverse⟩

theorem lead_append_body (p : Path) : p.lead ++ p.body = p.chars := by
  unfold body lead
  split <;> simp_all

/-- A parent is shorter than the path. -/
theorem length_parent? {p q : Path} (h : p.parent? = some q) : q.chars.length < p.chars.length := by
  have split := congrArg List.length p.lead_append_body
  rw [List.length_append] at split
  unfold parent? at h
  split at h
  · split at h
    · rename_i dot
      injection h with h
      have : p.lead.length = 1 := by simp [dot]
      simp only [← h, List.length_nil]
      omega
    · cases h
  · rename_i piece pieces heq
    injection h with h
    have busy : isIdle piece = false := by
      have := List.head?_dropWhile_not isIdle (cutAt '/' p.body).reverse
      rw [heq] at this
      simpa using this
    have nonempty : 0 < piece.length := by
      cases piece with
      | nil => simp [isIdle] at busy
      | cons c cs => simp
    have shorter := length_joinWith_reverse ['/'] heq
    rw [joinWith_cutAt] at shorter
    rw [← h, List.length_append]
    have := length_joinWith_reverse_dropWhile ['/'] isIdle pieces
    omega

/-- The path itself, its parent, the parent of that, and so on. -/
def ancestors (p : Path) : List Path :=
  match _h : p.parent? with
  | none => [p]
  | some q => p :: q.ancestors
termination_by p.chars.length
decreasing_by exact length_parent? _h

end Path

end StyleLookup.Files
