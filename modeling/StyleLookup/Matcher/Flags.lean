import StyleLookup.Pattern.Compiled

/-!
# Flags of a pattern matcher

A pattern comes with a text of letters, each of which sets a flag. No letter may occur twice.
Letters are read from the left, and the first that cannot be accepted is blamed.

Some flags bear on how the pattern is compiled, one on how many rules are wanted, and two are
accepted without effect: matching knows Unicode anyway, and reports no places.
-/

namespace StyleLookup.Matcher

open Pattern

/-- What the letters of a text of flags ask for. -/
structure Flags where
  global : Bool
  ignoreCase : Bool
  multiLine : Bool
  dotAll : Bool
  unicode : Bool
  sticky : Bool
  hasIndices : Bool
deriving Repr, DecidableEq

/-- Why a letter is refused. -/
inductive FlagFault where
  | unknown (letter : Char)
  | repeated (letter : Char)
deriving Repr, DecidableEq

/-- The wording of the fault of a letter. -/
def FlagFault.reason : FlagFault → String
  | .unknown letter => "unknown flag '" ++ letter.toString ++ "'"
  | .repeated letter => "repeated flag '" ++ letter.toString ++ "'"

namespace Flags

/-- No flag is set. -/
def none : Flags := ⟨false, false, false, false, false, false, false⟩

/-- Sets the flag of a letter. -/
def insert (f : Flags) (letter : Char) : Except FlagFault Flags :=
  match letter with
  | 'g' => fresh f.global { f with global := true }
  | 'i' => fresh f.ignoreCase { f with ignoreCase := true }
  | 'm' => fresh f.multiLine { f with multiLine := true }
  | 's' => fresh f.dotAll { f with dotAll := true }
  | 'u' => fresh f.unicode { f with unicode := true }
  | 'y' => fresh f.sticky { f with sticky := true }
  | 'd' => fresh f.hasIndices { f with hasIndices := true }
  | _ => .error (.unknown letter)
where
  /-- A flag that is set already is not set again. -/
  fresh (isSet : Bool) (after : Flags) : Except FlagFault Flags :=
    if isSet then .error (.repeated letter) else .ok after

/-- Sets the flags of letters, from the left. -/
def insertAll (f : Flags) : List Char → Except FlagFault Flags
  | [] => .ok f
  | letter :: letters =>
      match f.insert letter with
      | .error fault => .error fault
      | .ok f => f.insertAll letters

/-- Reads a text of flags. -/
def read (letters : List Char) : Except FlagFault Flags := none.insertAll letters

/-- The modes that a pattern starts with. -/
def modes (f : Flags) : Modes :=
  { ignoreCase := f.ignoreCase, multiLine := f.multiLine, dotAll := f.dotAll,
    unicode := true, crlf := false, swapGreed := false }

/--
The pattern that is compiled. A sticky pattern is put, as text, into a group that starts at the
start of the text to be tested.
-/
def source (f : Flags) (pattern : List Char) : List Char :=
  if f.sticky then ['\\', 'A', '(', '?', ':'] ++ pattern ++ [')'] else pattern

/-- Compiles a pattern under the flags. -/
def compile [Platform] (f : Flags) (pattern : List Char) : Except Refusal (Regex Atom) :=
  Pattern.compile f.modes (f.source pattern)

end Flags

end StyleLookup.Matcher
