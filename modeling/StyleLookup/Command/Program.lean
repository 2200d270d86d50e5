import StyleLookup.Command.Request
import StyleLookup.Files.Import
import StyleLookup.Literal.Script
import StyleLookup.Literal.Serializer

/-!
# The command-line program

What the program prints and the status that it ends with, given its arguments, the working
directory and the files. A failure prints nothing but its message.
-/

namespace StyleLookup.Command

open Files

/-- How a run of the program ends. -/
structure Outcome where
  status : Nat
  output : String
  errors : String
deriving Repr, DecidableEq

/-- The version of the program. -/
def versionText : String := "0.1.0"

/-- A run that fails with a message. -/
def Outcome.failure (message : String) : Outcome := ⟨1, "", "Error: " ++ message ++ "\n"⟩

/-- A run that prints a line. -/
def Outcome.line (text : String) : Outcome := ⟨0, text ++ "\n", ""⟩

/-- The text of a resolution. -/
def Emit.write (r : Resolution) : Emit → String
  | .js => r.script
  | .json => r.data .indented

/-- The directory for specifiers: that of the caller, or the working directory. -/
def baseFor (workingDirectory : Path) (caller : Option String) : Path :=
  match caller with
  | none => workingDirectory
  | some caller => baseOf (Path.ofText caller) workingDirectory

/-- Loads a stylesheet for a caller. -/
def stylesheetOf (files : FileSystem) (workingDirectory : Path) (specifier : String)
    (caller : Option String) : Except LoadFault Css.Stylesheet :=
  match locate files (baseFor workingDirectory caller) specifier with
  | .error fault => .error fault
  | .ok path => load files path

/-- Resolves a matcher and prints the literal. -/
def resolveOutcome [Platform] (sheet : Except LoadFault Css.Stylesheet) (matcher : Matcher)
    (format : Format) (emit : Emit) : Outcome :=
  match sheet with
  | .error fault => .failure fault.message
  | .ok sheet =>
      match sheet.resolve format matcher with
      | .error problem => .failure problem.message
      | .ok resolution => .line (emit.write resolution)

/-- Prints the selectors of a stylesheet, one on a line, and a summary. -/
def checkOutcome (sheet : Except LoadFault Css.Stylesheet) : Outcome :=
  match sheet with
  | .error fault => .failure fault.message
  | .ok sheet =>
      ⟨0, String.join (sheet.selectors.map (· ++ "\n")),
        "OK: " ++ sheet.source ++ " (" ++ toString sheet.rules.length ++ " rules)\n"⟩

/-- What a request comes to. -/
def Request.outcome [Platform] (files : FileSystem) (workingDirectory : Path) : Request → Outcome
  | .resolve specifier caller matcher format emit =>
      resolveOutcome (stylesheetOf files workingDirectory specifier caller) matcher format emit
  | .check specifier caller => checkOutcome (stylesheetOf files workingDirectory specifier caller)
  | .version => .line ("styleimport " ++ versionText)

/-- What a request may have to look up in the file system. -/
def Request.target? (workingDirectory : Path) : Request → Option Target
  | .resolve specifier caller _ _ _ | .check specifier caller =>
      some (Target.ofSpecifier (baseFor workingDirectory caller) specifier)
  | .version => none

/-- A run of the program. -/
def run [Platform] (files : FileSystem) (workingDirectory : Path) (arguments : List String) :
    Outcome :=
  match Request.ofArguments arguments with
  | .error fault => ⟨2, "", fault.message ++ "\n"⟩
  | .ok request => request.outcome files workingDirectory

end StyleLookup.Command
