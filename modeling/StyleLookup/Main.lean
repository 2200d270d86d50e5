import StyleLookup.Command.Program

/-!
# The program

The outermost layer: it looks up the files that the arguments name, runs the program on what it
found, and prints the outcome.
-/

namespace StyleLookup.Main

open Files Command

/-- What was found at a path: whether it is a file, and its text. -/
structure Finding where
  path : Path
  isFile : Bool
  text : Except ReadFault String

/-- The fault of reading that an error of the system stands for. -/
def faultOf : IO.Error → ReadFault
  | .noFileOrDirectory _ _ _ => .notFound
  | error => .other (toString error)

/-- Whether a path leads to a file. -/
def isFileAt (path : Path) : IO Bool := do
  try
    let place ← IO.FS.realPath path.text
    return (← place.metadata).type == .file
  catch _ => return false

/-- The text of the file that a path leads to. -/
def textAt (path : Path) : IO (Except ReadFault String) := do
  try
    let content ← IO.FS.readBinFile path.text
    match String.fromUTF8? content with
    | some text => return .ok text
    | none => return .error .notUtf8
  catch error => return .error (faultOf error)

/-- Looks at a path. -/
def findingAt (path : Path) : IO Finding := return ⟨path, ← isFileAt path, ← textAt path⟩

/-- What was found, as a file system. -/
def fileSystemOf (findings : List Finding) : FileSystem where
  isFile path := findings.any fun f => f.path == path && f.isFile
  read path := ((findings.find? fun f => f.path == path).map Finding.text).getD (.error .notFound)

/-- The paths that arguments may have to look up. -/
def pathsOf (workingDirectory : Path) (arguments : List String) : List Path :=
  match Request.ofArguments arguments with
  | .error _ => []
  | .ok request =>
      match request.target? workingDirectory with
      | none => []
      | some (.path path) => [path]
      | some (.package paths) => paths

/-- Looks up files, runs the program and prints. The result is the status. -/
def perform (arguments : List String) : IO UInt32 := do
  let workingDirectory := Path.ofText (← IO.currentDir).toString
  let findings ← (pathsOf workingDirectory arguments).mapM findingAt
  let outcome := run (fileSystemOf findings) workingDirectory arguments
  IO.print outcome.output
  IO.eprint outcome.errors
  return UInt32.ofNat outcome.status

end StyleLookup.Main

def main (arguments : List String) : IO UInt32 := StyleLookup.Main.perform arguments
