import StyleLookup.Files.FileSystem
import StyleLookup.Css.Reading

/-!
# Imports

An import names a stylesheet relative to the file that imports it. An absolute specifier is the
path itself. One that starts with a dot is a path from the directory of the importing file. Any
other names a file in a package: it is searched in the `node_modules` of that directory and of the
directories above it, the nearest first.
-/

namespace StyleLookup.Files

/-- Why a stylesheet cannot be loaded. -/
inductive LoadFault where
  | packageNotFound (specifier : String) (base : Path)
  | unreadable (path : Path) (fault : ReadFault)
  | faulty (error : Css.ParseError)
deriving Repr, DecidableEq

/-- The wording of a failure to load. -/
def LoadFault.message : LoadFault → String
  | .packageNotFound specifier base =>
      "cannot find package stylesheet '" ++ specifier ++ "' from " ++ base.text
  | .unreadable path fault => "failed to read " ++ path.text ++ ": " ++ fault.message
  | .faulty error => error.message

/-- The directory of an importing file, which may be given relative to a working directory. -/
def baseOf (caller workingDirectory : Path) : Path :=
  let directory := caller.parent?.getD ⟨[]⟩
  if caller.isAbsolute then directory else workingDirectory.join directory

/-- The directory where packages are kept. -/
def packagesName : Path := ⟨['n', 'o', 'd', 'e', '_', 'm', 'o', 'd', 'u', 'l', 'e', 's']⟩

/-- The paths where a file of a package may be, the nearest first. -/
def packagePaths (base : Path) (specifier : Path) : List Path :=
  base.ancestors.map fun directory => (directory.join packagesName).join specifier

/-- What a specifier names. -/
inductive Target where
  /-- A path, whether or not there is a file. -/
  | path (path : Path)
  /-- The first of these paths where there is a file. -/
  | package (paths : List Path)
deriving Repr, DecidableEq

/-- What a specifier names for a directory. -/
def Target.ofSpecifier (base : Path) (specifier : String) : Target :=
  let path := Path.ofText specifier
  if path.isAbsolute then .path path
  else if path.chars.head? = some '.' then .path (base.join path)
  else .package (packagePaths base path)

/-- The path of the stylesheet that a specifier names. -/
def locate (files : FileSystem) (base : Path) (specifier : String) : Except LoadFault Path :=
  match Target.ofSpecifier base specifier with
  | .path path => .ok path
  | .package paths =>
      match paths.find? files.isFile with
      | some found => .ok found
      | none => .error (.packageNotFound specifier base)

/-- Reads the stylesheet at a path; the path is its name. -/
def load (files : FileSystem) (path : Path) : Except LoadFault Css.Stylesheet :=
  match files.read path with
  | .error fault => .error (.unreadable path fault)
  | .ok text => (Css.Stylesheet.parse text path.text).mapError .faulty

/-- Reads the stylesheet that a specifier names in an importing file. -/
def loadImport (files : FileSystem) (caller : Path) (specifier : String)
    (workingDirectory : Path) : Except LoadFault Css.Stylesheet :=
  match locate files (baseOf caller workingDirectory) specifier with
  | .error fault => .error fault
  | .ok path => load files path

end StyleLookup.Files
