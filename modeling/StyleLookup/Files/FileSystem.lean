import StyleLookup.Files.Path

/-!
# File systems

What can be asked about files: whether a path names one, and what text it holds. Asking has no
effect, so a file system is a pair of functions. Reading may fail, for reasons that the system
words itself.
-/

namespace StyleLookup.Files

/-- Why a file cannot be read. -/
inductive ReadFault where
  | notFound
  /-- A file stands where a directory is needed. -/
  | notDirectory
  | isDirectory
  | nameTooLong
  | notUtf8
  | nulInName
  | other (text : String)
deriving Repr, DecidableEq

/-- The wording of a fault of reading. -/
def ReadFault.message : ReadFault → String
  | .notFound => "No such file or directory (os error 2)"
  | .notDirectory => "Not a directory (os error 20)"
  | .isDirectory => "Is a directory (os error 21)"
  | .nameTooLong => "File name too long (os error 36)"
  | .notUtf8 => "stream did not contain valid UTF-8"
  | .nulInName => "file name contained an unexpected NUL byte"
  | .other text => text

/-- What can be asked about files. -/
structure FileSystem where
  isFile : Path → Bool
  read : Path → Except ReadFault String

end StyleLookup.Files
