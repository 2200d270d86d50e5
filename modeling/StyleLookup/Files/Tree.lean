import StyleLookup.Files.FileSystem

/-!
# File trees

A file system that is given by its files. Directories are there if they are listed, or if
something lies below them. There are no links, so a step up always leads to the directory that the
walk came from.

A path is walked piece by piece. Each piece but the last must lead to a directory, and a piece that
leads nowhere needs a directory too.
-/

namespace StyleLookup.Files

open Text

/-- A name in a directory. -/
abbrev Name := List Char

/-- What lies at a place of a tree. -/
inductive Entry where
  | file (content : ByteArray)
  | directory

/-- Entries by the names that lead to them from the root, and the directory of relative paths. -/
structure FileTree where
  entries : List (List Name × Entry)
  current : List Name

/-- The longest name that a directory can hold, in bytes. -/
def nameLimit : Nat := 255

/-- The longest path that can be walked, in bytes. -/
def pathLimit : Nat := 4095

/-- The number of bytes that a text takes. -/
def byteLength (s : List Char) : Nat := s.foldr (fun c n => c.utf8Size + n) 0

namespace FileTree

/-- What lies at a place. -/
def entryAt (t : FileTree) (place : List Name) : Option Entry :=
  match t.entries.find? (fun e => e.1 == place) with
  | some e => some e.2
  | none =>
      if place.isEmpty || t.entries.any (fun e => place.isPrefixOf e.1) then some .directory
      else none

/-- Walks from a directory along pieces of a path. -/
def walk (t : FileTree) (place : List Name) : List Name → Except ReadFault Entry
  | [] => .ok .directory
  | piece :: pieces =>
      if Path.isIdle piece then t.walk place pieces
      else if piece = ['.', '.'] then t.walk place.dropLast pieces
      else if nameLimit < byteLength piece then .error .nameTooLong
      else
        match t.entryAt (place ++ [piece]) with
        | none => .error .notFound
        | some .directory => t.walk (place ++ [piece]) pieces
        | some (.file content) =>
            if pieces.isEmpty then .ok (.file content) else .error .notDirectory

/-- Walks a path. -/
def entryOf (t : FileTree) (p : Path) : Except ReadFault Entry :=
  if p.chars.contains '\x00' then .error .nulInName
  else if p.chars.isEmpty then .error .notFound
  else if pathLimit < byteLength p.chars then .error .nameTooLong
  else t.walk (if p.isAbsolute then [] else t.current) (cutAt '/' p.chars)

/-- Whether a path leads to a file. -/
def isFile (t : FileTree) (p : Path) : Bool :=
  match t.entryOf p with
  | .ok (.file _) => true
  | _ => false

/-- The text of the file that a path leads to. -/
def read (t : FileTree) (p : Path) : Except ReadFault String :=
  match t.entryOf p with
  | .error fault => .error fault
  | .ok .directory => .error .isDirectory
  | .ok (.file content) =>
      match String.fromUTF8? content with
      | some text => .ok text
      | none => .error .notUtf8

/-- A tree as a file system. -/
def fileSystem (t : FileTree) : FileSystem := ⟨t.isFile, t.read⟩

end FileTree

end StyleLookup.Files
