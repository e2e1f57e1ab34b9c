import CwebHighlight.Text.Cut

/-!
# Files

What a program can see of the files around it: for every path, the bytes of a file, or the reason
why there are none. `FileTree` describes a directory by the files and directories in it, and
`FileTree.lookup` finds paths there, seen from inside the directory.

**Paths.** Empty parts and `.` stay where they are and need a directory, `..` goes one directory
up, and any other part goes into a directory. Nothing is known about what lies above the tree or
at absolute paths but that the directories above it exist.
-/

namespace CwebHighlight

/-- Why a file cannot be read. -/
inductive ReadError where
  | notFound
  | isDirectory
  | notDirectory
  | nameTooLong
  | other (message : String)
  deriving DecidableEq, Repr

def ReadError.message : ReadError → String
  | .notFound => "No such file or directory (os error 2)"
  | .isDirectory => "Is a directory (os error 21)"
  | .notDirectory => "Not a directory (os error 20)"
  | .nameTooLong => "File name too long (os error 36)"
  | .other message => message

/-- The files that a program can see, by path. -/
abbrev Files := String → Except ReadError (List UInt8)

/-- The parts of a path between its slashes. -/
def pathParts (path : List Char) : List (List Char) := cutAt (· = '/') path

/-! ## Trees -/

inductive FileEntry where
  | file (bytes : List UInt8)
  | directory
  deriving DecidableEq, Repr

/-- A directory, by the paths of the files and directories in it. -/
structure FileTree where
  entries : List (List (List Char) × FileEntry)

namespace FileTree

/-- The entry of a path, and what the paths below it tell: that it is a directory. -/
def at? (t : FileTree) (path : List (List Char)) : Option FileEntry :=
  match t.entries.find? (·.1 = path) with
  | some e => some e.2
  | none =>
    if path.isEmpty || t.entries.any (fun e => path.isPrefixOf e.1) then some .directory else none

/-- A place that a path leads to: somewhere in the tree, or a directory that is not part of it. -/
inductive Position where
  | inside (path : List (List Char))
  | outside
  deriving DecidableEq, Repr

def Position.isDirectory (t : FileTree) : Position → Bool
  | .inside path => t.at? path = some .directory
  | .outside => true

/-- Where a part of a path leads from a directory. -/
def enter (t : FileTree) (place : Position) (part : List Char) : Except ReadError Position :=
  match place with
  | .outside => if part ∈ [[], ['.'], ['.', '.']] then .ok .outside else .error .notFound
  | .inside path =>
    if part ∈ [[], ['.']] then .ok place
    else if part = ['.', '.'] then .ok (if path.isEmpty then .outside else .inside path.dropLast)
    else if 255 < (String.ofList part).utf8ByteSize then .error .nameTooLong
    else if (t.at? (path ++ [part])).isSome then .ok (.inside (path ++ [part]))
    else .error .notFound

/-- Follow the parts of a path. -/
def follow (t : FileTree) (place : Position) : List (List Char) → Except ReadError Position
  | [] => .ok place
  | part :: rest =>
    if place.isDirectory t then do t.follow (← t.enter place part) rest
    else .error .notDirectory

def lookup (t : FileTree) : Files := fun path => do
  if path.isEmpty then throw .notFound
  let start : Position := if path.toList.head? = some '/' then .outside else .inside []
  match ← t.follow start (pathParts path.toList) with
  | .inside path =>
    match t.at? path with
    | some (.file bytes) => return bytes
    | some .directory => throw .isDirectory
    | none => throw .notFound
  | .outside => throw .isDirectory

end FileTree

end CwebHighlight
