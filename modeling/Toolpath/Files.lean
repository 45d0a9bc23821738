/-!
# Files by their paths

Files stand in one tree of directories, and a program works in one of them. A path is followed
name by name; what stands in its way, or at its end in place of a text, is a fault with a
message of its own.
-/

namespace Toolpath

/-- A file with its bytes, or a directory with its named entries. -/
inductive FileTree where
  /-- A file. -/
  | file (bytes : ByteArray)
  /-- A directory. -/
  | directory (entries : List (String × FileTree))

/-- Files as a program sees them: one tree, and the directory that the program works in. -/
structure Files where
  /-- The whole tree. -/
  root : FileTree
  /-- Names that lead from the root to the working directory. -/
  workingDirectory : List String

/-- Why a text cannot be read from a file. -/
inductive ReadFault where
  /-- No path can have this character in it. -/
  | nulInPath
  /-- Nothing has this path. -/
  | notFound
  /-- The path is that of a directory. -/
  | isDirectory
  /-- The path goes on behind a file. -/
  | notDirectory
  /-- The bytes of the file are no text. -/
  | notText
  deriving DecidableEq, Repr

/-- Message of a reading fault. -/
def ReadFault.message : ReadFault → String
  | nulInPath => "file name contained an unexpected NUL byte"
  | notFound => "No such file or directory (os error 2)"
  | isDirectory => "Is a directory (os error 21)"
  | notDirectory => "Not a directory (os error 20)"
  | notText => "stream did not contain valid UTF-8"

namespace FileTree

/-- Follow names from a place in a tree, whose directories above are given from the nearest
on. One dot stays in a directory, two dots lead to the one above; above the root is the root.
Nothing can be followed behind a file. -/
def follow (above : List FileTree) (place : FileTree) :
    List String → Except ReadFault (List FileTree × FileTree)
  | [] => .ok (above, place)
  | name :: names =>
    match place with
    | .file _ => .error .notDirectory
    | .directory entries =>
      if name = "" ∨ name = "." then follow above place names
      else if name = ".." then
        match above with
        | [] => follow [] place names
        | parent :: rest => follow rest parent names
      else
        match entries.lookup name with
        | some next => follow (place :: above) next names
        | none => .error .notFound

end FileTree

namespace Files

/-- What a path leads to. A path from the root begins with a slash; any other begins in the
working directory. The empty path leads nowhere. -/
def find (files : Files) (path : String) : Except ReadFault FileTree := do
  if path.toList.contains '\x00' then throw .nulInPath
  if path = "" then throw .notFound
  let names := path.splitOn "/"
  let start := if path.toList.head? = some '/' then [] else files.workingDirectory
  let (above, place) ← FileTree.follow [] files.root start
  return (← FileTree.follow above place names).2

/-- Text of the file with a path. -/
def readText (files : Files) (path : String) : Except ReadFault String := do
  match ← files.find path with
  | .directory _ => throw .isDirectory
  | .file bytes =>
    match String.fromUTF8? bytes with
    | some text => return text
    | none => throw .notText

end Files

end Toolpath
