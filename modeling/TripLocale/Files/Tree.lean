/-
A tree of directories and files.

A tree is given by directories and files at their locations; the directories around those are there too.
A path is followed piece by piece from the working directory or from the root, every piece but the last
naming a directory that is there. Two dots lead to the directory around, at the root to the root.
-/
import TripLocale.Files.Path
import TripLocale.Text.Utf8

namespace TripLocale

open TripLocale.Text (Bytes)

/-- The names on the way from the root. -/
abbrev Location := List String

/-- The directories and files that a tree was made with. -/
structure FileTree where
  directories : List Location
  files : List (Location × Bytes)

namespace FileTree

/-- Whether there is a directory. -/
def isDirectory (t : FileTree) (l : Location) : Bool :=
  l.isEmpty || t.directories.any l.isPrefixOf ||
    t.files.any fun f => l.isPrefixOf f.1 && l.length < f.1.length

/-- The content of a regular file. Of two contents the one written later counts. -/
def file? (t : FileTree) (l : Location) : Option Bytes :=
  (t.files.reverse.find? (·.1 == l)).map (·.2)

/-- The directory that one piece leads to. -/
def enter? (t : FileTree) (l : Location) (piece : String) : Option Location :=
  if Path.isIdle piece then some l
  else if piece == ".." then some l.dropLast
  else if t.isDirectory (l ++ [piece]) then some (l ++ [piece])
  else none

/-- The content of the regular file that a path leads to from the working directory `here`. -/
def content? (t : FileTree) (here : Location) (p : Path) : Option Bytes :=
  match p.pieces.getLast? with
  | none => none
  | some name => do
    let l ← p.pieces.dropLast.foldlM t.enter? (if p.absolute then [] else here)
    t.file? (l ++ [name])

end FileTree

end TripLocale
