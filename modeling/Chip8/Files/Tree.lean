import Chip8.Files.System

/-!
A tree of files and directories. Names are bytes, as the system keeps them, so two texts that are
written as the same bytes name the same file. Putting a file into the tree makes the directories on
the way, also one that the path leaves again by two dots. Looking up a path follows its parts one
by one from the working directory or the root: a part that is missing ends the search, and so does
a file that is not the last part. The working directory, those above it and the root are always
there.
-/

namespace Chip8

/-- The name of a file or directory. -/
abbrev FileName := List UInt8

namespace FileName

/-- The slash, which stands for the root. -/
def root : FileName := [47]

/-- Two dots, which lead back. -/
def up : FileName := [46, 46]

end FileName

/-- The parts of a path as names. -/
def Path.names (p : Path) : List FileName := p.parts.map Text.bytes

/-- A place in a tree: the names that lead to it, the last one first. A place above the working
directory is told by two dots, and one that is told from the root has a slash as its first name. -/
abbrev Place := List FileName

namespace Place

/-- Where the parts of a path begin. -/
def origin (p : Path) : Place := if p.root = [] then [] else [.root]

/-- The place one name on. Two dots lead back, beyond the working directory too; the root is above
itself. -/
def step (here : Place) (name : FileName) : Place :=
  if name ≠ .up then name :: here
  else
    match here with
    | [] => [.up]
    | last :: above =>
      if last = .up then .up :: here else if here = [.root] then here else above

/-- The place that names lead to. -/
def follow (here : Place) (names : List FileName) : Place := names.foldl step here

/-- The places that names pass on the way to their end. -/
def onTheWay (here : Place) : List FileName → List Place
  | [] => []
  | name :: rest => here :: onTheWay (here.step name) rest

theorem follow_append (here : Place) (a b : List FileName) :
    follow here (a ++ b) = follow (follow here a) b := by
  simp [follow, List.foldl_append]

theorem length_onTheWay (here : Place) (names : List FileName) :
    (onTheWay here names).length = names.length := by
  induction names generalizing here with
  | nil => rfl
  | cons name rest ih => simp [onTheWay, ih]

/-- The place as one row of bytes. A name holds no slash, so places differ if their bytes do. -/
def key (p : Place) : ByteArray := (FileName.root.intercalate p.reverse).toByteArray

end Place

/-- Files and directories by the keys of their places; of two files at one place the first
counts. -/
structure FileTree where
  files : List (ByteArray × List UInt8) := []
  directories : List ByteArray := []

namespace FileTree

/-- Puts a file at a path, in front of one that is there already, and makes the directories on the
way. -/
def insert (t : FileTree) (path : Path) (data : List UInt8) : FileTree :=
  let start := Place.origin path
  { files := ((Place.follow start path.names).key, data) :: t.files
    directories := (Place.onTheWay start path.names).map Place.key ++ t.directories }

/-- The tree of files given by their paths as written. -/
def ofList (files : List (Text × List UInt8)) : FileTree :=
  files.foldl (fun t (path, data) => t.insert (Path.ofText path) data) {}

/-- The longest name of a file or directory, in bytes. -/
def longestName : Nat := 255

/-- The longest path, in bytes. -/
def longestPath : Nat := 4095

/-- Whether there is a directory at a place. -/
def hasDirectory (t : FileTree) (place : Place) : Bool :=
  place.all (· = .up) || place == [.root] || t.directories.contains place.key

/-- Follows names from a directory. -/
def walk (t : FileTree) (here : Place) : List FileName → Found
  | [] => .directory
  | name :: rest =>
    let there := here.step name
    if longestName < name.length then .tooLong
    else
      match t.files.lookup there.key with
      | some data => if rest = [] then .file data else .notDirectory
      | none => if t.hasDirectory there then t.walk there rest else .missing

/-- What is found at a path. -/
def find (t : FileTree) (p : Path) : Found :=
  match p.toText.unwritable? with
  | some u => .unwritable u
  | none =>
    let written := p.toText.bytes
    if written.contains 0 then .invalid
    else if longestPath < written.length then .tooLong
    else t.walk (Place.origin p) p.names

/-- The file system that holds the files of a tree. -/
def toFileSystem (t : FileTree) : FileSystem := ⟨t.find⟩

end FileTree

end Chip8
