import Chip8.Files.Path
import Chip8.Text.Bytes

/-!
What a program sees of a file system: for every path a file, a directory, or a reason why there is
nothing.
-/

namespace Chip8

/-- What is found at a path. -/
inductive Found where
  | file (data : List UInt8)
  | directory
  | missing
  | notDirectory
  /-- A path with a zero character names nothing. -/
  | invalid
  /-- A path that cannot be written as bytes is not looked up. -/
  | unwritable (what : Text.Unwritable)
  /-- A path that is too long, or has a name that is too long, is not looked up. -/
  | tooLong
  deriving DecidableEq, Repr

/-- Why a file cannot be opened. -/
inductive OpenError where
  | missing (path : Path)
  | notDirectory (path : Path)
  | isDirectory (path : Path)
  | tooLong (path : Path)
  | unwritable (what : Text.Unwritable)
  | invalid
  deriving DecidableEq, Repr

/-- The message of an open error. -/
def OpenError.message : OpenError → String
  | .missing p => s!"[Errno 2] No such file or directory: {Text.quote p.toText}"
  | .notDirectory p => s!"[Errno 20] Not a directory: {Text.quote p.toText}"
  | .isDirectory p => s!"[Errno 21] Is a directory: {Text.quote p.toText}"
  | .tooLong p => s!"[Errno 36] File name too long: {Text.quote p.toText}"
  | .unwritable u => u.message
  | .invalid => "embedded null byte"

/-- A file system: what is found at each path. -/
structure FileSystem where
  find : Path → Found

namespace FileSystem

/-- Whether there is a file or a directory at a path. -/
def exists? (fs : FileSystem) (p : Path) : Except OpenError Bool :=
  match fs.find p with
  | .file _ | .directory => .ok true
  | .missing | .notDirectory | .invalid | .unwritable _ => .ok false
  | .tooLong => .error (.tooLong p)

/-- The data of the file at a path. -/
def read (fs : FileSystem) (p : Path) : Except OpenError (List UInt8) :=
  match fs.find p with
  | .file data => .ok data
  | .directory => .error (.isDirectory p)
  | .missing => .error (.missing p)
  | .notDirectory => .error (.notDirectory p)
  | .tooLong => .error (.tooLong p)
  | .unwritable u => .error (.unwritable u)
  | .invalid => .error .invalid

theorem exists?_of_read {fs : FileSystem} {p : Path} {data : List UInt8}
    (h : fs.read p = .ok data) : fs.exists? p = .ok true := by
  unfold read at h
  unfold exists?
  split at h <;> simp_all

end FileSystem

end Chip8
