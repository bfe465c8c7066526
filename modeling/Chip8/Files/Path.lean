import Chip8.Text

/-!
Paths of files. Empty parts and single dots say nothing and are dropped; two dots stay. A path
begins at the root if it begins with a slash; exactly two slashes at the start are kept.
-/

namespace Chip8

/-- A path: its root, which is empty, `/` or `//`, and its parts. -/
structure Path where
  root : Text
  parts : List Text
  deriving DecidableEq, Repr

namespace Path

/-- The parts that a text names. -/
def partsOf (s : Text) : List Text :=
  (s.splitOn (.char '/')).filter fun part => part ≠ [] ∧ part ≠ [.char '.']

/-- The path that a text writes. -/
def ofText (s : Text) : Path :=
  let root : Text := match (s.takeWhile (· == .char '/')).length with
    | 0 => []
    | 2 => "//"
    | _ => "/"
  ⟨root, partsOf s⟩

/-- The path as a text; the empty path is a dot. -/
def toText (p : Path) : Text :=
  if p.root = [] ∧ p.parts = [] then "." else p.root ++ Text.join "/" p.parts

/-- The last part, empty for a path that has none. -/
def name (p : Path) : Text := p.parts.getLast?.getD []

/-- A name without the extension. A dot at the start or at the end of the name begins none. -/
def stemOf (name : Text) : Text :=
  let tail := (name.reverse.takeWhile (· != .char '.')).reverse
  let stem := name.take (name.length - tail.length - 1)
  if stem.isEmpty || tail.isEmpty || tail.length == name.length then name else stem

/-- The last part without its extension. -/
def stem (p : Path) : Text := stemOf p.name

end Path

end Chip8
