import Chip8.Instruction.Operation
import Chip8.Instruction.Pattern
import Chip8.Nibble

/-!
Instruction tables. The rows stand in sixteen groups by the leading nibble of their pattern, in
the order of registration. A row is refused if its pattern overlaps an earlier one of its group,
so at most one row matches a word and looking for it in one group is enough.
-/

namespace Chip8

/-- A row of an instruction table. -/
structure Instruction where
  pattern : Pattern
  mnemonic : Text
  routine : Routine
  deriving DecidableEq, Repr

namespace Instruction

/-- A row from its pattern, mnemonic and routine name as written. -/
def ofTexts (pattern mnemonic routine : Text) : Except PatternError Instruction := do
  pure ⟨← Pattern.parse pattern, mnemonic, Routine.ofName routine⟩

/-- Whether a row matches a word. -/
def covers (i : Instruction) (w : Word) : Bool := i.pattern.covers w.val

/-- The pattern and the mnemonic. -/
def title (i : Instruction) : Text := i.pattern.text ++ " " ++ i.mnemonic

end Instruction

/-- Why a table cannot be built. -/
inductive TableError where
  | pattern (error : PatternError)
  | overlap (row : Instruction) (earlier : Instruction)
  deriving DecidableEq, Repr

/-- The message of a table error. -/
def TableError.message : TableError → Text
  | .pattern e => e.message
  | .overlap row earlier =>
    "pattern " ++ row.pattern.text ++ " overlaps " ++ earlier.pattern.text ++ " (" ++
      earlier.mnemonic ++ ")"

/-- The rows of a table by group. -/
structure Table where
  groups : Vector (List Instruction) 16
  deriving DecidableEq

namespace Table

/-- The table without rows. -/
def empty : Table := ⟨Vector.replicate 16 []⟩

/-- The rows of a group. -/
def rows (t : Table) (g : Fin 16) : List Instruction := entry t.groups g

/-- Adds a row at the end of its group, without a check. -/
def insert (t : Table) (i : Instruction) : Table :=
  let g := i.pattern.group
  ⟨setEntry t.groups g (t.rows g ++ [i])⟩

/-- Adds a row unless it overlaps an earlier one of its group. -/
def register (t : Table) (i : Instruction) : Except TableError Table :=
  match (t.rows i.pattern.group).find? (·.pattern.overlaps i.pattern) with
  | some earlier => .error (.overlap i earlier)
  | none => .ok (t.insert i)

/-- Registers rows one after another. -/
def registerAll (t : Table) (is : List Instruction) : Except TableError Table :=
  is.foldlM register t

/-- The table of rows; the first overlap refuses it. -/
def ofList (is : List Instruction) : Except TableError Table := empty.registerAll is

/-- The table of rows as written. -/
def ofTexts (rows : List (Text × Text × Text)) : Except TableError Table := do
  let is ← (rows.mapM fun (p, m, r) => Instruction.ofTexts p m r).mapError TableError.pattern
  ofList is

/-- The row that matches a word. -/
def decode (t : Table) (w : Word) : Option Instruction :=
  (t.rows w.group).find? (·.covers w)

theorem rows_empty (g : Fin 16) : empty.rows g = [] := by
  simp [rows, empty]

theorem rows_insert (t : Table) (i : Instruction) (g : Fin 16) :
    (t.insert i).rows g = if i.pattern.group = g then t.rows g ++ [i] else t.rows g := by
  rw [rows, insert, entry_setEntry]
  split
  · rename_i h
    rw [h]
  · rfl

theorem covers_of_decode {t : Table} {w : Word} {i : Instruction} (h : t.decode w = some i) :
    i.covers w = true :=
  List.find?_some (p := fun i : Instruction => i.covers w) h

theorem mem_of_decode {t : Table} {w : Word} {i : Instruction} (h : t.decode w = some i) :
    i ∈ t.rows w.group :=
  List.mem_of_find?_eq_some h

end Table

end Chip8
