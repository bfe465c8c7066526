import Chip8.Number.Range

/-!
The built-in font: a glyph of five rows for each hexadecimal digit, four pixels wide in the high
half of a byte. The font lies at the bottom of memory, one glyph after another.
-/

namespace Chip8.Font

/-- The address of the first glyph. -/
def start : Nat := 0

/-- The rows of a glyph. -/
def glyphRows : Nat := 5

/-- The glyphs of the digits 0 to F. -/
def glyphs : List (List UInt8) := [
  [0xF0, 0x90, 0x90, 0x90, 0xF0],
  [0x20, 0x60, 0x20, 0x20, 0x70],
  [0xF0, 0x10, 0xF0, 0x80, 0xF0],
  [0xF0, 0x10, 0xF0, 0x10, 0xF0],
  [0x90, 0x90, 0xF0, 0x10, 0x10],
  [0xF0, 0x80, 0xF0, 0x10, 0xF0],
  [0xF0, 0x80, 0xF0, 0x90, 0xF0],
  [0xF0, 0x10, 0x20, 0x40, 0x40],
  [0xF0, 0x90, 0xF0, 0x90, 0xF0],
  [0xF0, 0x90, 0xF0, 0x10, 0xF0],
  [0xF0, 0x90, 0xF0, 0x90, 0x90],
  [0xE0, 0x90, 0xE0, 0x90, 0xE0],
  [0xF0, 0x80, 0x80, 0x80, 0xF0],
  [0xE0, 0x90, 0x90, 0x90, 0xE0],
  [0xF0, 0x80, 0xF0, 0x80, 0xF0],
  [0xF0, 0x80, 0xF0, 0x80, 0x80]]

/-- The bytes of the font. -/
def bytes : List UInt8 := glyphs.flatten

/-- A number that is no hexadecimal digit. -/
structure NoGlyph where
  index : Int
  deriving DecidableEq, Repr

/-- The message for a number without a glyph. -/
def NoGlyph.message (e : NoGlyph) : String :=
  Number.showing [e.index] s!"glyph index out of range: {e.index}"

/-- The address of the glyph for the low four bits of a number. -/
def glyphAddress (digit : Int) : Nat := start + (digit % 16).toNat * glyphRows

/-- The rows of the glyph for a digit. -/
def glyph (digit : Int) : Except NoGlyph (List UInt8) :=
  match if digit < 0 then none else glyphs[digit.toNat]? with
  | some rows => .ok rows
  | none => .error ⟨digit⟩

theorem length_bytes : bytes.length = 80 := rfl

theorem length_of_mem_glyphs : ∀ rows ∈ glyphs, rows.length = glyphRows := by decide

end Chip8.Font
