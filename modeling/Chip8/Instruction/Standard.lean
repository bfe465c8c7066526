import Chip8.Instruction.Table

/-!
The standard instruction set: thirty-five rows. Masks and values are written out, so that they
can be computed with; they are what the patterns read as, and no two rows of a group overlap.
-/

namespace Chip8

/-- The rows of the standard table. -/
def Instruction.standard : List Instruction := [
  ⟨⟨"0000", 0xFFFF, 0x0000⟩, "NOP", .known .nop⟩,
  ⟨⟨"00E0", 0xFFFF, 0x00E0⟩, "CLS", .known .clearScreen⟩,
  ⟨⟨"00EE", 0xFFFF, 0x00EE⟩, "RET", .known .ret⟩,
  ⟨⟨"1NNN", 0xF000, 0x1000⟩, "JP", .known .jump⟩,
  ⟨⟨"2NNN", 0xF000, 0x2000⟩, "CALL", .known .call⟩,
  ⟨⟨"3XNN", 0xF000, 0x3000⟩, "SE", .known .skipEqual⟩,
  ⟨⟨"4XNN", 0xF000, 0x4000⟩, "SNE", .known .skipNotEqual⟩,
  ⟨⟨"5XY0", 0xF00F, 0x5000⟩, "SE", .known .skipSame⟩,
  ⟨⟨"6XNN", 0xF000, 0x6000⟩, "LD", .known .load⟩,
  ⟨⟨"7XNN", 0xF000, 0x7000⟩, "ADD", .known .add⟩,
  ⟨⟨"8XY0", 0xF00F, 0x8000⟩, "LD", .known .copy⟩,
  ⟨⟨"8XY1", 0xF00F, 0x8001⟩, "OR", .known .or⟩,
  ⟨⟨"8XY2", 0xF00F, 0x8002⟩, "AND", .known .and⟩,
  ⟨⟨"8XY3", 0xF00F, 0x8003⟩, "XOR", .known .xor⟩,
  ⟨⟨"8XY4", 0xF00F, 0x8004⟩, "ADD", .known .addRegister⟩,
  ⟨⟨"8XY5", 0xF00F, 0x8005⟩, "SUB", .known .subtract⟩,
  ⟨⟨"8XY6", 0xF00F, 0x8006⟩, "SHR", .known .shiftRight⟩,
  ⟨⟨"8XY7", 0xF00F, 0x8007⟩, "SUBN", .known .subtractFrom⟩,
  ⟨⟨"8XYE", 0xF00F, 0x800E⟩, "SHL", .known .shiftLeft⟩,
  ⟨⟨"9XY0", 0xF00F, 0x9000⟩, "SNE", .known .skipDifferent⟩,
  ⟨⟨"ANNN", 0xF000, 0xA000⟩, "LD I", .known .loadIndex⟩,
  ⟨⟨"BNNN", 0xF000, 0xB000⟩, "JP V0", .known .jumpOffset⟩,
  ⟨⟨"CXNN", 0xF000, 0xC000⟩, "RND", .known .random⟩,
  ⟨⟨"DXYN", 0xF000, 0xD000⟩, "DRW", .known .draw⟩,
  ⟨⟨"EX9E", 0xF0FF, 0xE09E⟩, "SKP", .known .skipPressed⟩,
  ⟨⟨"EXA1", 0xF0FF, 0xE0A1⟩, "SKNP", .known .skipReleased⟩,
  ⟨⟨"FX07", 0xF0FF, 0xF007⟩, "LD DT", .known .readDelay⟩,
  ⟨⟨"FX0A", 0xF0FF, 0xF00A⟩, "LD K", .known .awaitKey⟩,
  ⟨⟨"FX15", 0xF0FF, 0xF015⟩, "LD DT", .known .setDelay⟩,
  ⟨⟨"FX18", 0xF0FF, 0xF018⟩, "LD ST", .known .setSound⟩,
  ⟨⟨"FX1E", 0xF0FF, 0xF01E⟩, "ADD I", .known .addIndex⟩,
  ⟨⟨"FX29", 0xF0FF, 0xF029⟩, "LD F", .known .glyphAddress⟩,
  ⟨⟨"FX33", 0xF0FF, 0xF033⟩, "LD B", .known .decimal⟩,
  ⟨⟨"FX55", 0xF0FF, 0xF055⟩, "LD [I]", .known .storeRegisters⟩,
  ⟨⟨"FX65", 0xF0FF, 0xF065⟩, "LD Vx", .known .loadRegisters⟩]

/-- The standard table. -/
def Table.standard : Table :=
  ⟨Vector.ofFn fun g => Instruction.standard.filter (·.pattern.group == g)⟩

theorem Instruction.parse_standard : ∀ i ∈ Instruction.standard,
    (Pattern.parse i.pattern.text).toOption = some i.pattern := by
  decide +kernel

theorem Table.toOption_ofList_standard :
    (Table.ofList Instruction.standard).toOption = some Table.standard := by
  decide +kernel

theorem Table.rows_standard (g : Fin 16) :
    Table.standard.rows g = Instruction.standard.filter (·.pattern.group == g) := by
  simp [Table.rows, Table.standard, entry_eq_getElem]

end Chip8
