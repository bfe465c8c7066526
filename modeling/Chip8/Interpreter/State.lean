import Chip8.Font
import Chip8.Instruction.Standard
import Chip8.Memory
import Chip8.Nibble

/-!
The state of the processor: registers, stack, timers, memory, screen and keys, and how many random
bytes were drawn. The program counter, the index and the timers are plain integers: running a
program keeps them in their ranges, but a debugger may set them to anything. A return leaves its
stack slot as it is; the stack pointer alone says which slots count.
-/

namespace Chip8

/-- The memory of the processor: 4096 bytes from address zero. -/
def Region.main : Region := { start := 0, length := 4096 }

/-- The address where programs are loaded. -/
def programStart : Nat := 0x200

/-- The size of the longest program. -/
def maxProgramSize : Nat := Region.main.length - programStart

/-- The screen is 64 pixels wide. -/
abbrev screenWidth : Nat := 64

/-- The screen is 32 pixels high. -/
abbrev screenHeight : Nat := 32

/-- The pixels of the screen, row by row. -/
abbrev Screen := Vector Bool (screenWidth * screenHeight)

/-- A dark screen. -/
def Screen.dark : Screen := Vector.replicate _ false

/-- The registers, the stack and the timers. -/
structure Registers where
  pc : Int := programStart
  i : Int := 0
  sp : Nat := 0
  v : Vector UInt8 16 := Vector.replicate 16 0
  stack : Vector Int 16 := Vector.replicate 16 0
  delay : Int := 0
  sound : Int := 0
  deriving DecidableEq

/-- The part of a processor that never changes: its instruction table and its source of random
bytes. `random k` answers the k-th request for a number below 256, and nothing else is asked. -/
structure Hardware where
  table : Table := Table.standard
  random : Nat → UInt8 := fun _ => 0

/-- The state of a processor. -/
structure Interpreter where
  registers : Registers
  memory : Memory Region.main
  screen : Screen
  keys : Vector Bool 16
  drawn : Nat
  deriving DecidableEq

namespace Interpreter

/-- Puts the font at the bottom of memory. -/
def installFont (memory : Memory Region.main) : Memory Region.main :=
  ⟨Memory.put memory.bytes Font.start Font.bytes⟩

/-- The processor at power-on: zeros behind the font. -/
def initial : Interpreter where
  registers := {}
  memory := installFont (Memory.zeros Region.main)
  screen := Screen.dark
  keys := Vector.replicate 16 false
  drawn := 0

/-- Returns everything to power-on but the source of random bytes. -/
def reset (m : Interpreter) : Interpreter :=
  { m with
    registers := {}
    memory := installFont m.memory.clear
    screen := Screen.dark
    keys := Vector.replicate 16 false }

/-- The k-th byte of a source that repeats some numbers, each taken modulo 256. -/
def repeating (numbers : Array Int) (k : Nat) : UInt8 :=
  byteOf (numbers[k % numbers.size]?.getD 0)

/-- The register that takes flags. -/
def flagRegister : Fin 16 := ⟨15, by decide⟩

/-- The register that a jump with an offset adds. -/
def offsetRegister : Fin 16 := ⟨0, by decide⟩

/-- A register. -/
def reg (m : Interpreter) (x : Fin 16) : UInt8 := entry m.registers.v x

/-- Puts a byte into a register. -/
def setReg (m : Interpreter) (x : Fin 16) (b : UInt8) : Interpreter :=
  { m with registers := { m.registers with v := setEntry m.registers.v x b } }

/-- Sets the program counter. -/
def setPc (m : Interpreter) (pc : Int) : Interpreter :=
  { m with registers := { m.registers with pc } }

/-- Sets the index register. -/
def setIndex (m : Interpreter) (i : Int) : Interpreter :=
  { m with registers := { m.registers with i } }

/-- Moves the program counter two bytes on, within 16 bits. -/
def skip (m : Interpreter) : Interpreter := m.setPc ((m.registers.pc + 2) % 0x10000)

/-- Presses or releases a key. -/
def setKey (m : Interpreter) (k : Fin 16) (pressed : Bool) : Interpreter :=
  { m with keys := setEntry m.keys k pressed }

/-- Whether a tone is due. -/
def soundActive (m : Interpreter) : Bool := 0 < m.registers.sound

/-- The number of lit pixels. -/
def litCount (m : Interpreter) : Nat := m.screen.foldl (fun n lit => if lit then n + 1 else n) 0

/-- A reset undoes everything but the draws: old programs and stale stack slots go too. -/
theorem reset_eq (m : Interpreter) : m.reset = { initial with drawn := m.drawn } := by
  simp only [reset, initial, Memory.clear_eq_zeros]

end Interpreter

end Chip8
