import Chip8.Interpreter.Exec
import Chip8.Log

/-!
Running the processor from outside: one instruction, one step of the timers, and what a host may
do in between. A tick that fails returns the fault and the state it leaves.
-/

namespace Chip8.Interpreter

/-- The word that the program counter points at. -/
def fetch (m : Interpreter) : Except Fault Word := onMemory (m.memory.loadWord m.registers.pc)

/-- The row for the word that the program counter points at. -/
def fetchRow (hw : Hardware) (m : Interpreter) : Except Fault (Word × Instruction) := do
  let w ← m.fetch
  match hw.table.decode w with
  | some row => pure (w, row)
  | none => throw (.unimplemented w m.registers.pc)

/-- Fetches, decodes and runs one instruction. The program counter moves on first. It goes back
for a word without a row, and for a fault that the operation reports. A missing routine and any
other fault come too late for that. -/
def step (hw : Hardware) : Action Unit := do
  let m ← get
  let pc := m.registers.pc
  let w ← require m.fetch
  modify skip
  match hw.table.decode w with
  | none =>
    jumpTo pc
    throw (.unimplemented w pc)
  | some row =>
    match row.routine with
    | .missing name => throw (.missingRoutine name)
    | .known op =>
      try exec hw op w
      catch f =>
        if f.isReported then jumpTo pc
        throw f

/-- Runs one instruction. -/
def tick (hw : Hardware) (m : Interpreter) : Except Fault Unit × Interpreter := (step hw).run m

/-- Counts both timers down by one step, down to zero. -/
def tickTimers (m : Interpreter) : Interpreter :=
  let r := m.registers
  { m with registers :=
    { r with
      delay := if 0 < r.delay then r.delay - 1 else r.delay
      sound := if 0 < r.sound then r.sound - 1 else r.sound } }

/-- Copies a program to where programs start. -/
def load (m : Interpreter) (program : List UInt8) : Except Fault Interpreter :=
  if maxProgramSize < program.length then .error (.programTooLong program.length)
  else do
    let memory ← onMemory (m.memory.write programStart (program.map fun b => (b.toNat : Int)))
    pure { m with memory }

/-- Copies bytes into memory. -/
def poke (m : Interpreter) (address : Int) (data : List UInt8) : Except Fault Interpreter := do
  let memory ← onMemory (m.memory.write address (data.map fun b => (b.toNat : Int)))
  pure { m with memory }

/-- Presses or releases the key of an index. -/
def setKeyAt (m : Interpreter) (index : Int) (pressed : Bool) : Except Fault Interpreter :=
  match nibble? index with
  | some k => .ok (m.setKey k pressed)
  | none => .error (.keyIndex index)

/-- Sets a register as a debugger does: the index counts from the end if it is negative, and the
value has to be a byte. -/
def assignRegister (m : Interpreter) (index value : Int) : Except Fault Interpreter := do
  if !Number.fits64 index then throw .hugeRegister
  let b ← byte? value
  let k := if index < 0 then index + 16 else index
  match nibble? k with
  | some x => pure (m.setReg x b)
  | none => throw .registerIndex

/-! ### What is logged -/

/-- Logs the instruction that the next tick runs. -/
def logTick (hw : Hardware) (m : Interpreter) : Logging Unit := do
  if (← get).categories.isOn "cpu" then
    if let .ok (w, row) := m.fetchRow hw then
      say "cpu" fun _ =>
        s!"pc={Number.lowerHex 3 m.registers.pc} opcode={Number.lowerHex 4 w.val} " ++ row.mnemonic

/-- Logs the end of a tone before the timers count down. -/
def logTimers (m : Interpreter) : Logging Unit :=
  if m.registers.sound = 1 then say "timer" fun _ => "sound timer expired" else pure ()

/-- Runs one instruction and logs it. -/
def loggedTick (hw : Hardware) (m : Interpreter) : Logging (Except Fault Unit × Interpreter) := do
  m.logTick hw
  pure (m.tick hw)

/-- Counts the timers down and logs the end of a tone. -/
def loggedTimers (m : Interpreter) : Logging Interpreter := do
  m.logTimers
  pure m.tickTimers

/-- How a row of ticks ended: the fault that stopped it, the ticks completed, and the state. -/
structure Ticks where
  outcome : Except Fault Unit
  completed : Nat
  after : Interpreter

/-- Runs up to `count` instructions and stops at the first fault. -/
def ticks (hw : Hardware) (m : Interpreter) (count : Nat) : Logging Ticks :=
  go count 0 m
where
  /-- Goes on after `completed` instructions. -/
  go : Nat → Nat → Interpreter → Logging Ticks
  | 0, completed, m => pure ⟨.ok (), completed, m⟩
  | count + 1, completed, m => do
    match ← m.loggedTick hw with
    | (.ok (), after) => go count (completed + 1) after
    | (.error f, after) => pure ⟨.error f, completed, after⟩

end Chip8.Interpreter
