import Chip8.Interpreter.Fault

/-!
The operations. An operation is a computation that changes the processor bit by bit and may stop
with a fault; what it changed before it stopped stays changed. The program counter already points
behind the instruction when its operation starts.
-/

namespace Chip8.Interpreter

/-- A computation on the processor. A fault ends it, and keeps what was changed until then. -/
abbrev Action := ExceptT Fault (StateM Interpreter)

/-- The outcome of a computation and the state that it leaves. -/
def Action.run (a : Action α) (m : Interpreter) : Except Fault α × Interpreter :=
  StateT.run (ExceptT.run a) m

/-- Runs a memory operation, whose faults become faults of the processor. -/
def onMemory (r : Except MemoryFault α) : Except Fault α := r.mapError Fault.memory

/-- Goes on with a result, or stops with its fault. -/
def require (r : Except Fault α) : Action α := ExceptT.mk (pure r)

/-- A number as a byte. -/
def byte? (n : Int) : Except Fault UInt8 :=
  if 0 ≤ n ∧ n < 256 then .ok (byteOf n) else .error .notByte

/-- Puts a number into a register; only a byte fits. -/
def putReg (x : Fin 16) (n : Int) : Action Unit := do
  let b ← require (byte? n)
  modify (·.setReg x b)

/-! ### Flow of control -/

/-- Puts an address on the stack. -/
def push (address : Int) : Action Unit := do
  let r := (← get).registers
  if h : r.sp < 16 then
    modify fun m =>
      { m with registers := { r with stack := r.stack.set r.sp address, sp := r.sp + 1 } }
  else throw (.stackOverflow (address - 2))

/-- Takes an address from the stack. The slot keeps it. -/
def pop : Action Int := do
  let r := (← get).registers
  if r.sp = 0 then throw (.stackUnderflow (r.pc - 2))
  else
    modify fun m => { m with registers := { r with sp := r.sp - 1 } }
    match r.stack[r.sp - 1]? with
    | some address => pure address
    | none => throw .stackIndex

/-- Goes on at an address. -/
def jumpTo (address : Int) : Action Unit := modify (·.setPc address)

/-- Skips the next instruction on a condition. -/
def skipIf (condition : Bool) : Action Unit := if condition then modify skip else pure ()

/-- Whether the key that a register names is down. -/
def keyFor (x : Fin 16) : Action Bool := do
  let m ← get
  if h : (m.reg x).toNat < 16 then pure m.keys[(m.reg x).toNat]
  else throw (.invalidKey x (m.reg x))

/-- The least key that is down. -/
def firstKey? (m : Interpreter) : Option Nat := m.keys.toList.findIdx? (· == true)

/-! ### Arithmetic -/

/-- Puts the low byte of a result into a register and then the flag into VF, so that the flag
stays in VF. -/
def putWithFlag (x : Fin 16) (result : Int) (flag : Nat) : Action Unit := do
  putReg x (result % 256)
  putReg flagRegister flag

/-- Puts a difference into a register; the flag says that nothing was borrowed. -/
def subtract (x : Fin 16) (a b : Nat) : Action Unit :=
  putWithFlag x ((a : Int) - b) (if a < b then 0 else 1)

/-- Draws a random byte. -/
def drawByte (hw : Hardware) : Action Nat :=
  modifyGet fun m => ((hw.random m.drawn).toNat, { m with drawn := m.drawn + 1 })

/-! ### Sprites -/

/-- The set bits of a row of a sprite, as columns from the left. -/
def litColumns (row : UInt8) : List Nat :=
  (List.range 8).filter fun c => row.toNat.testBit (7 - c)

/-- The set bits of a sprite as pairs of row and column. -/
def spriteCells (rows : List UInt8) : List (Nat × Nat) :=
  rows.zipIdx.flatMap fun (bits, r) => (litColumns bits).map fun c => (r, c)

/-- The pixel of a sprite cell; a sprite wraps around both edges of the screen. -/
def pixelOf (originX originY : Nat) (cell : Nat × Nat) : Fin (screenWidth * screenHeight) :=
  ⟨(originX + cell.2) % screenWidth + screenWidth * ((originY + cell.1) % screenHeight), by
    simp only [screenWidth, screenHeight]
    omega⟩

/-- Inverts a pixel, and remembers if it was lit. -/
def toggle (s : Screen × Bool) (k : Fin (screenWidth * screenHeight)) : Screen × Bool :=
  (s.1.set k (!s.1[k]), s.2 || s.1[k])

/-- The screen with a sprite drawn on it by inverting pixels, and whether a lit one went dark. -/
def overlay (screen : Screen) (originX originY : Nat) (rows : List UInt8) : Screen × Bool :=
  ((spriteCells rows).map (pixelOf originX originY)).foldl toggle (screen, false)

/-- Draws a sprite; VF says whether a lit pixel went dark. -/
def drawSprite (originX originY : Nat) (rows : List UInt8) : Action Unit := do
  let (screen, collision) := overlay (← get).screen originX originY rows
  modify fun m => { m with screen }
  putReg flagRegister (if collision then 1 else 0)

/-! ### Memory -/

/-- The bytes at the index. -/
def readAtIndex (count : Nat) : Action (List UInt8) := do
  let m ← get
  require (onMemory (m.memory.read m.registers.i count))

/-- Writes bytes at the index. -/
def writeAtIndex (data : List Int) : Action Unit := do
  let m ← get
  let memory ← require (onMemory (m.memory.write m.registers.i data))
  modify fun m => { m with memory }

/-- The three decimal digits of a byte. -/
def decimalDigits (b : UInt8) : List Int :=
  [b.toNat / 100, b.toNat / 10 % 10, b.toNat % 10]

/-- The registers from V0 to the given one. -/
def firstRegisters (m : Interpreter) (x : Fin 16) : List Int :=
  (m.registers.v.toList.take (x + 1)).map fun b => (b.toNat : Int)

/-- Puts bytes into the registers from V0 on. -/
def setFirstRegisters (m : Interpreter) (data : List UInt8) : Interpreter :=
  { m with registers := { m.registers with v := Memory.put m.registers.v 0 data } }

/-! ### All operations -/

/-- Runs an operation with the operands of a word. -/
def exec (hw : Hardware) (op : Operation) (w : Word) : Action Unit := do
  let m ← get
  let vx := (m.reg w.x).toNat
  let vy := (m.reg w.y).toNat
  let nn := w.nn.toNat
  match op with
  | .nop => pure ()
  | .clearScreen => set { m with screen := Screen.dark }
  | .ret => jumpTo (← pop)
  | .jump => jumpTo w.nnn
  | .call => push m.registers.pc; jumpTo w.nnn
  | .jumpOffset => jumpTo ((m.reg offsetRegister).toNat + w.nnn)
  | .skipEqual => skipIf (vx == nn)
  | .skipNotEqual => skipIf (vx != nn)
  | .skipSame => skipIf (vx == vy)
  | .skipDifferent => skipIf (vx != vy)
  | .skipPressed => skipIf (← keyFor w.x)
  | .skipReleased => skipIf (!(← keyFor w.x))
  | .load => putReg w.x nn
  | .add => putReg w.x ((vx + nn : Int) % 256)
  | .copy => putReg w.x vy
  | .or => putReg w.x (vx ||| vy : Nat)
  | .and => putReg w.x (vx &&& vy : Nat)
  | .xor => putReg w.x (vx ^^^ vy : Nat)
  | .addRegister => putWithFlag w.x (vx + vy) (if 255 < vx + vy then 1 else 0)
  | .subtract => subtract w.x vx vy
  | .subtractFrom => subtract w.x vy vx
  | .shiftRight => putWithFlag w.x (vx / 2 : Nat) (vx % 2)
  | .shiftLeft => putWithFlag w.x (vx * 2 : Nat) (vx / 128 % 2)
  | .random => putReg w.x ((← drawByte hw) &&& nn : Nat)
  | .loadIndex => set (m.setIndex w.nnn)
  | .addIndex => set (m.setIndex ((m.registers.i + vx) % 0x10000))
  | .glyphAddress => set (m.setIndex (Font.start + vx * Font.glyphRows))
  | .decimal => writeAtIndex (decimalDigits (m.reg w.x))
  | .storeRegisters => writeAtIndex (m.firstRegisters w.x)
  | .loadRegisters =>
    let values ← readAtIndex (w.x + 1)
    modify (·.setFirstRegisters values)
  | .readDelay => putReg w.x m.registers.delay
  | .setDelay => set { m with registers := { m.registers with delay := vx } }
  | .setSound => set { m with registers := { m.registers with sound := vx } }
  | .awaitKey =>
    match m.firstKey? with
    | some k => putReg w.x k
    | none => jumpTo ((m.registers.pc - 2) % 0x10000)
  | .draw => drawSprite vx vy (← readAtIndex w.n)

end Chip8.Interpreter
