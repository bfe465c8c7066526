import Chip8.Proofs.Interpreter.Successor

/-!
What operations leave alone.

An operation sets the program counter and some of V0 to VF, and what it does besides is little:
twelve operations change another part of the processor, the rest none (`sideEffect`). So a part of
the processor other than those is the same after an operation, or is what the side effect makes of
it (`successor_eq`), and only a register that the operation names has another byte in it
(`mem_targets_of_reg_ne`).
-/

namespace Chip8.Interpreter

variable {hw : Hardware} {m : Interpreter} {op : Operation} {w : Word}

/-! ### Beyond the program counter and the registers -/

/-- The processor with another program counter and other bytes in V0 to VF. -/
def withLocals (m : Interpreter) (pc : Int) (v : Vector UInt8 16) : Interpreter :=
  { m with registers := { m.registers with pc, v } }

/-- What an operation does apart from the program counter and V0 to VF. -/
def sideEffect (m : Interpreter) (op : Operation) (w : Word) : Interpreter :=
  let r := m.registers
  let vx := m.reg w.x
  match op with
  | .clearScreen => { m with screen := Screen.dark }
  | .draw => { m with screen := (overlay m.screen vx.toNat (m.reg w.y).toNat (m.block w.n)).1 }
  | .ret => { m with registers := { r with sp := r.sp - 1 } }
  | .call =>
    { m with registers := { r with stack := r.stack.setIfInBounds r.sp r.pc, sp := r.sp + 1 } }
  | .random => { m with drawn := m.drawn + 1 }
  | .loadIndex => m.setIndex w.nnn
  | .addIndex => m.setIndex ((r.i + vx.toNat) % 0x10000)
  | .glyphAddress => m.setIndex (5 * vx.toNat)
  | .decimal => m.setBlock ((decimalDigits vx).map byteOf)
  | .storeRegisters => m.setBlock ((m.firstRegisters w.x).map byteOf)
  | .setDelay => { m with registers := { r with delay := vx.toNat } }
  | .setSound => { m with registers := { r with sound := vx.toNat } }
  | _ => m

/-- An operation comes to its side effect, a program counter, and bytes in the registers. -/
theorem successor_eq (m : Interpreter) (hw : Hardware) (op : Operation) (w : Word) :
    m.successor hw op w = (m.sideEffect op w).withLocals (m.successor hw op w).registers.pc
      (m.successor hw op w).registers.v := by
  have hskip (condition : Bool) : m.skipWhen condition =
      m.withLocals (m.skipWhen condition).registers.pc (m.skipWhen condition).registers.v := by
    cases condition <;> rfl
  cases op with
  | skipEqual | skipNotEqual | skipSame | skipDifferent | skipPressed | skipReleased =>
    exact hskip _
  | awaitKey =>
    simp only [successor]
    rcases m.firstKey? with _ | k <;> rfl
  | _ => rfl

lemma keys_successor : (m.successor hw op w).keys = m.keys := by
  rw [successor_eq]
  cases op <;> rfl

lemma sp_successor : (m.successor hw op w).registers.sp = match op with
    | .ret => m.registers.sp - 1
    | .call => m.registers.sp + 1
    | _ => m.registers.sp := by
  rw [successor_eq]
  cases op <;> rfl

lemma stack_successor : (m.successor hw op w).registers.stack = match op with
    | .call => m.registers.stack.setIfInBounds m.registers.sp m.registers.pc
    | _ => m.registers.stack := by
  rw [successor_eq]
  cases op <;> rfl

/-- The number of bytes that an operation draws. -/
def drawsOf (op : Operation) : Nat := if op = .random then 1 else 0

lemma drawn_successor (op : Operation) (w : Word) :
    (m.successor hw op w).drawn = m.drawn + drawsOf op := by
  rw [successor_eq]
  cases op <;> rfl

/-- An operation that draws looks at the byte that is next, and no operation looks at another. -/
lemma successor_congr_random {hw' : Hardware}
    (next : op = .random → hw'.random m.drawn = hw.random m.drawn) :
    m.successor hw' op w = m.successor hw op w := by
  cases op with
  | random => simp only [successor, next rfl]
  | _ => rfl

/-! ### Blocks at the index -/

lemma holdsBlock_main {a : Int} {n : Nat} (inside : 0 ≤ a ∧ a + n ≤ 4096) :
    Region.main.HoldsBlock a n :=
  ⟨by omega, by simp only [Region.main]; omega, by simp only [Region.main]; omega⟩

/-- Bytes put at the index are found there, and nothing else is another byte. -/
lemma load_setBlock {data : List Int}
    (inside : 0 ≤ m.registers.i ∧ m.registers.i + data.length ≤ 4096) :
    (∀ (k : Nat) v, data[k]? = some v →
        (m.setBlock (data.map byteOf)).memory.load (m.registers.i + k) = .ok (byteOf v)) ∧
      ∀ a, a < m.registers.i ∨ m.registers.i + data.length ≤ a →
        (m.setBlock (data.map byteOf)).memory.load a = m.memory.load a := by
  have hwrite : m.memory.write m.registers.i data =
      .ok (m.setBlock (data.map byteOf)).memory := by
    rw [Memory.write_of_holdsBlock (holdsBlock_main inside), setBlock]
    congr
    simp [Region.main]
  exact Memory.load_of_write hwrite

lemma read_block {count : Nat} (inside : 0 ≤ m.registers.i ∧ m.registers.i + count ≤ 4096) :
    m.memory.read m.registers.i count = .ok (m.block count) := by
  rw [Memory.read_of_holdsBlock (holdsBlock_main inside), block]
  congr
  simp [Region.main]

lemma length_block {count : Nat} (inside : 0 ≤ m.registers.i ∧ m.registers.i + count ≤ 4096) :
    (m.block count).length = count :=
  Int.natCast_inj.1 (Memory.getElem?_of_read (read_block inside)).1

/-- A block that lies in memory has its bytes in order. -/
lemma getElem?_block_eq_some_iff {count : Nat}
    (inside : 0 ≤ m.registers.i ∧ m.registers.i + count ≤ 4096) {r : Nat} {b : UInt8} :
    (m.block count)[r]? = some b ↔ r < count ∧ m.memory.load (m.registers.i + r) = .ok b := by
  have hlength := length_block inside
  have hbytes := (Memory.getElem?_of_read (read_block inside)).2
  constructor
  · intro hb
    have hr := (List.getElem?_eq_some_iff.1 hb).1
    exact ⟨by omega, hbytes r b hb⟩
  · rintro ⟨hr, hload⟩
    have hb := List.getElem?_eq_getElem (l := m.block count) (i := r) (by omega)
    rw [hb, Except.ok.inj ((hbytes r _ hb).symm.trans hload)]

/-! ### Registers -/

lemma reg_setReg (x k : Fin 16) (b : UInt8) :
    (m.setReg x b).reg k = if x = k then b else m.reg k := entry_setEntry ..

lemma eq_of_reg_setReg_ne {x k : Fin 16} {b : UInt8} (h : (m.setReg x b).reg k ≠ m.reg k) :
    k = x := by
  by_contra hne
  rw [reg_setReg, if_neg (Ne.symm hne)] at h
  exact h rfl

/-- Bytes put into the registers from V0 on reach no further than there are bytes. -/
lemma reg_setFirstRegisters_of_length_le {k : Fin 16} {data : List UInt8} (h : data.length ≤ k) :
    (m.setFirstRegisters data).reg k = m.reg k := by
  have hout : ¬(0 ≤ k.val ∧ k.val - 0 < data.length) := by omega
  simp only [reg, entry_eq_getElem, setFirstRegisters, Memory.getElem_put, dif_neg hout]

lemma length_block_le (m : Interpreter) (count : Nat) : (m.block count).length ≤ count := by
  simp only [block, Memory.slice, Array.length_toList, Array.size_extract]
  omega

/-- The registers that an operation names as its targets. -/
def targets (op : Operation) (w : Word) : Set (Fin 16) :=
  match op with
  | .load | .add | .copy | .or | .and | .xor | .random | .readDelay | .awaitKey => {w.x}
  | .addRegister | .subtract | .subtractFrom | .shiftRight | .shiftLeft => {w.x, flagRegister}
  | .draw => {flagRegister}
  | .loadRegisters => {k | k ≤ w.x}
  | _ => ∅

/-- Only targets change. -/
theorem mem_targets_of_reg_ne {k : Fin 16} (h : (m.successor hw op w).reg k ≠ m.reg k) :
    k ∈ targets op w := by
  have hskip (condition : Bool) : (m.skipWhen condition).reg k = m.reg k := by
    cases condition <;> rfl
  have hflag {x : Fin 16} {b : UInt8} {flag : Bool} (h : (m.setWithFlag x b flag).reg k ≠ m.reg k) :
      k = x ∨ k = flagRegister := by
    by_contra hne
    rw [not_or] at hne
    rw [setWithFlag, reg_setReg, reg_setReg, if_neg (Ne.symm hne.2), if_neg (Ne.symm hne.1)] at h
    exact h rfl
  cases op with
  | load | add | copy | or | and | xor | random | readDelay => exact eq_of_reg_setReg_ne h
  | addRegister | subtract | subtractFrom | shiftRight | shiftLeft => exact hflag h
  | draw => exact eq_of_reg_setReg_ne h
  | loadRegisters =>
    have hlen := m.length_block_le (w.x + 1)
    by_contra hk
    have hlt : w.x < k := not_le.1 hk
    rw [Fin.lt_def] at hlt
    exact h (reg_setFirstRegisters_of_length_le (by omega))
  | awaitKey =>
    simp only [successor] at h
    rcases hkey : m.firstKey? with _ | key <;> rw [hkey] at h
    · exact absurd rfl h
    · exact eq_of_reg_setReg_ne h
  | skipEqual | skipNotEqual | skipSame | skipDifferent | skipPressed | skipReleased =>
    exact absurd (hskip _) h
  | _ => exact absurd rfl h

end Chip8.Interpreter
