import Chip8.Proofs.Interpreter.Action
import Chip8.Proofs.Number

/-!
What an operation comes to.

`refusal` says whether an operation stops and with which fault, looking at the state only.
`successor` is the state after an operation that does not stop. `decides_exec` states that an
operation is these two: it decides first and changes the state afterwards. The one exception is a
return with a stack pointer that points beyond the stack, which nothing but a debugger can set; it
lowers the pointer before it fails (`residue`).
-/

namespace Chip8.Interpreter

/-! ### Whether an operation stops -/

/-- The fault of a return, if it stops. -/
def returnRefusal (m : Interpreter) : Option Fault :=
  if m.registers.sp = 0 then some (.stackUnderflow (m.registers.pc - 2))
  else if 16 < m.registers.sp then some .stackIndex
  else none

/-- The fault of a call, if it stops. -/
def callRefusal (m : Interpreter) : Option Fault :=
  if 16 ≤ m.registers.sp then some (.stackOverflow (m.registers.pc - 2)) else none

/-- The fault of asking for the key that a register names, unless there is that key. -/
def keyRefusal (m : Interpreter) (x : Fin 16) : Option Fault :=
  if 16 ≤ (m.reg x).toNat then some (.invalidKey x (m.reg x)) else none

/-- The fault of a block of bytes at the index, unless it lies in memory. -/
def blockRefusal (m : Interpreter) (count : Nat) : Option Fault :=
  if 0 ≤ m.registers.i ∧ m.registers.i + count ≤ 4096 then none
  else some (.memory (.range m.registers.i count Region.main))

/-- The fault of reading the delay timer, unless it is a byte. -/
def delayRefusal (m : Interpreter) : Option Fault :=
  if 0 ≤ m.registers.delay ∧ m.registers.delay < 256 then none else some .notByte

/-- The fault with which an operation stops, if it does. -/
def refusal (m : Interpreter) (op : Operation) (w : Word) : Option Fault :=
  match op with
  | .ret => m.returnRefusal
  | .call => m.callRefusal
  | .skipPressed | .skipReleased => m.keyRefusal w.x
  | .decimal => m.blockRefusal 3
  | .storeRegisters | .loadRegisters => m.blockRefusal (w.x + 1)
  | .draw => m.blockRefusal w.n
  | .readDelay => m.delayRefusal
  | _ => none

section Refusals

variable {m : Interpreter} {f : Fault}

lemma returnRefusal_eq_some_iff : m.returnRefusal = some f ↔
    m.registers.sp = 0 ∧ f = .stackUnderflow (m.registers.pc - 2) ∨
      16 < m.registers.sp ∧ f = .stackIndex := by
  rw [returnRefusal]
  split
  · have hsmall : ¬16 < m.registers.sp := by omega
    simp [*, eq_comm]
  · simp [*, eq_comm]

lemma callRefusal_eq_some_iff : m.callRefusal = some f ↔
    16 ≤ m.registers.sp ∧ f = .stackOverflow (m.registers.pc - 2) := by
  simp [callRefusal, eq_comm]

lemma returnRefusal_eq_none_iff :
    m.returnRefusal = none ↔ 0 < m.registers.sp ∧ m.registers.sp ≤ 16 := by
  rw [returnRefusal]
  split
  · exact iff_of_false nofun (by omega)
  · split
    · exact iff_of_false nofun (by omega)
    · exact iff_of_true rfl (by omega)

lemma callRefusal_eq_none_iff : m.callRefusal = none ↔ m.registers.sp < 16 := by
  simp [callRefusal]

lemma keyRefusal_eq_none_iff {x : Fin 16} : m.keyRefusal x = none ↔ (m.reg x).toNat < 16 := by
  simp [keyRefusal]

lemma keyRefusal_eq_some_iff {x : Fin 16} : m.keyRefusal x = some f ↔
    16 ≤ (m.reg x).toNat ∧ f = .invalidKey x (m.reg x) := by
  simp [keyRefusal, eq_comm]

lemma blockRefusal_eq_some_iff {count : Nat} : m.blockRefusal count = some f ↔
    ¬(0 ≤ m.registers.i ∧ m.registers.i + count ≤ 4096) ∧
      f = .memory (.range m.registers.i count Region.main) := by
  rw [blockRefusal, Option.ite_none_left_eq_some, Option.some.injEq, eq_comm]

lemma blockRefusal_eq_none_iff {count : Nat} : m.blockRefusal count = none ↔
    0 ≤ m.registers.i ∧ m.registers.i + count ≤ 4096 := by
  rw [blockRefusal]
  split
  · exact iff_of_true rfl ‹_›
  · exact iff_of_false nofun ‹_›

lemma delayRefusal_eq_some_iff : m.delayRefusal = some f ↔
    ¬(0 ≤ m.registers.delay ∧ m.registers.delay < 256) ∧ f = .notByte := by
  rw [delayRefusal, Option.ite_none_left_eq_some, Option.some.injEq, eq_comm]

end Refusals

/-- What an operation leaves behind when it stops. -/
def residue (m : Interpreter) : Fault → Interpreter
  | .stackIndex => { m with registers := { m.registers with sp := m.registers.sp - 1 } }
  | _ => m

/-! ### The state after an operation -/

/-- The state with the next instruction skipped on a condition. -/
def skipWhen (m : Interpreter) (condition : Bool) : Interpreter :=
  if condition then m.skip else m

/-- The state with a result in a register and then the flag in VF. -/
def setWithFlag (m : Interpreter) (x : Fin 16) (result : UInt8) (flag : Bool) : Interpreter :=
  (m.setReg x result).setReg flagRegister (if flag then 1 else 0)

/-- Whether the key that a register names is down. -/
def namesPressed (m : Interpreter) (x : Fin 16) : Bool :=
  m.keys[(m.reg x).toNat]?.getD false

/-- The state with bytes at the index. -/
def setBlock (m : Interpreter) (data : List UInt8) : Interpreter :=
  { m with memory := ⟨Memory.put m.memory.bytes m.registers.i.toNat data⟩ }

/-- The bytes at the index. -/
def block (m : Interpreter) (count : Nat) : List UInt8 := m.memory.slice m.registers.i.toNat count

/-- The state with a sprite on the screen and VF telling whether a lit pixel went dark. -/
def withSprite (m : Interpreter) (originX originY : Nat) (rows : List UInt8) : Interpreter :=
  let after := overlay m.screen originX originY rows
  { m with screen := after.1 }.setReg flagRegister (if after.2 then 1 else 0)

/-- The state after a return. -/
def afterReturn (m : Interpreter) : Interpreter :=
  let r := m.registers
  { m with registers := { r with sp := r.sp - 1, pc := r.stack[r.sp - 1]?.getD 0 } }

/-- The state after a call. -/
def afterCall (m : Interpreter) (address : Int) : Interpreter :=
  let r := m.registers
  { m with registers :=
    { r with stack := r.stack.setIfInBounds r.sp r.pc, sp := r.sp + 1, pc := address } }

/-- The state after an operation that does not stop. -/
def successor (m : Interpreter) (hw : Hardware) (op : Operation) (w : Word) : Interpreter :=
  let vx := m.reg w.x
  let vy := m.reg w.y
  match op with
  | .nop => m
  | .clearScreen => { m with screen := Screen.dark }
  | .ret => m.afterReturn
  | .jump => m.setPc w.nnn
  | .call => m.afterCall w.nnn
  | .jumpOffset => m.setPc ((m.reg offsetRegister).toNat + w.nnn)
  | .skipEqual => m.skipWhen (vx == w.nn)
  | .skipNotEqual => m.skipWhen (vx != w.nn)
  | .skipSame => m.skipWhen (vx == vy)
  | .skipDifferent => m.skipWhen (vx != vy)
  | .skipPressed => m.skipWhen (m.namesPressed w.x)
  | .skipReleased => m.skipWhen (!m.namesPressed w.x)
  | .load => m.setReg w.x w.nn
  | .add => m.setReg w.x (vx + w.nn)
  | .copy => m.setReg w.x vy
  | .or => m.setReg w.x (vx ||| vy)
  | .and => m.setReg w.x (vx &&& vy)
  | .xor => m.setReg w.x (vx ^^^ vy)
  | .addRegister => m.setWithFlag w.x (vx + vy) (255 < vx.toNat + vy.toNat)
  | .subtract => m.setWithFlag w.x (vx - vy) (vy ≤ vx)
  | .subtractFrom => m.setWithFlag w.x (vy - vx) (vx ≤ vy)
  | .shiftRight => m.setWithFlag w.x (vx / 2) (vx.toNat % 2 = 1)
  | .shiftLeft => m.setWithFlag w.x (vx * 2) (128 ≤ vx.toNat)
  | .random => { m with drawn := m.drawn + 1 }.setReg w.x (hw.random m.drawn &&& w.nn)
  | .loadIndex => m.setIndex w.nnn
  | .addIndex => m.setIndex ((m.registers.i + vx.toNat) % 0x10000)
  | .glyphAddress => m.setIndex (5 * vx.toNat)
  | .decimal => m.setBlock ((decimalDigits vx).map byteOf)
  | .storeRegisters => m.setBlock ((m.firstRegisters w.x).map byteOf)
  | .loadRegisters => m.setFirstRegisters (m.block (w.x + 1))
  | .readDelay => m.setReg w.x (byteOf m.registers.delay)
  | .setDelay => { m with registers := { m.registers with delay := vx.toNat } }
  | .setSound => { m with registers := { m.registers with sound := vx.toNat } }
  | .awaitKey =>
    match m.firstKey? with
    | some k => m.setReg w.x (UInt8.ofNat k)
    | none => m.setPc ((m.registers.pc - 2) % 0x10000)
  | .draw => m.withSprite vx.toNat vy.toNat (m.block w.n)

/-! ### Operations decide first -/

/-- The computation looks at the state, and then either stops with the fault of `stop` or gives a
result and a state. -/
def Decides (a : Action α) (m : Interpreter) (stop : Option Fault) (x : α) (after : Interpreter) :
    Prop :=
  a.run m = match stop with
    | some f => (.error f, m.residue f)
    | none => (.ok x, after)

/-- What follows a decision and cannot stop comes to one decision with it. -/
lemma Decides.andThen {m mid after : Interpreter} {a : Action α} {g : α → Action β}
    {stop : Option Fault} {x : α} {y : β} (ha : Decides a m stop x mid)
    (hg : (g x).run mid = (.ok y, after)) : Decides (a >>= g) m stop y after := by
  unfold Decides at ha ⊢
  rw [Action.run_bind, ha]
  cases stop with
  | none => exact hg
  | some f => rfl

variable {m : Interpreter}

lemma decides_pop :
    Decides pop m m.returnRefusal (m.registers.stack[m.registers.sp - 1]?.getD 0)
      { m with registers := { m.registers with sp := m.registers.sp - 1 } } := by
  unfold Decides returnRefusal
  rw [pop, Action.run_bind, Action.run_get]
  by_cases h0 : m.registers.sp = 0
  · simp only [if_pos h0, Action.run_throw, residue]
  · simp only [if_neg h0, Action.run_bind, Action.run_modify]
    by_cases hs : 16 < m.registers.sp
    · rw [if_pos hs, Vector.getElem?_eq_none (by omega)]
      rfl
    · rw [if_neg hs, Vector.getElem?_eq_getElem (by omega)]
      rfl

lemma decides_push (address : Int) (h : address = m.registers.pc) :
    Decides (push address) m m.callRefusal ()
      { m with registers := { m.registers with
        stack := m.registers.stack.setIfInBounds m.registers.sp m.registers.pc
        sp := m.registers.sp + 1 } } := by
  subst h
  unfold Decides callRefusal
  rw [push, Action.run_bind, Action.run_get]
  by_cases h : m.registers.sp < 16
  · have hset : m.registers.stack.set m.registers.sp m.registers.pc h =
        m.registers.stack.setIfInBounds m.registers.sp m.registers.pc :=
      Vector.ext fun i hi => by rw [Vector.getElem_set, Vector.getElem_setIfInBounds]
    rw [if_neg (by omega), ← hset]
    simp only [dif_pos h, Action.run_modify]
  · rw [if_pos (by omega)]
    simp only [dif_neg h, Action.run_throw, residue]

lemma decides_keyFor (x : Fin 16) :
    Decides (keyFor x) m (m.keyRefusal x) (m.namesPressed x) m := by
  unfold Decides keyRefusal
  rw [keyFor, Action.run_bind, Action.run_get]
  by_cases h : (m.reg x).toNat < 16
  · rw [if_neg (by omega), namesPressed, Vector.getElem?_eq_getElem h]
    simp only [dif_pos h, Action.run_pure, Option.getD_some]
  · rw [if_pos (by omega)]
    simp only [dif_neg h, Action.run_throw, residue]

/-- A block lies in memory or it does not; no part of it is looked at before. -/
lemma span_main (address : Int) (count : Nat) :
    Memory.span Region.main address count =
      if h : 0 ≤ address ∧ address + count ≤ 4096 then
        .ok ⟨address.toNat, by simp only [Region.main]; omega⟩
      else .error (.showing count (.range address count Region.main)) := by
  have h0 : ¬(count : Int) < 0 := by omega
  have hs : address - (Region.main.start : Int) = address := by simp [Region.main]
  simp only [Memory.span, if_neg h0, hs]
  rfl

/-- The blocks of instructions are small, so their sizes can be written. -/
lemma showing_of_le {count : Nat} (small : count ≤ 16) (f : MemoryFault) :
    .showing count f = f := by
  have hmachine : (count : Int).natAbs ≤ Number.max64 := small.trans (by decide)
  rw [MemoryFault.showing, if_pos (Number.isWritable_of_le hmachine)]

lemma decides_readAtIndex {count : Nat} (small : count ≤ 16) :
    Decides (readAtIndex count) m (m.blockRefusal count) (m.block count) m := by
  unfold Decides blockRefusal
  rw [readAtIndex, Action.run_bind, Action.run_get]
  simp only [Action.run_require, Memory.read, span_main, showing_of_le small]
  split <;> rfl

lemma decides_writeAtIndex (data : List Int) {count : Nat} (h : data.length = count)
    (small : count ≤ 16) :
    Decides (writeAtIndex data) m (m.blockRefusal count) () (m.setBlock (data.map byteOf)) := by
  subst h
  unfold Decides blockRefusal
  rw [writeAtIndex, Action.run_bind, Action.run_get]
  simp only [Action.run_bind, Action.run_require, Memory.write, span_main, showing_of_le small]
  by_cases h : 0 ≤ m.registers.i ∧ m.registers.i + data.length ≤ 4096
  · rw [dif_pos h, if_pos h]
    rfl
  · rw [dif_neg h, if_neg h]
    rfl

lemma decides_readDelay (x : Fin 16) :
    Decides (putReg x m.registers.delay) m m.delayRefusal ()
      (m.setReg x (byteOf m.registers.delay)) := by
  unfold Decides delayRefusal
  by_cases h : 0 ≤ m.registers.delay ∧ m.registers.delay < 256
  · rw [if_pos h]
    apply run_putReg
    rw [toNat_byteOf]
    omega
  · rw [if_neg h]
    exact run_putReg_of_not_byte h

lemma run_skipIf (condition : Bool) :
    (skipIf condition).run m = (.ok (), m.skipWhen condition) := by
  cases condition <;> rfl

lemma run_putWithFlag {x : Fin 16} {n : Int} {b : UInt8} {f : Nat} {flag : Bool}
    (hb : n % 256 = b.toNat) (hf : f = if flag then 1 else 0) :
    (putWithFlag x n f).run m = (.ok (), m.setWithFlag x b flag) := by
  have hflag : (f : Int) = (if flag then (1 : UInt8) else 0).toNat := by
    subst hf
    cases flag <;> rfl
  rw [putWithFlag, Action.run_bind, run_putReg hb]
  exact run_putReg hflag

lemma run_subtract (x : Fin 16) (a b : UInt8) :
    (subtract x a.toNat b.toNat).run m = (.ok (), m.setWithFlag x (a - b) (b ≤ a)) := by
  have ha := a.toNat_lt
  have hb := b.toNat_lt
  apply run_putWithFlag
  · rw [UInt8.toNat_sub]
    omega
  · by_cases h : a.toNat < b.toNat
    · have hle : ¬b ≤ a := by rw [UInt8.le_iff_toNat_le]; omega
      simp [h, hle]
    · have hle : b ≤ a := by rw [UInt8.le_iff_toNat_le]; omega
      simp [h, hle]

lemma run_drawSprite (originX originY : Nat) (rows : List UInt8) :
    (drawSprite originX originY rows).run m = (.ok (), m.withSprite originX originY rows) := by
  rcases h : overlay m.screen originX originY rows with ⟨screen, collision⟩
  have hflag : (if collision then 1 else 0 : Int) =
      (if collision then (1 : UInt8) else 0).toNat := by
    cases collision <;> rfl
  simp only [drawSprite, Action.run_bind, Action.run_get, h, Action.run_modify, run_putReg hflag,
    withSprite]

lemma firstKey?_lt {k : Nat} (h : m.firstKey? = some k) : k < 16 := by
  obtain ⟨hk, -, -⟩ := List.findIdx?_eq_some_iff_getElem.1 h
  simpa using hk

lemma toNat_beq (a b : UInt8) : (a.toNat == b.toNat) = (a == b) := by
  rw [Bool.eq_iff_iff, beq_iff_eq, beq_iff_eq, UInt8.toNat_inj]

lemma length_firstRegisters (x : Fin 16) : (m.firstRegisters x).length = x + 1 := by
  have hx := x.isLt
  simp only [firstRegisters, List.length_map, List.length_take, Vector.length_toList]
  omega

/-- **Operations decide first.** Every operation looks at the state, and either stops there or goes
through: no fault comes after a change, the stray return apart. -/
theorem decides_exec (hw : Hardware) (op : Operation) (w : Word) :
    Decides (exec hw op w) m (m.refusal op w) () (m.successor hw op w) := by
  have hx := (m.reg w.x).toNat_lt
  unfold Decides
  rw [exec, Action.run_bind, Action.run_get]
  cases op with
  | nop => rfl
  | clearScreen => rfl
  | ret => exact decides_pop.andThen rfl
  | jump => rfl
  | call => exact (decides_push _ rfl).andThen rfl
  | jumpOffset => rfl
  | skipEqual => exact (run_skipIf _).trans (by rw [toNat_beq]; rfl)
  | skipNotEqual => exact (run_skipIf _).trans (by rw [bne, toNat_beq]; rfl)
  | skipSame => exact (run_skipIf _).trans (by rw [toNat_beq]; rfl)
  | skipDifferent => exact (run_skipIf _).trans (by rw [bne, toNat_beq]; rfl)
  | skipPressed => exact (decides_keyFor _).andThen (run_skipIf _)
  | skipReleased => exact (decides_keyFor _).andThen (run_skipIf _)
  | load => exact run_putReg rfl
  | add => exact run_putReg (by rw [UInt8.toNat_add]; rfl)
  | copy => exact run_putReg rfl
  | or => exact run_putReg (by rw [UInt8.toNat_or])
  | and => exact run_putReg (by rw [UInt8.toNat_and])
  | xor => exact run_putReg (by rw [UInt8.toNat_xor])
  | addRegister => exact run_putWithFlag (by rw [UInt8.toNat_add]; rfl) (by simp)
  | subtract => exact run_subtract ..
  | subtractFrom => exact run_subtract ..
  | shiftRight =>
    refine run_putWithFlag ?_ ?_
    · rw [UInt8.toNat_div]
      simp only [UInt8.reduceToNat]
      omega
    · simp only [decide_eq_true_eq]
      split <;> omega
  | shiftLeft =>
    refine run_putWithFlag ?_ ?_
    · rw [UInt8.toNat_mul]
      rfl
    · simp only [decide_eq_true_eq]
      split <;> omega
  | random =>
    have hdraw : Decides (drawByte hw) m none (hw.random m.drawn).toNat
      { m with drawn := m.drawn + 1 } := rfl
    exact hdraw.andThen (run_putReg (by rw [UInt8.toNat_and]))
  | loadIndex => rfl
  | addIndex => rfl
  | glyphAddress =>
    have h : (Font.start + (m.reg w.x).toNat * Font.glyphRows : Int) = 5 * (m.reg w.x).toNat := by
      simp only [Font.start, Font.glyphRows]
      omega
    exact congrArg (fun i => (Except.ok (), m.setIndex i)) h
  | decimal => exact decides_writeAtIndex _ rfl (by decide)
  | storeRegisters => exact decides_writeAtIndex _ (length_firstRegisters _) w.x.isLt
  | loadRegisters => exact (decides_readAtIndex w.x.isLt).andThen rfl
  | readDelay => exact decides_readDelay _
  | setDelay => rfl
  | setSound => rfl
  | awaitKey =>
    rcases h : m.firstKey? with _ | k
    · simp only [refusal, successor, h, run_jumpTo]
    · have hk : (k : Int) = (UInt8.ofNat k).toNat := by
        have := firstKey?_lt h
        rw [UInt8.toNat_ofNat']
        omega
      simp only [refusal, successor, h, run_putReg hk]
  | draw =>
    have hrows : w.n < 16 := Nat.mod_lt _ (by decide)
    exact (decides_readAtIndex hrows.le).andThen (run_drawSprite ..)

end Chip8.Interpreter
