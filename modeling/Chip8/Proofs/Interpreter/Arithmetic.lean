import Chip8.Proofs.Interpreter.Frame
import Chip8.Proofs.Interpreter.Words

/-!
Register arithmetic.

VF takes flags and is an operand like any other register. Its place in an instruction decides
nothing: operands are read before anything is written, and the flag is written last
(`reg_setWithFlag`). What an instruction computes is said in numbers (`Result`, `FlaggedResult`,
`NewIndex`), and an operation computes it in bytes that wrap around (`exists_operation_of_result`,
`exists_operation_of_flaggedResult`).
-/

namespace Chip8.Interpreter

open Pattern (Fits)

variable {hw : Hardware} {m : Interpreter} {w : Word} {n : Int} {f : Nat} {random : Nat → UInt8}

/-! ### Results -/

/-- The number in the first register of a word. -/
def first (m : Interpreter) (w : Word) : Nat := (m.reg w.x).toNat

/-- The number in the second register of a word. -/
def second (m : Interpreter) (w : Word) : Nat := (m.reg w.y).toNat

/-- What a word without a flag puts into its first register. -/
inductive Result (hw : Hardware) (m : Interpreter) (w : Word) : Int → Prop
  | load (reads : Fits "6XNN" w) : Result hw m w w.nn.toNat
  | add (reads : Fits "7XNN" w) : Result hw m w ((m.first w + w.nn.toNat) % 256)
  | copy (reads : Fits "8XY0" w) : Result hw m w (m.second w)
  | or (reads : Fits "8XY1" w) : Result hw m w (m.first w ||| m.second w : Nat)
  | and (reads : Fits "8XY2" w) : Result hw m w (m.first w &&& m.second w : Nat)
  | xor (reads : Fits "8XY3" w) : Result hw m w (m.first w ^^^ m.second w : Nat)
  | random (reads : Fits "CXNN" w) :
      Result hw m w ((hw.random m.drawn).toNat &&& w.nn.toNat : Nat)

/-- What a word with a flag computes, and its flag. -/
inductive FlaggedResult (m : Interpreter) (w : Word) : Int → Nat → Prop
  | add (reads : Fits "8XY4" w) : FlaggedResult m w ((m.first w + m.second w) % 256)
      (if 255 < m.first w + m.second w then 1 else 0)
  | subtract (reads : Fits "8XY5" w) : FlaggedResult m w ((m.first w - m.second w) % 256)
      (if m.second w ≤ m.first w then 1 else 0)
  | shiftRight (reads : Fits "8XY6" w) : FlaggedResult m w (m.first w / 2) (m.first w % 2)
  | subtractFrom (reads : Fits "8XY7" w) : FlaggedResult m w ((m.second w - m.first w) % 256)
      (if m.first w ≤ m.second w then 1 else 0)
  | shiftLeft (reads : Fits "8XYE" w) :
      FlaggedResult m w (2 * m.first w % 256) (m.first w / 128)

/-- What a word makes of the index and a register. -/
inductive NewIndex (m : Interpreter) (w : Word) : Int → Prop
  | add (reads : Fits "FX1E" w) : NewIndex m w ((m.registers.i + m.first w) % 65536)
  | glyph (reads : Fits "FX29" w) : NewIndex m w (5 * m.first w)

/-! ### Operations -/

/-- The flag is written last, so it stays also in a register that takes the result. -/
lemma reg_setWithFlag (x k : Fin 16) (b : UInt8) (flag : Bool) :
    (m.setWithFlag x b flag).reg k =
      if k = flagRegister then (if flag then 1 else 0) else if k = x then b else m.reg k := by
  simp only [setWithFlag, reg_setReg, eq_comm]

lemma exists_operation_of_result (computes : m.Result hw w n) :
    ∃ op b, Fits (Table.patternOf op) w ∧ m.skip.refusal op w = none ∧ (b.toNat : Int) = n ∧
      ∀ k, (m.skip.successor hw op w).reg k = if k = w.x then b else m.reg k := by
  have hset (p : Interpreter) (b : UInt8) (k : Fin 16) :
      (p.setReg w.x b).reg k = if k = w.x then b else p.reg k := by
    simp only [reg_setReg, eq_comm]
  cases computes with
  | load reads => exact ⟨.load, _, reads, rfl, rfl, hset m.skip _⟩
  | add reads =>
    refine ⟨.add, _, reads, rfl, ?_, hset m.skip _⟩
    rw [UInt8.toNat_add]
    rfl
  | copy reads => exact ⟨.copy, _, reads, rfl, rfl, hset m.skip _⟩
  | or reads =>
    refine ⟨.or, _, reads, rfl, ?_, hset m.skip _⟩
    rw [UInt8.toNat_or]
    rfl
  | and reads =>
    refine ⟨.and, _, reads, rfl, ?_, hset m.skip _⟩
    rw [UInt8.toNat_and]
    rfl
  | xor reads =>
    refine ⟨.xor, _, reads, rfl, ?_, hset m.skip _⟩
    rw [UInt8.toNat_xor]
    rfl
  | random reads =>
    refine ⟨.random, _, reads, rfl, ?_, hset { m.skip with drawn := m.drawn + 1 } _⟩
    rw [UInt8.toNat_and]
    rfl

/-- A difference of bytes wraps around. -/
lemma natCast_toNat_sub (a b : UInt8) : ((a - b).toNat : Int) = (a.toNat - b.toNat) % 256 := by
  have ha := a.toNat_lt
  have hb := b.toNat_lt
  rw [UInt8.toNat_sub]
  omega

lemma exists_operation_of_flaggedResult (computes : m.FlaggedResult w n f) :
    ∃ op b flag, Fits (Table.patternOf op) w ∧ m.skip.refusal op w = none ∧
      m.skip.successor hw op w = m.skip.setWithFlag w.x b flag ∧ (b.toNat : Int) = n ∧
      f = if flag then 1 else 0 := by
  have hx : m.first w < 256 := (m.reg w.x).toNat_lt
  cases computes with
  | add reads =>
    refine ⟨.addRegister, _, _, reads, rfl, rfl, ?_, ?_⟩
    · rw [UInt8.toNat_add]
      rfl
    · simp only [decide_eq_true_eq]
      rfl
  | subtract reads =>
    refine ⟨.subtract, _, _, reads, rfl, rfl, natCast_toNat_sub _ _, ?_⟩
    simp only [decide_eq_true_eq]
    rfl
  | shiftRight reads =>
    refine ⟨.shiftRight, _, _, reads, rfl, rfl, ?_, ?_⟩
    · rw [UInt8.toNat_div]
      rfl
    · change m.first w % 2 = if decide (m.first w % 2 = 1) = true then 1 else 0
      simp only [decide_eq_true_eq]
      split <;> omega
  | subtractFrom reads =>
    refine ⟨.subtractFrom, _, _, reads, rfl, rfl, natCast_toNat_sub _ _, ?_⟩
    simp only [decide_eq_true_eq]
    rfl
  | shiftLeft reads =>
    refine ⟨.shiftLeft, _, _, reads, rfl, rfl, ?_, ?_⟩
    · rw [UInt8.toNat_mul, Nat.mul_comm]
      rfl
    · change m.first w / 128 = if decide (128 ≤ m.first w) = true then 1 else 0
      simp only [decide_eq_true_eq]
      split <;> omega

/-! ### Ticks -/

/-- What a tick does that runs a word which computes something: it succeeds, and puts the result
into the register that the word names, the flag into VF, or the new index into the index. -/
structure Computes (hw : Hardware) (m : Interpreter) (w : Word) : Prop where
  result : ∀ n, m.Result hw w n → (m.tick hw).1 = .ok () ∧ ∀ k,
    (((m.tick hw).2.reg k).toNat : Int) = if k = w.x then n else ((m.reg k).toNat : Int)
  /-- A result in VF gives way to the flag. -/
  flagged : ∀ n f, m.FlaggedResult w n f → (m.tick hw).1 = .ok () ∧ ∀ k,
    (((m.tick hw).2.reg k).toNat : Int) =
      if k = flagRegister then (f : Int) else if k = w.x then n else ((m.reg k).toNat : Int)
  index : ∀ n, m.NewIndex w n → (m.tick hw).1 = .ok () ∧ (m.tick hw).2.registers.i = n ∧
    ∀ k, (m.tick hw).2.reg k = m.reg k

lemma InRange.computes (h : m.InRange) (fetched : m.fetch = .ok w) : m.Computes { random } w where
  result n computes := by
    obtain ⟨op, b, reads, go, rfl, after⟩ := exists_operation_of_result computes
    rw [h.tick_of_reads fetched reads go]
    refine ⟨rfl, fun k => ?_⟩
    rw [after]
    split <;> rfl
  flagged n f computes := by
    obtain ⟨op, b, flag, reads, go, after, rfl, rfl⟩ := exists_operation_of_flaggedResult computes
    rw [h.tick_of_reads fetched reads go, after]
    refine ⟨rfl, fun k => ?_⟩
    rw [reg_setWithFlag]
    cases flag <;> split_ifs <;> rfl
  index n computes := by
    cases computes with
    | add reads =>
      rw [h.tick_of_reads fetched (show Fits (Table.patternOf .addIndex) w from reads) rfl]
      exact ⟨rfl, rfl, fun _ => rfl⟩
    | glyph reads =>
      rw [h.tick_of_reads fetched (show Fits (Table.patternOf .glyphAddress) w from reads) rfl]
      exact ⟨rfl, rfl, fun _ => rfl⟩

/-- **Register arithmetic is arithmetic modulo 256.** Take any processor that a host can bring
about, with the standard table. The tick that runs a word which loads, adds, copies, combines,
subtracts, shifts or draws succeeds, and the registers then hold what the word computes from what
they held before, whichever registers it names; where it has a flag, VF holds the flag, also if it
is an operand or takes the result. The index takes a sum modulo 65536, and the address of a digit is
five times the digit. -/
theorem computes_registers (random : Nat → UInt8) (requests : List Request) :
    let m := run { random } initial requests
    ∀ w, m.fetch = .ok w → m.Computes { random } w := by
  intro m w fetched
  exact InRange.computes (inRange_initial.run requests) fetched

/-- VF is added to itself: what stays of 200 and 200 is the carry. -/
theorem computes_registers_double :
    let m := run {} initial [.write 0x200 [0x6F, 0xC8, 0x8F, 0xF4], .tick]
    ∃ w, m.fetch = .ok w ∧ m.FlaggedResult w 144 1 ∧ m.Computes {} w ∧
      (m.tick {}).1 = .ok () ∧ ((m.tick {}).2.reg flagRegister).toNat = 1 := by
  intro m
  have trace : m.fetch = .ok ⟨0x8FF4, by decide⟩ ∧ (m.reg flagRegister).toNat = 200 := by
    decide +kernel
  obtain ⟨fetched, two⟩ := trace
  have reads : Fits (Table.patternOf .addRegister) ⟨0x8FF4, by decide⟩ :=
    Table.fits_of_routine (by decide +kernel)
  have sum : m.FlaggedResult ⟨0x8FF4, by decide⟩ 144 1 := by
    have carry := FlaggedResult.add (m := m) reads
    have hfirst : m.first ⟨0x8FF4, by decide⟩ = 200 := two
    have hsecond : m.second ⟨0x8FF4, by decide⟩ = 200 := two
    rw [hfirst, hsecond] at carry
    exact carry
  have computes := computes_registers (fun _ => 0) _ _ fetched
  obtain ⟨done, after⟩ := computes.flagged 144 1 sum
  have flag := after flagRegister
  rw [if_pos rfl] at flag
  exact ⟨_, fetched, sum, computes, done, Int.natCast_inj.1 flag⟩

end Chip8.Interpreter
