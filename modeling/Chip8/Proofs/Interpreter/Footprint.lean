import Chip8.Proofs.Interpreter.Frame
import Chip8.Proofs.Interpreter.Words

/-!
What a tick writes.

`Footprint` says for every part of the processor which words may change it, in terms of the patterns
as they are written, and for memory, the stack and the registers also where. It is the frame of the
operations (`sideEffect`, `targets`) read through the standard table, so a tick that succeeds has it
whatever was done before (`tick_footprint`).
-/

namespace Chip8.Interpreter

open Pattern (Fits)

/-- Words that put a result into their first register. -/
def resultPatterns : List Text :=
  ["6XNN", "7XNN", "8XY0", "8XY1", "8XY2", "8XY3", "CXNN", "FX07", "FX0A"]

/-- Words that put a result into their first register and a flag into VF. -/
def flagPatterns : List Text := ["8XY4", "8XY5", "8XY6", "8XY7", "8XYE"]

/-- A word may change a register. -/
inductive Writes (w : Word) : Fin 16 → Prop
  | result {p : Text} (listed : p ∈ resultPatterns) (reads : Fits p w) : Writes w w.x
  | flagged {p : Text} {k : Fin 16} (listed : p ∈ flagPatterns) (reads : Fits p w)
      (target : k = w.x ∨ k = flagRegister) : Writes w k
  | collision (reads : Fits "DXYN" w) : Writes w flagRegister
  | loaded {k : Fin 16} (reads : Fits "FX65" w) (target : k ≤ w.x) : Writes w k

/-- What changed from one state to another is what a word may change, and the word drew a byte
exactly if it asks for one. -/
structure Footprint (w : Word) (m after : Interpreter) : Prop where
  keys : after.keys = m.keys
  memory : ∀ a, after.memory.load a ≠ m.memory.load a →
    Fits "FX33" w ∧ m.registers.i ≤ a ∧ a ≤ m.registers.i + 2 ∨
      Fits "FX55" w ∧ m.registers.i ≤ a ∧ a ≤ m.registers.i + w.x
  screen : after.screen ≠ m.screen → Fits "00E0" w ∨ Fits "DXYN" w
  index : after.registers.i ≠ m.registers.i → Fits "ANNN" w ∨ Fits "FX1E" w ∨ Fits "FX29" w
  sp : after.registers.sp ≠ m.registers.sp → Fits "00EE" w ∨ Fits "2NNN" w
  stack : ∀ k, entry after.registers.stack k ≠ entry m.registers.stack k →
    Fits "2NNN" w ∧ k = m.registers.sp
  delay : after.registers.delay ≠ m.registers.delay → Fits "FX15" w
  sound : after.registers.sound ≠ m.registers.sound → Fits "FX18" w
  registers : ∀ k, after.reg k ≠ m.reg k → Writes w k
  draws : Fits "CXNN" w → after.drawn = m.drawn + 1
  drawsNothing : ¬Fits "CXNN" w → after.drawn = m.drawn

variable {hw : Hardware} {m : Interpreter} {op : Operation} {w : Word} {random : Nat → UInt8}

/-! ### Single parts -/

/-- A target of the operation of a word is a register that the word may change. -/
lemma writes_of_mem_targets (reads : Fits (Table.patternOf op) w) {k : Fin 16}
    (hk : k ∈ targets op w) : Writes w k := by
  cases op with
  | load | add | copy | or | and | xor | random | readDelay | awaitKey =>
    obtain rfl : k = w.x := hk
    exact .result (by decide +kernel) reads
  | addRegister | subtract | subtractFrom | shiftRight | shiftLeft =>
    exact .flagged (by decide +kernel) reads hk
  | draw =>
    obtain rfl : k = flagRegister := hk
    exact .collision reads
  | loadRegisters => exact .loaded reads hk
  | _ => exact absurd hk (Set.notMem_empty k)

/-- Bytes written from the index on leave the bytes before and behind them. -/
lemma mem_block_of_load_ne (hi : 0 ≤ m.registers.i) {data : List UInt8} {a : Int}
    (h : (m.setBlock data).memory.load a ≠ m.memory.load a) :
    m.registers.i ≤ a ∧ a < m.registers.i + data.length := by
  by_contra hout
  apply h
  by_cases ha : 0 ≤ a ∧ a < 4096
  · have hlt : a.toNat < Region.main.length := by
      simp only [Region.main]
      omega
    have hbyte :
        ¬(m.registers.i.toNat ≤ a.toNat ∧ a.toNat - m.registers.i.toNat < data.length) := by
      omega
    rw [load_of_inside ha, load_of_inside ha, Vector.getElem?_eq_getElem hlt,
      Vector.getElem?_eq_getElem hlt]
    simp only [setBlock, Memory.getElem_put, dif_neg hbyte]
  · rw [load_of_outside ha, load_of_outside ha]

lemma memory_footprint (hi : 0 ≤ m.registers.i) (reads : Fits (Table.patternOf op) w) {a : Int}
    (h : (m.sideEffect op w).memory.load a ≠ m.memory.load a) :
    Fits "FX33" w ∧ m.registers.i ≤ a ∧ a ≤ m.registers.i + 2 ∨
      Fits "FX55" w ∧ m.registers.i ≤ a ∧ a ≤ m.registers.i + w.x := by
  cases op with
  | decimal =>
    obtain ⟨hfrom, hto⟩ := mem_block_of_load_ne hi h
    simp only [List.length_map, decimalDigits, List.length_cons, List.length_nil] at hto
    exact .inl ⟨reads, hfrom, by omega⟩
  | storeRegisters =>
    obtain ⟨hfrom, hto⟩ := mem_block_of_load_ne hi h
    rw [List.length_map, length_firstRegisters] at hto
    exact .inr ⟨reads, hfrom, by omega⟩
  | _ => exact absurd rfl h

lemma stack_footprint (reads : Fits (Table.patternOf op) w) {k : Fin 16}
    (h : entry (m.sideEffect op w).registers.stack k ≠ entry m.registers.stack k) :
    Fits "2NNN" w ∧ k = m.registers.sp := by
  cases op with
  | call =>
    refine ⟨reads, ?_⟩
    by_contra hk
    refine h ?_
    simp only [sideEffect, entry_eq_getElem]
    rw [Vector.getElem_setIfInBounds_ne _ (Ne.symm hk)]
  | _ => exact absurd rfl h

/-! ### All parts -/

/-- The patterns are read through the operation, so every part is a case analysis of its own. -/
lemma footprint_successor (hi : 0 ≤ m.registers.i) (reads : Fits (Table.patternOf op) w) :
    Footprint w m (m.successor hw op w) where
  keys := keys_successor
  memory a h := by
    rw [successor_eq] at h
    exact memory_footprint hi reads h
  screen h := by
    rw [successor_eq] at h
    cases op with
    | clearScreen => exact .inl reads
    | draw => exact .inr reads
    | _ => exact absurd rfl h
  index h := by
    rw [successor_eq] at h
    cases op with
    | loadIndex => exact .inl reads
    | addIndex => exact .inr (.inl reads)
    | glyphAddress => exact .inr (.inr reads)
    | _ => exact absurd rfl h
  sp h := by
    rw [successor_eq] at h
    cases op with
    | ret => exact .inl reads
    | call => exact .inr reads
    | _ => exact absurd rfl h
  stack k h := by
    rw [successor_eq] at h
    exact stack_footprint reads h
  delay h := by
    rw [successor_eq] at h
    cases op with
    | setDelay => exact reads
    | _ => exact absurd rfl h
  sound h := by
    rw [successor_eq] at h
    cases op with
    | setSound => exact reads
    | _ => exact absurd rfl h
  registers k h := writes_of_mem_targets reads (mem_targets_of_reg_ne h)
  draws h := by
    have hop : op = .random := Table.eq_of_fits reads h
    rw [drawn_successor, drawsOf, if_pos hop]
  drawsNothing h := by
    have hop : op ≠ .random := by
      rintro rfl
      exact h reads
    rw [drawn_successor, drawsOf, if_neg hop]
    rfl

/-- A footprint says nothing about the program counter. -/
lemma Footprint.of_skip {after : Interpreter} (h : Footprint w m.skip after) :
    Footprint w m after :=
  ⟨h.keys, h.memory, h.screen, h.index, h.sp, h.stack, h.delay, h.sound, h.registers, h.draws,
    h.drawsNothing⟩

/-- **A tick writes what its word says and nothing else.** Take any processor that a host can bring
about, with the standard table and any source of random bytes. If its next tick succeeds, then it
fetched a word, and the keys, every byte of memory, the screen, the index, the stack and its
pointer, the timers, V0 to VF and the number of bytes drawn are what they were, except where the
pattern of the word says otherwise. Of the source, the tick depends on the next byte at most, and
only if the pattern asks for one. -/
theorem tick_footprint (random : Nat → UInt8) (requests : List Request)
    (done : ((run { random } initial requests).tick { random }).1 = .ok ()) :
    let m := run { random } initial requests
    ∃ w, m.fetch = .ok w ∧ Footprint w m (m.tick { random }).2 ∧
      ∀ random', (Fits "CXNN" w → random' m.drawn = random m.drawn) →
        m.tick { random := random' } = m.tick { random } := by
  intro m
  have h : m.InRange := inRange_initial.run requests
  obtain ⟨op, runs, go⟩ := h.exists_runs_of_done done
  have hi : 0 ≤ m.skip.registers.i := h.index.1
  refine ⟨m.word, h.fetch_word runs.inside, ?_, fun random' next => ?_⟩
  · rw [h.tick_of_go runs go]
    exact (footprint_successor hi runs.fits).of_skip
  · rw [h.tick_of_go runs go, h.tick_of_go runs go]
    have hsucc : m.skip.successor { random := random' } op m.word =
        m.skip.successor { random } op m.word := by
      refine successor_congr_random fun hop => next ?_
      subst hop
      exact runs.fits
    rw [hsucc]

/-- The digits of V2 go to 0x300 and behind it. -/
theorem tick_footprint_digits :
    let program := [0xA3, 0x00, 0x62, 0x7B, 0xF2, 0x33]
    let m := run {} initial [.write 0x200 program, .tick, .tick]
    (m.tick {}).1 = .ok () ∧ ∃ w, m.fetch = .ok w ∧ Footprint w m (m.tick {}).2 ∧
      ∀ random', (Fits "CXNN" w → random' m.drawn = 0) →
        m.tick { random := random' } = m.tick {} := by
  have done : ((run {} initial [.write 0x200 [0xA3, 0x00, 0x62, 0x7B, 0xF2, 0x33], .tick,
      .tick]).tick {}).1 = .ok () := by
    decide +kernel
  exact ⟨done, tick_footprint (fun _ => 0) _ done⟩

end Chip8.Interpreter
