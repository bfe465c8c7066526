import Chip8.Proofs.Interpreter.Words

/-!
When a tick fails, and with which fault.

`Faults` lists the conditions in terms of the state before the tick and of the patterns as they are
written. They are exact: a tick of a reachable processor fails with a fault if and only if the fault
is listed (`tick_faults_iff`), so at most one is.
-/

namespace Chip8.Interpreter

open Pattern (Fits)

/-- A word moves so many bytes between memory and the screen or the registers. -/
inductive Moves (w : Word) : Nat → Prop
  | sprite (reads : Fits "DXYN" w) : Moves w w.n
  | digits (reads : Fits "FX33" w) : Moves w 3
  | store (reads : Fits "FX55" w) : Moves w (w.x + 1)
  | load (reads : Fits "FX65" w) : Moves w (w.x + 1)

/-- The faults of the next tick. -/
inductive Faults (m : Interpreter) : Fault → Prop
  /-- There is no word at the program counter. -/
  | unfetched (beyond : 0xFFE < m.registers.pc) :
      Faults m (.memory (.address (max m.registers.pc 0x1000) Region.main))
  /-- The word reads as none of the patterns. -/
  | unknown (inside : m.registers.pc ≤ 0xFFE) (unknown : IsUnknown m.word) :
      Faults m (.unimplemented m.word m.registers.pc)
  | underflow (inside : m.registers.pc ≤ 0xFFE) (reads : Fits "00EE" m.word)
      (empty : m.registers.sp = 0) : Faults m (.stackUnderflow m.registers.pc)
  | overflow (inside : m.registers.pc ≤ 0xFFE) (reads : Fits "2NNN" m.word)
      (full : m.registers.sp = 16) : Faults m (.stackOverflow m.registers.pc)
  /-- The register names no key. -/
  | key (inside : m.registers.pc ≤ 0xFFE) (reads : Fits "EX9E" m.word ∨ Fits "EXA1" m.word)
      (large : 15 < (m.reg m.word.x).toNat) : Faults m (.invalidKey m.word.x (m.reg m.word.x))
  /-- The block at the index goes beyond memory. An empty one still has to start in it, or right
  behind it. -/
  | block {count : Nat} (inside : m.registers.pc ≤ 0xFFE) (moves : Moves m.word count)
      (beyond : 4096 < m.registers.i + count) :
      Faults m (.memory (.range m.registers.i count Region.main))

variable {m : Interpreter} {op : Operation} {f : Fault} {random : Nat → UInt8}

lemma InRange.skip_sub_two (h : m.InRange) (inside : m.registers.pc ≤ 0xFFE) :
    m.skip.registers.pc - 2 = m.registers.pc := by
  have hpc := (h.skip_of_fetch (h.fetch_word inside)).2
  omega

lemma Moves.exists_operation {w : Word} {count : Nat} (h : Moves w count) :
    ∃ op, Fits (Table.patternOf op) w ∧ ∀ m, refusal m op w = m.blockRefusal count := by
  cases h with
  | sprite reads => exact ⟨.draw, reads, fun _ => rfl⟩
  | digits reads => exact ⟨.decimal, reads, fun _ => rfl⟩
  | store reads => exact ⟨.storeRegisters, reads, fun _ => rfl⟩
  | load reads => exact ⟨.loadRegisters, reads, fun _ => rfl⟩

lemma faults_of_blockRefusal (h : m.InRange) (inside : m.registers.pc ≤ 0xFFE) {count : Nat}
    (moves : Moves m.word count) (refused : m.skip.blockRefusal count = some f) : m.Faults f := by
  obtain ⟨hout, rfl⟩ := blockRefusal_eq_some_iff.1 refused
  have hi := h.index
  have beyond : ¬(0 ≤ m.registers.i ∧ m.registers.i + count ≤ 4096) := hout
  exact .block inside moves (by omega)

/-- What the operation of a word refuses is listed. -/
lemma faults_of_refusal (h : m.InRange) (runs : m.Runs op)
    (refused : m.skip.refusal op m.word = some f) : m.Faults f := by
  obtain ⟨inside, fits⟩ := runs
  cases op with
  | ret =>
    obtain ⟨empty, rfl⟩ | ⟨hover, -⟩ := returnRefusal_eq_some_iff.1 refused
    · rw [h.skip_sub_two inside]
      exact .underflow inside fits empty
    · exact absurd h.sp (not_le.2 hover)
  | call =>
    obtain ⟨full, rfl⟩ := callRefusal_eq_some_iff.1 refused
    rw [h.skip_sub_two inside]
    exact .overflow inside fits (le_antisymm h.sp full)
  | skipPressed =>
    obtain ⟨large, rfl⟩ := keyRefusal_eq_some_iff.1 refused
    exact .key inside (.inl fits) large
  | skipReleased =>
    obtain ⟨large, rfl⟩ := keyRefusal_eq_some_iff.1 refused
    exact .key inside (.inr fits) large
  | decimal => exact faults_of_blockRefusal h inside (.digits fits) refused
  | storeRegisters => exact faults_of_blockRefusal h inside (.store fits) refused
  | loadRegisters => exact faults_of_blockRefusal h inside (.load fits) refused
  | draw => exact faults_of_blockRefusal h inside (.sprite fits) refused
  | readDelay =>
    have hd := h.delay
    have hout : ¬(0 ≤ m.registers.delay ∧ m.registers.delay < 256) :=
      (delayRefusal_eq_some_iff.1 refused).1
    omega
  | _ => cases refused

namespace InRange

lemma tick_of_refusal (h : m.InRange) (runs : m.Runs op)
    (refused : m.skip.refusal op m.word = some f) : m.tick { random } = (.error f, m) := by
  rw [h.tick_of_runs runs, refused]

/-- A tick fails with every fault that is listed. -/
lemma tick_of_faults (h : m.InRange) (fault : m.Faults f) :
    m.tick { random } = (.error f, m) := by
  cases fault with
  | unfetched beyond => exact h.tick_beyond beyond
  | unknown inside unknown => exact h.tick_unknown inside unknown
  | underflow inside reads empty =>
    refine h.tick_of_refusal (show m.Runs .ret from ⟨inside, reads⟩) ?_
    exact returnRefusal_eq_some_iff.2 (.inl ⟨empty, by rw [h.skip_sub_two inside]⟩)
  | overflow inside reads full =>
    refine h.tick_of_refusal (show m.Runs .call from ⟨inside, reads⟩) ?_
    exact callRefusal_eq_some_iff.2 ⟨full.ge, by rw [h.skip_sub_two inside]⟩
  | key inside reads large =>
    have refused : m.skip.keyRefusal m.word.x = some (.invalidKey m.word.x (m.reg m.word.x)) :=
      keyRefusal_eq_some_iff.2 ⟨large, rfl⟩
    rcases reads with reads | reads
    · exact h.tick_of_refusal (show m.Runs .skipPressed from ⟨inside, reads⟩) refused
    · exact h.tick_of_refusal (show m.Runs .skipReleased from ⟨inside, reads⟩) refused
  | block inside moves beyond =>
    obtain ⟨op, reads, refused⟩ := moves.exists_operation
    refine h.tick_of_refusal ⟨inside, reads⟩ ?_
    rw [refused]
    exact blockRefusal_eq_some_iff.2 ⟨fun hin => absurd hin.2 (not_le.2 beyond), rfl⟩

/-- Every fault of a tick is listed. -/
lemma faults_of_tick (h : m.InRange) (fault : (m.tick { random }).1 = .error f) : m.Faults f := by
  rcases word_cases m with beyond | ⟨inside, unknown⟩ | ⟨op, runs⟩
  · rw [h.tick_beyond beyond] at fault
    cases fault
    exact .unfetched beyond
  · rw [h.tick_unknown inside unknown] at fault
    cases fault
    exact .unknown inside unknown
  · rw [h.tick_of_runs runs] at fault
    rcases hr : m.skip.refusal op m.word with _ | f' <;> rw [hr] at fault <;> cases fault
    exact faults_of_refusal h runs hr

lemma tick_error_iff (h : m.InRange) : (m.tick { random }).1 = .error f ↔ m.Faults f :=
  ⟨h.faults_of_tick, fun fault => by rw [h.tick_of_faults fault]⟩

lemma tick_ok_iff (h : m.InRange) : (m.tick { random }).1 = .ok () ↔ ∀ f, ¬m.Faults f := by
  rcases ho : (m.tick { random }).1 with f | _
  · exact iff_of_false nofun fun hno => hno f (h.faults_of_tick ho)
  · refine iff_of_true rfl fun f fault => ?_
    rw [h.tick_of_faults fault] at ho
    cases ho

end InRange

/-- **When a tick fails.** With the standard table, whatever a host did with the processor before
and whatever bytes are drawn, a tick fails with a fault exactly when the fault is listed for the
state; it succeeds when none is; and it never misses a routine. -/
theorem tick_faults_iff (random : Nat → UInt8) (requests : List Request) :
    let m := run { random } initial requests
    (∀ f, (m.tick { random }).1 = .error f ↔ m.Faults f) ∧
      ((m.tick { random }).1 = .ok () ↔ ∀ f, ¬m.Faults f) ∧
      ∀ name, (m.tick { random }).1 ≠ .error (.missingRoutine name) := by
  intro m
  have h : m.InRange := inRange_initial.run requests
  refine ⟨fun f => h.tick_error_iff, h.tick_ok_iff, fun name hmiss => ?_⟩
  cases h.faults_of_tick hmiss

end Chip8.Interpreter
