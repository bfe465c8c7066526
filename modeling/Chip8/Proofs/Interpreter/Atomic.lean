import Chip8.Proofs.Instruction.Standard
import Chip8.Proofs.Interpreter.Range

/-!
Ticks that fail.

A tick skips its instruction before it knows the operation, so a fault leaves the state as it was
only if the skip is undone and nothing else was changed. Operations decide first
(`decides_exec`), and within the bounds of `InRange` every fault is one that takes the skip back.
A row without an operation is the one exception, and a table whose lines name operations has none.
-/

namespace Chip8.Interpreter

variable {hw : Hardware} {m : Interpreter}

/-- The row of the next word names a routine that there is not. -/
def MissesRoutine (hw : Hardware) (m : Interpreter) : Prop :=
  ∃ w row name, m.fetch = .ok w ∧ hw.table.decode w = some row ∧ row.routine = .missing name

namespace InRange

/-- A tick that fails changes nothing, unless it misses its routine. -/
lemma eq_of_fault_of_present (h : m.InRange) (present : ¬m.MissesRoutine hw) {f : Fault}
    (fault : (m.tick hw).1 = .error f) : (m.tick hw).2 = m := by
  rcases ht : m.tick hw with ⟨o, after⟩
  rw [ht] at fault
  subst fault
  cases outcome_of_tick ht with
  | unfetched | unknown | refused => rfl
  | missing fetched decoded routine => exact absurd ⟨_, _, _, fetched, decoded, routine⟩ present
  | slipped fetched _ _ refused reported =>
    exact absurd ((h.skip fetched).1.isReported_of_refusal refused) reported

lemma eq_of_fault (h : m.InRange)
    (known : ∀ w row, hw.table.decode w = some row → ∃ op, row.routine = .known op) {f : Fault}
    (fault : (m.tick hw).1 = .error f) : (m.tick hw).2 = m := by
  refine h.eq_of_fault_of_present ?_ fault
  rintro ⟨w, row, name, -, decoded, routine⟩
  obtain ⟨op, hop⟩ := known _ _ decoded
  cases hop.symm.trans routine

end InRange

/-- **A tick that fails changes nothing.** This holds of every table whose lines name operations
of the processor, every source of random bytes and every history: registers, stack, timers,
memory, screen, keys and the number of bytes drawn are what they were. -/
theorem tick_atomic {lines : List (Text × Text × Text)} {table : Table}
    (built : Table.ofTexts lines = .ok table) (known : ∀ line ∈ lines, Table.NamesOperation line)
    (random : Nat → UInt8) (requests : List Request) {f : Fault}
    (fault : ((run ⟨table, random⟩ initial requests).tick ⟨table, random⟩).1 = .error f) :
    ((run ⟨table, random⟩ initial requests).tick ⟨table, random⟩).2 =
      run ⟨table, random⟩ initial requests :=
  (inRange_initial.run requests).eq_of_fault
    (fun _ _ => Table.exists_known_of_decode built known) fault

/-- A return that finds the stack empty leaves everything as it was. -/
theorem tick_atomic_return :
    ((run {} initial [.write 0x200 [0x00, 0xEE]]).tick {}).2 =
      run {} initial [.write 0x200 [0x00, 0xEE]] := by
  refine tick_atomic (f := .stackUnderflow 0x200) Table.ofTexts_standardLines
    Table.namesOperation_of_mem_standardLines _ _ ?_
  decide +kernel

end Chip8.Interpreter
