import Chip8.Proofs.Instruction.Standard
import Chip8.Proofs.Interpreter.Range

/-!
Ticks by the standard table.

A tick of a processor within its ranges comes to one of three equations: there is no word at the
program counter (`tick_beyond`), the word reads as no pattern (`tick_unknown`), or it reads as the
pattern of an operation, which decides (`tick_of_runs`). `word_cases` says that there is no other
case.
-/

namespace Chip8.Interpreter

variable {hw : Hardware} {m : Interpreter} {op : Operation} {random : Nat → UInt8}

/-- The word at the program counter. -/
def word (m : Interpreter) : Word := m.wordAt m.registers.pc.toNat

/-- The word at the program counter can be fetched and reads as the pattern of an operation. -/
structure Runs (m : Interpreter) (op : Operation) : Prop where
  inside : m.registers.pc ≤ 0xFFE
  fits : Pattern.Fits (Table.patternOf op) m.word

/-- No pattern of the standard table reads as a word. -/
def IsUnknown (w : Word) : Prop := ∀ i ∈ Instruction.standard, ¬Pattern.Fits i.pattern.text w

lemma word_cases (m : Interpreter) :
    0xFFE < m.registers.pc ∨ m.registers.pc ≤ 0xFFE ∧ IsUnknown m.word ∨ ∃ op, m.Runs op := by
  rcases lt_or_ge 0xFFE m.registers.pc with hpc | hpc
  · exact .inl hpc
  rcases hd : Table.standard.decode m.word with _ | i
  · exact .inr (.inl ⟨hpc, Table.decode_none_iff.1 hd⟩)
  · obtain ⟨hi, -⟩ := (Table.decode_standard_iff _ _).1 hd
    obtain ⟨op, hop⟩ := Table.exists_known_of_mem_standard i hi
    exact .inr (.inr ⟨op, hpc, Table.decode_known_iff.1 ⟨i, hd, hop⟩⟩)

namespace InRange

lemma fetch_word (h : m.InRange) (inside : m.registers.pc ≤ 0xFFE) : m.fetch = .ok m.word := by
  rw [fetch_eq h.pc.1, if_pos inside]
  rfl

lemma eq_word_of_fetch (h : m.InRange) {w : Word} (fetched : m.fetch = .ok w) :
    m.registers.pc ≤ 0xFFE ∧ w = m.word := by
  have inside := (h.skip_of_fetch fetched).1
  rw [h.fetch_word inside] at fetched
  exact ⟨inside, (Except.ok.inj fetched).symm⟩

theorem tick_beyond (h : m.InRange) (beyond : 0xFFE < m.registers.pc) :
    m.tick hw = (.error (.memory (.address (max m.registers.pc 0x1000) Region.main)), m) := by
  have hf := fetch_eq h.pc.1
  rw [if_neg (by omega)] at hf
  rw [tick_eq, hf]

theorem tick_unknown (h : m.InRange) (inside : m.registers.pc ≤ 0xFFE)
    (unknown : IsUnknown m.word) :
    m.tick { random } = (.error (.unimplemented m.word m.registers.pc), m) := by
  rw [tick_eq, h.fetch_word inside]
  simp only [Table.decode_none_iff.2 unknown]

theorem tick_of_runs (h : m.InRange) (runs : m.Runs op) :
    m.tick { random } = match m.skip.refusal op m.word with
      | some f => (.error f, m)
      | none => (.ok (), m.skip.successor { random } op m.word) := by
  have hf := h.fetch_word runs.inside
  obtain ⟨i, hd, hop⟩ := Table.decode_known_iff.2 runs.fits
  rw [tick_eq, hf]
  simp only [hd, runRow, hop]
  rcases hr : m.skip.refusal op m.word with _ | f
  · rfl
  · simp only [(h.skip hf).1.isReported_of_refusal hr, if_true]

lemma tick_of_go (h : m.InRange) (runs : m.Runs op) (go : m.skip.refusal op m.word = none) :
    m.tick { random } = (.ok (), m.skip.successor { random } op m.word) := by
  rw [h.tick_of_runs runs, go]

/-- A word that was fetched runs the operation whose pattern it reads as, unless that refuses. -/
lemma tick_of_reads (h : m.InRange) {w : Word} (fetched : m.fetch = .ok w)
    (reads : Pattern.Fits (Table.patternOf op) w) (go : m.skip.refusal op w = none) :
    m.tick { random } = (.ok (), m.skip.successor { random } op w) := by
  obtain ⟨inside, rfl⟩ := h.eq_word_of_fetch fetched
  exact h.tick_of_go ⟨inside, reads⟩ go

/-- A jump to where it stands leaves the processor as it is. -/
lemma tick_of_jump_here (h : m.InRange) {w : Word} (fetched : m.fetch = .ok w)
    (reads : Pattern.Fits (Table.patternOf .jump) w) (here : w.nnn = m.registers.pc) :
    m.tick { random } = (.ok (), m) := by
  rw [h.tick_of_reads fetched reads rfl, Interpreter.successor, here]
  exact congrArg _ m.setPc_skip

/-- A tick succeeds unless the operation of its word refuses. -/
lemma done_iff (h : m.InRange) {w : Word} (fetched : m.fetch = .ok w)
    (reads : Pattern.Fits (Table.patternOf op) w) :
    (m.tick { random }).1 = .ok () ↔ m.skip.refusal op w = none := by
  obtain ⟨inside, rfl⟩ := h.eq_word_of_fetch fetched
  rw [h.tick_of_runs ⟨inside, reads⟩]
  rcases m.skip.refusal op m.word with _ | f
  · exact iff_of_true rfl rfl
  · exact iff_of_false nofun nofun

/-- A tick that succeeds runs the operation of its word. -/
lemma exists_runs_of_done (h : m.InRange) (done : (m.tick { random }).1 = .ok ()) :
    ∃ op, m.Runs op ∧ m.skip.refusal op m.word = none := by
  rcases word_cases m with beyond | ⟨inside, unknown⟩ | ⟨op, runs⟩
  · rw [h.tick_beyond beyond] at done
    cases done
  · rw [h.tick_unknown inside unknown] at done
    cases done
  · refine ⟨op, runs, ?_⟩
    rw [h.tick_of_runs runs] at done
    rcases hr : m.skip.refusal op m.word with _ | f
    · rfl
    · rw [hr] at done
      cases done

/-- A tick that fails changes nothing. -/
lemma eq_of_not_done (h : m.InRange) (fails : (m.tick { random }).1 ≠ .ok ()) :
    (m.tick { random }).2 = m := by
  rcases word_cases m with beyond | ⟨inside, unknown⟩ | ⟨op, runs⟩
  · rw [h.tick_beyond beyond]
  · rw [h.tick_unknown inside unknown]
  · rw [h.tick_of_runs runs] at fails ⊢
    rcases hr : m.skip.refusal op m.word with _ | f
    · rw [hr] at fails
      exact absurd rfl fails
    · rfl

end InRange

end Chip8.Interpreter
