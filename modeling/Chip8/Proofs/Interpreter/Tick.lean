import Chip8.Proofs.Interpreter.Successor

/-!
What a tick can do.

`tick_eq` runs a tick by the decision of its operation. `Outcome` lists the six ways in which it can
end, each with all that led there; what is true of every tick is proved by going through them.
-/

namespace Chip8.Interpreter

variable {hw : Hardware} {m after : Interpreter} {o : Except Fault Unit}

/-- Taking the program counter back undoes the skip of the instruction itself. -/
lemma setPc_skip (m : Interpreter) : m.skip.setPc m.registers.pc = m := rfl

lemma residue_of_isReported {f : Fault} (h : f.isReported = true) : m.residue f = m := by
  cases f with
  | stackIndex => cases h
  | _ => rfl

/-! ### Fetching -/

/-- The word of the two bytes at a place, high byte first. -/
def wordAt (m : Interpreter) (p : Nat) : Word :=
  .ofBytes (m.memory.bytes[p]?.getD 0) (m.memory.bytes[p + 1]?.getD 0)

lemma load_of_inside {address : Int} (h : 0 ≤ address ∧ address < 4096) :
    m.memory.load address = .ok (m.memory.bytes[address.toNat]?.getD 0) := by
  have hp : address.toNat < Region.main.length := by simp only [Region.main]; omega
  rw [Memory.load_eq_ok_iff]
  refine ⟨by simp only [Region.main]; omega, ?_⟩
  rw [show address - (Region.main.start : Int) = address by simp [Region.main],
    Vector.getElem?_eq_getElem hp, Option.getD_some]

lemma load_of_outside {address : Int} (h : ¬(0 ≤ address ∧ address < 4096)) :
    m.memory.load address = .error (.address address Region.main) := by
  rw [Memory.load, Memory.place_of_outside (by simp only [Region.main]; omega)]
  rfl

/-- A word is fetched from every address up to the last but one, and from no other. -/
theorem fetch_eq (h : 0 ≤ m.registers.pc) :
    m.fetch = if m.registers.pc ≤ 0xFFE then .ok (m.wordAt m.registers.pc.toNat)
      else .error (.memory (.address (max m.registers.pc 0x1000) Region.main)) := by
  rw [fetch, Memory.loadWord]
  by_cases hin : m.registers.pc ≤ 0xFFE
  · rw [if_pos hin, load_of_inside (by omega), load_of_inside (by omega),
      show (m.registers.pc + 1).toNat = m.registers.pc.toNat + 1 by omega]
    rfl
  rw [if_neg hin]
  by_cases hlast : m.registers.pc = 0xFFF
  · rw [hlast, load_of_inside (by decide), load_of_outside (by decide)]
    rfl
  · rw [load_of_outside (by omega), max_eq_left (by omega)]
    rfl

/-! ### Outcomes -/

/-- The decision of a row, with the program counter behind the instruction. -/
def runRow (m : Interpreter) (hw : Hardware) (w : Word) (row : Instruction) :
    Except Fault Unit × Interpreter :=
  match row.routine with
  | .missing name => (.error (.missingRoutine name), m.skip)
  | .known op =>
    match m.skip.refusal op w with
    | some f => (.error f, if f.isReported then m else m.skip.residue f)
    | none => (.ok (), m.skip.successor hw op w)

theorem tick_eq (hw : Hardware) (m : Interpreter) :
    m.tick hw = match m.fetch with
      | .error f => (.error f, m)
      | .ok w => match hw.table.decode w with
        | none => (.error (.unimplemented w m.registers.pc), m)
        | some row => m.runRow hw w row := by
  unfold tick
  rw [step, Action.run_bind, Action.run_get]
  simp only [Action.run_bind, Action.run_require]
  rcases m.fetch with f | w
  · rfl
  simp only [Action.run_modify]
  rcases hw.table.decode w with _ | row
  · rfl
  simp only [runRow]
  rcases row.routine with op | name
  · simp only [Action.run_tryCatch]
    rw [decides_exec hw op w]
    rcases h : m.skip.refusal op w with _ | f
    · rfl
    · by_cases hf : f.isReported = true
      · simp only [hf, residue_of_isReported hf, if_true, Action.run_bind, run_jumpTo, setPc_skip,
          Action.run_throw]
      · simp only [hf]
        rfl
  · rfl

/-- The ways in which a tick ends. -/
inductive Outcome (hw : Hardware) (m : Interpreter) : Except Fault Unit → Interpreter → Prop
  | unfetched {f : Fault} (fetched : m.fetch = .error f) : Outcome hw m (.error f) m
  | unknown {w : Word} (fetched : m.fetch = .ok w) (decoded : hw.table.decode w = none) :
      Outcome hw m (.error (.unimplemented w m.registers.pc)) m
  | missing {w : Word} {row : Instruction} {name : Text} (fetched : m.fetch = .ok w)
      (decoded : hw.table.decode w = some row) (routine : row.routine = .missing name) :
      Outcome hw m (.error (.missingRoutine name)) m.skip
  | refused {w : Word} {row : Instruction} {op : Operation} {f : Fault} (fetched : m.fetch = .ok w)
      (decoded : hw.table.decode w = some row) (routine : row.routine = .known op)
      (refused : m.skip.refusal op w = some f) (reported : f.isReported = true) :
      Outcome hw m (.error f) m
  | slipped {w : Word} {row : Instruction} {op : Operation} {f : Fault} (fetched : m.fetch = .ok w)
      (decoded : hw.table.decode w = some row) (routine : row.routine = .known op)
      (refused : m.skip.refusal op w = some f) (reported : ¬f.isReported = true) :
      Outcome hw m (.error f) (m.skip.residue f)
  | done {w : Word} {row : Instruction} {op : Operation} (fetched : m.fetch = .ok w)
      (decoded : hw.table.decode w = some row) (routine : row.routine = .known op)
      (refused : m.skip.refusal op w = none) :
      Outcome hw m (.ok ()) (m.skip.successor hw op w)

theorem outcome_of_tick (h : m.tick hw = (o, after)) : Outcome hw m o after := by
  rw [tick_eq] at h
  rcases hf : m.fetch with f | w <;> simp only [hf] at h
  · cases h
    exact .unfetched hf
  rcases hd : hw.table.decode w with _ | row <;> simp only [hd, runRow] at h
  · cases h
    exact .unknown hf hd
  rcases hr : row.routine with op | name <;> simp only [hr] at h
  · rcases hs : m.skip.refusal op w with _ | f <;> simp only [hs] at h
    · cases h
      exact .done hf hd hr hs
    · by_cases hf' : f.isReported = true
      · rw [if_pos hf'] at h
        cases h
        exact .refused hf hd hr hs hf'
      · rw [if_neg hf'] at h
        cases h
        exact .slipped hf hd hr hs hf'
  · cases h
    exact .missing hf hd hr

end Chip8.Interpreter
