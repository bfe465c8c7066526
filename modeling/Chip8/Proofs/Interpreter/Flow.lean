import Chip8.Proofs.Interpreter.Words

/-!
Where a program goes on.

A tick moves the program counter before its operation starts, and operations move it again: jumps
and returns set it, skips add to it, and waiting for a key takes it back. `GoesTo` says where all of
this leads, by the patterns as they are written and by the state before the tick. Only a few
operations are in it by name, and no other one moves the program counter (`pc_successor_of_on`); a
word that can be run leads to one address, and the tick to the same (`goes_on`).
-/

namespace Chip8.Interpreter

open Pattern (Fits)

variable {hw : Hardware} {m : Interpreter} {w : Word} {op : Operation} {random : Nat → UInt8}

/-- A word jumps, calls or returns. -/
inductive Jumps (w : Word) : Prop
  | jump (reads : Fits "1NNN" w)
  | call (reads : Fits "2NNN" w)
  | offset (reads : Fits "BNNN" w)
  | back (reads : Fits "00EE" w)

/-- A word skips the next instruction. -/
inductive Skips (m : Interpreter) (w : Word) : Prop
  | equal (reads : Fits "3XNN" w) (holds : m.reg w.x = w.nn)
  | notEqual (reads : Fits "4XNN" w) (holds : m.reg w.x ≠ w.nn)
  | same (reads : Fits "5XY0" w) (holds : m.reg w.x = m.reg w.y)
  | different (reads : Fits "9XY0" w) (holds : m.reg w.x ≠ m.reg w.y)
  | pressed {k : Fin 16} (reads : Fits "EX9E" w) (names : (m.reg w.x).toNat = k)
      (down : entry m.keys k = true)
  | released {k : Fin 16} (reads : Fits "EXA1" w) (names : (m.reg w.x).toNat = k)
      (up : entry m.keys k = false)

/-- A word waits for a key, and none is down. -/
structure Waits (m : Interpreter) (w : Word) : Prop where
  reads : Fits "FX0A" w
  idle : ∀ k, entry m.keys k = false

/-- The address that a word leads to. -/
inductive GoesTo (m : Interpreter) (w : Word) : Int → Prop
  | jump (reads : Fits "1NNN" w) : GoesTo m w w.nnn
  | call (reads : Fits "2NNN" w) : GoesTo m w w.nnn
  /-- The sum may lie beyond memory. -/
  | offset (reads : Fits "BNNN" w) : GoesTo m w ((m.reg offsetRegister).toNat + w.nnn)
  | back {k : Fin 16} (reads : Fits "00EE" w) (top : m.registers.sp = k + 1) :
      GoesTo m w (entry m.registers.stack k)
  | skip (skips : m.Skips w) : GoesTo m w (m.registers.pc + 4)
  | wait (waits : m.Waits w) : GoesTo m w m.registers.pc
  | on (jumps : ¬Jumps w) (skips : ¬m.Skips w) (waits : ¬m.Waits w) :
      GoesTo m w (m.registers.pc + 2)

/-! ### What is asked of a state -/

lemma namesPressed_of_names {x k : Fin 16} (names : (m.reg x).toNat = k) :
    m.namesPressed x = entry m.keys k := by
  rw [namesPressed, names, Vector.getElem?_eq_getElem k.isLt]
  rfl

lemma firstKey?_eq_none_iff : m.firstKey? = none ↔ ∀ k, entry m.keys k = false := by
  simp only [firstKey?, List.findIdx?_eq_none_iff, beq_eq_false_iff_ne, ne_eq, Bool.not_eq_true]
  constructor
  · exact fun h k => h _ (by simp [entry_eq_getElem])
  · intro h a ha
    obtain ⟨k, hk, rfl⟩ := List.mem_iff_getElem.1 ha
    exact h ⟨k, by simpa using hk⟩

/-! ### Where an operation leaves the program counter -/

lemma successor_of_skips (fits : Fits (Table.patternOf op) w) (skips : m.Skips w) :
    m.skip.successor hw op w = m.skip.skip := by
  have hop {op' : Operation} (reads : Fits (Table.patternOf op') w) : op = op' :=
    Table.eq_of_fits fits reads
  have hskip {condition : Bool} (holds : condition = true) :
      m.skip.skipWhen condition = m.skip.skip := if_pos holds
  cases skips with
  | equal reads holds =>
    obtain rfl : op = .skipEqual := hop reads
    exact hskip (beq_iff_eq.2 holds)
  | notEqual reads holds =>
    obtain rfl : op = .skipNotEqual := hop reads
    exact hskip (bne_iff_ne.2 holds)
  | same reads holds =>
    obtain rfl : op = .skipSame := hop reads
    exact hskip (beq_iff_eq.2 holds)
  | different reads holds =>
    obtain rfl : op = .skipDifferent := hop reads
    exact hskip (bne_iff_ne.2 holds)
  | pressed reads names down =>
    obtain rfl : op = .skipPressed := hop reads
    exact hskip ((namesPressed_of_names names).trans down)
  | released reads names up =>
    obtain rfl : op = .skipReleased := hop reads
    exact hskip (congrArg (!·) ((namesPressed_of_names names).trans up))

/-- A word that is no jump, skips nothing and waits for nothing leads on, whatever else it does. -/
lemma pc_successor_of_on (fits : Fits (Table.patternOf op) w)
    (go : m.skip.refusal op w = none) (jumps : ¬Jumps w) (skips : ¬m.Skips w)
    (waits : ¬m.Waits w) :
    (m.skip.successor hw op w).registers.pc = m.skip.registers.pc := by
  have hstay {condition : Bool} (fails : ¬condition = true) :
      (m.skip.skipWhen condition).registers.pc = m.skip.registers.pc := by
    rw [skipWhen, if_neg fails]
  have named (go : m.skip.keyRefusal w.x = none) : ∃ k : Fin 16, (m.reg w.x).toNat = k :=
    ⟨⟨_, keyRefusal_eq_none_iff.1 go⟩, rfl⟩
  -- what is not named here sets other parts of the processor only
  cases op with
  | jump => exact absurd (.jump fits) jumps
  | call => exact absurd (.call fits) jumps
  | jumpOffset => exact absurd (.offset fits) jumps
  | ret => exact absurd (.back fits) jumps
  | skipEqual => exact hstay fun holds => skips (.equal fits (beq_iff_eq.1 holds))
  | skipNotEqual => exact hstay fun holds => skips (.notEqual fits (bne_iff_ne.1 holds))
  | skipSame => exact hstay fun holds => skips (.same fits (beq_iff_eq.1 holds))
  | skipDifferent => exact hstay fun holds => skips (.different fits (bne_iff_ne.1 holds))
  | skipPressed =>
    obtain ⟨k, names⟩ := named go
    refine hstay fun holds => skips (.pressed fits names ?_)
    rwa [← namesPressed_of_names names]
  | skipReleased =>
    obtain ⟨k, names⟩ := named go
    refine hstay fun holds => skips (.released fits names ?_)
    rw [← namesPressed_of_names names]
    exact (Bool.not_eq_true' _).mp holds
  | awaitKey =>
    have hkey : m.firstKey? ≠ none := fun idle => waits ⟨fits, firstKey?_eq_none_iff.1 idle⟩
    obtain ⟨k, hk⟩ := Option.ne_none_iff_exists'.1 hkey
    have hsame : m.skip.firstKey? = some k := hk
    simp only [successor, hsame]
    rfl
  | _ => rfl

namespace InRange

/-- The address that a word leads to is where its operation leaves the program counter. -/
lemma pc_of_goesTo (h : m.InRange) (runs : m.Runs op) (go : m.skip.refusal op m.word = none)
    {a : Int} (goes : m.GoesTo m.word a) :
    (m.skip.successor hw op m.word).registers.pc = a := by
  have contained : m.Contained hw := h.contained
  obtain ⟨next, skipped, again⟩ := contained.masks _ (h.fetch_word runs.inside)
  have hop {op' : Operation} (reads : Fits (Table.patternOf op') m.word) : op = op' :=
    Table.eq_of_fits runs.fits reads
  cases goes with
  | jump reads =>
    obtain rfl : op = .jump := hop reads
    rfl
  | call reads =>
    obtain rfl : op = .call := hop reads
    rfl
  | offset reads =>
    obtain rfl : op = .jumpOffset := hop reads
    rfl
  | @back k reads top =>
    obtain rfl : op = .ret := hop reads
    have htop : m.skip.registers.sp - 1 = k := by
      change m.registers.sp - 1 = k
      omega
    change m.skip.registers.stack[m.skip.registers.sp - 1]?.getD 0 = _
    rw [htop, Vector.getElem?_eq_getElem k.isLt]
    rfl
  | skip skips => rw [successor_of_skips runs.fits skips, skipped]
  | wait waits =>
    obtain rfl : op = .awaitKey := hop waits.reads
    have hidle : m.skip.firstKey? = none := firstKey?_eq_none_iff.2 waits.idle
    rw [Interpreter.successor, hidle]
    exact again
  | on jumps skips waits => rw [pc_successor_of_on runs.fits go jumps skips waits, next]

/-- A word that can be run leads somewhere. -/
lemma exists_goesTo (runs : m.Runs op) (go : m.skip.refusal op m.word = none) :
    ∃ a, m.GoesTo m.word a := by
  by_cases jumps : Jumps m.word
  · cases jumps with
    | jump reads => exact ⟨_, .jump reads⟩
    | call reads => exact ⟨_, .call reads⟩
    | offset reads => exact ⟨_, .offset reads⟩
    | back reads =>
      obtain rfl : op = .ret := Table.eq_of_fits runs.fits reads
      obtain ⟨h0, hsp⟩ : 0 < m.registers.sp ∧ m.registers.sp ≤ 16 :=
        returnRefusal_eq_none_iff (m := m.skip).1 go
      have hlt : m.registers.sp - 1 < 16 := by omega
      exact ⟨_, .back (k := ⟨m.registers.sp - 1, hlt⟩) reads (by simp only; omega)⟩
  by_cases skips : m.Skips m.word
  · exact ⟨_, .skip skips⟩
  by_cases waits : m.Waits m.word
  · exact ⟨_, .wait waits⟩
  · exact ⟨_, .on jumps skips waits⟩

end InRange

/-- **Where a program goes on.** Take any processor that a host can bring about, with the standard
table. A tick that succeeds runs the word at the program counter and leaves the program counter
where that word leads by its pattern, the registers, the keys and the stack, and nowhere else. No
address is reduced, also where it lies beyond memory. -/
theorem goes_on (random : Nat → UInt8) (requests : List Request)
    (done : ((run { random } initial requests).tick { random }).1 = .ok ()) :
    let m := run { random } initial requests
    ∃ w, m.fetch = .ok w ∧ ∀ a, m.GoesTo w a ↔ a = (m.tick { random }).2.registers.pc := by
  intro m
  have h : m.InRange := inRange_initial.run requests
  obtain ⟨op, runs, go⟩ := h.exists_runs_of_done done
  refine ⟨m.word, h.fetch_word runs.inside, fun a => ?_⟩
  rw [h.tick_of_go runs go]
  constructor
  · exact fun goes => (h.pc_of_goesTo runs go goes).symm
  · rintro rfl
    obtain ⟨a, goes⟩ := InRange.exists_goesTo runs go
    rw [h.pc_of_goesTo runs go goes]
    exact goes

/-- The last word of memory skips what would follow, and the program goes on beyond memory. -/
theorem goes_on_behind_memory :
    let m := run {} initial [.write 0x200 [0x1F, 0xFE], .write 0xFFE [0x30, 0x00], .tick]
    (m.tick {}).1 = .ok () ∧ (m.tick {}).2.registers.pc = 0x1002 ∧ ∃ w, m.fetch = .ok w ∧
      ∀ a, m.GoesTo w a ↔ a = (m.tick {}).2.registers.pc := by
  have trace : ((run {} initial [.write 0x200 [0x1F, 0xFE], .write 0xFFE [0x30, 0x00],
        .tick]).tick {}).1 = .ok () ∧
      ((run {} initial [.write 0x200 [0x1F, 0xFE], .write 0xFFE [0x30, 0x00],
        .tick]).tick {}).2.registers.pc = 0x1002 := by
    decide +kernel
  exact ⟨trace.1, trace.2, goes_on (fun _ => 0) _ trace.1⟩

end Chip8.Interpreter
