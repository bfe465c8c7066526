import Chip8.Proofs.Interpreter.Atomic
import Chip8.Proofs.Interpreter.Interchange

/-!
Processors that have failed.

Whether a tick fails is decided by its word and by what its operation refuses. Neither depends on
the timers or the keys, as long as the delay timer is a byte (`answer_of_sameInside`), and a tick
that fails changes nothing. So nothing that a host does short of writing into the processor leads
past a fault (`InRange.failsAgain`). The exception is a tick whose row names a missing routine: it
has skipped its word already, and the next tick runs what follows.
-/

namespace Chip8.Interpreter

variable {hw : Hardware} {m : Interpreter} {f : Fault} {delay sound : Int} {keys : Vector Bool 16}
  {later : List Request}

/-- Whether a host goes on with a processor as it is: it runs it, and keys go up and down. -/
def Request.goesOn : Request → Bool
  | .tick | .timers | .setKey .. => true
  | .load _ | .reset | .write .. | .store .. => false

/-- The processor with other timers and keys. -/
def withOutside (m : Interpreter) (delay sound : Int) (keys : Vector Bool 16) : Interpreter :=
  { m with registers := { m.registers with delay, sound }, keys }

/-- Two processors are the same but for the timers and the keys. -/
def SameInside (m m' : Interpreter) : Prop :=
  ∃ delay sound keys, m' = m.withOutside delay sound keys

/-- After a tick that failed with a fault and a further history, the next tick fails with the same
fault at the same place, and nothing but timers and keys is different. -/
structure FailsAgain (hw : Hardware) (m : Interpreter) (f : Fault) (later : List Request) :
    Prop where
  fails : ((run hw (m.tick hw).2 later).tick hw).1 = .error f
  pc : ((run hw (m.tick hw).2 later).tick hw).2.registers.pc = m.registers.pc
  rest : m.SameInside ((run hw (m.tick hw).2 later).tick hw).2

/-! ### Ticks that change nothing -/

namespace SameInside

variable {m' : Interpreter}

lemma refl (m : Interpreter) : m.SameInside m := ⟨_, _, _, rfl⟩

lemma pc (same : m.SameInside m') : m'.registers.pc = m.registers.pc := by
  obtain ⟨_, _, _, rfl⟩ := same
  rfl

lemma fetch (same : m.SameInside m') : m'.fetch = m.fetch := by
  obtain ⟨_, _, _, rfl⟩ := same
  rfl

lemma perform (same : m.SameInside m') {r : Request} (goes : r.goesOn = true)
    (still : r = .tick → (m'.tick hw).2 = m') : m.SameInside (r.perform hw m').2 := by
  cases r with
  | tick =>
    rw [Request.perform, still rfl]
    exact same
  | timers =>
    obtain ⟨delay, sound, keys, rfl⟩ := same
    exact ⟨_, _, keys, rfl⟩
  | setKey index pressed =>
    obtain ⟨keys', hkeys⟩ := m'.exists_keys_of_setKeyAt index pressed
    obtain ⟨delay, sound, keys, rfl⟩ := same
    exact ⟨delay, sound, keys', hkeys⟩
  | load | reset | write | store => cases goes

/-- Where the ticks of a history change nothing, the rest of it changes timers and keys only. -/
lemma run {P : Interpreter → Prop} (same : m.SameInside m') (h' : m'.InRange)
    (goes : ∀ r ∈ later, r.goesOn = true)
    (still : ∀ m', m'.InRange → m.SameInside m' → P m' → (m'.tick hw).2 = m')
    (ticks : AtTicks hw P m' later) : m.SameInside (Interpreter.run hw m' later) := by
  induction later generalizing m' with
  | nil => exact same
  | cons r later ih =>
    rw [List.forall_mem_cons] at goes
    have hfirst := same.perform goes.1 fun first => still m' h' same (ticks.head first)
    exact ih hfirst (h'.perform r) goes.2 ticks.tail

end SameInside

/-! ### What a tick answers -/

lemma beside_withOutside (delay sound : Int) (keys : Vector Bool 16) :
    Beside (·.withOutside delay sound keys) where
  pc _ := rfl
  memory _ := rfl
  setPc _ _ := rfl
  residue _ f := by cases f <;> rfl

/-- What a tick answers is decided by its word and by what its operation refuses. -/
lemma answer_of_beside {g : Interpreter → Interpreter} (h : Beside g) (hw : Hardware)
    (same : ∀ op w, (g m.skip).refusal op w = m.skip.refusal op w) :
    ((g m).tick hw).1 = (m.tick hw).1 := by
  rw [tick_eq, tick_eq, h.fetch, h.pc]
  rcases m.fetch with f | w
  · rfl
  simp only
  rcases hw.table.decode w with _ | row
  · rfl
  simp only [runRow, h.skip, same]
  rcases row.routine with op | name
  · simp only
    rcases m.skip.refusal op w with _ | f <;> rfl
  · rfl

lemma refusal_withOutside (byte : 0 ≤ m.registers.delay ∧ m.registers.delay < 256)
    (byte' : 0 ≤ delay ∧ delay < 256) (op : Operation) (w : Word) :
    (m.withOutside delay sound keys).refusal op w = m.refusal op w := by
  cases op with
  | readDelay => exact (if_pos byte').trans (if_pos byte).symm
  | _ => rfl

/-- **The timers and the keys do not decide whether a tick fails**, by whatever table it runs. -/
theorem answer_of_sameInside {m' : Interpreter} (h : m.InRange) (h' : m'.InRange)
    (same : m.SameInside m') : (m'.tick hw).1 = (m.tick hw).1 := by
  obtain ⟨delay, sound, keys, rfl⟩ := same
  have byte : 0 ≤ m.skip.registers.delay ∧ m.skip.registers.delay < 256 :=
    h.delay.imp_right Int.lt_add_one_of_le
  have byte' : 0 ≤ delay ∧ delay < 256 := h'.delay.imp_right Int.lt_add_one_of_le
  have answer := answer_of_beside (beside_withOutside delay sound keys) hw
    (refusal_withOutside byte byte')
  exact answer

/-! ### After a fault -/

/-- A tick whose row names a missing routine skips its word and fails. -/
lemma tick_of_missesRoutine (misses : m.MissesRoutine hw) :
    ∃ name, m.tick hw = (.error (.missingRoutine name), m.skip) := by
  obtain ⟨w, row, name, fetched, decoded, routine⟩ := misses
  refine ⟨name, ?_⟩
  rw [tick_eq, fetched]
  simp only [decoded, runRow, routine]

namespace InRange

variable {m' : Interpreter}

/-- Other timers and keys neither lead past a fault nor change it. -/
lemma tick_of_sameInside (h : m.InRange) (present : ¬m.MissesRoutine hw)
    (fault : (m.tick hw).1 = .error f) (h' : m'.InRange) (same : m.SameInside m') :
    m'.tick hw = (.error f, m') := by
  have fails : (m'.tick hw).1 = .error f := (answer_of_sameInside h h' same).trans fault
  have present' : ¬m'.MissesRoutine hw := by
    rwa [MissesRoutine, same.fetch]
  exact Prod.ext fails (h'.eq_of_fault_of_present present' fails)

lemma failsAgain (h : m.InRange) (present : ¬m.MissesRoutine hw)
    (fault : (m.tick hw).1 = .error f) (goes : ∀ r ∈ later, r.goesOn = true) :
    FailsAgain hw m f later := by
  have same : m.SameInside (Interpreter.run hw m later) := by
    refine (SameInside.refl m).run (P := fun _ => True) h goes (fun m' h' same _ => ?_)
      fun _ _ => trivial
    rw [h.tick_of_sameInside present fault h' same]
  have again := h.tick_of_sameInside present fault (h.run later) same
  have kept := h.eq_of_fault_of_present present fault
  constructor
  · rw [kept, again]
  · rw [kept, again, same.pc]
  · rw [kept, again]
    exact same

end InRange

/-- **No fault is run past, unless a routine is missing.** Take any instruction table, any source of
random bytes, and any processor that a host can bring about, and let its next tick fail. If the row
of the word has its routine, the tick changes nothing, and whatever ticks, steps of the timers and
keys come later, the next tick fails with the same fault at the same place. If the routine is
missing, the tick fails with that and has skipped the word, so that the next one runs what
follows. -/
theorem fault_repeats (hw : Hardware) (requests : List Request) {f : Fault}
    (fault : ((run hw initial requests).tick hw).1 = .error f) :
    let m := run hw initial requests
    (¬m.MissesRoutine hw → (m.tick hw).2 = m ∧
      ∀ later, (∀ r ∈ later, r.goesOn = true) → FailsAgain hw m f later) ∧
    (m.MissesRoutine hw → (∃ name, f = .missingRoutine name) ∧ (m.tick hw).2 = m.skip ∧
      m.skip.registers.pc = m.registers.pc + 2) := by
  intro m
  have h : m.InRange := inRange_initial.run requests
  constructor
  · intro present
    exact ⟨h.eq_of_fault_of_present present fault, fun later => h.failsAgain present fault⟩
  · intro misses
    obtain ⟨name, htick⟩ := tick_of_missesRoutine misses
    obtain ⟨w, _, _, fetched, -, -⟩ := misses
    have hf : f = .missingRoutine name := by
      rw [htick] at fault
      exact (Except.error.inj fault).symm
    exact ⟨⟨name, hf⟩, by rw [htick], (h.skip_of_fetch fetched).2⟩

/-- A key that there is not is asked for again, also when keys have gone down and the timers have
counted. -/
theorem fault_repeats_key :
    let m := run {} initial [.write 0x200 [0x60, 0x10, 0xE0, 0x9E], .tick]
    (m.tick {}).1 = .error (.invalidKey 0 0x10) ∧
      FailsAgain {} m (.invalidKey 0 0x10) [.setKey 0 true, .timers, .tick] := by
  have fault : ((run {} initial [.write 0x200 [0x60, 0x10, 0xE0, 0x9E], .tick]).tick {}).1 =
      .error (.invalidKey 0 0x10) := by
    decide +kernel
  have present : ¬(run {} initial [.write 0x200 [0x60, 0x10, 0xE0, 0x9E],
      .tick]).MissesRoutine {} := by
    rintro ⟨w, row, name, -, decoded, routine⟩
    obtain ⟨op, hop⟩ := Table.exists_known_of_mem_standard row
      ((Table.decode_standard_iff w row).1 decoded).1
    cases hop.symm.trans routine
  exact ⟨fault, ((fault_repeats {} _ fault).1 present).2 _ (by decide)⟩

/-- A jump without a routine is run past: the next tick succeeds. -/
theorem not_failsAgain_jump :
    let lines : List (Text × Text × Text) :=
      [("1NNN", "JP", "op_missing"), ("6XNN", "LD", "op_ld_imm")]
    ∃ table, Table.ofTexts lines = .ok table ∧
      let m := run { table } initial [.load [0x12, 0x00, 0x60, 0x05]]
      (m.tick { table }).1 = .error (.missingRoutine "op_missing") ∧
        ((m.tick { table }).2.tick { table }).1 = .ok () ∧
        ¬FailsAgain { table } m (.missingRoutine "op_missing") [] := by
  intro lines
  have built : (Table.ofTexts lines).toOption.isSome = true := by decide +kernel
  rcases ht : Table.ofTexts lines with e | table
  · rw [ht] at built
    cases built
  have htable : table = (Table.ofTexts lines).toOption.getD Table.standard := by
    rw [ht]
    rfl
  have trace : ((run { table } initial [.load [0x12, 0x00, 0x60, 0x05]]).tick { table }).1 =
        .error (.missingRoutine "op_missing") ∧
      (((run { table } initial [.load [0x12, 0x00, 0x60, 0x05]]).tick { table }).2.tick
        { table }).1 = .ok () := by
    rw [htable]
    decide +kernel
  refine ⟨table, rfl, trace.1, trace.2, fun again => ?_⟩
  cases trace.2.symm.trans again.fails

end Chip8.Interpreter
