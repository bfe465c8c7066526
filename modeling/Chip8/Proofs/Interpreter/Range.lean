import Chip8.Proofs.Interpreter.History

/-!
The ranges of the registers.

No single bound keeps itself: the program counter needs the stack for returns, the stack needs the
fetch for calls, reading the delay needs the timers. `InRange` holds them all, `InRange.successor`
carries them through an operation, `InRange.perform` through a request. `Contained` says what they
rule out: arithmetic on the program counter that wraps around, and faults of a tick other than those
that the processor and its memory report.
-/

namespace Chip8.Interpreter

/-- An address that a call leaves on the stack: two bytes on from where a word can be fetched. -/
def IsReturnAddress (a : Int) : Prop := 2 ≤ a ∧ a ≤ 0x1000

/-- All bounds on a state. A slot beyond the stack pointer was never used or keeps what a call
left there. -/
structure InRange (m : Interpreter) : Prop where
  pc : 0 ≤ m.registers.pc ∧ m.registers.pc ≤ 0x10FE
  index : 0 ≤ m.registers.i ∧ m.registers.i ≤ 0xFFFF
  sp : m.registers.sp ≤ 16
  live : ∀ k : Fin 16, k < m.registers.sp → IsReturnAddress (entry m.registers.stack k)
  slot : ∀ k : Fin 16,
    entry m.registers.stack k = 0 ∨ IsReturnAddress (entry m.registers.stack k)
  delay : 0 ≤ m.registers.delay ∧ m.registers.delay ≤ 255
  sound : 0 ≤ m.registers.sound ∧ m.registers.sound ≤ 255

/-- The sizes of the parts of a state, and the bytes in its registers. -/
structure HasSizes (m : Interpreter) : Prop where
  v : m.registers.v.toList.length = 16 ∧ ∀ k, (entry m.registers.v k).toNat ≤ 255
  stack : m.registers.stack.toList.length = 16
  memory : m.memory.snapshot.length = 4096
  screen : m.screen.toList.length = 2048
  keys : m.keys.toList.length = 16

variable {hw : Hardware} {m : Interpreter}

theorem hasSizes (m : Interpreter) : m.HasSizes where
  v := ⟨m.registers.v.length_toList, fun k => by have := (entry m.registers.v k).toNat_lt; omega⟩
  stack := m.registers.stack.length_toList
  memory := m.memory.bytes.length_toList
  screen := m.screen.length_toList
  keys := m.keys.length_toList

lemma inRange_initial : initial.InRange where
  pc := by decide
  index := by decide
  sp := by decide
  live k h := absurd h (by simp [initial])
  slot k := .inl (entry_replicate 0 k)
  delay := by decide
  sound := by decide

namespace InRange

/-! ### Single changes -/

/-- The bounds look at nothing but the registers, and not at V0 to VF. -/
lemma of_same (h : m.InRange) {after : Interpreter} {v : Vector UInt8 16}
    (same : after.registers = { m.registers with v }) : after.InRange := by
  rcases after with ⟨r, _, _, _, _⟩
  cases same
  exact ⟨h.pc, h.index, h.sp, h.live, h.slot, h.delay, h.sound⟩

lemma setReg (h : m.InRange) (x : Fin 16) (b : UInt8) : (m.setReg x b).InRange := h.of_same rfl

lemma setWithFlag (h : m.InRange) (x : Fin 16) (b : UInt8) (flag : Bool) :
    (m.setWithFlag x b flag).InRange := h.of_same rfl

lemma setPc (h : m.InRange) {pc : Int} (hpc : 0 ≤ pc ∧ pc ≤ 0x10FE) : (m.setPc pc).InRange :=
  { h with pc := hpc }

lemma setIndex (h : m.InRange) {i : Int} (hi : 0 ≤ i ∧ i ≤ 0xFFFF) : (m.setIndex i).InRange :=
  { h with index := hi }

lemma skipWhen (h : m.InRange) (room : m.registers.pc ≤ 0x1000) (condition : Bool) :
    (m.skipWhen condition).InRange := by
  have hpc := h.pc
  cases condition with
  | false => exact h
  | true => exact h.setPc (by omega)

/-- A return goes to a live slot and leaves one less. -/
lemma afterReturn (h : m.InRange) (go : m.returnRefusal = none) : m.afterReturn.InRange := by
  obtain ⟨h0, hsp⟩ := returnRefusal_eq_none_iff.1 go
  have hlt : m.registers.sp - 1 < 16 := by omega
  have top : IsReturnAddress (m.registers.stack[m.registers.sp - 1]?.getD 0) := by
    rw [Vector.getElem?_eq_getElem hlt]
    exact h.live ⟨m.registers.sp - 1, hlt⟩ (by simp only; omega)
  refine { h with pc := ?_, sp := ?_, live := ?_ }
  · exact ⟨by have := top.1; simp only [Interpreter.afterReturn]; omega,
      by have := top.2; simp only [Interpreter.afterReturn]; omega⟩
  · simp only [Interpreter.afterReturn]
    omega
  · intro k hk
    simp only [Interpreter.afterReturn] at hk
    exact h.live k (by omega)

/-- A call makes a slot live and puts the address behind itself into it. -/
lemma afterCall (h : m.InRange) (back : IsReturnAddress m.registers.pc)
    (go : m.callRefusal = none) {address : Nat} (ha : address < 4096) :
    (m.afterCall address).InRange := by
  have hsp : m.registers.sp < 16 := callRefusal_eq_none_iff.1 go
  have slots (k : Fin 16) : entry (m.afterCall address).registers.stack k =
      if m.registers.sp = k then m.registers.pc else entry m.registers.stack k := by
    simp only [entry_eq_getElem, Interpreter.afterCall, Vector.getElem_setIfInBounds]
  refine { h with pc := ?_, sp := ?_, live := ?_, slot := ?_ }
  · simp only [Interpreter.afterCall]
    omega
  · simp only [Interpreter.afterCall]
    omega
  · intro k hk
    rw [slots]
    split
    · exact back
    · simp only [Interpreter.afterCall] at hk
      exact h.live k (by omega)
  · intro k
    rw [slots]
    split
    · exact .inr back
    · exact h.slot k

lemma tickTimers (h : m.InRange) : m.tickTimers.InRange := by
  have hd := h.delay
  have hs := h.sound
  refine { h with delay := ?_, sound := ?_ }
  · simp only [Interpreter.tickTimers]
    split <;> omega
  · simp only [Interpreter.tickTimers]
    split <;> omega

/-! ### Whole operations -/

/-- An operation keeps the bounds when it starts behind a word that could be fetched. -/
theorem successor (h : m.InRange) (back : IsReturnAddress m.registers.pc) {op : Operation}
    {w : Word} (go : m.refusal op w = none) : (m.successor hw op w).InRange := by
  have hx := (m.reg w.x).toNat_lt
  have hnnn := w.nnn_lt
  have room := back.2
  cases op with
  | nop => exact h
  | ret => exact h.afterReturn go
  | call => exact h.afterCall back go hnnn
  | jump => exact h.setPc (by omega)
  | jumpOffset =>
    have h0 := (m.reg offsetRegister).toNat_lt
    exact h.setPc (by omega)
  | skipEqual | skipNotEqual | skipSame | skipDifferent | skipPressed | skipReleased =>
    exact h.skipWhen room _
  | loadIndex => exact h.setIndex (by omega)
  | addIndex => exact h.setIndex (by omega)
  | glyphAddress => exact h.setIndex (by omega)
  | setDelay => exact { h with delay := by simp only [Interpreter.successor]; omega }
  | setSound => exact { h with sound := by simp only [Interpreter.successor]; omega }
  | awaitKey =>
    simp only [Interpreter.successor]
    rcases m.firstKey? with _ | k
    · have hpc := back.1
      exact h.setPc (by omega)
    · exact h.setReg ..
  | _ => exact h.of_same rfl

/-- Before an operation, the program counter is behind a word that was fetched. -/
lemma skip_of_fetch (h : m.InRange) {w : Word} (fetched : m.fetch = .ok w) :
    m.registers.pc ≤ 0xFFE ∧ m.skip.registers.pc = m.registers.pc + 2 := by
  have hpc := h.pc
  rw [fetch_eq hpc.1] at fetched
  split at fetched
  · refine ⟨by omega, ?_⟩
    simp only [skip, Interpreter.setPc]
    omega
  · cases fetched

lemma skip (h : m.InRange) {w : Word} (fetched : m.fetch = .ok w) :
    m.skip.InRange ∧ IsReturnAddress m.skip.registers.pc := by
  have hpc := h.pc
  obtain ⟨room, eq⟩ := h.skip_of_fetch fetched
  have back : IsReturnAddress m.skip.registers.pc := ⟨by omega, by omega⟩
  exact ⟨h.setPc ⟨by have := back.1; omega, by have := back.2; omega⟩, back⟩

/-- Within the bounds, an operation stops with what the processor or its memory reports. -/
lemma isReported_of_refusal (h : m.InRange) {op : Operation} {w : Word} {f : Fault}
    (refused : m.refusal op w = some f) : f.isReported = true := by
  have hsp := h.sp
  have hd := h.delay
  cases op with
  | ret =>
    obtain ⟨-, rfl⟩ | ⟨hover, -⟩ := returnRefusal_eq_some_iff.1 refused
    · rfl
    · omega
  | call =>
    obtain ⟨-, rfl⟩ := callRefusal_eq_some_iff.1 refused
    rfl
  | skipPressed | skipReleased =>
    obtain ⟨-, rfl⟩ := keyRefusal_eq_some_iff.1 refused
    rfl
  | decimal | storeRegisters | loadRegisters | draw =>
    obtain ⟨-, rfl⟩ := blockRefusal_eq_some_iff.1 refused
    rfl
  | readDelay =>
    obtain ⟨hout, -⟩ := delayRefusal_eq_some_iff.1 refused
    omega
  | _ => cases refused

/-- Within the bounds, a fetch fails with what memory reports. -/
lemma isReported_of_unfetched (h : m.InRange) {f : Fault} (unfetched : m.fetch = .error f) :
    f.isReported = true := by
  rw [fetch_eq h.pc.1] at unfetched
  split at unfetched <;> cases unfetched
  rfl

/-! ### Ticks and histories -/

/-- A tick keeps the bounds whether it succeeds or fails, whatever table it runs by. -/
theorem tick (h : m.InRange) : (m.tick hw).2.InRange := by
  rcases ht : m.tick hw with ⟨o, after⟩
  cases outcome_of_tick ht with
  | unfetched | unknown | refused => exact h
  | missing fetched => exact (h.skip fetched).1
  | slipped fetched _ _ refused reported =>
    exact absurd ((h.skip fetched).1.isReported_of_refusal refused) reported
  | done fetched _ _ go => exact (h.skip fetched).1.successor (h.skip fetched).2 go

/-- Within the bounds, a tick fails with nothing but what the processor or its memory reports. -/
theorem isReported_of_tick (h : m.InRange) {f : Fault} (fault : (m.tick hw).1 = .error f) :
    f.isReported = true := by
  rcases ht : m.tick hw with ⟨o, after⟩
  rw [ht] at fault
  subst fault
  cases outcome_of_tick ht with
  | unfetched unfetched => exact h.isReported_of_unfetched unfetched
  | unknown | missing => rfl
  | refused _ _ _ _ reported => exact reported
  | slipped fetched _ _ refused => exact (h.skip fetched).1.isReported_of_refusal refused

theorem perform (h : m.InRange) (r : Request) : (r.perform hw m).2.InRange := by
  have effect := effect_perform hw m r
  generalize (r.perform hw m).2 = after at effect ⊢
  cases effect with
  | tick => exact h.tick
  | timers => exact h.tickTimers
  | reset =>
    rw [reset_eq]
    exact inRange_initial.of_same rfl
  | memory | keys => exact h.of_same rfl

lemma run (h : m.InRange) (requests : List Request) : (run hw m requests).InRange :=
  run_induction h (fun _ r h => h.perform r) requests

end InRange

/-- What the bounds rule out at the next tick. -/
structure Contained (hw : Hardware) (m : Interpreter) : Prop where
  /-- The skip of the instruction, one more skip, and going back to wait for a key. -/
  masks : ∀ w, m.fetch = .ok w →
    m.skip.registers.pc = m.registers.pc + 2 ∧
    m.skip.skip.registers.pc = m.registers.pc + 4 ∧
    (m.skip.registers.pc - 2) % 0x10000 = m.registers.pc
  /-- Two bytes make a number that is a word. -/
  words : ∀ high low : UInt8, m.memory.load m.registers.pc = .ok high →
    m.memory.load (m.registers.pc + 1) = .ok low →
    Word.ofInt (high.toNat * 256 + low.toNat) = .ok (.ofBytes high low)
  /-- A tick fails with nothing but what the processor or its memory reports. -/
  faults : ∀ f, (m.tick hw).1 = .error f → f.isReported = true

lemma ofInt_ofBytes (high low : UInt8) :
    Word.ofInt (high.toNat * 256 + low.toNat) = .ok (.ofBytes high low) := by
  have hh := high.toNat_lt
  have hl := low.toNat_lt
  rw [Word.ofInt, dif_pos (by omega)]
  rfl

lemma InRange.contained (h : m.InRange) : m.Contained hw where
  masks w fetched := by
    have hpc := h.pc
    obtain ⟨room, eq⟩ := h.skip_of_fetch fetched
    refine ⟨eq, ?_, by omega⟩
    rw [Interpreter.skip, Interpreter.setPc, eq]
    simp only
    omega
  words high low _ _ := ofInt_ofBytes high low
  faults _ := h.isReported_of_tick

/-- **Reachable processors stay in range.** Whatever a host does with a new processor, and by
whatever table and source of random bytes it runs, the registers keep their bounds and every part
its size; no mask on the program counter truncates, and no fault but those that the processor and
its memory report leaves a tick. -/
theorem run_inRange (hw : Hardware) (requests : List Request) :
    (run hw initial requests).InRange ∧ (run hw initial requests).HasSizes ∧
      (run hw initial requests).Contained hw :=
  have h := inRange_initial.run requests
  ⟨h, hasSizes _, h.contained⟩

end Chip8.Interpreter
