import Chip8.Proofs.Machine.History

/-!
Resets are power cycles.

A machine is set up in two ways: it is made, or it is reset. Both go through `powerOn`, one from a
new processor, the other from one that was reset, and these differ in what was drawn only. So a
machine that was reset, whatever was done with it before, and one that is made with its program and
keypad are twins if their sources go on alike, and twins answer all requests alike (`Twin.run`).
-/

namespace Chip8.Machine

variable {m m' : Machine} {p : Interpreter} {n : Nat} {program : List UInt8} {pad pad' : Keypad}

/-! ### Keys that the processor hears of -/

lemma setKey_setKey (p : Interpreter) (k : Fin 16) (b : Bool) :
    (p.setKey k b).setKey k b = p.setKey k b := by
  simp only [Interpreter.setKey, setEntry, Vector.set_set]

/-- The processor may be told more than once. -/
lemma deliver_map (p : Interpreter) (ls : List Listener) (k : Fin 16) (b : Bool) :
    deliver p (ls.map fun l => ⟨l, k, b⟩) = if .processor ∈ ls then p.setKey k b else p := by
  induction ls generalizing p with
  | nil => rfl
  | cons l ls ih =>
    have hcons : deliver p ((l :: ls).map fun l => ⟨l, k, b⟩) =
        deliver (if l = .processor then p.setKey k b else p) (ls.map fun l => ⟨l, k, b⟩) := rfl
    rw [hcons, ih]
    by_cases hl : l = .processor
    · subst hl
      simp [setKey_setKey]
    · simp [hl, Ne.symm hl]

lemma deliver_tell (hears : .processor ∈ pad.listeners) (p : Interpreter)
    (events : List (Fin 16 × Bool)) :
    deliver p (pad.tell events) = events.foldl (fun p e => p.setKey e.1 e.2) p := by
  induction events generalizing p with
  | nil => rfl
  | cons e events ih =>
    have happend : deliver p (pad.tell (e :: events)) =
        deliver (deliver p (pad.notices e.1 e.2)) (pad.tell events) := List.foldl_append ..
    rw [happend, Keypad.notices, deliver_map, if_pos hears, ih]
    rfl

/-- All that the processor keeps of them are its keys. -/
lemma foldl_setKey (p : Interpreter) (events : List (Fin 16 × Bool)) :
    events.foldl (fun p e => p.setKey e.1 e.2) p =
      { p with keys := Keypad.replay p.keys events } := by
  induction events generalizing p with
  | nil => rfl
  | cons e events ih => exact ih (p.setKey e.1 e.2)

lemma foldl_setKey_withDrawn (events : List (Fin 16 × Bool)) :
    events.foldl (fun p e => p.setKey e.1 e.2) (p.withDrawn n) =
      (events.foldl (fun p e => p.setKey e.1 e.2) p).withDrawn n := by
  rw [foldl_setKey, foldl_setKey]
  rfl

/-! ### Power on -/

/-- The keys that are held are taken over as if they went down one after another. -/
lemma takeKeys_eq_foldl (p : Interpreter) (pad : Keypad) : takeKeys p pad =
    (((List.finRange 16).filter pad.isDown).map fun k => (k, true)).foldl
      (fun p e => p.setKey e.1 e.2) p := by
  rw [takeKeys, List.foldl_map]

lemma takeKeys_withDrawn (p : Interpreter) (n : Nat) (pad : Keypad) :
    takeKeys (p.withDrawn n) pad = (takeKeys p pad).withDrawn n := by
  rw [takeKeys_eq_foldl, takeKeys_eq_foldl, foldl_setKey_withDrawn]

lemma powerOn_withDrawn (p : Interpreter) (n : Nat) (program : List UInt8) (pad : Keypad) :
    powerOn (p.withDrawn n) program pad = (powerOn p program pad).map (·.withDrawn n) := by
  simp only [powerOn]
  by_cases hempty : program.isEmpty = true
  · rw [if_pos hempty, if_pos hempty]
    exact congrArg Except.ok (takeKeys_withDrawn p n pad)
  · rw [if_neg hempty, if_neg hempty, (Interpreter.elsewhere_withDrawn n).load]
    rcases p.load program with f | after
    · rfl
    · exact congrArg Except.ok (takeKeys_withDrawn after n pad)

lemma drawn_of_powerOn {after : Interpreter} (h : powerOn p program pad = .ok after) :
    after.drawn = p.drawn := by
  have hself : powerOn p program pad = (powerOn p program pad).map (·.withDrawn p.drawn) :=
    powerOn_withDrawn p p.drawn program pad
  rw [h] at hself
  have hafter : after = after.withDrawn p.drawn := Except.ok.inj hself
  rw [hafter]
  rfl

/-- Powering on loads something and takes over the keys that are held. -/
lemma exists_memory_of_powerOn {after : Interpreter} (h : powerOn p program pad = .ok after) :
    ∃ memory, after = takeKeys { p with memory } pad := by
  rw [powerOn] at h
  by_cases hempty : program.isEmpty = true
  · rw [if_pos hempty] at h
    exact ⟨p.memory, (Except.ok.inj h).symm⟩
  · rw [if_neg hempty] at h
    obtain ⟨memory, eq⟩ := p.exists_memory_of_load program
    rcases hload : p.load program with f | loaded <;> rw [hload] at h eq
    · cases h
    · obtain rfl : loaded = { p with memory } := eq
      exact ⟨memory, (Except.ok.inj h).symm⟩

/-- A processor powers on with every program that is not too long. -/
lemma exists_powerOn (p : Interpreter) (pad : Keypad) (h : program.length ≤ maxProgramSize) :
    ∃ after, powerOn p program pad = .ok after := by
  obtain ⟨memory, hload⟩ := p.exists_load h
  rw [powerOn, hload]
  split <;> exact ⟨_, rfl⟩

/-- It powers on with no other. -/
lemma length_of_powerOn {after : Interpreter} (h : powerOn p program pad = .ok after) :
    program.length ≤ maxProgramSize := by
  by_contra hlong
  have hempty : ¬program.isEmpty = true := by
    intro hempty
    rw [List.isEmpty_iff.1 hempty] at hlong
    exact hlong (Nat.zero_le _)
  rw [powerOn, if_neg hempty, Interpreter.load, if_pos (not_le.1 hlong)] at h
  cases h

/-! ### Twins -/

/-- Two machines are the same but for the bytes drawn, the sources behind them, and who listens to
the keypad besides the processor; the sources go on alike. -/
structure Twin (m m' : Machine) : Prop where
  interpreter : Interpreter.Twin m.hardware m'.hardware m.interpreter m'.interpreter
  keypad : Keypad.Twin m.keypad m'.keypad
  program : m'.program = m.program
  cycles : m'.cyclesPerFrame = m.cyclesPerFrame
  frames : m'.frames = m.frames

/-- Two machines answer the same, and are twins afterwards. -/
def AnswerAlike {α : Type} (r r' : α × Machine) : Prop := r'.1 = r.1 ∧ Twin r.2 r'.2

namespace Twin

lemma withInterpreter (h : Twin m m') {i i' : Interpreter}
    (hi : Interpreter.Twin m.hardware m'.hardware i i') :
    Twin (m.withInterpreter i) (m'.withInterpreter i') :=
  ⟨hi, h.keypad, h.program, h.cycles, h.frames⟩

theorem runFrame (h : Twin m m') : Logging.Alike AnswerAlike m.runFrame m'.runFrame := by
  rw [Machine.runFrame, Machine.runFrame, h.cycles]
  refine (h.interpreter.ticks m.cyclesPerFrame).bind fun r r' hr => ?_
  rw [hr.outcome]
  rcases r.outcome with f | _
  · exact .pure ⟨rfl, hr.after, h.keypad, h.program, rfl, h.frames⟩
  · refine hr.after.loggedTimers.bind fun i i' hi => ?_
    have hregisters : i'.registers = i.registers := by rw [hi.same]; rfl
    simp only [h.frames, hregisters]
    exact .after _ fun _ => .pure ⟨rfl, hi, h.keypad, h.program, rfl, rfl⟩

theorem onKeypad (h : Twin m m') (r : Keypad.Request) :
    Logging.Alike (fun x x' => x'.1 = x.1 ∧ Twin x.2.2 x'.2.2) (m.onKeypad (r.answer ·))
      (m'.onKeypad (r.answer ·)) := by
  rw [Machine.onKeypad, Machine.onKeypad]
  refine (h.keypad.answer r).bind fun a a' ha => .pure ⟨ha.value, ?_, ha.keypad, h.program,
    h.cycles, h.frames⟩
  obtain ⟨events, he, he'⟩ := ha.notices
  have hdeliver := deliver_tell h.keypad.hears m.interpreter events
  have hdeliver' := deliver_tell h.keypad.hears' m'.interpreter events
  simp only [he, he', hdeliver, hdeliver']
  exact h.interpreter.step (fun p => events.foldl (fun p e => p.setKey e.1 e.2) p)
    fun _ => foldl_setKey_withDrawn events

lemma reset (h : Twin m m') :
    Logging.Alike AnswerAlike (Request.reset.perform m) (Request.reset.perform m') := by
  have htake (p : Interpreter) : takeKeys p m'.keypad = takeKeys p m.keypad := by
    rw [takeKeys, takeKeys, h.keypad.isDown]
  have hpower : powerOn m'.interpreter.reset m'.program m'.keypad =
      powerOn m'.interpreter.reset m.program m.keypad := by
    simp only [powerOn, h.program, htake]
  have hend : Interpreter.EndAlike m.hardware m'.hardware
      (m.interpreter.keepOnFault (powerOn m.interpreter.reset m.program m.keypad))
      (m'.interpreter.keepOnFault (powerOn m'.interpreter.reset m.program m.keypad)) :=
    h.interpreter.keepOnFault (fun p => powerOn p.reset m.program m.keypad)
      fun n => by rw [Interpreter.reset_withDrawn, powerOn_withDrawn]
  simp only [Request.perform, Machine.reset, hpower]
  generalize powerOn m.interpreter.reset m.program m.keypad = r at hend ⊢
  generalize powerOn m'.interpreter.reset m.program m.keypad = r' at hend ⊢
  rcases r with f | i <;> rcases r' with f' | i'
  · obtain rfl : f' = f := Except.error.inj hend.1
    exact .pure ⟨rfl, h⟩
  · cases hend.1
  · cases hend.1
  · exact .pure ⟨rfl, hend.2, h.keypad, h.program, h.cycles, rfl⟩

/-- Twins answer every request alike. -/
theorem perform (h : Twin m m') (r : Request) :
    Logging.Alike AnswerAlike (r.perform m) (r.perform m') := by
  cases r with
  | frame => exact h.runFrame.bind fun _ _ hx => .pure ⟨congrArg Reply.outcome hx.1, hx.2⟩
  | reset => exact h.reset
  | processor r =>
    exact (h.interpreter.loggedPerform r).bind fun _ _ hx =>
      .pure ⟨congrArg Reply.outcome hx.1, h.withInterpreter hx.2⟩
  | assign registers =>
    exact .pure ⟨rfl, h.withInterpreter (h.interpreter.step ({ · with registers }) fun _ => rfl)⟩
  | keypad r => exact (h.onKeypad r).bind fun _ _ hx => .pure ⟨congrArg Reply.keypad hx.1, hx.2⟩

/-- Twins answer all requests alike, one after another. -/
theorem run (h : Twin m m') (requests : List Request) :
    Logging.Alike AnswerAlike (m.run requests) (m'.run requests) := by
  induction requests generalizing m m' with
  | nil => exact .pure ⟨rfl, h⟩
  | cons r requests ih =>
    rw [Machine.run, Machine.run]
    refine (h.perform r).bind fun x x' hx => ?_
    refine (ih hx.2).bind fun y y' hy => .pure ⟨?_, hy.2⟩
    rw [hx.1, hy.1]

end Twin

/-! ### Resets -/

variable {cycles : Int} {random random' : Nat → UInt8}

lemma create_eq_ok_iff : create program cycles random pad = .ok m ↔
    0 < cycles ∧ ∃ i, powerOn Interpreter.initial program pad = .ok i ∧
      m = {
        hardware := { random }
        interpreter := i
        keypad := pad.listen .processor
        program
        cyclesPerFrame := cycles.toNat } := by
  rw [create]
  by_cases hc : cycles ≤ 0
  · rw [if_pos hc]
    exact iff_of_false nofun fun h => absurd h.1 (not_lt.2 hc)
  · rw [if_neg hc, and_iff_right (not_le.1 hc)]
    rcases powerOn Interpreter.initial program pad with f | i
    · exact iff_of_false nofun fun ⟨_, h, _⟩ => nomatch h
    · constructor
      · intro h
        exact ⟨i, rfl, (Except.ok.inj h).symm⟩
      · rintro ⟨i', hi, rfl⟩
        cases hi
        rfl

/-- A machine is made at every positive speed with every program that is not too long. -/
lemma exists_create (hc : 0 < cycles) (h : program.length ≤ maxProgramSize) (pad : Keypad) :
    ∃ m, create program cycles random pad = .ok m := by
  obtain ⟨i, hi⟩ := exists_powerOn Interpreter.initial pad h
  exact ⟨_, create_eq_ok_iff.2 ⟨hc, i, hi, rfl⟩⟩

/-- What a reset leaves is what a new machine has. The processor is that of the new machine but for
the bytes drawn, which stay drawn; the keypad stays as it is; and a second reset changes nothing. -/
structure PowerCycled (used cycled fresh : Machine) : Prop where
  registers : cycled.interpreter.registers = fresh.interpreter.registers
  memory : cycled.interpreter.memory = fresh.interpreter.memory
  screen : cycled.interpreter.screen = fresh.interpreter.screen
  keys : cycled.interpreter.keys = fresh.interpreter.keys
  frames : cycled.frames = fresh.frames
  drawn : cycled.interpreter.drawn = used.interpreter.drawn
  hardware : cycled.hardware = used.hardware
  keypad : cycled.keypad = used.keypad
  again : cycled.reset = .ok cycled

/-- A reset leaves what a new processor powers on to, but for the bytes drawn. -/
lemma reset_of_powerOn {i : Interpreter}
    (hi : powerOn Interpreter.initial m.program m.keypad = .ok i) :
    m.reset = .ok { m with interpreter := i.withDrawn m.interpreter.drawn, frames := 0 } := by
  have hreset : m.interpreter.reset = Interpreter.initial.withDrawn m.interpreter.drawn :=
    m.interpreter.reset_eq
  rw [reset, hreset, powerOn_withDrawn, hi]
  rfl

/-- **A reset is a power cycle.** Take a machine that was made from any program, speed, source and
keypad, and do anything with it. Then it can be reset, a machine with the same program can be made
on its keypad, and the two have the same processor and frame count. If the new source gives what
the old one still has to give, they also answer all later requests alike, write the same log and
stay twins. -/
theorem reset_eq_create (made : create program cycles random pad = .ok m)
    (requests : List Request) (log : Log) (random' : Nat → UInt8) :
    let used := ((m.run requests).run log).1.2
    ∃ cycled fresh, used.reset = .ok cycled ∧
      create program cycles random' used.keypad = .ok fresh ∧
      PowerCycled used cycled fresh ∧
      ((∀ k, random' k = random (used.interpreter.drawn + k)) →
        ∀ later, Logging.Alike AnswerAlike (cycled.run later) (fresh.run later)) := by
  intro used
  obtain ⟨hcycles, i₀, hi₀, hm⟩ := create_eq_ok_iff.1 made
  have kept : Kept m used := kept_run m requests log
  have hprogram : used.program = program := kept.program.trans (by rw [hm])
  have hhardware : used.hardware = { random } := kept.hardware.trans (by rw [hm])
  have hears : .processor ∈ used.keypad.listeners := kept.hears (by simp [hm, Keypad.listen])
  obtain ⟨i, hi⟩ := exists_powerOn Interpreter.initial used.keypad (length_of_powerOn hi₀)
  have hused : powerOn Interpreter.initial used.program used.keypad = .ok i := by
    rw [hprogram, hi]
  refine ⟨_, _, reset_of_powerOn hused, create_eq_ok_iff.2 ⟨hcycles, i, hi, rfl⟩, ?_,
    fun draws later => Twin.run ?_ later⟩
  · exact ⟨rfl, rfl, rfl, rfl, rfl, rfl, rfl, rfl, reset_of_powerOn hused⟩
  · have hzero : i.drawn = 0 := drawn_of_powerOn hi
    refine ⟨⟨rfl, ?_, fun k => ?_⟩, ⟨rfl, hears, ?_⟩, hprogram.symm, ?_, rfl⟩
    · rw [hhardware]
    · simp only [hzero, Nat.zero_add, hhardware]
      exact draws k
    · exact List.mem_append_right _ List.mem_cons_self
    · exact (kept.cycles.trans (by rw [hm])).symm

/-- The power cycle of a machine that jumps on the spot while a key is held. -/
theorem reset_eq_create_jump :
    ∃ m, create [0x12, 0x00] 2 (fun _ => 0) Keypad.standard = .ok m ∧
      let used := ((m.run [.keypad (.changeAt true 5), .frame]).run {}).1.2
      ∃ cycled fresh, used.reset = .ok cycled ∧
        create [0x12, 0x00] 2 (fun _ => 0) used.keypad = .ok fresh ∧
        PowerCycled used cycled fresh ∧
        ∀ later, Logging.Alike AnswerAlike (cycled.run later) (fresh.run later) := by
  obtain ⟨m, made⟩ : ∃ m, create [0x12, 0x00] 2 (fun _ => 0) Keypad.standard = .ok m :=
    exists_create (by decide) (by decide) _
  obtain ⟨cycled, fresh, hreset, hfresh, hcycled, hlater⟩ :=
    reset_eq_create made [.keypad (.changeAt true 5), .frame] {} fun _ => 0
  exact ⟨m, made, cycled, fresh, hreset, hfresh, hcycled, hlater fun _ => rfl⟩

end Chip8.Machine
