import Chip8.Machine
import Chip8.Proofs.Interpreter.Draws
import Chip8.Proofs.Keypad.Requests

/-!
Histories of a machine.

A host works on a machine by requests, among them requests to its processor and its keypad that go
past the machine. Whatever is done, the machine keeps its hardware, program and speed, and its
processor goes on listening to the keypad (`Kept`).
-/

namespace Chip8

namespace Interpreter

/-- Performs a request and logs what runs. -/
def Request.loggedPerform (hw : Hardware) (m : Interpreter) :
    Request → Logging (Except Fault Unit × Interpreter)
  | .tick => m.loggedTick hw
  | .timers => do pure (.ok (), ← m.loggedTimers)
  | r => pure (r.perform hw m)

theorem Twin.loggedPerform {hw hw' : Hardware} {m m' : Interpreter} (h : Twin hw hw' m m')
    (r : Request) :
    Logging.Alike (EndAlike hw hw') (r.loggedPerform hw m) (r.loggedPerform hw' m') := by
  cases r with
  | tick => exact h.loggedTick
  | timers => exact h.loggedTimers.bind fun _ _ ht => .pure ⟨rfl, ht⟩
  | load program => exact .pure (h.perform (.load program))
  | reset => exact .pure (h.perform .reset)
  | setKey index pressed => exact .pure (h.perform (.setKey index pressed))
  | write address data => exact .pure (h.perform (.write address data))
  | store address value => exact .pure (h.perform (.store address value))

end Interpreter

namespace Machine

/-- What a host does with a machine. -/
inductive Request where
  | frame
  | reset
  | processor (r : Interpreter.Request)
  /-- Sets the registers, the stack and the timers to anything. -/
  | assign (registers : Registers)
  | keypad (r : Keypad.Request)

/-- What a request answers. -/
inductive Reply where
  | outcome (o : Except Fault Unit)
  | keypad (o : Except KeypadError Bool)

/-- The machine with another processor. -/
def withInterpreter (m : Machine) (interpreter : Interpreter) : Machine := { m with interpreter }

/-- Performs a request. -/
def Request.perform (m : Machine) : Request → Logging (Reply × Machine)
  | .frame => do
    let (o, after) ← m.runFrame
    pure (.outcome o, after)
  | .reset =>
    match m.reset with
    | .ok after => pure (.outcome (.ok ()), after)
    | .error f => pure (.outcome (.error f), m)
  | .processor r => do
    let (o, after) ← r.loggedPerform m.hardware m.interpreter
    pure (.outcome o, m.withInterpreter after)
  | .assign registers =>
    pure (.outcome (.ok ()), m.withInterpreter { m.interpreter with registers })
  | .keypad r => do
    let (value, _, after) ← m.onKeypad (r.answer ·)
    pure (.keypad value, after)

/-- Performs requests one after another. -/
def run (m : Machine) : List Request → Logging (List Reply × Machine)
  | [] => pure ([], m)
  | r :: requests => do
    let (reply, after) ← r.perform m
    let (replies, last) ← after.run requests
    pure (reply :: replies, last)

variable {m m' : Machine}

/-! ### What stays -/

/-- The hardware, the program and the speed are the same, and the processor still listens to the
keypad if it did. -/
structure Kept (m after : Machine) : Prop where
  hardware : after.hardware = m.hardware
  program : after.program = m.program
  cycles : after.cyclesPerFrame = m.cyclesPerFrame
  hears : .processor ∈ m.keypad.listeners → .processor ∈ after.keypad.listeners

lemma Kept.refl (m : Machine) : Kept m m := ⟨rfl, rfl, rfl, id⟩

lemma Kept.trans {m₁ m₂ m₃ : Machine} (h : Kept m₁ m₂) (h' : Kept m₂ m₃) : Kept m₁ m₃ :=
  ⟨h'.hardware.trans h.hardware, h'.program.trans h.program, h'.cycles.trans h.cycles,
    h'.hears ∘ h.hears⟩

lemma reset_eq_ok_iff {after : Machine} : m.reset = .ok after ↔
    ∃ i, powerOn m.interpreter.reset m.program m.keypad = .ok i ∧
      after = { m with interpreter := i, frames := 0 } := by
  rw [reset]
  rcases powerOn m.interpreter.reset m.program m.keypad with f | i
  · exact iff_of_false nofun fun ⟨_, h, _⟩ => nomatch h
  · constructor
    · intro h
      exact ⟨i, rfl, (Except.ok.inj h).symm⟩
    · rintro ⟨i', hi, rfl⟩
      cases hi
      rfl

lemma kept_of_reset {after : Machine} (h : m.reset = .ok after) : Kept m after := by
  obtain ⟨i, -, rfl⟩ := reset_eq_ok_iff.1 h
  exact ⟨rfl, rfl, rfl, id⟩

lemma kept_runFrame (m : Machine) : Logging.Gives (fun r => Kept m r.2) m.runFrame := by
  rw [runFrame]
  refine .after _ fun r => ?_
  rcases r.outcome with f | _
  · exact .pure ⟨rfl, rfl, rfl, id⟩
  · exact .after _ fun _ => .after _ fun _ => .pure ⟨rfl, rfl, rfl, id⟩

lemma kept_perform (m : Machine) (r : Request) :
    Logging.Gives (fun x => Kept m x.2) (r.perform m) := by
  cases r with
  | frame => exact (kept_runFrame m).bind fun _ h => .pure h
  | reset =>
    rw [Request.perform]
    split
    · exact .pure (kept_of_reset ‹_›)
    · exact .pure (.refl m)
  | processor r => exact .after _ fun _ => .pure ⟨rfl, rfl, rfl, id⟩
  | assign registers => exact .pure ⟨rfl, rfl, rfl, id⟩
  | keypad r =>
    rw [Request.perform, onKeypad]
    refine Logging.Gives.bind (P := fun x => Kept m x.2.2) ?_ fun _ h => .pure h
    exact (Keypad.listeners_answer r).bind fun _ h => .pure ⟨rfl, rfl, rfl, fun hp => h.subset hp⟩

theorem kept_run (m : Machine) (requests : List Request) :
    Logging.Gives (fun x => Kept m x.2) (m.run requests) := by
  induction requests generalizing m with
  | nil => exact .pure (.refl m)
  | cons r requests ih =>
    refine (kept_perform m r).bind fun x hx => ?_
    exact (ih x.2).bind fun _ hy => .pure (hx.trans hy)

end Machine

end Chip8
