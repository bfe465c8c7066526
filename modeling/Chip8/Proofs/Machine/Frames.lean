import Chip8.Proofs.Interpreter.Words
import Chip8.Proofs.Machine.PowerCycle

/-!
Frames as histories.

A frame asks its processor for as many ticks as the speed says and, if none of them fails, for one
step of the timers (`frameRequests`). After a tick that fails the ticks that are left would fail in
the same way and change nothing, so what a frame leaves is what all that it asks for leads to,
whether it is completed or not (`Proper.interpreter_afterFrame`). Machines that come about without a
debugger are `Proper`.
-/

namespace Chip8

namespace Interpreter

variable {hw : Hardware} {m : Interpreter} {random : Nat → UInt8}

/-! ### Rows of ticks -/

lemma steady_loggedTick (hw : Hardware) (m : Interpreter) : Logging.Steady (m.loggedTick hw) :=
  (Logging.Steady.unit _).bind fun _ => .pure _

lemma loggedTimers_eq (m : Interpreter) : Logging.Gives (· = m.tickTimers) m.loggedTimers :=
  .after _ fun _ => .pure rfl

/-- What a request to the processor leaves does not hang on the log. -/
lemma steady_loggedPerform (hw : Hardware) (m : Interpreter) (r : Request) :
    Logging.Steady (r.loggedPerform hw m) := by
  cases r with
  | tick => exact steady_loggedTick hw m
  | timers => exact (loggedTimers_eq m).steady.bind fun _ => .pure _
  | _ => exact .pure _

lemma steady_ticks_go (hw : Hardware) (count completed : Nat) (m : Interpreter) :
    Logging.Steady (ticks.go hw count completed m) := by
  induction count generalizing completed m with
  | zero => exact .pure _
  | succ count ih =>
    rw [ticks.go]
    refine (steady_loggedTick hw m).bind fun r => ?_
    rcases r with ⟨f | _, after⟩
    · exact .pure _
    · exact ih (completed + 1) after

lemma steady_ticks (hw : Hardware) (m : Interpreter) (count : Nat) : Logging.Steady (m.ticks hw count) :=
  steady_ticks_go hw count 0 m

/-- A row of ticks keeps the bounds, and nothing stops it but what is reported. -/
lemma inRange_ticks_go (h : m.InRange) (count completed : Nat) :
    Logging.Gives (fun t => t.after.InRange ∧ ∀ f, t.outcome = .error f → f.isReported = true)
      (ticks.go hw count completed m) := by
  induction count generalizing completed m with
  | zero => exact .pure ⟨h, nofun⟩
  | succ count ih =>
    rw [ticks.go, loggedTick]
    refine Logging.Gives.bind (P := (· = m.tick hw)) (.after _ fun _ => .pure rfl) fun r hr => ?_
    have hrange : r.2.InRange := hr ▸ h.tick
    rcases r with ⟨f | _, after⟩
    · have hf : f.isReported = true := h.isReported_of_tick (congrArg Prod.fst hr).symm
      exact .pure ⟨hrange, fun f' hf' => Except.error.inj hf' ▸ hf⟩
    · exact ih hrange (completed + 1)

namespace InRange

/-- Where a tick fails, more ticks do not lead on. -/
lemma run_ticks_of_not_done (h : m.InRange) (fails : (m.tick { random }).1 ≠ .ok ())
    (count : Nat) : Interpreter.run { random } m (List.replicate count .tick) = m := by
  induction count with
  | zero => rfl
  | succ count ih =>
    have hsame : (Request.tick.perform { random } m).2 = m := h.eq_of_not_done fails
    rw [List.replicate_succ, run_cons, hsame, ih]

lemma after_ticks_go (h : m.InRange) (count completed : Nat) :
    Logging.Gives (fun t => t.after = Interpreter.run { random } m (List.replicate count .tick))
      (ticks.go { random } count completed m) := by
  induction count generalizing completed m with
  | zero => exact .pure rfl
  | succ count ih =>
    rw [ticks.go, loggedTick]
    refine Logging.Gives.bind (P := (· = m.tick { random })) (.after _ fun _ => .pure rfl) ?_
    intro r hr
    have hafter : r.2 = (Request.tick.perform { random } m).2 := by rw [hr]; rfl
    rw [List.replicate_succ, run_cons, ← hafter]
    rcases r with ⟨f | _, after⟩
    · -- the row ends here, and the ticks that it does not come to would change nothing
      have fails : (m.tick { random }).1 ≠ .ok () := by
        rw [← hr]
        rintro ⟨⟩
      have hsame : after = m := hafter.trans (h.eq_of_not_done fails)
      exact .pure (hsame ▸ (h.run_ticks_of_not_done fails count).symm)
    · have hrange : after.InRange := by
        rw [show after = (Request.tick.perform { random } m).2 from hafter]
        exact h.perform .tick
      exact ih hrange (completed + 1)

/-- A row of ticks leaves what as many requests for ticks lead to. -/
theorem after_ticks (h : m.InRange) (count : Nat) :
    Logging.Gives (fun t => t.after = Interpreter.run { random } m (List.replicate count .tick))
      (m.ticks { random } count) :=
  h.after_ticks_go count 0

end InRange

end Interpreter

namespace Machine

open Interpreter (InRange)

variable {m after : Machine} {p i : Interpreter} {program : List UInt8} {pad : Keypad}

/-! ### Machines that come about without a debugger -/

/-- Whether a request leaves the registers to the program. -/
def Request.leavesRegisters : Request → Bool
  | .assign _ => false
  | _ => true

/-- A machine that runs by the standard table, with registers in their ranges and a program that
can be loaded. -/
structure Proper (m : Machine) : Prop where
  table : m.hardware.table = Table.standard
  inRange : m.interpreter.InRange
  fits : m.program.length ≤ maxProgramSize

lemma registers_deliver (p : Interpreter) (notices : List Notice) :
    (deliver p notices).registers = p.registers := by
  induction notices generalizing p with
  | nil => rfl
  | cons n notices ih =>
    refine (ih _).trans ?_
    dsimp only
    split <;> rfl

lemma registers_of_powerOn (hp : powerOn p program pad = .ok i) : i.registers = p.registers := by
  obtain ⟨memory, rfl⟩ := exists_memory_of_powerOn hp
  rw [takeKeys_eq_foldl, foldl_setKey]

lemma inRange_powerOn (h : p.InRange) (hp : powerOn p program pad = .ok i) : i.InRange :=
  h.of_same (registers_of_powerOn hp)

lemma proper_of_create {cycles : Int} {random : Nat → UInt8}
    (made : create program cycles random pad = .ok m) : m.Proper := by
  obtain ⟨-, i, hi, rfl⟩ := create_eq_ok_iff.1 made
  exact ⟨rfl, inRange_powerOn Interpreter.inRange_initial hi, length_of_powerOn hi⟩

namespace Proper

lemma hardware_eq (h : m.Proper) : m.hardware = { random := m.hardware.random } := by
  obtain ⟨⟨table, random⟩, _, _, _, _, _⟩ := m
  obtain ⟨rfl, -, -⟩ := h
  rfl

lemma reset (h : m.Proper) (hr : m.reset = .ok after) : after.Proper := by
  obtain ⟨i, hi, rfl⟩ := reset_eq_ok_iff.1 hr
  refine ⟨h.table, inRange_powerOn ?_ hi, h.fits⟩
  rw [Interpreter.reset_eq]
  exact Interpreter.inRange_initial.of_same rfl

/-- It can be reset. -/
lemma exists_reset (h : m.Proper) : ∃ after, m.reset = .ok after := by
  obtain ⟨i, hi⟩ := exists_powerOn m.interpreter.reset m.keypad h.fits
  exact ⟨_, reset_eq_ok_iff.2 ⟨i, hi, rfl⟩⟩

/-- No other fault stops a frame than those that are reported. -/
lemma runFrame (h : m.Proper) : Logging.Gives
    (fun r => r.2.Proper ∧ ∀ f, r.1 = .error f → f.isReported = true) m.runFrame := by
  rw [Machine.runFrame]
  refine (Interpreter.inRange_ticks_go h.inRange m.cyclesPerFrame 0).bind fun run hrun => ?_
  rcases houtcome : run.outcome with f | _
  · exact .pure ⟨⟨h.table, hrun.1, h.fits⟩, fun f' hf' => hrun.2 f' (houtcome.trans hf')⟩
  · refine (Interpreter.loggedTimers_eq run.after).bind fun i hi => ?_
    subst hi
    refine .after _ fun _ => .pure ⟨⟨h.table, hrun.1.tickTimers, h.fits⟩, fun f' hf' => ?_⟩
    cases hf'

lemma onKeypad (h : m.Proper) (r : Keypad.Request) :
    Logging.Gives (fun x => x.2.2.Proper) (m.onKeypad (r.answer ·)) := by
  rw [Machine.onKeypad]
  refine .after _ fun answer => .pure ⟨h.table, ?_, h.fits⟩
  exact h.inRange.of_same (registers_deliver m.interpreter answer.notices)

theorem perform (h : m.Proper) {r : Request} (leaves : r.leavesRegisters = true) :
    Logging.Gives (fun x => x.2.Proper) (r.perform m) := by
  cases r with
  | frame => exact h.runFrame.bind fun _ hx => .pure hx.1
  | reset =>
    rw [Request.perform]
    split
    · exact .pure (h.reset ‹_›)
    · exact .pure h
  | processor r =>
    refine Logging.Gives.bind (P := fun x => x.2.InRange) ?_ fun _ hx => .pure ⟨h.table, hx, h.fits⟩
    cases r with
    | tick => exact .after _ fun _ => .pure h.inRange.tick
    | timers =>
      refine (Interpreter.loggedTimers_eq m.interpreter).bind fun i hi => ?_
      subst hi
      exact .pure h.inRange.tickTimers
    | _ => exact .pure (h.inRange.perform _)
  | assign registers => cases leaves
  | keypad r => exact (h.onKeypad r).bind fun _ hx => .pure hx

theorem run (h : m.Proper) {requests : List Request}
    (leave : ∀ r ∈ requests, r.leavesRegisters = true) :
    Logging.Gives (fun x => x.2.Proper) (m.run requests) := by
  induction requests generalizing m with
  | nil => exact .pure h
  | cons r requests ih =>
    rw [List.forall_mem_cons] at leave
    exact (h.perform leave.1).bind fun x hx => (ih hx leave.2).bind fun y hy => .pure hy

end Proper

/-! ### Frames -/

/-- A frame ends as its ticks do, and goes on to the timers if none fails. -/
lemma runFrame_eq (m : Machine) :
    let ticks := Logging.result (m.interpreter.ticks m.hardware m.cyclesPerFrame)
    Logging.Gives (· = match ticks.outcome with
      | .error f => (.error f, m.withInterpreter ticks.after)
      | .ok () => (.ok (), { m with
          interpreter := ticks.after.tickTimers
          frames := m.frames + 1 })) m.runFrame := by
  intro ticks
  rw [runFrame]
  refine Logging.Gives.bind (P := (· = ticks)) (Interpreter.steady_ticks _ _ _) fun run hrun => ?_
  subst hrun
  rcases ticks.outcome with f | _
  · exact .pure rfl
  · refine (Interpreter.loggedTimers_eq ticks.after).bind fun i hi => ?_
    subst hi
    exact .after _ fun _ => .pure rfl

lemma steady_runFrame (m : Machine) : Logging.Steady m.runFrame := (runFrame_eq m).steady

lemma steady_onKeypad (m : Machine) {α : Type} {request : Keypad → Logging (Keypad.Answer α)}
    (steady : (request m.keypad).Steady) : (m.onKeypad request).Steady := by
  rw [onKeypad]
  exact steady.bind fun _ => .pure _

/-- What a request leaves does not hang on the log. -/
lemma steady_perform (m : Machine) (r : Request) : Logging.Steady (r.perform m) := by
  cases r with
  | frame => exact (steady_runFrame m).bind fun _ => .pure _
  | reset =>
    rw [Request.perform]
    split <;> exact .pure _
  | processor r => exact (Interpreter.steady_loggedPerform _ _ r).bind fun _ => .pure _
  | assign registers => exact .pure _
  | keypad r => exact (m.steady_onKeypad (m.keypad.steady_answer r)).bind fun _ => .pure _

/-- The next frame is completed. -/
def Completes (m : Machine) : Prop := (Logging.result m.runFrame).1 = .ok ()

instance : Decidable m.Completes := inferInstanceAs (Decidable (_ = _))

/-- The machine after its next frame, completed or not. -/
def afterFrame (m : Machine) : Machine := (Logging.result m.runFrame).2

/-- What the next frame asks of the processor after its ticks. -/
def frameEnd (m : Machine) : List Interpreter.Request := if m.Completes then [.timers] else []

/-- What the next frame asks of the processor. -/
def frameRequests (m : Machine) : List Interpreter.Request :=
  List.replicate m.cyclesPerFrame .tick ++ m.frameEnd

/-- A frame leaves what the requests that it makes lead to. -/
theorem Proper.interpreter_afterFrame (h : m.Proper) : m.afterFrame.interpreter =
    Interpreter.run m.hardware m.interpreter m.frameRequests := by
  have hticks : (Logging.result (m.interpreter.ticks m.hardware m.cyclesPerFrame)).after =
      Interpreter.run m.hardware m.interpreter (List.replicate m.cyclesPerFrame .tick) := by
    rw [h.hardware_eq]
    exact (h.inRange.after_ticks m.cyclesPerFrame).result
  have hframe := (runFrame_eq m).result
  rw [frameRequests, Interpreter.run_append, ← hticks, afterFrame]
  simp only [frameEnd, Completes, hframe]
  rcases (Logging.result (m.interpreter.ticks m.hardware m.cyclesPerFrame)).outcome with f | _
  · rfl
  · rfl

/-! ### Rows of frames -/

/-- The machine after frames, whether they are completed or not. -/
def afterFrames (m : Machine) (k : Nat) : Machine := Machine.afterFrame^[k] m

lemma afterFrames_succ (m : Machine) (k : Nat) :
    m.afterFrames (k + 1) = (m.afterFrames k).afterFrame :=
  Function.iterate_succ_apply' ..

lemma afterFrames_add (m : Machine) (j k : Nat) :
    m.afterFrames (j + k) = (m.afterFrames j).afterFrames k := by
  rw [Nat.add_comm]
  exact Function.iterate_add_apply ..

lemma Proper.afterFrames (h : m.Proper) (k : Nat) : (m.afterFrames k).Proper := by
  induction k with
  | zero => exact h
  | succ k ih =>
    rw [afterFrames_succ]
    exact ih.runFrame.result.1

lemma kept_afterFrames (m : Machine) (k : Nat) : Kept m (m.afterFrames k) := by
  induction k with
  | zero => exact .refl m
  | succ k ih =>
    rw [afterFrames_succ]
    exact ih.trans (kept_runFrame _).result

/-- How many of the next frames are completed. -/
def completed (m : Machine) (k : Nat) : Nat :=
  (List.range k).countP fun j => (m.afterFrames j).Completes

lemma completed_succ (m : Machine) (k : Nat) :
    m.completed (k + 1) = m.completed k + if (m.afterFrames k).Completes then 1 else 0 := by
  rw [completed, List.range_succ, List.countP_append, ← completed, List.countP_singleton]
  simp only [decide_eq_true_eq]

/-- The first of them on its own. -/
lemma completed_add_one (m : Machine) (k : Nat) :
    m.completed (k + 1) = (if m.Completes then 1 else 0) + m.afterFrame.completed k := by
  induction k with
  | zero =>
    rw [completed_succ, Nat.add_comm]
    rfl
  | succ k ih =>
    have hnext : m.afterFrames (k + 1) = m.afterFrame.afterFrames k := rfl
    rw [completed_succ, ih, completed_succ m.afterFrame, hnext, Nat.add_assoc]

end Machine

end Chip8
