import Chip8.Interpreter.Tick
import Chip8.Keypad

/-!
A machine is a processor with a keypad and a program. It runs in frames, sixty to the second: so
many instructions, then one step of the timers. The processor listens to the keypad before
anybody else, so its keys follow the keypad's. A reset is a power cycle that loads the program
again and takes over the keys that are held.
-/

namespace Chip8

/-- A machine. -/
structure Machine where
  hardware : Hardware
  interpreter : Interpreter
  keypad : Keypad
  program : List UInt8
  cyclesPerFrame : Nat
  frames : Nat := 0

/-- Why a machine cannot be made. -/
inductive MachineError where
  | cycles
  | fault (f : Fault)
  deriving DecidableEq, Repr

/-- The message of a machine error. -/
def MachineError.message : MachineError → Text
  | .cycles => "cycles_per_frame must be positive"
  | .fault f => f.message

/-- Sixty frames to the second. -/
def frameRate : Nat := 60

/-- Instructions per second, unless told otherwise. -/
def standardSpeed : Nat := 600

namespace Machine

/-- Presses the keys of the processor that are down on a keypad. -/
def takeKeys (m : Interpreter) (pad : Keypad) : Interpreter :=
  ((List.finRange 16).filter pad.isDown).foldl (fun m k => m.setKey k true) m

/-- A processor with a program and the keys that are held; without a program nothing is loaded. -/
def powerOn (m : Interpreter) (program : List UInt8) (pad : Keypad) :
    Except Fault Interpreter := do
  pure (takeKeys (← if program.isEmpty then pure m else m.load program) pad)

/-- A machine with a program, a speed, a source of random bytes and a keypad. -/
def create (program : List UInt8) (cyclesPerFrame : Int) (random : Nat → UInt8) (pad : Keypad) :
    Except MachineError Machine := do
  if cyclesPerFrame ≤ 0 then throw .cycles
  let interpreter ← (powerOn Interpreter.initial program pad).mapError MachineError.fault
  pure {
    hardware := { random }
    interpreter
    keypad := pad.listen .processor
    program
    cyclesPerFrame := cyclesPerFrame.toNat }

/-- Passes on what the processor hears of the keypad. -/
def deliver (m : Interpreter) (notices : List Notice) : Interpreter :=
  notices.foldl (fun m n => if n.listener = .processor then m.setKey n.key n.pressed else m) m

/-- Lets the keypad answer a request, and passes on what the listeners hear. -/
def onKeypad (m : Machine) (request : Keypad → Logging (Keypad.Answer α)) :
    Logging (α × List Notice × Machine) := do
  let answer ← request m.keypad
  pure (answer.value, answer.notices, { m with
    keypad := answer.keypad
    interpreter := deliver m.interpreter answer.notices })

/-- Runs one frame. A fault ends it where it is: the timers stand still and the frame does not
count. The timers are taken to have few enough digits to be logged, as all have that a program can
set. -/
def runFrame (m : Machine) : Logging (Except Fault Unit × Machine) := do
  let run ← m.interpreter.ticks m.hardware m.cyclesPerFrame
  match run.outcome with
  | .error f => pure (.error f, { m with interpreter := run.after })
  | .ok () =>
    let interpreter ← run.after.loggedTimers
    let frames := m.frames + 1
    say "timer" fun _ =>
      s!"frame={frames} delay={interpreter.registers.delay} sound={interpreter.registers.sound}"
    pure (.ok (), { m with interpreter, frames })

/-- Runs one frame and tells how many instructions it took. -/
def countedFrame (m : Machine) : Logging (Except Fault Nat × Machine) := do
  let (outcome, after) ← m.runFrame
  pure (outcome.map fun () => m.cyclesPerFrame, after)

/-- Switches the machine off and on. -/
def reset (m : Machine) : Except Fault Machine := do
  let interpreter ← powerOn m.interpreter.reset m.program m.keypad
  pure { m with interpreter, frames := 0 }

end Machine

end Chip8
