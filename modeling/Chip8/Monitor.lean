import Chip8.App.Control

/-!
A monitor works on a processor, a keypad, a machine or a front end by commands, one at a time:
run so many instructions or frames, press a key, look at memory, set a register. A command that
repeats stops at the first error and tells how far it came. What the recorders of the keypad heard
is kept until the next command.
-/

namespace Chip8

/-- What a monitor works on. -/
inductive Subject where
  | processor (hardware : Hardware) (m : Interpreter)
  | keypad (pad : Keypad)
  | machine (m : Machine)
  | app (a : App)

namespace Subject

/-- The machine, if there is one. -/
def machine? : Subject → Option Machine
  | machine m => some m
  | app a => a.machine
  | _ => none

/-- Changes the machine, if there is one. -/
def mapMachine (f : Machine → Machine) : Subject → Subject
  | machine m => machine (f m)
  | app a => app { a with machine := a.machine.map f }
  | s => s

/-- The processor with its hardware, if there is one. -/
def processor? : Subject → Option (Hardware × Interpreter)
  | processor hw m => some (hw, m)
  | s => s.machine?.map fun m => (m.hardware, m.interpreter)

/-- Replaces the state of the processor, if there is one. -/
def setProcessor (i : Interpreter) : Subject → Subject
  | processor hw _ => processor hw i
  | s => s.mapMachine fun m => { m with interpreter := i }

/-- The keypad, if there is one. -/
def keypad? : Subject → Option Keypad
  | keypad pad => some pad
  | s => s.machine?.map (·.keypad)

end Subject

/-- A monitor: its subject, its log, the registers it saved, and what recorders heard last. -/
structure Monitor where
  subject : Subject
  log : Log := {}
  saved : Option Registers := none
  heard : List Notice := []

/-- New values for registers; the single ones come last. -/
structure RegisterChange where
  pc : Option Int := none
  i : Option Int := none
  delay : Option Int := none
  sound : Option Int := none
  all : Option (List UInt8) := none
  single : List (Int × Int) := []
  deriving Repr

/-- What a monitor can be told to do. -/
inductive Command where
  | tick (count : Nat)
  | trace (count : Nat)
  | timers (count : Nat)
  | load (program : List UInt8)
  | reset
  | key (index : Int) (pressed : Bool)
  | poke (address : Int) (data : List UInt8)
  | peek (address count : Int)
  | screen
  | drawn
  | change (registers : RegisterChange)
  | execute (word : Int)
  | save
  | restore
  | compare
  | press (name : Text)
  | release (name : Text)
  | pressAt (index : Int)
  | releaseAt (index : Int)
  | isDown (index : Int)
  | releaseAll
  | lookup (name : Text)
  | listen (tag : Text)
  | frame (count : Nat)
  | powerCycle
  | appStep (count : Nat)
  | hostKey (name : Text) (pressed : Bool)
  | appReset
  | makeBeeper
  | updateTone
  | isRunning
  deriving Repr

/-- What can go wrong with a command. -/
inductive MonitorError where
  | fault (f : Fault)
  | keypad (e : KeypadError)
  | app (e : AppError)
  deriving DecidableEq, Repr

/-- A value that a command answers. -/
inductive Value where
  | nothing
  | flag (b : Bool)
  | number (n : Int)
  | bytes (bs : List UInt8)
  | screen (s : Screen)

/-- The answer to a command: a value or an error, and for a command that repeats how often it was
completed and the registers it saw. -/
structure Reply where
  value : Value := .nothing
  error : Option MonitorError := none
  completed : Option Nat := none
  seen : Option (List Registers) := none

/-- A computation of a monitor. -/
abbrev MonitorM := StateM Monitor

namespace Monitor

/-- Does something that may be logged; a front end has a log of its own. -/
def logging (action : Logging α) : MonitorM α :=
  modifyGet fun s =>
    match s.subject with
    | .app a =>
      let (x, log) := action.run a.log
      (x, { s with subject := .app { a with log } })
    | _ =>
      let (x, log) := action.run s.log
      (x, { s with log })

/-- The reply of an error. -/
def failed (e : MonitorError) : Reply := { error := some e }

/-- Works on the processor. -/
def onProcessor (f : Hardware → Interpreter → MonitorM Reply) : MonitorM Reply := do
  match (← get).subject.processor? with
  | some (hw, m) => f hw m
  | none => pure {}

/-- Replaces the state of the processor. -/
def setProcessor (m : Interpreter) : MonitorM Unit :=
  modify fun s => { s with subject := s.subject.setProcessor m }

/-- Changes the state of the processor, unless that fails. -/
def changeProcessor (f : Interpreter → Except Fault Interpreter) : MonitorM Reply :=
  onProcessor fun _ m => do
    match f m with
    | .ok m => setProcessor m; pure {}
    | .error e => pure (failed (.fault e))

/-- The reply to a row of ticks. -/
def ticksReply (run : Interpreter.Ticks) : Reply where
  error := match run.outcome with
    | .ok () => none
    | .error f => some (.fault f)
  completed := some run.completed

/-- Runs instructions. -/
def tick (count : Nat) : MonitorM Reply :=
  onProcessor fun hw m => do
    let run ← logging (m.ticks hw count)
    setProcessor run.after
    pure (ticksReply run)

/-- Runs instructions one by one and keeps the registers after each completed one, the last
first. -/
def traceFrom (hw : Hardware) (completed : Nat) (seen : List Registers) (m : Interpreter) :
    Nat → MonitorM (Reply × Interpreter)
  | 0 => pure ({ completed := some completed, seen := some seen.reverse }, m)
  | count + 1 => do
    let run ← logging (m.ticks hw 1)
    match run.outcome with
    | .ok () =>
      traceFrom hw (completed + 1) (run.after.registers :: seen) run.after count
    | .error f =>
      pure ({
        error := some (.fault f)
        completed := some completed
        seen := some seen.reverse }, run.after)

/-- Counts the timers down. -/
def countTimers (m : Interpreter) : Nat → MonitorM Interpreter
  | 0 => pure m
  | count + 1 => do countTimers (← logging m.loggedTimers) count

/-- Assigns registers one after another, up to the first error. -/
def assignAll (m : Interpreter) : List (Int × Int) → Interpreter × Reply
  | [] => (m, {})
  | (index, value) :: rest =>
    match m.assignRegister index value with
    | .ok m => assignAll m rest
    | .error f => (m, failed (.fault f))

/-- Sets registers. -/
def changeRegisters (c : RegisterChange) : MonitorM Reply :=
  onProcessor fun _ m => do
    let r := m.registers
    let r := { r with
      pc := c.pc.getD r.pc
      i := c.i.getD r.i
      delay := c.delay.getD r.delay
      sound := c.sound.getD r.sound
      v := Memory.put r.v 0 (c.all.getD []) }
    let (m, reply) := assignAll { m with registers := r } c.single
    setProcessor m
    pure reply

/-- Puts a word where the program counter points, and runs it. -/
def execute (word : Int) : MonitorM Reply :=
  onProcessor fun hw m => do
    match m.poke m.registers.pc [byteOf (word / 256), byteOf word] with
    | .error e => pure (failed (.fault e))
    | .ok m =>
      let run ← logging (m.ticks hw 1)
      setProcessor run.after
      pure { ticksReply run with completed := none }

/-- Lets the keypad answer a request, inside its machine if it has one. -/
def onKeypad (request : Keypad → Logging (Keypad.Answer α)) (reply : α → Reply) :
    MonitorM Reply := do
  match (← get).subject with
  | .keypad pad =>
    let answer ← logging (request pad)
    modify fun s => { s with subject := .keypad answer.keypad, heard := answer.notices }
    pure (reply answer.value)
  | s =>
    match s.machine? with
    | none => pure {}
    | some m =>
      let (value, heard, m) ← logging (m.onKeypad request)
      modify fun s => { s with subject := s.subject.mapMachine fun _ => m, heard }
      pure (reply value)

/-- The reply to a request for the key of an index. -/
def keypadReply (value : α → Value) : Except KeypadError α → Reply
  | .ok a => { value := value a }
  | .error e => failed (.keypad e)

/-- Looks at the keypad. -/
def viewKeypad (reply : Keypad → Reply) : MonitorM Reply := do
  pure (((← get).subject.keypad?.map reply).getD {})

/-- Runs frames. -/
def framesFrom (completed : Nat) (m : Machine) : Nat → MonitorM (Reply × Machine)
  | 0 => pure ({ completed := some completed }, m)
  | count + 1 => do
    match ← logging m.countedFrame with
    | (.ok _, m) => framesFrom (completed + 1) m count
    | (.error f, m) => pure ({ error := some (.fault f), completed := some completed }, m)

/-- Works on the machine. -/
def onMachine (f : Machine → MonitorM (Reply × Machine)) : MonitorM Reply := do
  match (← get).subject.machine? with
  | none => pure {}
  | some m =>
    let (reply, m) ← f m
    modify fun s => { s with subject := s.subject.mapMachine fun _ => m }
    pure reply

/-- Lets the front end do something. -/
def onApp (action : AppM α) (reply : α → App → Reply) : MonitorM Reply := do
  match (← get).subject with
  | .app a =>
    let (result, a) := action.run.run a
    modify fun s => { s with subject := .app a }
    match result with
    | .ok x => pure (reply x a)
    | .error e => pure (failed (.app e))
  | _ => pure {}

/-- Steps the front end. -/
def appStepsFrom (completed : Nat) : Nat → MonitorM Reply
  | 0 => pure { completed := some completed }
  | count + 1 => do
    let reply ← onApp App.stepMachine fun _ _ => {}
    if reply.error.isSome then pure { reply with completed := some completed }
    else appStepsFrom (completed + 1) count

/-- Passes a host key to the front end. -/
def hostKey (name : Text) (pressed : Bool) : MonitorM Reply := do
  match (← get).subject with
  | .app a =>
    let (result, a) := (App.handleKey name pressed).run.run a
    let heard := match result with
      | .ok heard => heard
      | .error _ => []
    modify fun s => { s with subject := .app a, heard }
    pure {}
  | _ => pure {}

/-- Does what a command says. -/
def run : Command → MonitorM Reply
  | .tick count => tick count
  | .trace count => onProcessor fun hw m => do
    let (reply, m) ← traceFrom hw 0 [] m count
    setProcessor m
    pure reply
  | .timers count => onProcessor fun _ m => do
    let m ← countTimers m count
    setProcessor m
    pure { value := .flag m.soundActive }
  | .load program => changeProcessor (·.load program)
  | .reset => changeProcessor fun m => .ok m.reset
  | .key index pressed => changeProcessor (·.setKeyAt index pressed)
  | .poke address data => changeProcessor (·.poke address data)
  | .peek address count => onProcessor fun _ m =>
    match m.memory.read address count with
    | .ok bs => pure { value := .bytes bs }
    | .error e => pure (failed (.fault (.memory e)))
  | .screen => onProcessor fun _ m => pure { value := .screen m.screen }
  | .drawn => onProcessor fun _ m => pure { value := .number m.drawn }
  | .change registers => changeRegisters registers
  | .execute word => execute word
  | .save => onProcessor fun _ m => do
    modify fun s => { s with saved := some m.registers }
    pure {}
  | .restore => onProcessor fun _ m => do
    setProcessor { m with registers := (← get).saved.getD m.registers }
    pure {}
  | .compare => onProcessor fun _ m => do
    pure { value := .flag ((← get).saved == some m.registers) }
  | .press name => onKeypad (·.press name) fun b => { value := .flag b }
  | .release name => onKeypad (·.release name) fun b => { value := .flag b }
  | .pressAt index => onKeypad (·.changeAt true index) (keypadReply fun _ => .nothing)
  | .releaseAt index => onKeypad (·.changeAt false index) (keypadReply fun _ => .nothing)
  | .isDown index => viewKeypad fun pad => keypadReply .flag (pad.isDownAt index)
  | .releaseAll =>
    onKeypad (fun pad => pure { value := (), keypad := pad.reset.1, notices := pad.reset.2 })
      fun _ => {}
  | .lookup name => viewKeypad fun pad =>
    match pad.lookup name with
    | some k => { value := .number k.val }
    | none => {}
  | .listen tag =>
    onKeypad (fun pad => pure { value := (), keypad := pad.listen (.recorder tag) }) fun _ => {}
  | .frame count => onMachine fun m => framesFrom 0 m count
  | .powerCycle => onMachine fun m =>
    match m.reset with
    | .ok after => pure ({}, after)
    | .error f => pure (failed (.fault f), m)
  | .appStep count => appStepsFrom 0 count
  | .hostKey name pressed => hostKey name pressed
  | .appReset => onApp App.resetMachine fun _ _ => {}
  | .makeBeeper => onApp App.initialiseAudio fun _ a => { value := .flag a.beeper.isSome }
  | .updateTone => onApp App.updateAudio fun _ _ => {}
  | .isRunning => onApp get fun _ a => { value := .flag a.running }

/-- Forgets what the last command left behind in the logs and records. -/
def cleared (s : Monitor) : Monitor :=
  { s with
    heard := []
    log := s.log.cleared
    subject := match s.subject with
      | .app a => .app { a with host := a.host.cleared, log := a.log.cleared }
      | other => other }

/-- What was logged since the monitor was last cleared. -/
def text (s : Monitor) : Text :=
  match s.subject with
  | .app a => a.log.text
  | _ => s.log.text

/-- The host calls since the monitor was last cleared. -/
def calls (s : Monitor) : List HostCall :=
  match s.subject with
  | .app a => a.host.calls
  | _ => []

end Monitor

end Chip8
