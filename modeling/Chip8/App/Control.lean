import Chip8.App.Config
import Chip8.Audio.Beeper

/-!
The front end and what it does between two frames: it makes the machine and the beeper, passes
keys on, steps the machine, lets the tone follow the sound timer, and resets. An error leaves all
that was done before it.
-/

namespace Chip8

/-- The front end with the host that it talks to and its log. -/
structure App where
  config : AppConfig
  running : Bool := false
  machine : Option Machine := none
  beeper : Option Beeper := none
  /-- Whether frames are timed. -/
  timing : Bool := false
  timedFrames : Nat := 0
  host : Host := {}
  log : Log := {}

/-- A computation of the front end. -/
abbrev AppM := ExceptT AppError (StateM App)

namespace App

/-- The front end at its start. -/
def create (config : AppConfig) (host : Host) (log : Log) : App :=
  { config, host, log, timing := log.categories.isOn "perf" }

/-- Lets the host do something. -/
def onHost (action : HostM α) : AppM α :=
  modifyGet fun app =>
    let (a, host) := action.run app.host
    (a, { app with host })

/-- Does something that may be logged. -/
def logging (action : Logging α) : AppM α :=
  modifyGet fun app =>
    let (a, log) := action.run app.log
    (a, { app with log })

/-- Fails with an error of another kind. -/
def orThrow (wrap : ε → AppError) : Except ε α → AppM α
  | .ok a => pure a
  | .error e => throw (wrap e)

/-! ### Making the machine and the beeper -/

/-- Makes the machine for the program image at a path. -/
def createMachine (files : FileSystem) (path : Path) : AppM Machine := do
  match ← logging (Rom.loadFile files path) with
  | .error (.unreadable (.missing _)) => throw (.romNotFound path)
  | .error (.unreadable e) => throw (.file e)
  | .error (.format e) => throw (.romRejected path e)
  | .ok rom =>
    logging (say "loader" fun _ => "rom=" ++ rom.name ++ s!" size={rom.size}")
    let app ← get
    orThrow .machine
      (Machine.create rom.data app.config.cyclesPerFrame app.host.random Keypad.standard)

/-- Opens the mixer if it is closed; tells if there may be one now. -/
def openMixer : AppM Bool := do
  if (← get).host.mixer.isSome then return true
  match ← onHost Host.openMixer with
  | none => return true
  | some reason =>
    logging (say "audio" fun _ => "mixer_init_failed=" ++ reason)
    return false

/-- Makes the beeper for the sample rate of the mixer. Without a mixer the front end stays silent. -/
def initialiseAudio : AppM Unit := do
  if ← openMixer then
    match (← get).host.mixer with
    | none => logging (say "audio" fun _ => "mixer_unavailable")
    | some [] => throw .noSampleRate
    | some (rate :: _) =>
      match ← onHost (Beeper.create { rate }) with
      | .ok beeper => modify fun app => { app with beeper := some beeper }
      | .error (.wave e) => throw (.wave e)
      | .error e =>
        modify fun app => { app with beeper := none }
        logging (say "audio" fun _ => s!"beeper_init_failed={e.message}")

/-! ### Keys, frames and the tone -/

/-- Passes a host key on to the keypad. The answer is what the listeners hear. -/
def handleKey (name : Text) (pressed : Bool) : AppM (List Notice) := do
  match (← get).machine with
  | none => pure []
  | some machine =>
    let canonical := canonicalName name
    logging (say "input" fun _ =>
      let shown := canonical.getD "None"
      "event=" ++ name ++ " canonical=" ++ shown ++ s!" pressed={truthText pressed}")
    match canonical with
    | none => pure []
    | some key =>
      let (_, notices, machine) ← logging (machine.onKeypad (·.changeNamed pressed key))
      modify fun app => { app with machine := some machine }
      pure notices

/-- The machine, to ask it for something. -/
def machineFor (asked : String) : AppM Machine := do
  match (← get).machine with
  | some machine => pure machine
  | none => throw (.noMachine asked)

/-- Runs one frame of the machine. A fault of the program ends the run. -/
def stepMachine : AppM Unit := do
  let (outcome, machine) ← logging (← machineFor "run_frame").runFrame
  modify fun app => { app with machine := some machine }
  match outcome with
  | .ok () => pure ()
  | .error f =>
    if f.isReported then
      modify fun app => { app with running := false }
      throw (.halted machine.interpreter.registers.pc f)
    else throw (.fault f)

/-- Switches the tone of the beeper. -/
def setTone (beeper : Beeper) (active : Bool) : AppM Unit := do
  let beeper ← onHost (beeper.setActive active)
  modify fun app => { app with beeper := some beeper }

/-- Lets the tone follow the sound timer. -/
def updateAudio : AppM Unit := do
  match (← get).beeper with
  | none => pure ()
  | some beeper =>
    let active := (← machineFor "interpreter").interpreter.soundActive
    if active != beeper.playing then
      logging (say "audio" fun _ => s!"buzzer active={truthText active}")
    setTone beeper active

/-- Resets the machine and switches the tone off. -/
def resetMachine : AppM Unit := do
  logging (say "input" fun _ => "reset requested")
  let machine ← orThrow .fault (← machineFor "reset").reset
  modify fun app => { app with machine := some machine }
  match (← get).beeper with
  | none => pure ()
  | some beeper => setTone beeper false

end App

end Chip8
