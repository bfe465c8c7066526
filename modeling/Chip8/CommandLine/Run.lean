import Chip8.App.Run
import Chip8.CommandLine.Arguments

/-!
A whole run from the command line: the options are read and checked, the front end runs, and what
it foresees going wrong becomes a message and an exit status. Status 2 is for a wrong command
line, 1 for a run that fails.
-/

namespace Chip8.CommandLine

/-- An error that nobody foresaw: one of the front end, or the use of an option left empty. -/
inductive Failure where
  | app (error : AppError)
  | emptyOption (option : Opt)
  deriving DecidableEq, Repr

/-- The message of a failure. -/
def Failure.message : Failure → Text
  | .app e => e.message
  | .emptyOption .palette => "unhashable type: 'list'"
  | .emptyOption _ => "'<=' not supported between instances of 'list' and 'int'"

/-- How a run ended: with an exit status or a failure. -/
structure Outcome where
  exit : Except Failure Nat
  output : Text := []
  errors : Text := []
  calls : List HostCall := []

/-- What speaks against running with options. -/
inductive Objection where
  | usage (error : UsageError)
  | failure (error : Failure)
  deriving DecidableEq, Repr

/-- What an option is set to. -/
def setting (o : Opt) (value : Option α) : Except Objection α :=
  match value with
  | some a => .ok a
  | none => .error (.failure (.emptyOption o))

/-- Checks options one after the other, the program image against the files, and gives the settings
that they ask for. -/
def check (files : FileSystem) (o : Options) : Except Objection AppConfig := do
  match files.exists? o.rom with
  | .error e => throw (.failure (.app (.file e)))
  | .ok found => if !found then throw (.usage (.romNotFound o.rom))
  let scale ← setting .scale o.scale
  if scale ≤ 0 then throw (.usage .scale)
  let speed ← setting .speed o.speed
  if speed ≤ 0 then throw (.usage .speed)
  let palette ← setting .palette o.palette
  pure {
    romPath := some o.rom
    scale, speed
    fullscreen := o.fullscreen
    mute := o.mute
    palette := (palettes.lookup palette).getD Palette.monochrome }

/-- The outcome of a usage error. -/
def usageOutcome (e : UsageError) : Outcome := { exit := .ok 2, errors := e.report }

/-- Runs the front end. -/
def runConfig (config : AppConfig) (files : FileSystem) (host : Host) (log : Log) : Outcome :=
  let (result, app) := (App.run files).run.run (App.create config host log)
  let output := app.log.text
  let calls := app.host.calls
  match result with
  | .ok () => { exit := .ok 0, output, calls }
  | .error e =>
    if e.isForeseen then
      { exit := .ok 1, output, errors := programName ++ ": " ++ e.message ++ "\n", calls }
    else { exit := .error (.app e), output, calls }

/-- Runs a command line. -/
def run (argv : List Text) (files : FileSystem) (host : Host) (log : Log) : Outcome :=
  match parse argv with
  | .error .help => { exit := .ok 0, output := helpText }
  | .error (.usage e) => usageOutcome e
  | .ok o =>
    match check files o with
    | .error (.usage e) => usageOutcome e
    | .error (.failure f) => { exit := .error f }
    | .ok config => runConfig config files host log

end Chip8.CommandLine
