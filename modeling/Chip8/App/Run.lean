import Chip8.App.Control

/-!
The event loop. Each frame handles the events that came in, runs the machine, draws the screen and
waits for the next frame; a quit event or the escape key ends the loop after its frame. However
the loop ends, the beeper and the host are shut down, in this order.
-/

namespace Chip8.App

/-- Handles one event. -/
def handleEvent : Event → AppM Unit
  | .quit => modify fun app => { app with running := false }
  | .keyDown name => do
    if name = "escape" then modify fun app => { app with running := false }
    else if name = "f5" then resetMachine
    else let _ ← handleKey name true
  | .keyUp name => do let _ ← handleKey name false
  | .other => pure ()

/-- Draws the screen of the machine. -/
def drawScreen : AppM Unit := do
  let app ← get
  let screen := (app.machine.map (·.interpreter.screen)).getD Screen.dark
  let renderer : Renderer := { palette := app.config.palette }
  let image ← orThrow .image (renderer.render app.host.room screen.toArray app.config.scale)
  onHost (Host.record (.draw image))
  onHost (Host.record .present)

/-- Logs how long a frame took. -/
def reportTiming (seconds : Float) : AppM Unit := do
  modify fun app => { app with timedFrames := app.timedFrames + 1 }
  if !(seconds ≤ 0.0) then
    let cycles := (← get).config.cyclesPerFrame
    if !Number.fitsFloat cycles then throw .speedTooLarge
    let rate := Number.toFloat cycles / seconds
    let frame := (← get).timedFrames
    logging (say "perf" fun _ =>
      let milliseconds := Number.fixedText 3 (seconds * 1000.0)
      let kilohertz := Number.fixedText 2 (rate / 1000.0)
      s!"frame={frame} frame_ms={milliseconds} effective_khz={kilohertz}")

/-- One turn of the event loop. -/
def turn (batch : List Event) : AppM Unit := do
  batch.forM handleEvent
  let before ← onHost Host.readStopwatch
  stepMachine
  updateAudio
  drawScreen
  if (← get).timing then
    reportTiming ((← onHost Host.readStopwatch) - before)
  onHost (Host.record (.pace frameRate))

/-- The event loop over the batches of events; after the last one the host asks to quit. -/
def loop : List (List Event) → AppM Unit
  | [] => turn [.quit]
  | batch :: rest => do
    turn batch
    if (← get).running then loop rest

/-- Shuts the beeper and the host down. -/
def shutDown : StateM App Unit :=
  modify fun app =>
    let (beeper, host) := (app.beeper.mapM Beeper.shutDown).run app.host
    let ((), host) := (Host.record .shutDown).run host
    { app with beeper, host }

/-- Does something, and something else afterwards however it ends. -/
def andAlways (action : AppM α) (last : StateM App Unit) : AppM α :=
  ExceptT.mk do
    let result ← action.run
    last
    pure result

/-- Opens the window and enters the event loop. -/
def openAndLoop : AppM Unit := do
  let config := (← get).config
  onHost (Host.record (.openWindow
    (screenWidth * config.scale) (screenHeight * config.scale) config.fullscreen))
  modify fun app => { app with running := true }
  andAlways (do loop (← get).host.events) shutDown

/-- The path of the program image, if there is a host and something at that path. -/
def findImage (files : FileSystem) : AppM Path := do
  let app ← get
  if !app.host.available then throw .noHost
  match app.config.romPath with
  | none => throw .noRom
  | some path =>
    if !(← orThrow .file (files.exists? path)) then throw (.romNotFound path)
    pure path

/-- Tells the host what is to come. -/
def announce (title : Text) : AppM Unit := do
  onHost (Host.record (.configureMixer {} 512))
  onHost (Host.record .start)
  onHost (Host.record (.setTitle title))

/-- Makes the machine for the program image and sets up the host. -/
def prepare (files : FileSystem) : AppM Unit := do
  let path ← findImage files
  let machine ← createMachine files path
  modify fun app => { app with machine := some machine }
  announce ("CHIP-8 - " ++ path.stem)
  if !(← get).config.mute then initialiseAudio

/-- Runs the front end from the program image to the end of the event loop. -/
def run (files : FileSystem) : AppM Unit := do
  prepare files
  openAndLoop

end Chip8.App
