import Chip8.Host

/-!
The beeper: one tone that is switched on and off. It asks the mixer for a channel when it first
needs one and keeps it. A tone that is switched off early fades out instead of stopping, so that
tone and fade together last for the least time.
-/

namespace Chip8

/-- What a beeper is made from. -/
structure BeeperConfig where
  rate : Int := 44100
  frequency : Number.Numeric := .real 440.0
  volume : Number.Numeric := .real 0.25
  leastMilliseconds : Int := 35

/-- Why a beeper cannot be made. -/
inductive BeeperError where
  | noHost
  | mixerClosed
  | wave (error : WaveError)
  deriving DecidableEq, Repr

/-- The message of a beeper error. -/
def BeeperError.message : BeeperError → String
  | .noHost => "pygame is required for audio output"
  | .mixerClosed => "pygame mixer must be initialised before creating SquareWaveBeeper"
  | .wave e => e.message

/-- A beeper. -/
structure Beeper where
  volume : Float
  leastMilliseconds : Int
  hasChannel : Bool := false
  playing : Bool := false
  /-- The clock when the tone was last switched on. -/
  startedAt : Int := 0

namespace Beeper

/-- The volume between zero and one; what is no number counts as one. -/
def clampVolume : Number.Numeric → Float
  | .int n => if n < 1 then 0.0 else 1.0
  | .real x =>
    let top := if x < 1.0 then x else 1.0
    if 0.0 < top then top else 0.0

/-- Makes a beeper; its tone is handed to the host. -/
def create (config : BeeperConfig) : HostM (Except BeeperError Beeper) := do
  let h ← get
  if !h.available then return .error .noHost
  if h.mixer.isNone then return .error .mixerClosed
  match Wave.square h.room (max 1 config.rate) config.frequency Wave.standardAmplitude with
  | .error e => return .error (.wave e)
  | .ok wave =>
    Host.record (.makeSound wave)
    return .ok {
      volume := clampVolume config.volume
      leastMilliseconds := max 0 config.leastMilliseconds }

/-- The shortest fade. -/
def leastFade : Int := 10

/-- Switches the tone off. Without a channel there is nothing to stop. -/
def stop (b : Beeper) : HostM Beeper := do
  if b.hasChannel then
    let elapsed := (← Host.readClock) - b.startedAt
    let remaining := b.leastMilliseconds - elapsed
    Host.record (if 0 < remaining then .fadeOut (max leastFade remaining) else .stop)
  pure { b with playing := false }

/-- Switches the tone on, on the channel of the beeper. -/
def start (b : Beeper) : HostM Beeper := do
  Host.record (.play (-1))
  Host.record (.setVolume b.volume)
  let now ← Host.readClock
  pure { b with playing := true, startedAt := now }

/-- Switches the tone on or off; nothing happens if it is so already, or if there is no
channel. -/
def setActive (b : Beeper) (active : Bool) : HostM Beeper := do
  if active == b.playing then return b
  if !active then return (← b.stop)
  if b.hasChannel then return (← b.start)
  if ← Host.findChannel then return (← { b with hasChannel := true }.start)
  return b

/-- Switches the tone off for good and gives the channel back. -/
def shutDown (b : Beeper) : HostM Beeper := do
  let b ← b.stop
  pure { b with hasChannel := false }

end Beeper

end Chip8
