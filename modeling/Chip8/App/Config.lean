import Chip8.Audio.Wave
import Chip8.Files.Path
import Chip8.Machine
import Chip8.Rom
import Chip8.Video.Image

/-!
What the front end is told, what can go wrong in it, and how it names host keys.
-/

namespace Chip8

/-- The settings of the front end. -/
structure AppConfig where
  romPath : Option Path := none
  scale : Int := 10
  /-- Instructions per second. -/
  speed : Int := standardSpeed
  fullscreen : Bool := false
  mute : Bool := false
  palette : Palette := Palette.monochrome
  deriving DecidableEq, Repr

/-- The instructions of one frame, at least one. -/
def AppConfig.cyclesPerFrame (c : AppConfig) : Int := max 1 (c.speed / frameRate)

/-- Why the front end stops. -/
inductive AppError where
  | noHost
  | noRom
  | romNotFound (path : Path)
  | romRejected (path : Path) (error : RomError)
  | halted (pc : Int) (fault : Fault)
  | file (error : OpenError)
  | machine (error : MachineError)
  | fault (fault : Fault)
  | image (error : ImageError)
  | wave (error : WaveError)
  /-- The mixer is open but does not tell its sample rate. -/
  | noSampleRate
  /-- There is no machine that could be asked for something. -/
  | noMachine (asked : String)
  /-- A speed beyond the range of floating point cannot be measured. -/
  | speedTooLarge
  deriving DecidableEq, Repr

namespace AppError

/-- The message of an error. -/
def message : AppError → Text
  | noHost => "pygame is required to run the UI"
  | noRom => "ROM image is required; pass a ROM path"
  | romNotFound path => "ROM file not found: " ++ path.toText
  | romRejected path e => "Failed to load ROM " ++ path.toText ++ ": " ++ e.message
  | halted pc f => s!"Emulation halted at pc={Number.plainHex 3 pc}: " ++ f.message
  | file e => e.message
  | machine e => e.message
  | fault f => f.message
  | image e => e.message
  | wave e => e.message
  | noSampleRate => "tuple index out of range"
  | noMachine asked => s!"'NoneType' object has no attribute '{asked}'"
  | speedTooLarge => "int too large to convert to float"

/-- Whether the error is one that the front end foresees and reports in its own words. -/
def isForeseen : AppError → Bool
  | noHost | noRom | romNotFound _ | romRejected .. | halted .. => true
  | _ => false

end AppError

/-- The name that a host key goes by on the keypad: one symbol in lower case. The keys of a
numeric block are named in brackets, which do not count. -/
def canonicalName (name : Text) : Option Text :=
  let lowered := Text.lower name
  let inner :=
    if lowered.head? = some (.char '[') ∧ lowered.getLast? = some (.char ']') then
      lowered.tail.dropLast
    else lowered
  if inner.length = 1 then some inner else none

/-- A truth as the log shows it. -/
def truthText (b : Bool) : String := if b then "True" else "False"

end Chip8
