import Chip8.App.Config
import Chip8.Number.Literal

/-!
The options of the command line, their spellings, and the texts about them. An option is an
action, like asking for help, or takes a value.
-/

namespace Chip8.CommandLine

/-- The name of the program in its messages. -/
def programName : String := "run.py"

/-- An option. -/
inductive Opt where
  | help
  | scale
  | speed
  | palette
  | fullscreen
  | mute
  deriving DecidableEq, Repr

namespace Opt

/-- Whether an option takes a value. -/
def takesValue : Opt → Bool
  | scale | speed | palette => true
  | _ => false

/-- How an option is named in messages. -/
def title : Opt → String
  | help => "-h/--help"
  | scale => "--scale"
  | speed => "--cpu-hz"
  | palette => "--palette"
  | fullscreen => "--fullscreen"
  | mute => "--mute"

/-- All spellings, in the order in which they are searched. -/
def spellings : List (Text × Opt) :=
  [("-h", help), ("--help", help), ("--scale", scale), ("--cpu-hz", speed), ("--palette", palette),
    ("--fullscreen", fullscreen), ("--mute", mute)]

end Opt

/-- The palettes that can be chosen. -/
def palettes : List (Text × Palette) :=
  [("mono", Palette.monochrome), ("phosphor", Palette.phosphor)]

/-- What the command line asks for. An option that takes a value can be left empty. -/
structure Options where
  rom : Path
  scale : Option Int := some 10
  speed : Option Int := some standardSpeed
  palette : Option Text := some "mono"
  fullscreen : Bool := false
  mute : Bool := false
  deriving DecidableEq, Repr

/-- What is wrong with a command line. -/
inductive UsageError where
  | ambiguous (given : Text) (candidates : List Text)
  | ignoredValue (option : Opt) (text : Text)
  | missingValue (option : Opt)
  | invalidInt (option : Opt) (text : Text)
  | invalidChoice (option : Opt) (text : Text)
  | missingRom
  | unrecognized (extras : List Text)
  | romNotFound (path : Path)
  | scale
  | speed
  deriving DecidableEq, Repr

/-- The message of a usage error. -/
def UsageError.message : UsageError → Text
  | .ambiguous given candidates =>
    "ambiguous option: " ++ given ++ " could match " ++ Text.join ", " candidates
  | .ignoredValue o text =>
    s!"argument {o.title}: ignored explicit argument {Text.quote text}"
  | .missingValue o => s!"argument {o.title}: expected one argument"
  | .invalidInt o text => s!"argument {o.title}: invalid int value: {Text.quote text}"
  | .invalidChoice o text =>
    let choices := String.intercalate ", " (palettes.map fun p => Text.quote p.1)
    s!"argument {o.title}: invalid choice: {Text.quote text} (choose from {choices})"
  | .missingRom => "the following arguments are required: rom"
  | .unrecognized extras => "unrecognized arguments: " ++ Text.join " " extras
  | .romNotFound path => "ROM file not found: " ++ path.toText
  | .scale => "--scale must be positive"
  | .speed => "--cpu-hz must be positive"

/-- Why reading a command line stops early: for the help text, or for an error. -/
inductive Stop where
  | help
  | usage (error : UsageError)
  deriving DecidableEq, Repr

/-- The short text on usage. -/
def usageText : String :=
  "usage: run.py [-h] [--scale SCALE] [--cpu-hz CPU_HZ]\n" ++
  "              [--palette \x7bmono,phosphor\x7d] [--fullscreen] [--mute]\n" ++
  "              rom\n"

/-- The help text. -/
def helpText : String :=
  usageText ++
  "\nCHIP-8 emulator (Python)\n" ++
  "\npositional arguments:\n" ++
  "  rom                   Path to the CHIP-8 ROM image\n" ++
  "\noptions:\n" ++
  "  -h, --help            show this help message and exit\n" ++
  "  --scale SCALE         Integer window scale factor (default: 10)\n" ++
  "  --cpu-hz CPU_HZ       Instructions executed per second (default: 600)\n" ++
  "  --palette \x7bmono,phosphor\x7d\n" ++
  "                        Display colours (default: mono)\n" ++
  "  --fullscreen          Launch the emulator in fullscreen mode\n" ++
  "  --mute                Disable the sound timer buzzer\n"

/-- What a usage error prints. -/
def UsageError.report (e : UsageError) : Text :=
  usageText ++ programName ++ ": error: " ++ e.message ++ "\n"

end Chip8.CommandLine
