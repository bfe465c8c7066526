import Chip8.CommandLine.Run

/-!
The program itself. It reads the setting of the log and the file that the command line names, and
ends with the status of the run. It has no window: its host has an empty event queue, so a program
runs for one frame, and all else about a run can be asked of the library.
-/

namespace Chip8

/-- What the disk holds at a path. The system says by number 21 that a path is a directory, and by
number 36 that it is too long. -/
def onDisk (path : Path) : IO Found := do
  match ← (IO.FS.readBinFile path.toText.escapeHalves).toBaseIO with
  | .ok data => pure (.file data.toList)
  | .error (.inappropriateType _ 21 _) => pure .directory
  | .error (.inappropriateType ..) => pure .notDirectory
  | .error (.invalidArgument _ 36 _) => pure .tooLong
  | .error _ => pure .missing

/-- The file system of a command line. Only the path of the program is ever looked up. -/
def diskFor (args : List Text) : IO FileSystem := do
  match CommandLine.parse args with
  | .error _ => pure ⟨fun _ => .missing⟩
  | .ok o =>
    let found ← onDisk o.rom
    pure ⟨fun path => if path = o.rom then found else .missing⟩

/-- A host without a window, and with a supply of random bytes that starts over when it ends. -/
def plainHost : IO Host := do
  let bytes ← IO.getRandomBytes 65536
  pure { random := fun k => bytes.data[k % bytes.size]?.getD 0 }

/-- Runs a command line, prints what it says, and answers its status. -/
def runProgram (args : List Text) : IO UInt32 := do
  let setting := (← IO.getEnv "CHIP8_DEBUG").map Text.ofString
  let log : Log := { categories := Categories.ofSetting setting }
  let outcome := CommandLine.run args (← diskFor args) (← plainHost) log
  IO.print outcome.output.escapeHalves
  IO.eprint outcome.errors.escapeHalves
  match outcome.exit with
  | .ok status => pure (UInt32.ofNat status)
  | .error e =>
    IO.eprintln e.message.escapeHalves
    pure 1

end Chip8

/-- The entry of the program. -/
def main (args : List String) : IO UInt32 := Chip8.runProgram (args.map Chip8.Text.ofString)
