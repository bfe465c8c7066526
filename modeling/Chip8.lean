import Chip8.Checksum
import Chip8.Files.Tree
import Chip8.Log.Setting
import Chip8.Main
import Chip8.Monitor
import Chip8.Proofs.Memory
import Chip8.Proofs.Interpreter.Action
import Chip8.Proofs.Interpreter.Successor
import Chip8.Proofs.Interpreter.Tick
import Chip8.Proofs.Interpreter.History
import Chip8.Proofs.Interpreter.Range
import Chip8.Proofs.Instruction.Pattern
import Chip8.Proofs.Instruction.Table
import Chip8.Proofs.Interpreter.Atomic
import Chip8.Proofs.Interpreter.Words
import Chip8.Proofs.Interpreter.Arithmetic
import Chip8.Proofs.Interpreter.Transfers
import Chip8.Proofs.Interpreter.Sprites
import Chip8.Proofs.Interpreter.Flow
import Chip8.Proofs.Interpreter.Draws
import Chip8.Proofs.Interpreter.DeadSlots
import Chip8.Proofs.Interpreter.Faults
import Chip8.Proofs.Interpreter.Footprint
import Chip8.Proofs.Keypad.Requests
import Chip8.Proofs.Machine.History
import Chip8.Proofs.Machine.Keys
import Chip8.Proofs.Machine.PowerCycle
import Chip8.Proofs.Interpreter.Calls
import Chip8.Proofs.Instruction.Building
import Chip8.Proofs.Interpreter.Interchange
import Chip8.Proofs.Interpreter.Absorbing
import Chip8.Proofs.Keypad.Counts
import Chip8.Proofs.Keypad.Listeners
import Chip8.Proofs.Interpreter.Timers
import Chip8.Proofs.Interpreter.KeyWait
import Chip8.Proofs.Machine.Frames
import Chip8.Proofs.Machine.Timers
import Chip8.Proofs.Rom
import Chip8.Proofs.App.Moves
import Chip8.Proofs.App.Keys
import Chip8.Proofs.Audio.Tones
import Chip8.Proofs.Audio.Protocol
import Chip8.Proofs.App.Events
import Chip8.Proofs.App.Start
import Chip8.Proofs.App.Tone
import Chip8.Proofs.App.Turns
import Chip8.Proofs.App.ShutDown
import Chip8.Proofs.App.Script
import Chip8.Proofs.App.Failures
import Chip8.Proofs.App.Bench
import Chip8.Proofs.CommandLine.Exit
import Chip8.Proofs.Machine.FrameTicks
import Chip8.Proofs.Video.Image
import Chip8.Proofs.Text.Case
import Chip8.Proofs.Instruction.Symbols
import Chip8.Proofs.Keypad.Names
import Chip8.Proofs.Log.Message
