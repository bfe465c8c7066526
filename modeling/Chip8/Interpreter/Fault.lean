import Chip8.Interpreter.State

/-!
What can go wrong when a processor runs or is handled from outside.
-/

namespace Chip8

/-- Why an instruction or a request fails. -/
inductive Fault where
  | memory (fault : MemoryFault)
  | programTooLong (size : Nat)
  | unimplemented (word : Word) (pc : Int)
  | missingRoutine (name : Text)
  | stackOverflow (caller : Int)
  | stackUnderflow (pc : Int)
  | invalidKey (register : Fin 16) (key : UInt8)
  | keyIndex (index : Int)
  /-- A number that no register holds. -/
  | notByte
  /-- A stack pointer beyond the stack. -/
  | stackIndex
  /-- A register index far beyond any list. -/
  | hugeRegister
  | registerIndex
  deriving DecidableEq, Repr

namespace Fault

/-- The message of a fault. -/
def message : Fault → Text
  | memory f => f.message
  | programTooLong size => s!"program of {size} bytes exceeds {maxProgramSize} byte limit"
  | unimplemented w pc =>
    s!"unimplemented opcode {Number.markedHex 6 w.val} at {Number.markedHex 5 pc}"
  | missingRoutine name => "handler '" ++ name ++ "' not implemented"
  | stackOverflow caller => s!"stack overflow calling from {Number.markedHex 5 caller}"
  | stackUnderflow pc => s!"return with empty stack at {Number.markedHex 5 pc}"
  | invalidKey x key =>
    s!"V{Number.plainHex 1 x.val}={Number.markedHex 4 key.toNat} is not a valid key index"
  | keyIndex index => Number.showing [index] s!"key index out of range: {index}"
  | notByte => "byte must be in range(0, 256)"
  | stackIndex => "list index out of range"
  | hugeRegister => "cannot fit 'int' into an index-sized integer"
  | registerIndex => "bytearray index out of range"

/-- Whether the processor or its memory reports the fault. The others are slips that no check of
theirs stops, such as a timer that was set to something that is no byte. -/
def isReported : Fault → Bool
  | memory .hugeRegion | memory .outOfMemory | memory .unwritable => false
  | keyIndex _ | notByte | stackIndex | hugeRegister | registerIndex => false
  | _ => true

end Fault

end Chip8
