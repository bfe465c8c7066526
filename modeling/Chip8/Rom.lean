import Chip8.Files.System
import Chip8.Interpreter.State
import Chip8.Log

/-!
Program images. An image is loaded from a stream of bytes: it must not be empty, and it must fit
between the start of programs and the end of memory. An odd length is logged, because instructions
have two bytes.
-/

namespace Chip8

/-- A program image and the name that it was loaded under. -/
structure Rom where
  data : List UInt8
  name : Text := ""
  start : Int := programStart
  deriving DecidableEq, Repr

/-- Why bytes are no program image. -/
inductive RomError where
  | empty
  | tooLong
  deriving DecidableEq, Repr

/-- The message of a rejected image. -/
def RomError.message : RomError → String
  | .empty => "ROM image is empty"
  | .tooLong => s!"ROM image exceeds {maxProgramSize} bytes"

/-- Why a file gives no program image. -/
inductive RomFileError where
  | unreadable (error : OpenError)
  | format (error : RomError)
  deriving DecidableEq, Repr

namespace Rom

/-- The number of bytes. -/
def size (r : Rom) : Nat := r.data.length

/-- The last address that the image takes. -/
def last (r : Rom) : Int := r.start + r.size - 1

/-- What is read of a stream: one byte more than an image may have, so that a stream that is too
long is noticed. -/
def firstBytes (stream : List UInt8) : List UInt8 := stream.take (maxProgramSize + 1)

/-- An image from the bytes that were read. -/
def ofBytes (data : List UInt8) (name : Text) : Except RomError Rom :=
  if data.isEmpty then .error .empty
  else if maxProgramSize < data.length then .error .tooLong
  else .ok { data, name }

/-- An image from a stream; an odd length is logged. -/
def load (stream : List UInt8) (name : Text) : Logging (Except RomError Rom) := do
  match ofBytes (firstBytes stream) name with
  | .error e => pure (.error e)
  | .ok rom =>
    if rom.size % 2 = 1 then
      say "loader" fun _ =>
        let shown : Text := if name = [] then "<stream>" else name
        "rom=" ++ shown ++ s!" has odd length {rom.size}"
    pure (.ok rom)

/-- An image from a file, named after the file. -/
def loadFile (files : FileSystem) (path : Path) : Logging (Except RomFileError Rom) := do
  match files.read path with
  | .error e => pure (.error (.unreadable e))
  | .ok data => pure ((← load data path.stem).mapError RomFileError.format)

theorem ofBytes_of_fits {data : List UInt8} (name : Text) (h : data ≠ [])
    (fits : data.length ≤ maxProgramSize) : ofBytes data name = .ok { data, name } := by
  rw [ofBytes, if_neg (by simpa using h), if_neg (by omega)]

theorem ofBytes_of_long {data : List UInt8} (name : Text) (long : maxProgramSize < data.length) :
    ofBytes data name = .error .tooLong := by
  have h : ¬data.isEmpty = true := by
    intro h
    rw [List.isEmpty_iff.1 h] at long
    exact absurd long (Nat.not_lt_zero _)
  rw [ofBytes, if_neg h, if_pos long]

/-- Reading no further makes no difference. -/
theorem ofBytes_firstBytes (stream : List UInt8) (name : Text) :
    ofBytes (firstBytes stream) name = ofBytes stream name := by
  by_cases long : maxProgramSize < stream.length
  · have hread : maxProgramSize < (firstBytes stream).length := by
      rw [firstBytes, List.length_take]
      omega
    rw [ofBytes_of_long name long, ofBytes_of_long name hread]
  · rw [firstBytes, List.take_of_length_le (by omega)]

theorem data_of_ofBytes {data : List UInt8} {name : Text} {r : Rom}
    (h : ofBytes data name = .ok r) : r.data = data := by
  unfold ofBytes at h
  split at h
  · cases h
  · split at h
    · cases h
    · cases h
      rfl

end Rom

end Chip8
