/-!
The ranges of numbers: signed machine integers, the digits that a number may be written with, and
the room that there is for what is made. Counts, widths and samples pass through them, so a number
outside is refused before anything is done with it.
-/

namespace Chip8.Number

/-- The greatest signed integer of 32 bits. -/
def max32 : Nat := 0x7FFFFFFF

/-- The greatest signed integer of 64 bits. -/
def max64 : Nat := 0x7FFFFFFFFFFFFFFF

/-- How many bytes can be held at once, which differs from machine to machine. -/
structure Room where
  bytes : Nat
  /-- What 32 bits can count has room, and so has all of a fixed size. -/
  ample : 0x100000000 ≤ bytes
  /-- What has room can be counted. -/
  countable : bytes ≤ max64
  deriving DecidableEq, Repr

/-- Sixteen gibibytes, the room of a host unless told otherwise. -/
def Room.usual : Room := ⟨0x400000000, by decide, by decide⟩

/-- Whether a number is a signed integer of 32 bits. -/
def fits32 (n : Int) : Bool := -max32 - 1 ≤ n && n ≤ max32

/-- Whether a number is a signed integer of 64 bits. -/
def fits64 (n : Int) : Bool := -max64 - 1 ≤ n && n ≤ max64

/-- The greatest number of digits that are read or written. -/
def maxDigits : Nat := 4300

/-- Whether a number has few enough digits to be written. -/
def isWritable (n : Int) : Bool := n.natAbs < Nat.pow 10 maxDigits

/-- What stands for a number that has too many digits to be written. -/
def unwritableText : String :=
  s!"Exceeds the limit ({maxDigits} digits) for integer string conversion; use sys.set_int_max_str_digits() to increase the limit"

/-- A message that shows some numbers, if all of them can be written. -/
def showing (numbers : List Int) (message : String) : String :=
  if numbers.all isWritable then message else unwritableText

theorem fits64_of_fits32 {n : Int} (h : fits32 n = true) : fits64 n = true := by
  rw [fits32, Bool.and_eq_true, decide_eq_true_eq, decide_eq_true_eq] at h
  rw [fits64, Bool.and_eq_true, decide_eq_true_eq, decide_eq_true_eq]
  unfold max32 at h
  unfold max64
  omega

end Chip8.Number
