/-!
Whole numbers in hexadecimal and decimal, padded with zeros to a least width. The sign comes
first, then the marker `0x` if there is one, and the zeros fill what is left of the width.
-/

namespace Chip8.Number

/-- The digits of `n` in base `b`, in lower case. -/
def digits (b n : Nat) : List Char := Nat.toDigits b n

/-- The digits of `n` in base sixteen, with capital letters. -/
def upperHexDigits (n : Nat) : List Char := (digits 16 n).map Char.toUpper

/-- The sign, the marker and the digits, with zeros between the last two up to `width`. -/
def padded (negative : Bool) (marker : List Char) (width : Nat) (body : List Char) : List Char :=
  let lead := (if negative then ['-'] else []) ++ marker
  lead ++ List.replicate (width - lead.length - body.length) '0' ++ body

/-- `n` in hexadecimal behind the marker `0x`, `width` characters wide. -/
def markedHex (width : Nat) (n : Int) : String :=
  String.ofList (padded (n < 0) ['0', 'x'] width (digits 16 n.natAbs))

/-- `n` in capital hexadecimal without a marker, `width` characters wide. -/
def plainHex (width : Nat) (n : Int) : String :=
  String.ofList (padded (n < 0) [] width (upperHexDigits n.natAbs))

/-- `n` in hexadecimal without a marker, `width` characters wide. -/
def lowerHex (width : Nat) (n : Int) : String :=
  String.ofList (padded (n < 0) [] width (digits 16 n.natAbs))

theorem length_padded (negative : Bool) (marker : List Char) (width : Nat) (body : List Char) :
    width ≤ (padded negative marker width body).length := by
  simp only [padded, List.length_append, List.length_replicate]
  omega

end Chip8.Number
