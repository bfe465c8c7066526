import Chip8.Number.Range
import Chip8.Text.Blank
import Chip8.Text.Digit
import Chip8.Text.Quoted

/-!
Whole numbers as people write them: blanks around, a sign, and decimal digits of any script, with
single underscores between digits.
-/

namespace Chip8.Number

/-- Why a text is not a whole number. -/
inductive LiteralError where
  /-- The text has another form. -/
  | malformed (text : Text)
  /-- The text has more digits than are read. -/
  | tooManyDigits (count : Nat)
  deriving DecidableEq, Repr

/-- The message for an unreadable number; of a long text it shows the start. -/
def LiteralError.message : LiteralError → String
  | .malformed text =>
    "invalid literal for int() with base 10: " ++
      String.ofList ((Text.quote text).toList.take 200)
  | .tooManyDigits count =>
    s!"Exceeds the limit ({maxDigits} digits) for integer string conversion: value has {count} digits; use sys.set_int_max_str_digits() to increase the limit"

/-- A space that may stand around a number. -/
def isPadding (c : Symbol) : Bool := Text.isAsciiBlank c || Text.isWideBlank c

/-- Splits a sign from what follows; the first part tells a minus. -/
def splitSign : Text → Bool × Text
  | .char '+' :: rest => (false, rest)
  | .char '-' :: rest => (true, rest)
  | rest => (false, rest)

/-- Whether a symbol can stand in the digits of a number. -/
def isDigitOrBar (c : Symbol) : Bool := c == '_' || (Text.decimalDigit? c).isSome

/-- Whether each underscore stands between two digits. -/
def barsSeparate : Text → Bool
  | [] => true
  | [.char '_'] => false
  | .char '_' :: .char '_' :: _ => false
  | _ :: rest => barsSeparate rest

/-- The number that the decimal digits write; underscores count for nothing. -/
def decimalValue (s : Text) : Nat :=
  (s.filterMap Text.decimalDigit?).foldl (fun n d => 10 * n + d) 0

/-- Reads a whole number. -/
def readInt (text : Text) : Except LiteralError Int :=
  let (negative, body) := splitSign (text.dropWhile isPadding)
  let number := body.takeWhile isDigitOrBar
  let after := body.dropWhile isDigitOrBar
  let count := (number.filterMap Text.decimalDigit?).length
  if body.head? = some (.char '_') || !barsSeparate number then .error (.malformed text)
  else if maxDigits < count then .error (.tooManyDigits count)
  else if count = 0 || !after.all isPadding then .error (.malformed text)
  else .ok (if negative then -(decimalValue number : Int) else decimalValue number)

end Chip8.Number
