import Chip8.Text
import Chip8.Text.Printable

/-!
Quoted texts, as messages show a name that came from outside. The quotes are single unless the
text holds a single quote and no double one; the quote in use and the backslash are escaped, and
so is every symbol that is not printable, by its code point in two, four or eight digits.
-/

namespace Chip8.Text

/-- The hexadecimal digit of a value below sixteen, in lower case. -/
def lowerHexDigit (n : Nat) : Char :=
  Char.ofNat (if n < 10 then 48 + n else 87 + n)

/-- The last `width` hexadecimal digits of `n`. -/
def fixedHex : Nat → Nat → List Char
  | 0, _ => []
  | width + 1, n => fixedHex width (n / 16) ++ [lowerHexDigit (n % 16)]

/-- The escape of a code point. -/
def codeEscape (n : Nat) : List Char :=
  if n < 0x100 then '\\' :: 'x' :: fixedHex 2 n
  else if n < 0x10000 then '\\' :: 'u' :: fixedHex 4 n
  else '\\' :: 'U' :: fixedHex 8 n

/-- The characters for a symbol between quotes `q`, where `shown` says which characters stay. -/
def quoteSymbol (shown : Char → Bool) (q : Char) : Symbol → List Char
  | .half k => codeEscape (Symbol.half k).code
  | .char c =>
    if c = q ∨ c = '\\' then ['\\', c]
    else if c = '\n' then ['\\', 'n']
    else if c = '\r' then ['\\', 'r']
    else if c = '\t' then ['\\', 't']
    else if shown c then [c]
    else codeEscape c.toNat

/-- The quote character that a text is written with. -/
def quoteFor (s : Text) : Char :=
  if .char '\'' ∈ s ∧ .char '"' ∉ s then '"' else '\''

/-- The text between quotes, with every symbol that is not shown escaped. -/
def quoteWith (shown : Char → Bool) (s : Text) : String :=
  let q := quoteFor s
  String.ofList (q :: s.flatMap (quoteSymbol shown q) ++ [q])

/-- The text between quotes; printable characters of every script stay. -/
def quote (s : Text) : String := quoteWith isPrintable s

/-- The text between quotes in ASCII alone. -/
def quoteAscii (s : Text) : String := quoteWith (fun c => isPrintable c && c.toNat < 128) s

/-- A text as a string, with the escape of every half, which no string can hold. -/
def escapeHalves (s : Text) : String :=
  String.ofList (s.flatMap fun c =>
    match c with
    | .char c => [c]
    | .half k => codeEscape (Symbol.half k).code)

theorem length_fixedHex (width n : Nat) : (fixedHex width n).length = width := by
  induction width generalizing n with
  | zero => rfl
  | succ width ih => simp [fixedHex, ih]

end Chip8.Text
