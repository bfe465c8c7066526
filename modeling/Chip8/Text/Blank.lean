import Chip8.Text

/-!
Blank characters: the ones that are dropped from both ends of a name in a comma-separated list,
and the ones around a written number. Both sets hold the Unicode spaces; they differ in the four
ASCII separators U+001C to U+001F.
-/

namespace Chip8.Text

/-- A Unicode space outside ASCII. -/
def isWideBlank (c : Symbol) : Bool :=
  let n := c.code
  n == 0x85 || n == 0xA0 || n == 0x1680 || (0x2000 ≤ n && n ≤ 0x200A) || n == 0x2028 ||
    n == 0x2029 || n == 0x202F || n == 0x205F || n == 0x3000

/-- A space, tab or line end of ASCII. -/
def isAsciiBlank (c : Symbol) : Bool :=
  c.code == 32 || (9 ≤ c.code && c.code ≤ 13)

/-- A character that trimming removes: a space, a line end or an ASCII separator. -/
def isBlank (c : Symbol) : Bool :=
  isAsciiBlank c || (28 ≤ c.code && c.code ≤ 31) || isWideBlank c

theorem isBlank_of_isWhitespace {c : Char} (h : c.isWhitespace = true) : isBlank c = true := by
  simp only [Char.isWhitespace, Bool.or_eq_true, decide_eq_true_eq] at h
  rcases h with ((rfl | rfl) | rfl) | rfl <;> rfl

/-- A text without the blanks at either end. -/
def trim (s : Text) : Text :=
  ((s.dropWhile isBlank).reverse.dropWhile isBlank).reverse

end Chip8.Text
