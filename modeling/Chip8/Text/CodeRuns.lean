/-!
Sets of code points, written as alternating counts: how many code points from U+0000 on are
outside the set, how many after them are inside, and so on. A property of the Unicode standard
is a few hundred such counts.
-/

namespace Chip8.Text

/-- Whether the code point `n` is inside the set that the counts describe. -/
def inRuns : List Nat → Nat → Bool
  | outside :: inside :: rest, n =>
    if n < outside then false
    else if n < outside + inside then true
    else inRuns rest (n - outside - inside)
  | _, _ => false

theorem inRuns_nil (n : Nat) : inRuns [] n = false := rfl

end Chip8.Text
