import Chip8.Text

/-!
Digits of every script. Each script that writes numbers in base ten has its ten digits in a row,
so the table holds the code point of each zero.
-/

namespace Chip8.Text

/-- The code points of the decimal zeros. -/
def decimalZeros : List Nat := [
  0x30, 0x660, 0x6F0, 0x7C0, 0x966, 0x9E6, 0xA66, 0xAE6, 0xB66, 0xBE6, 0xC66, 0xCE6, 0xD66,
  0xDE6, 0xE50, 0xED0, 0xF20, 0x1040, 0x1090, 0x17E0, 0x1810, 0x1946, 0x19D0, 0x1A80, 0x1A90,
  0x1B50, 0x1BB0, 0x1C40, 0x1C50, 0xA620, 0xA8D0, 0xA900, 0xA9D0, 0xA9F0, 0xAA50, 0xABF0,
  0xFF10, 0x104A0, 0x10D30, 0x11066, 0x110F0, 0x11136, 0x111D0, 0x112F0, 0x11450, 0x114D0,
  0x11650, 0x116C0, 0x11730, 0x118E0, 0x11950, 0x11C50, 0x11D50, 0x11DA0, 0x16A60, 0x16AC0,
  0x16B50, 0x1D7CE, 0x1D7D8, 0x1D7E2, 0x1D7EC, 0x1D7F6, 0x1E140, 0x1E2F0, 0x1E950, 0x1FBF0]

/-- The value of a decimal digit of any script. -/
def decimalDigit? (c : Symbol) : Option Nat :=
  (decimalZeros.find? fun z => z ≤ c.code && c.code < z + 10).map (c.code - ·)

/-- The value of a hexadecimal digit: a decimal digit of any script or an ASCII letter `a` to `f`
in either case. -/
def hexDigit? (c : Symbol) : Option Nat :=
  if 97 ≤ c.code ∧ c.code ≤ 102 then some (c.code - 87)
  else if 65 ≤ c.code ∧ c.code ≤ 70 then some (c.code - 55)
  else decimalDigit? c

theorem decimalDigit?_lt {c : Symbol} {d : Nat} (h : decimalDigit? c = some d) : d < 10 := by
  obtain ⟨z, hz, rfl⟩ := Option.map_eq_some_iff.1 h
  have := List.find?_some hz
  simp only [Bool.and_eq_true, decide_eq_true_eq] at this
  omega

theorem hexDigit?_lt {c : Symbol} {d : Nat} (h : hexDigit? c = some d) : d < 16 := by
  unfold hexDigit? at h
  split at h
  · cases h
    omega
  · split at h
    · cases h
      omega
    · exact Nat.lt_trans (decimalDigit?_lt h) (by omega)

end Chip8.Text
