import Chip8.Number.Range

/-!
Instruction words. A word is two bytes, the high one first, and its four nibbles carry the
operands: a register in the second, a register in the third, and constants of four, eight and
twelve bits at the end.
-/

namespace Chip8

/-- A 16-bit word. -/
structure Word where
  val : Nat
  val_lt : val < 0x10000
  deriving DecidableEq, Repr

/-- A number outside the range of words. -/
structure WordRange where
  value : Int
  deriving DecidableEq, Repr

/-- The message for a number outside the range of words. -/
def WordRange.message (e : WordRange) : String :=
  Number.showing [e.value] s!"opcode word out of range: {e.value}"

namespace Word

/-- The word for a number, if it is in range. -/
def ofInt (n : Int) : Except WordRange Word :=
  if h : 0 ≤ n ∧ n < 0x10000 then .ok ⟨n.toNat, by omega⟩ else .error ⟨n⟩

/-- The word of two bytes. -/
def ofBytes (high low : UInt8) : Word :=
  ⟨high.toNat * 256 + low.toNat, by
    have h := high.toNat_lt
    have l := low.toNat_lt
    omega⟩

/-- The two bytes of a word. -/
def bytes (w : Word) : List UInt8 := [UInt8.ofNat (w.val / 256), UInt8.ofNat w.val]

/-- The leading nibble, which tells the group of an instruction. -/
def group (w : Word) : Fin 16 := ⟨w.val / 4096 % 16, Nat.mod_lt _ (by decide)⟩

/-- The register in the second nibble. -/
def x (w : Word) : Fin 16 := ⟨w.val / 256 % 16, Nat.mod_lt _ (by decide)⟩

/-- The register in the third nibble. -/
def y (w : Word) : Fin 16 := ⟨w.val / 16 % 16, Nat.mod_lt _ (by decide)⟩

/-- The last nibble. -/
def n (w : Word) : Nat := w.val % 16

/-- The low byte. -/
def nn (w : Word) : UInt8 := UInt8.ofNat w.val

/-- The low twelve bits, an address. -/
def nnn (w : Word) : Nat := w.val % 4096

/-- The four nibbles from the left. -/
def nibbles (w : Word) : List Nat := [w.group, w.x, w.y, w.n]

theorem n_lt (w : Word) : w.n < 16 := Nat.mod_lt _ (by decide)

theorem nnn_lt (w : Word) : w.nnn < 4096 := Nat.mod_lt _ (by decide)

/-- A word is its nibbles read in base sixteen. -/
theorem val_eq_nibbles (w : Word) :
    w.val = ((w.group.val * 16 + w.x.val) * 16 + w.y.val) * 16 + w.n := by
  have := w.val_lt
  simp only [group, x, y, n]
  omega

end Word

end Chip8
