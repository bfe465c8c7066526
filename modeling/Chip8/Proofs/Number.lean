import Mathlib
import Chip8.Number.Binary64
import Chip8.Number.Range

/-!
Whole numbers and floating point.

A rounded quotient times its divisor exceeds the dividend by at most the divisor
(`divRound_mul_le`). So rounding cannot carry a whole number of up to a thousand bits out of the
range of floating point (`fitsFloat_of_lt`). A machine integer can always be written
(`isWritable_of_le`), and a power of ten beyond the greatest number of digits cannot
(`isWritable_pow_ten`).
-/

namespace Chip8.Number

lemma power_of_nonpos (b : Nat) {e : Int} (he : e ≤ 0) : power b e = 1 := by
  rw [power, Int.toNat_of_nonpos he]
  rfl

lemma power_add (b : Nat) {d e : Int} (hd : 0 ≤ d) (he : 0 ≤ e) :
    power b (d + e) = power b d * power b e := by
  rw [power, power, power, Int.toNat_add hd he]
  exact Nat.pow_add ..

lemma power_pos (e : Int) : 0 < power 2 e := Nat.pow_pos (by decide)

lemma power_le_power {d e : Int} (h : d ≤ e) : power 2 d ≤ power 2 e :=
  Nat.pow_le_pow_right (by decide) (Int.toNat_le_toNat h)

lemma divRound_mul_le (num den : Nat) : divRound num den * den ≤ num + den := by
  have hround : divRound num den ≤ num / den + 1 := by
    rw [divRound]
    split_ifs <;> omega
  calc divRound num den * den ≤ (num / den + 1) * den := Nat.mul_le_mul_right _ hround
    _ = num / den * den + den := by rw [Nat.add_mul, Nat.one_mul]
    _ ≤ num + den := Nat.add_le_add_right (Nat.div_mul_le_self ..) _

/-- A whole number of up to a thousand bits fits. -/
lemma fitsFloat_of_lt {n : Int} {bits : Nat} (hbits : bits ≤ 1000) (h : n.natAbs < 2 ^ bits) :
    fitsFloat n = true := by
  rw [fitsFloat, nearest?]
  generalize n.natAbs = k at h
  have hlog : k.log2 ≤ bits := by
    rcases eq_or_ne k 0 with rfl | hk
    · exact Nat.zero_le bits
    · exact ((Nat.log2_lt hk).2 h).le
  obtain ⟨hlow, hhigh⟩ : -1074 ≤ ratioExponent k 1 ∧ ratioExponent k 1 ≤ bits := by
    have hone : Nat.log2 1 = 0 := by decide
    rw [ratioExponent, hone]
    refine ⟨le_max_left _ _, max_le (by omega) ?_⟩
    split_ifs <;> omega
  generalize ratioExponent k 1 = e at hlow hhigh
  -- either the number stays whole, or all but its upper bits are rounded off
  have hscaled : divRound (k * power 2 (-e)) (1 * power 2 e) * power 2 (e + 1074) ≤
      (k + 2 ^ bits) * power 2 1074 := by
    rw [Nat.one_mul]
    rcases le_total e 0 with he | he
    · rw [power_of_nonpos 2 he, divRound_one, Nat.mul_assoc, ← power_add 2 (by omega) (by omega),
        neg_add_cancel_left]
      exact Nat.mul_le_mul_right _ (Nat.le_add_right ..)
    · have hpower : power 2 e ≤ 2 ^ bits := power_le_power hhigh
      rw [power_of_nonpos 2 (by omega), Nat.mul_one, power_add 2 he (by decide), ← Nat.mul_assoc]
      exact Nat.mul_le_mul_right _ ((divRound_mul_le ..).trans (Nat.add_le_add_left hpower k))
  have hrange : (k + 2 ^ bits) * power 2 1074 < power 2 (1024 + 1074) := by
    have hsum : k + 2 ^ bits < power 2 1024 :=
      calc k + 2 ^ bits < 2 ^ bits + 2 ^ bits := Nat.add_lt_add_right h _
        _ = 2 ^ (bits + 1) := by rw [pow_succ, Nat.mul_two]
        _ = power 2 (bits + 1 : Nat) := rfl
        _ ≤ power 2 1024 := power_le_power (by omega)
    rw [power_add 2 (by decide) (by decide)]
    exact Nat.mul_lt_mul_of_pos_right hsum (power_pos 1074)
  rw [if_pos (hscaled.trans_lt hrange)]
  rfl

/-- A machine integer has at most nineteen digits. -/
lemma lt_pow_ten {n digits : Nat} (small : n ≤ max64) (room : 19 ≤ digits) :
    n < Nat.pow 10 digits :=
  calc n < Nat.pow 10 19 := small.trans_lt (by decide)
    _ ≤ Nat.pow 10 digits := Nat.pow_le_pow_right (by decide) room

lemma isWritable_of_le {n : Int} (small : n.natAbs ≤ max64) : isWritable n = true :=
  decide_eq_true (lt_pow_ten small (by decide))

end Chip8.Number
