/-!
Nibbles, and rows with one entry for each nibble. The registers, the keys, the counts of the keypad
and the groups of an instruction table are such rows; replacing an entry changes no other.
-/

namespace Chip8

/-- The nibble of a value, if there is one. -/
def nibble? (n : Int) : Option (Fin 16) :=
  if h : 0 ≤ n ∧ n < 16 then some ⟨n.toNat, by omega⟩ else none

theorem nibble_lt (k : Fin 16) : k.val < 16 := k.isLt

theorem nibble?_eq_some_iff {n : Int} {k : Fin 16} : nibble? n = some k ↔ n = k.val := by
  unfold nibble?
  split
  · rename_i h
    simp only [Option.some.injEq, Fin.ext_iff]
    omega
  · have := k.isLt
    simp only [reduceCtorEq, false_iff]
    omega

theorem nibble?_val (k : Fin 16) : nibble? k.val = some k := nibble?_eq_some_iff.2 rfl

/-- The entry of a nibble. -/
def entry (v : Vector α 16) (k : Fin 16) : α := v.get k

/-- The row with another entry for a nibble. -/
def setEntry (v : Vector α 16) (k : Fin 16) (a : α) : Vector α 16 := v.set k a (nibble_lt k)

theorem entry_eq_getElem (v : Vector α 16) (k : Fin 16) : entry v k = v[k.val] := rfl

theorem entry_setEntry (v : Vector α 16) (k j : Fin 16) (a : α) :
    entry (setEntry v k a) j = if k = j then a else entry v j := by
  simp only [entry_eq_getElem, setEntry, Vector.getElem_set, Fin.val_inj]

@[simp] theorem entry_setEntry_self (v : Vector α 16) (k : Fin 16) (a : α) :
    entry (setEntry v k a) k = a := by
  rw [entry_setEntry, if_pos rfl]

theorem entry_setEntry_ne (v : Vector α 16) {k j : Fin 16} (a : α) (h : k ≠ j) :
    entry (setEntry v k a) j = entry v j := by
  rw [entry_setEntry, if_neg h]

/-- Rows with the same entries are the same. -/
theorem entry_ext {v v' : Vector α 16} (h : ∀ k, entry v k = entry v' k) : v = v' :=
  Vector.ext fun i hi => h ⟨i, hi⟩

theorem setEntry_entry (v : Vector α 16) (k : Fin 16) : setEntry v k (entry v k) = v := by
  refine entry_ext fun j => ?_
  rw [entry_setEntry]
  split
  · rename_i h
    rw [h]
  · rfl

@[simp] theorem entry_replicate (a : α) (k : Fin 16) : entry (Vector.replicate 16 a) k = a := by
  simp [entry_eq_getElem]

end Chip8
