/-!
The Adler-32 checksum: the sum of the bytes, and the sum in which a byte counts as often as there
are bytes from it to the end, so that the order matters; both begin with one and are taken modulo
65521. Recorded pictures and sounds are told apart by it. Main statements: the checksum of texts
one behind the other, and of copies of a text, follow from those of the texts (`ofBytes_append`,
`ofBytes_copies`).
-/

namespace Chip8

/-- The sums of a checksum before they are reduced. -/
structure Checksum where
  count : Nat := 0
  sum : Nat := 0
  weighted : Nat := 0
  deriving DecidableEq, Repr

namespace Checksum

/-- Adds a byte at the end. -/
def add (c : Checksum) (b : UInt8) : Checksum :=
  ⟨c.count + 1, c.sum + b.toNat, c.weighted + c.sum + b.toNat⟩

/-- The checksum as one number. -/
def value (c : Checksum) : Nat :=
  (c.count + c.weighted) % 65521 * 65536 + (1 + c.sum) % 65521

/-- The checksum of bytes. -/
def ofBytes (bytes : List UInt8) : Checksum := bytes.foldl add {}

/-- The checksum of one text behind another. -/
def append (c d : Checksum) : Checksum :=
  ⟨c.count + d.count, c.sum + d.sum, c.weighted + d.count * c.sum + d.weighted⟩

/-- The checksum of `n` copies of a text. -/
def copies (n : Nat) (c : Checksum) : Checksum :=
  ⟨n * c.count, n * c.sum, n * c.weighted + n * (n - 1) / 2 * (c.count * c.sum)⟩

theorem ofBytes_nil : (ofBytes []).value = 1 := rfl

theorem append_add (c d : Checksum) (b : UInt8) : c.append (d.add b) = (c.append d).add b := by
  simp only [append, add, Checksum.mk.injEq, Nat.add_mul, Nat.one_mul]
  omega

theorem foldl_add (c : Checksum) (bytes : List UInt8) :
    bytes.foldl add c = c.append (ofBytes bytes) := by
  suffices h : ∀ d, bytes.foldl add (c.append d) = c.append (bytes.foldl add d) by
    simpa [append, ofBytes] using h {}
  induction bytes with
  | nil => exact fun _ => rfl
  | cons b rest ih => exact fun d => by rw [List.foldl_cons, ← append_add, ih, List.foldl_cons]

theorem ofBytes_append (xs ys : List UInt8) :
    ofBytes (xs ++ ys) = (ofBytes xs).append (ofBytes ys) := by
  rw [ofBytes, List.foldl_append, foldl_add, ← ofBytes]

theorem copies_succ (n : Nat) (c : Checksum) : copies (n + 1) c = c.append (copies n c) := by
  have triangle : (n + 1) * n / 2 = n * (n - 1) / 2 + n := by
    have h : (n + 1) * n = n * (n - 1) + n * 2 := by
      cases n with
      | zero => rfl
      | succ k => simp only [Nat.add_sub_cancel]; grind
    rw [h, Nat.add_mul_div_right _ _ (by decide)]
  simp only [copies, append, Checksum.mk.injEq, Nat.add_sub_cancel, triangle]
  grind

theorem ofBytes_copies (n : Nat) (xs : List UInt8) :
    ofBytes (List.replicate n xs).flatten = copies n (ofBytes xs) := by
  induction n with
  | zero => simp [ofBytes, copies]
  | succ n ih => rw [List.replicate_succ, List.flatten_cons, ofBytes_append, ih, copies_succ]

end Checksum

end Chip8
