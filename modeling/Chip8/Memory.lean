import Chip8.Number.Radix
import Chip8.Number.Range
import Chip8.Word

/-!
Byte-addressed memory. A region is a non-empty span of addresses, and a memory holds one byte for
each. Every access is checked; a block is checked as a whole before any byte of it moves, so a
rejected write leaves the memory as it was. An empty block may stand one past the last address.
-/

namespace Chip8

/-- A span of addresses. -/
structure Region where
  start : Nat
  length : Nat
  length_pos : 0 < length := by decide
  deriving DecidableEq, Repr

/-- The last address of a region. -/
def Region.last (r : Region) : Nat := r.start + r.length - 1

/-- Why a memory operation is rejected. -/
inductive MemoryFault where
  /-- A region needs a start that is not negative and a positive length. -/
  | badRegion
  /-- A region with more bytes than can be counted. -/
  | hugeRegion
  /-- A region with more bytes than can be held. -/
  | outOfMemory
  | address (address : Int) (region : Region)
  | range (address : Int) (count : Int) (region : Region)
  | negativeCount (count : Int)
  /-- A block that is rejected for a number of bytes with too many digits to be written. -/
  | unwritable
  deriving DecidableEq, Repr

/-- The region from its bounds as a caller gives them, if there is room for its bytes. -/
def Region.ofBounds (room : Number.Room) (start length : Int) : Except MemoryFault Region :=
  if h : start < 0 ∨ length ≤ 0 then .error .badRegion
  else if Number.max64 < length then .error .hugeRegion
  else if room.bytes < length then .error .outOfMemory
  else .ok ⟨start.toNat, length.toNat, by omega⟩

/-- The bounds of a region as messages show them. -/
def Region.text (r : Region) : String :=
  Number.markedHex 6 r.start ++ "-" ++ Number.markedHex 6 r.last

/-- The message of a memory fault; running out of memory has none. -/
def MemoryFault.message : MemoryFault → String
  | .badRegion => "memory region must have a positive length and non-negative start"
  | .hugeRegion => "cannot fit 'int' into an index-sized integer"
  | .outOfMemory => ""
  | .address a r => s!"address {Number.markedHex 6 a} outside region {r.text}"
  | .range a n r => s!"range {Number.markedHex 6 a}+{n} outside region {r.text}"
  | .negativeCount n => s!"negative transfer length {n}"
  | .unwritable => Number.unwritableText

/-- A fault whose message shows a number of bytes, if that can be written. -/
def MemoryFault.showing (count : Int) (f : MemoryFault) : MemoryFault :=
  if Number.isWritable count then f else .unwritable

/-- The bytes of a region. -/
structure Memory (r : Region) where
  bytes : Vector UInt8 r.length
  deriving DecidableEq

/-- The byte that a number is stored as. -/
def byteOf (n : Int) : UInt8 := UInt8.ofInt n

namespace Memory

variable {r : Region}

/-- A memory of zeros. -/
def zeros (r : Region) : Memory r := ⟨Vector.replicate r.length 0⟩

/-- Sets every byte to zero. -/
def clear (m : Memory r) : Memory r := ⟨m.bytes.map fun _ => 0⟩

/-- The place of an address, if it lies in the region. -/
def place (r : Region) (address : Int) : Except MemoryFault (Fin r.length) :=
  if h : 0 ≤ address - r.start ∧ address - r.start < r.length then
    .ok ⟨(address - r.start).toNat, by omega⟩
  else .error (.address address r)

/-- The place of a block's first byte, if the whole block lies in the region. -/
def span (r : Region) (address count : Int) : Except MemoryFault { n : Nat // n + count ≤ r.length } :=
  if count < 0 then .error (.showing count (.negativeCount count))
  else if h : 0 ≤ address - r.start ∧ address - r.start + count ≤ r.length then
    .ok ⟨(address - r.start).toNat, by omega⟩
  else .error (.showing count (.range address count r))

/-- The byte at an address. -/
def load (m : Memory r) (address : Int) : Except MemoryFault UInt8 := do
  let k ← place r address
  pure m.bytes[k]

/-- Puts a byte at an address. -/
def store (m : Memory r) (address : Int) (value : Int) : Except MemoryFault (Memory r) := do
  let k ← place r address
  pure ⟨m.bytes.set k (byteOf value)⟩

/-- The word at an address, high byte first. -/
def loadWord (m : Memory r) (address : Int) : Except MemoryFault Word := do
  let high ← m.load address
  let low ← m.load (address + 1)
  pure (.ofBytes high low)

/-- The `count` bytes from a place on. -/
def slice (m : Memory r) (start count : Nat) : List UInt8 :=
  (m.bytes.toArray.extract start (start + count)).toList

/-- The block of `count` bytes at an address. -/
def read (m : Memory r) (address count : Int) : Except MemoryFault (List UInt8) := do
  let k ← span r address count
  pure (m.slice k count.toNat)

/-- Puts bytes in a row from a place on; what would fall outside is dropped. -/
def put (v : Vector UInt8 n) (start : Nat) : List UInt8 → Vector UInt8 n
  | [] => v
  | b :: rest => put (v.setIfInBounds start b) (start + 1) rest

/-- Puts a block at an address. -/
def write (m : Memory r) (address : Int) (data : List Int) : Except MemoryFault (Memory r) := do
  let k ← span r address data.length
  pure ⟨put m.bytes k (data.map byteOf)⟩

/-- All bytes in order. -/
def snapshot (m : Memory r) : List UInt8 := m.bytes.toList

/-! ### What the operations do to single bytes -/

theorem clear_eq_zeros (m : Memory r) : m.clear = zeros r := by
  have h : m.bytes.map (fun _ => (0 : UInt8)) = Vector.replicate r.length 0 :=
    Vector.ext fun i hi => by simp
  exact congrArg Memory.mk h

theorem getElem_put (v : Vector UInt8 n) (start : Nat) (data : List UInt8) (i : Nat) (hi : i < n) :
    (put v start data)[i] =
      if h : start ≤ i ∧ i - start < data.length then data[i - start] else v[i] := by
  induction data generalizing v start with
  | nil => simp [put]
  | cons b rest ih =>
    rw [put, ih]
    by_cases h : start + 1 ≤ i ∧ i - (start + 1) < rest.length
    · have h' : start ≤ i ∧ i - start < (b :: rest).length := by
        simp only [List.length_cons]
        omega
      have e : i - start = i - (start + 1) + 1 := by omega
      simp [h, h', e]
    · rw [dif_neg h, Vector.getElem_setIfInBounds]
      by_cases hs : start = i
      · subst hs
        simp
      · have h' : ¬(start ≤ i ∧ i - start < (b :: rest).length) := by
          simp only [List.length_cons]
          omega
        rw [dif_neg h', if_neg hs]

theorem place_of_inside {address : Int} (h : 0 ≤ address - r.start ∧ address - r.start < r.length) :
    place r address = .ok ⟨(address - r.start).toNat, by omega⟩ := dif_pos h

theorem place_of_outside {address : Int}
    (h : ¬(0 ≤ address - r.start ∧ address - r.start < r.length)) :
    place r address = .error (.address address r) := dif_neg h

theorem load_eq_ok_iff (m : Memory r) (address : Int) (b : UInt8) :
    m.load address = .ok b ↔ r.start ≤ address ∧ m.bytes[(address - r.start).toNat]? = some b := by
  by_cases h : 0 ≤ address - r.start ∧ address - r.start < r.length
  · have hk : (address - r.start).toNat < r.length := by omega
    have hs : (r.start : Int) ≤ address := by omega
    rw [load, place_of_inside h, Vector.getElem?_eq_getElem hk, and_iff_right hs]
    constructor
    · intro e
      exact congrArg some (Except.ok.inj e)
    · intro e
      exact congrArg Except.ok (Option.some.inj e)
  · rw [load, place_of_outside h]
    constructor
    · exact nofun
    · rintro ⟨hs, hb⟩
      rw [Vector.getElem?_eq_none (by omega)] at hb
      cases hb

end Memory

end Chip8
