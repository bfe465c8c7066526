import Mathlib
import Chip8.Memory

/-!
Bytes, words and blocks of a memory.

A byte is checked by its address, a block by its first address and its count. The two checks agree:
a block that is not empty lies in a region exactly if each of its addresses does (`holdsBlock_iff`).
So a block is read and written as its bytes are one by one, and a word is two bytes
(`accesses_agree`). A write that is refused is refused before its first byte, so what fails changes
nothing, and one that is not replaces as many bytes as it brings (`toList_put`).
-/

namespace Chip8

/-! ### Numbers as bytes -/

lemma toNat_byteOf (n : Int) : (byteOf n).toNat = (n % 256).toNat := by
  have h : (n % 256).toNat < 256 := by omega
  simp only [byteOf, UInt8.ofInt, UInt8.toNat_ofNat']
  exact Nat.mod_eq_of_lt h

@[simp] lemma byteOf_toNat (b : UInt8) : byteOf b.toNat = b := by
  have h := b.toNat_lt
  apply UInt8.toNat.inj
  rw [toNat_byteOf]
  omega

lemma natCast_byteOf (n : Int) : ((byteOf n).toNat : Int) = n % 256 := by
  rw [toNat_byteOf]
  omega

/-! ### Addresses of a region -/

namespace Region

/-- An address lies in a region. -/
def Holds (r : Region) (a : Int) : Prop := r.start ≤ a ∧ a < r.start + r.length

/-- A block lies in a region. An empty one may also stand one past the last address. -/
def HoldsBlock (r : Region) (a n : Int) : Prop :=
  0 ≤ n ∧ r.start ≤ a ∧ a + n ≤ r.start + r.length

variable {r : Region} {a n : Int}

/-- A block that is not empty lies in a region exactly if each of its addresses does. -/
lemma holdsBlock_iff (hn : 0 < n) :
    r.HoldsBlock a n ↔ ∀ k, 0 ≤ k → k < n → r.Holds (a + k) := by
  constructor
  · rintro ⟨-, hfirst, hlast⟩ k hk hkn
    exact ⟨by omega, by omega⟩
  · intro h
    have hfirst := h 0 le_rfl hn
    have hlast := h (n - 1) (by omega) (by omega)
    exact ⟨hn.le, by have := hfirst.1; omega, by have := hlast.2; omega⟩

/-- The same for a block with bytes for its addresses. -/
lemma holdsBlock_length_iff {data : List Int} (hdata : data ≠ []) :
    r.HoldsBlock a data.length ↔ ∀ (k : Nat) v, data[k]? = some v → r.Holds (a + k) := by
  have hpos := List.length_pos_iff.2 hdata
  rw [holdsBlock_iff (by omega)]
  constructor
  · intro h k v hv
    have hk := (List.getElem?_eq_some_iff.1 hv).1
    exact h k (by omega) (by omega)
  · intro h k hk hkn
    obtain ⟨j, rfl⟩ := Int.eq_ofNat_of_zero_le hk
    exact h j _ (List.getElem?_eq_getElem (by omega))

lemma holdsBlock_zero_iff : r.HoldsBlock a 0 ↔ r.start ≤ a ∧ a ≤ r.start + r.length := by
  rw [HoldsBlock, and_iff_right le_rfl, add_zero]

end Region

open Region (holdsBlock_zero_iff)

namespace Memory

variable {r : Region} {m after : Memory r} {a n v : Int} {data : List Int} {bytes : List UInt8}

/-! ### Bytes -/

lemma exists_load_iff : (∃ b, m.load a = .ok b) ↔ r.Holds a := by
  simp only [load_eq_ok_iff, Region.Holds, exists_and_left]
  refine and_congr_right fun hfirst => ?_
  rw [← Option.isSome_iff_exists, isSome_getElem?]
  constructor <;> intro h <;> omega

/-- What is loaded from an address depends on the byte at its place only. -/
lemma load_congr {m m' : Memory r} (same : r.Holds a →
    m.bytes[(a - r.start).toNat]? = m'.bytes[(a - r.start).toNat]?) : m.load a = m'.load a := by
  by_cases h : r.Holds a
  · obtain ⟨b, hb⟩ := exists_load_iff (m := m).2 h
    have hb' : m'.load a = .ok b := by
      rw [load_eq_ok_iff, ← same h]
      exact (load_eq_ok_iff m a b).1 hb
    rw [hb, hb']
  · rw [load, load, place_of_outside fun hin => h ⟨by omega, by omega⟩]
    rfl

lemma store_of_holds (h : r.Holds a) :
    m.store a v = .ok ⟨m.bytes.setIfInBounds (a - r.start).toNat (byteOf v)⟩ := by
  obtain ⟨hfirst, hlast⟩ := h
  have hset (hk : (a - r.start).toNat < r.length) :
      m.bytes.set (a - r.start).toNat (byteOf v) hk =
        m.bytes.setIfInBounds (a - r.start).toNat (byteOf v) :=
    Vector.ext fun i hi => by rw [Vector.getElem_set, Vector.getElem_setIfInBounds]
  rw [store, place_of_inside ⟨by omega, by omega⟩, ← hset]
  rfl

lemma exists_store_iff : (∃ after, m.store a v = .ok after) ↔ r.Holds a := by
  by_cases h : r.Holds a
  · exact iff_of_true ⟨_, store_of_holds h⟩ h
  · rw [store, place_of_outside fun hin => h ⟨by omega, by omega⟩]
    exact iff_of_false nofun h

/-- A store puts the low byte of its number at its address and leaves every other address. -/
lemma load_of_store (hstore : m.store a v = .ok after) :
    after.load a = .ok (byteOf v) ∧ ∀ a', a' ≠ a → after.load a' = m.load a' := by
  have h : r.Holds a := exists_store_iff.1 ⟨_, hstore⟩
  rw [store_of_holds h, Except.ok.injEq] at hstore
  subst hstore
  obtain ⟨hfirst, hlast⟩ := h
  constructor
  · rw [load_eq_ok_iff]
    refine ⟨hfirst, ?_⟩
    rw [Vector.getElem?_setIfInBounds_self, if_pos (by omega)]
  · refine fun a' hne => load_congr fun h' => ?_
    have hplace : (a - r.start).toNat ≠ (a' - r.start).toNat := by
      have := h'.1
      omega
    exact Vector.getElem?_setIfInBounds_ne hplace

/-! ### Blocks -/

lemma exists_span_of_holdsBlock (h : r.HoldsBlock a n) :
    ∃ k, span r a n = .ok k ∧ k.val = (a - r.start).toNat := by
  obtain ⟨hn, hfirst, hlast⟩ := h
  rw [span, if_neg (not_lt.2 hn), dif_pos ⟨by omega, by omega⟩]
  exact ⟨_, rfl, rfl⟩

lemma exists_span_of_not_holdsBlock (h : ¬r.HoldsBlock a n) : ∃ f, span r a n = .error f := by
  rw [span]
  split
  · exact ⟨_, rfl⟩
  · rw [dif_neg fun hin => h ⟨by omega, by omega, by omega⟩]
    exact ⟨_, rfl⟩

lemma read_of_holdsBlock (h : r.HoldsBlock a n) :
    m.read a n = .ok (m.slice (a - r.start).toNat n.toNat) := by
  obtain ⟨k, hspan, hk⟩ := exists_span_of_holdsBlock h
  rw [read, hspan, ← hk]
  rfl

lemma exists_read_iff : (∃ bytes, m.read a n = .ok bytes) ↔ r.HoldsBlock a n := by
  by_cases h : r.HoldsBlock a n
  · exact iff_of_true ⟨_, read_of_holdsBlock h⟩ h
  · obtain ⟨f, hf⟩ := exists_span_of_not_holdsBlock h
    rw [read, hf]
    exact iff_of_false nofun h

lemma write_of_holdsBlock (h : r.HoldsBlock a data.length) :
    m.write a data = .ok ⟨put m.bytes (a - r.start).toNat (data.map byteOf)⟩ := by
  obtain ⟨k, hspan, hk⟩ := exists_span_of_holdsBlock h
  rw [write, hspan, ← hk]
  rfl

lemma exists_write_iff : (∃ after, m.write a data = .ok after) ↔ r.HoldsBlock a data.length := by
  by_cases h : r.HoldsBlock a data.length
  · exact iff_of_true ⟨_, write_of_holdsBlock h⟩ h
  · obtain ⟨f, hf⟩ := exists_span_of_not_holdsBlock h
    rw [write, hf]
    exact iff_of_false nofun h

/-- A row of bytes between what stays before and behind it. -/
lemma toList_put {n : Nat} (v : Vector UInt8 n) (start : Nat) (data : List UInt8)
    (h : start + data.length ≤ n) : (put v start data).toList =
      v.toList.take start ++ data ++ v.toList.drop (start + data.length) := by
  refine List.ext_getElem ?_ fun i hi hi' => ?_
  · simp only [Vector.length_toList, List.length_append, List.length_take, List.length_drop]
    omega
  · rw [Vector.getElem_toList, getElem_put]
    grind

/-- A block is read as the bytes at its addresses, in order. -/
lemma getElem?_of_read (hread : m.read a n = .ok bytes) :
    bytes.length = n ∧ ∀ (k : Nat) b, bytes[k]? = some b → m.load (a + k) = .ok b := by
  have h : r.HoldsBlock a n := exists_read_iff.1 ⟨_, hread⟩
  rw [read_of_holdsBlock h, Except.ok.injEq] at hread
  subst hread
  obtain ⟨hn, hfirst, hlast⟩ := h
  have hlength : (m.slice (a - r.start).toNat n.toNat).length = n.toNat := by
    simp only [slice, Array.length_toList, Array.size_extract, Vector.size_toArray]
    omega
  refine ⟨by omega, fun k b hb => ?_⟩
  have hk := (List.getElem?_eq_some_iff.1 hb).1
  have hplace : (a + k - r.start).toNat = (a - r.start).toNat + k := by omega
  have hlt : (a - r.start).toNat + k < r.length := by omega
  rw [load_eq_ok_iff, hplace, Vector.getElem?_eq_getElem hlt, ← hb, List.getElem?_eq_getElem hk]
  refine ⟨by omega, ?_⟩
  simp only [slice, Array.getElem_toList, Array.getElem_extract]
  rfl

/-- A block that is written puts the low bytes of its numbers at its addresses and leaves every
other address. -/
lemma load_of_write (hwrite : m.write a data = .ok after) :
    (∀ (k : Nat) v, data[k]? = some v → after.load (a + k) = .ok (byteOf v)) ∧
      ∀ a', a' < a ∨ a + data.length ≤ a' → after.load a' = m.load a' := by
  have h : r.HoldsBlock a data.length := exists_write_iff.1 ⟨_, hwrite⟩
  rw [write_of_holdsBlock h, Except.ok.injEq] at hwrite
  subst hwrite
  obtain ⟨-, hfirst, hlast⟩ := h
  constructor
  · intro k v hv
    obtain ⟨hk, rfl⟩ := List.getElem?_eq_some_iff.1 hv
    have hplace : (a + k - r.start).toNat = (a - r.start).toNat + k := by omega
    have hlt : (a - r.start).toNat + k < r.length := by omega
    rw [load_eq_ok_iff, hplace, Vector.getElem?_eq_getElem hlt, getElem_put]
    refine ⟨by omega, ?_⟩
    simp [hk]
  · refine fun a' hout => load_congr fun h' => ?_
    obtain ⟨hfirst', hlast'⟩ := h'
    have hlt : (a' - r.start).toNat < r.length := by omega
    rw [Vector.getElem?_eq_getElem hlt, Vector.getElem?_eq_getElem hlt, getElem_put, dif_neg]
    rw [List.length_map]
    omega

/-! ### Blocks byte by byte -/

/-- Stores numbers one by one, each at the address behind the one before. -/
def storeAll (m : Memory r) (a : Int) : List Int → Except MemoryFault (Memory r)
  | [] => .ok m
  | v :: rest => do
    let m ← m.store a v
    m.storeAll (a + 1) rest

lemma storeAll_of_holdsBlock (h : r.HoldsBlock a data.length) :
    m.storeAll a data = .ok ⟨put m.bytes (a - r.start).toNat (data.map byteOf)⟩ := by
  induction data generalizing m a with
  | nil => rfl
  | cons v rest ih =>
    obtain ⟨-, hfirst, hlast⟩ := h
    rw [List.length_cons] at hlast
    have hstore : r.Holds a := ⟨hfirst, by omega⟩
    have hrest : r.HoldsBlock (a + 1) rest.length := ⟨by omega, by omega, by omega⟩
    have hplace : (a + 1 - r.start).toNat = (a - r.start).toNat + 1 := by omega
    rw [storeAll, store_of_holds hstore]
    refine (ih hrest).trans ?_
    rw [hplace]
    rfl

lemma write_eq_storeAll (h : r.HoldsBlock a data.length) :
    m.write a data = m.storeAll a data := by
  rw [write_of_holdsBlock h, storeAll_of_holdsBlock h]

/-! ### Words -/

lemma loadWord_eq_ok_iff {w : Word} : m.loadWord a = .ok w ↔ ∃ high low,
    m.load a = .ok high ∧ m.load (a + 1) = .ok low ∧
      w.val = 256 * high.toNat + low.toNat := by
  rw [loadWord]
  constructor
  · intro h
    rcases hhigh : m.load a with f | high <;> rw [hhigh] at h
    · cases h
    rcases hlow : m.load (a + 1) with f | low <;> rw [hlow] at h <;> cases h
    exact ⟨high, low, rfl, rfl, congrArg (· + low.toNat) (Nat.mul_comm ..)⟩
  · rintro ⟨high, low, hhigh, hlow, hval⟩
    have hw : Word.ofBytes high low = w := by
      rcases w with ⟨val, hlt⟩
      obtain rfl : val = 256 * high.toNat + low.toNat := hval
      rw [Word.ofBytes]
      congr 1
      omega
    rw [hhigh, hlow, ← hw]
    rfl

/-! ### Requests -/

/-- What is asked of a memory. -/
inductive Request where
  | load (address : Int)
  | store (address value : Int)
  | loadWord (address : Int)
  | read (address count : Int)
  | write (address : Int) (data : List Int)
  | clear
  | snapshot

/-- What a memory answers. -/
inductive Answer where
  | nothing
  | byte (b : UInt8)
  | word (w : Word)
  | bytes (bs : List UInt8)

/-- The memory that a change leaves, which is the one before if the change is refused. -/
def changed (m : Memory r) : Except MemoryFault (Memory r) → Except MemoryFault Answer × Memory r
  | .ok after => (.ok .nothing, after)
  | .error f => (.error f, m)

/-- What a memory answers to a request, and the memory after it. -/
def Request.perform (m : Memory r) : Request → Except MemoryFault Answer × Memory r
  | .load a => ((m.load a).map .byte, m)
  | .store a v => m.changed (m.store a v)
  | .loadWord a => ((m.loadWord a).map .word, m)
  | .read a n => ((m.read a n).map .bytes, m)
  | .write a data => m.changed (m.write a data)
  | .clear => (.ok .nothing, m.clear)
  | .snapshot => (.ok (.bytes m.snapshot), m)

/-- The memory after some requests. -/
def run (m : Memory r) (requests : List Request) : Memory r :=
  requests.foldl (fun m q => (q.perform m).2) m

/-- A request that fails changes nothing. -/
lemma perform_of_error {q : Request} {f : MemoryFault} (fault : (q.perform m).1 = .error f) :
    (q.perform m).2 = m := by
  have hchanged {x : Except MemoryFault (Memory r)} (fault : (m.changed x).1 = .error f) :
      (m.changed x).2 = m := by
    rcases x with f | after
    · rfl
    · cases fault
  cases q with
  | store a v => exact hchanged fault
  | write a data => exact hchanged fault
  | clear => cases fault
  | _ => rfl

/-! ### All accesses -/

/-- The accesses to a memory agree. -/
structure Agrees (m : Memory r) : Prop where
  readable : ∀ a n, 0 < n →
    ((∃ bytes, m.read a n = .ok bytes) ↔ ∀ k, 0 ≤ k → k < n → ∃ b, m.load (a + k) = .ok b)
  read : ∀ a n bytes, m.read a n = .ok bytes →
    bytes.length = n ∧ ∀ (k : Nat) b, bytes[k]? = some b → m.load (a + k) = .ok b
  writable : ∀ a data, data ≠ [] → ((∃ after, m.write a data = .ok after) ↔
    ∀ (k : Nat) v, data[k]? = some v → ∃ after, m.store (a + k) v = .ok after)
  write : ∀ a data after, m.write a data = .ok after → m.storeAll a data = .ok after
  /-- An empty block may stand one past the last address. -/
  readNone : ∀ a bytes, m.read a 0 = .ok bytes ↔
    (r.start ≤ a ∧ a ≤ r.start + r.length) ∧ bytes = []
  writeNone : ∀ a after, m.write a [] = .ok after ↔
    (r.start ≤ a ∧ a ≤ r.start + r.length) ∧ after = m
  /-- A number of bytes below none is refused, and named if it can be written. -/
  negative : ∀ a n, n < 0 →
    m.read a n = .error (if Number.isWritable n then .negativeCount n else .unwritable)
  word : ∀ a w, m.loadWord a = .ok w ↔ ∃ high low,
    m.load a = .ok high ∧ m.load (a + 1) = .ok low ∧ w.val = 256 * high.toNat + low.toNat

/-- What a memory keeps, and what it takes. -/
structure Keeps (m : Memory r) : Prop where
  refused : ∀ (q : Request) f, (q.perform m).1 = .error f → (q.perform m).2 = m
  stored : ∀ a v after, m.store a v = .ok after →
    (∃ b, after.load a = .ok b ∧ b.toNat = v % 256) ∧ ∀ a', a' ≠ a → after.load a' = m.load a'
  written : ∀ a data after, m.write a data = .ok after →
    (∀ (k : Nat) v, data[k]? = some v → ∃ b, after.load (a + k) = .ok b ∧ b.toNat = v % 256) ∧
      ∀ a', a' < a ∨ a + data.length ≤ a' → after.load a' = m.load a'
  /-- As many bytes go as come. -/
  replaced : ∀ a data after, m.write a data = .ok after →
    after.snapshot = m.snapshot.take (a - r.start).toNat ++ data.map byteOf ++
      m.snapshot.drop ((a - r.start).toNat + data.length)
  size : m.snapshot.length = r.length

lemma agrees (m : Memory r) : m.Agrees where
  readable a n hn := by
    rw [exists_read_iff, Region.holdsBlock_iff hn]
    simp only [exists_load_iff]
  read _ _ _ hread := getElem?_of_read hread
  writable a data hdata := by
    rw [exists_write_iff, Region.holdsBlock_length_iff hdata]
    simp only [exists_store_iff]
  write a data after hwrite := by
    rw [← write_eq_storeAll (exists_write_iff.1 ⟨_, hwrite⟩), hwrite]
  readNone a bytes := by
    have hnone {bytes : List UInt8} (hread : m.read a 0 = .ok bytes) : bytes = [] := by
      have hlength := (getElem?_of_read hread).1
      exact List.eq_nil_of_length_eq_zero (by omega)
    rw [← holdsBlock_zero_iff]
    constructor
    · exact fun hread => ⟨exists_read_iff.1 ⟨_, hread⟩, hnone hread⟩
    · rintro ⟨h, rfl⟩
      obtain ⟨bytes, hread⟩ := exists_read_iff.2 h
      rwa [hnone hread] at hread
  writeNone a after := by
    rw [← holdsBlock_zero_iff]
    constructor
    · intro hwrite
      have h : r.HoldsBlock a 0 := exists_write_iff.1 ⟨_, hwrite⟩
      exact ⟨h, (Except.ok.inj ((write_of_holdsBlock h).symm.trans hwrite)).symm⟩
    · rintro ⟨h, rfl⟩
      exact write_of_holdsBlock h
  negative a n hn := by
    rw [Memory.read, span, if_pos hn, MemoryFault.showing]
    generalize Number.isWritable n = written
    rfl
  word _ _ := loadWord_eq_ok_iff

lemma keeps (m : Memory r) : m.Keeps where
  refused _ _ := perform_of_error
  stored a v after hstore := by
    obtain ⟨hat, helse⟩ := load_of_store hstore
    exact ⟨⟨_, hat, natCast_byteOf v⟩, helse⟩
  written a data after hwrite := by
    obtain ⟨hat, helse⟩ := load_of_write hwrite
    exact ⟨fun k v hv => ⟨_, hat k v hv, natCast_byteOf v⟩, helse⟩
  replaced a data after hwrite := by
    have h : r.HoldsBlock a data.length := exists_write_iff.1 ⟨_, hwrite⟩
    rw [write_of_holdsBlock h, Except.ok.injEq] at hwrite
    subst hwrite
    obtain ⟨-, hfirst, hlast⟩ := h
    refine (toList_put _ _ _ ?_).trans ?_
    · rw [List.length_map]
      omega
    · rw [List.length_map]
      rfl
  size := m.bytes.length_toList

/-- **Blocks and words are their bytes.** Take any region and any memory of it that requests lead
to from zeros. A block that is not empty can be read or written exactly if each of its bytes can be
loaded or stored, and it is what loading them one by one gives, or comes to what storing them one by
one does; a block without bytes can also stand one past the region, and one with fewer than none
cannot be read; a word is two bytes, the high one first. A request that fails changes nothing; a
number is stored as its low byte; a write leaves the bytes before and behind it, and puts as many as
it takes away, so that the memory has one byte for each address. -/
theorem accesses_agree (r : Region) (requests : List Request) :
    ((zeros r).run requests).Agrees ∧ ((zeros r).run requests).Keeps :=
  ⟨agrees _, keeps _⟩

end Memory

end Chip8
