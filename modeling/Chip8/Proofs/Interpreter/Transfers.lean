import Chip8.Proofs.Interpreter.Frame
import Chip8.Proofs.Interpreter.Words

/-!
Registers in memory.

Two instructions move the registers from V0 up to memory at the index and back, and one puts the
decimal digits of a register there. All three move one block, so they succeed exactly if it lies in
memory (`InRange.done_iff_of_block`), and where it lies makes no difference: the word that is run
was fetched before. A load then undoes a store of as many registers as long as the index and the
block are left alone, whatever became of the registers (`InRange.restores`).
-/

namespace Chip8.Interpreter

open Pattern (Fits)

variable {hw : Hardware} {m after : Interpreter} {w : Word} {op : Operation} {x : Fin 16}
  {random : Nat → UInt8}

/-! ### What is moved -/

/-- Of memory, the index and V0 to VF, nothing changed but a number of bytes at the index. -/
structure OnlyBlock (count : Nat) (m after : Interpreter) : Prop where
  memory : ∀ a, a < m.registers.i ∨ m.registers.i + count ≤ a →
    after.memory.load a = m.memory.load a
  index : after.registers.i = m.registers.i
  registers : ∀ k, after.reg k = m.reg k

/-- The registers up to one of them went to memory at the index. -/
structure Stored (x : Fin 16) (m after : Interpreter) : Prop extends OnlyBlock (x + 1) m after where
  bytes : ∀ k ≤ x, after.memory.load (m.registers.i + k) = .ok (m.reg k)

/-- The digits of a register went to memory at the index, the hundreds first. -/
structure Spelled (x : Fin 16) (m after : Interpreter) : Prop extends OnlyBlock 3 m after where
  digits : ∃ hundreds tens ones : UInt8,
    (after.memory.load m.registers.i = .ok hundreds ∧
      after.memory.load (m.registers.i + 1) = .ok tens ∧
      after.memory.load (m.registers.i + 2) = .ok ones) ∧
    (hundreds.toNat ≤ 9 ∧ tens.toNat ≤ 9 ∧ ones.toNat ≤ 9) ∧
    100 * hundreds.toNat + 10 * tens.toNat + ones.toNat = (m.reg x).toNat

/-- The registers up to one of them came from memory at the index. -/
structure Loaded (x : Fin 16) (m after : Interpreter) : Prop where
  bytes : ∀ k ≤ x, m.memory.load (m.registers.i + k) = .ok (after.reg k)
  above : ∀ k, x < k → after.reg k = m.reg k
  index : after.registers.i = m.registers.i
  memory : after.memory = m.memory

/-- Two processors have the same index and the same bytes there, as many as there are registers up
to one of them. -/
structure SameBlock (x : Fin 16) (m m' : Interpreter) : Prop where
  index : m'.registers.i = m.registers.i
  bytes : ∀ k ≤ x, m'.memory.load (m.registers.i + k) = m.memory.load (m.registers.i + k)

/-! ### Blocks of registers -/

lemma getElem?_firstRegisters {k : Fin 16} (hk : k ≤ x) :
    (m.firstRegisters x)[k.val]? = some ((m.reg k).toNat : Int) := by
  have hlt : k.val < x + 1 := Nat.lt_succ_of_le hk
  have hlt' : k.val < m.registers.v.toList.length := by
    rw [Vector.length_toList]
    exact k.isLt
  rw [firstRegisters, List.getElem?_map, List.getElem?_take_of_lt hlt,
    List.getElem?_eq_getElem hlt', Vector.getElem_toList]
  rfl

lemma getElem?_of_setFirstRegisters {k : Fin 16} {data : List UInt8} (hk : k.val < data.length) :
    data[k.val]? = some ((m.setFirstRegisters data).reg k) := by
  have hin : 0 ≤ k.val ∧ k.val - 0 < data.length := by omega
  rw [reg, entry_eq_getElem, setFirstRegisters, Memory.getElem_put, dif_pos hin,
    List.getElem?_eq_getElem hk]
  rfl

lemma onlyBlock_setBlock {data : List Int}
    (inside : 0 ≤ m.registers.i ∧ m.registers.i + data.length ≤ 4096) :
    OnlyBlock data.length m (m.setBlock (data.map byteOf)) :=
  ⟨(load_setBlock inside).2, rfl, fun _ => rfl⟩

lemma stored_setBlock (inside : 0 ≤ m.registers.i ∧ m.registers.i + (x + 1 : Nat) ≤ 4096) :
    Stored x m (m.setBlock ((m.firstRegisters x).map byteOf)) := by
  rw [← length_firstRegisters (m := m) x] at inside
  have only := onlyBlock_setBlock inside
  rw [length_firstRegisters] at only
  refine ⟨only, fun k hk => ?_⟩
  rw [← byteOf_toNat (m.reg k)]
  exact (load_setBlock inside).1 k _ (getElem?_firstRegisters hk)

lemma spelled_setBlock (inside : 0 ≤ m.registers.i ∧ m.registers.i + (3 : Nat) ≤ 4096) :
    Spelled x m (m.setBlock ((decimalDigits (m.reg x)).map byteOf)) := by
  have hx := (m.reg x).toNat_lt
  have fits : 0 ≤ m.registers.i ∧ m.registers.i + (decimalDigits (m.reg x)).length ≤ 4096 := inside
  obtain ⟨hblock, -⟩ := load_setBlock fits
  have hfirst := hblock 0 _ rfl
  rw [Nat.cast_zero, add_zero] at hfirst
  refine ⟨onlyBlock_setBlock fits, _, _, _, ⟨hfirst, hblock 1 _ rfl, hblock 2 _ rfl⟩, ?_, ?_⟩
  · simp only [toNat_byteOf]
    omega
  · simp only [toNat_byteOf]
    omega

lemma loaded_setFirstRegisters
    (inside : 0 ≤ m.registers.i ∧ m.registers.i + (x + 1 : Nat) ≤ 4096) :
    Loaded x m (m.setFirstRegisters (m.block (x + 1))) := by
  have hlength := length_block inside
  refine ⟨fun k hk => ?_, fun k hk => ?_, rfl, rfl⟩
  · have hlt : k.val < (m.block (x + 1)).length := by
      rw [hlength]
      exact Nat.lt_succ_of_le hk
    exact ((getElem?_block_eq_some_iff inside).1 (getElem?_of_setFirstRegisters hlt)).2
  · refine reg_setFirstRegisters_of_length_le ?_
    rw [hlength]
    exact hk

/-! ### Ticks -/

namespace InRange

/-- A tick that moves a block succeeds exactly if the block lies in memory. -/
lemma done_iff_of_block (h : m.InRange) (fetched : m.fetch = .ok w)
    (reads : Fits (Table.patternOf op) w) {count : Nat}
    (moves : m.skip.refusal op w = m.skip.blockRefusal count) :
    (m.tick { random }).1 = .ok () ↔ m.registers.i + count ≤ 4096 := by
  have hi := h.index.1
  rw [h.done_iff fetched reads, moves, blockRefusal_eq_none_iff]
  exact and_iff_right hi

/-- Where such a tick succeeds, the operation finds the block in memory. -/
lemma tick_of_block (h : m.InRange) (fetched : m.fetch = .ok w)
    (reads : Fits (Table.patternOf op) w) {count : Nat}
    (moves : m.skip.refusal op w = m.skip.blockRefusal count)
    (done : (m.tick { random }).1 = .ok ()) :
    (0 ≤ m.skip.registers.i ∧ m.skip.registers.i + count ≤ 4096) ∧
      (m.tick { random }).2 = m.skip.successor { random } op w := by
  have go := (h.done_iff fetched reads).1 done
  rw [h.tick_of_reads fetched reads go]
  rw [moves] at go
  exact ⟨blockRefusal_eq_none_iff.1 go, rfl⟩

lemma stored (h : m.InRange) (fetched : m.fetch = .ok w) (reads : Fits "FX55" w)
    (done : (m.tick { random }).1 = .ok ()) : Stored w.x m (m.tick { random }).2 := by
  obtain ⟨inside, eq⟩ := h.tick_of_block fetched
    (show Fits (Table.patternOf .storeRegisters) w from reads) rfl done
  have hstored := stored_setBlock inside
  rw [eq]
  exact ⟨⟨hstored.memory, hstored.index, hstored.registers⟩, hstored.bytes⟩

lemma spelled (h : m.InRange) (fetched : m.fetch = .ok w) (reads : Fits "FX33" w)
    (done : (m.tick { random }).1 = .ok ()) : Spelled w.x m (m.tick { random }).2 := by
  obtain ⟨inside, eq⟩ := h.tick_of_block fetched
    (show Fits (Table.patternOf .decimal) w from reads) rfl done
  have hspelled := spelled_setBlock (x := w.x) inside
  rw [eq]
  exact ⟨⟨hspelled.memory, hspelled.index, hspelled.registers⟩, hspelled.digits⟩

lemma loaded (h : m.InRange) (fetched : m.fetch = .ok w) (reads : Fits "FX65" w)
    (done : (m.tick { random }).1 = .ok ()) : Loaded w.x m (m.tick { random }).2 := by
  obtain ⟨inside, eq⟩ := h.tick_of_block fetched
    (show Fits (Table.patternOf .loadRegisters) w from reads) rfl done
  have hloaded := loaded_setFirstRegisters inside
  rw [eq]
  exact ⟨hloaded.bytes, hloaded.above, hloaded.index, hloaded.memory⟩

/-- A load gets back what a store put at the same index, if it is still there. -/
lemma restores {m' : Interpreter} {w' : Word} (h' : m'.InRange) (stored : Stored x m after)
    (inside : m.registers.i + x ≤ 0xFFF) (same : SameBlock x after m')
    (fetched : m'.fetch = .ok w') (reads : Fits "FX65" w') (hx : w'.x = x) :
    (m'.tick { random }).1 = .ok () ∧ ∀ k ≤ x, (m'.tick { random }).2.reg k = m.reg k := by
  subst hx
  have hindex : m'.registers.i = m.registers.i := same.index.trans stored.index
  have done : (m'.tick { random }).1 = .ok () := by
    rw [h'.done_iff_of_block fetched (show Fits (Table.patternOf .loadRegisters) w' from reads) rfl,
      hindex]
    omega
  refine ⟨done, fun k hk => ?_⟩
  have hload := (h'.loaded fetched reads done).bytes k hk
  have hsame := same.bytes k hk
  rw [stored.index, stored.bytes k hk, ← hindex, hload] at hsame
  exact Except.ok.inj hsame

end InRange

/-- What a tick does that runs a word which moves registers to or from memory. -/
structure Transfers (hw : Hardware) (m : Interpreter) (w : Word) : Prop where
  store : Fits "FX55" w → ((m.tick hw).1 = .ok () ↔ m.registers.i + w.x ≤ 0xFFF) ∧
    ((m.tick hw).1 = .ok () → Stored w.x m (m.tick hw).2)
  load : Fits "FX65" w → ((m.tick hw).1 = .ok () ↔ m.registers.i + w.x ≤ 0xFFF) ∧
    ((m.tick hw).1 = .ok () → Loaded w.x m (m.tick hw).2)
  digits : Fits "FX33" w → ((m.tick hw).1 = .ok () ↔ m.registers.i + 2 ≤ 0xFFF) ∧
    ((m.tick hw).1 = .ok () → Spelled w.x m (m.tick hw).2)
  /-- After a store and a further history, a load of as many registers. -/
  restore : Fits "FX55" w → (m.tick hw).1 = .ok () → ∀ later w',
    let m' := run hw (m.tick hw).2 later
    m'.fetch = .ok w' → Fits "FX65" w' → w'.x = w.x → SameBlock w.x (m.tick hw).2 m' →
      (m'.tick hw).1 = .ok () ∧ ∀ k ≤ w.x, (m'.tick hw).2.reg k = m.reg k

lemma InRange.transfers (h : m.InRange) (fetched : m.fetch = .ok w) :
    m.Transfers { random } w where
  store reads := by
    refine ⟨?_, h.stored fetched reads⟩
    rw [h.done_iff_of_block fetched (show Fits (Table.patternOf .storeRegisters) w from reads) rfl]
    omega
  load reads := by
    refine ⟨?_, h.loaded fetched reads⟩
    rw [h.done_iff_of_block fetched (show Fits (Table.patternOf .loadRegisters) w from reads) rfl]
    omega
  digits reads := by
    refine ⟨?_, h.spelled fetched reads⟩
    rw [h.done_iff_of_block fetched (show Fits (Table.patternOf .decimal) w from reads) rfl]
    omega
  restore reads done later w' := by
    intro m' fetched' reads' hx same
    have inside : m.registers.i + w.x ≤ 0xFFF := by
      rw [h.done_iff_of_block fetched
        (show Fits (Table.patternOf .storeRegisters) w from reads) rfl] at done
      omega
    exact restores (h.tick.run later) (h.stored fetched reads done) inside same fetched' reads' hx

/-- **Registers go to memory and come back.** Take any processor that a host can bring about, with
the standard table. A word that stores or loads the registers up to one of them succeeds exactly if
the bytes for them, from the index on, lie in memory, be they font, program or the last ones, and
every register has its byte there; digits take three bytes, each is a digit, and together they are
the number. The index, all other memory and all other registers stay. If as many registers are
loaded in any later state with the index and those bytes as the store left them, they are again what
they were when they were stored. -/
theorem transfers_registers (random : Nat → UInt8) (requests : List Request) :
    let m := run { random } initial requests
    ∀ w, m.fetch = .ok w → m.Transfers { random } w := by
  intro m w fetched
  exact InRange.transfers (inRange_initial.run requests) fetched

/-- V0 and V1 are stored, set to zero and loaded again. -/
theorem transfers_registers_back :
    let program := [0x60, 0x11, 0x61, 0x22, 0xA3, 0, 0xF1, 0x55, 0x60, 0, 0x61, 0, 0xF1, 0x65]
    let m := run {} initial [.write 0x200 program, .tick, .tick, .tick]
    let m' := run {} (m.tick {}).2 [.tick, .tick]
    ∃ w w', (m.fetch = .ok w ∧ Fits "FX55" w ∧ (m.tick {}).1 = .ok ()) ∧
      (m'.fetch = .ok w' ∧ Fits "FX65" w' ∧ w'.x = w.x) ∧ SameBlock w.x (m.tick {}).2 m' ∧
      m'.reg offsetRegister = 0 ∧ (m'.tick {}).2.reg offsetRegister = 0x11 := by
  intro program m m'
  have start : m.fetch = .ok ⟨0xF155, by decide⟩ ∧ (m.tick {}).1 = .ok () ∧
      m.reg offsetRegister = 0x11 := by
    decide +kernel
  have later : m'.fetch = .ok ⟨0xF165, by decide⟩ ∧ m'.reg offsetRegister = 0 ∧
      m'.registers.i = (m.tick {}).2.registers.i ∧
      ∀ k : Fin 16, k ≤ (⟨0xF155, by decide⟩ : Word).x →
        m'.memory.load ((m.tick {}).2.registers.i + k) =
          (m.tick {}).2.memory.load ((m.tick {}).2.registers.i + k) := by
    decide +kernel
  obtain ⟨fetched, done, stored⟩ := start
  obtain ⟨fetched', overwritten, index, bytes⟩ := later
  have reads : Fits (Table.patternOf .storeRegisters) ⟨0xF155, by decide⟩ :=
    Table.fits_of_routine (by decide +kernel)
  have reads' : Fits (Table.patternOf .loadRegisters) ⟨0xF165, by decide⟩ :=
    Table.fits_of_routine (by decide +kernel)
  have moves : m.Transfers {} ⟨0xF155, by decide⟩ := transfers_registers (fun _ => 0)
    [.write 0x200 program, .tick, .tick, .tick] _ fetched
  have same : SameBlock (⟨0xF155, by decide⟩ : Word).x (m.tick {}).2 m' := ⟨index, bytes⟩
  have back := moves.restore reads done [.tick, .tick] _ fetched' reads' rfl same
  exact ⟨_, _, ⟨fetched, reads, done⟩, ⟨fetched', reads', rfl⟩, same, overwritten,
    (back.2 offsetRegister (by decide)).trans stored⟩

end Chip8.Interpreter
