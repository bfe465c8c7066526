import Chip8.Proofs.Interpreter.Draws
import Chip8.Proofs.Interpreter.Interchange

/-!
Stack slots that are out of use.

A return leaves its slot as it is, so the slots from the stack pointer on hold addresses of calls
that are over. A return reads the slot below the pointer, and a call fills the slot at the pointer
before it is in use again, so nothing ever looks at the others: a processor with another stack that
has the same slots in use ends every request in the same way, again with the same slots in use
(`HoldsLive.perform`). Two processors may also have drawn different numbers of bytes, as long as
they draw the same from now on (`SameLive`).
-/

namespace Chip8.Interpreter

variable {hw hw' : Hardware} {m m' : Interpreter} {s : Vector Int 16} {op : Operation} {w : Word}

/-! ### Another stack -/

/-- The processor with another stack. -/
def withStack (m : Interpreter) (s : Vector Int 16) : Interpreter :=
  { m with registers := { m.registers with stack := s } }

/-- A stack holds what a processor has in the slots below its stack pointer. -/
def HoldsLive (s : Vector Int 16) (m : Interpreter) : Prop :=
  ∀ k < m.registers.sp, s[k]? = m.registers.stack[k]?

lemma beside_withStack (s : Vector Int 16) : Beside (·.withStack s) where
  pc _ := rfl
  memory _ := rfl
  setPc _ _ := rfl
  residue _ f := by cases f <;> rfl

lemma elsewhere_withStack (s : Vector Int 16) : Elsewhere (·.withStack s) where
  memory _ := rfl
  withMemory _ _ := rfl
  setKey _ _ _ := rfl

/-- Whether an operation stops hangs on the stack pointer, and not on what the slots hold. -/
lemma refusal_withStack (m : Interpreter) (s : Vector Int 16) (op : Operation) (w : Word) :
    (m.withStack s).refusal op w = m.refusal op w := by
  cases op <;> rfl

/-- One ends as the other does, but for a stack with the same slots in use. -/
def EndsOnStack (r r' : Except Fault Unit × Interpreter) : Prop :=
  r'.1 = r.1 ∧ ∃ s, r'.2 = r.2.withStack s ∧ HoldsLive s r.2

namespace HoldsLive

lemma of_le (h : HoldsLive s m) {after : Interpreter}
    (sp : after.registers.sp ≤ m.registers.sp) (stack : after.registers.stack = m.registers.stack) :
    HoldsLive s after := by
  intro k hk
  rw [stack]
  exact h k (by omega)

/-! ### Operations -/

/-- The slot that is read was in use. -/
lemma afterReturn (h : HoldsLive s m) (go : m.returnRefusal = none) :
    (m.withStack s).afterReturn = m.afterReturn.withStack s ∧ HoldsLive s m.afterReturn := by
  have hlive := returnRefusal_eq_none_iff.1 go
  have htop : s[m.registers.sp - 1]? = m.registers.stack[m.registers.sp - 1]? :=
    h _ (by omega)
  constructor
  · simp only [Interpreter.afterReturn, withStack, htop]
  · exact h.of_le (Nat.sub_le ..) rfl

/-- The slot that comes into use is filled before. -/
lemma afterCall (h : HoldsLive s m) (address : Int) :
    let filled := s.setIfInBounds m.registers.sp m.registers.pc
    (m.withStack s).afterCall address = (m.afterCall address).withStack filled ∧
      HoldsLive filled (m.afterCall address) := by
  refine ⟨rfl, fun k hk => ?_⟩
  change k < m.registers.sp + 1 at hk
  change _ = (m.registers.stack.setIfInBounds m.registers.sp m.registers.pc)[k]?
  rw [Vector.getElem?_setIfInBounds, Vector.getElem?_setIfInBounds]
  split
  · rfl
  · exact h k (by omega)

lemma successor (h : HoldsLive s m) (go : m.refusal op w = none) : ∃ s',
    (m.withStack s).successor hw op w = (m.successor hw op w).withStack s' ∧
      HoldsLive s' (m.successor hw op w) := by
  cases op with
  | ret => exact ⟨s, h.afterReturn go⟩
  | call => exact ⟨_, h.afterCall w.nnn⟩
  | skipEqual | skipNotEqual | skipSame | skipDifferent | skipPressed | skipReleased =>
    exact ⟨s, (beside_withStack s).skipWhen m _, h.of_le sp_successor.le stack_successor⟩
  | awaitKey =>
    refine ⟨s, ?_, h.of_le sp_successor.le stack_successor⟩
    have hkey : (m.withStack s).firstKey? = m.firstKey? := rfl
    simp only [Interpreter.successor, hkey]
    rcases m.firstKey? with _ | k <;> rfl
  | _ => exact ⟨s, rfl, h.of_le sp_successor.le stack_successor⟩

/-! ### Ticks and requests -/

lemma residue (h : HoldsLive s m) (f : Fault) : HoldsLive s (m.residue f) := by
  cases f with
  | stackIndex => exact h.of_le (Nat.sub_le ..) rfl
  | _ => exact h

lemma runRow (h : HoldsLive s m) (w : Word) (row : Instruction) :
    EndsOnStack (m.runRow hw w row) ((m.withStack s).runRow hw w row) := by
  have hskip : (m.withStack s).skip = m.skip.withStack s := rfl
  have hlive : HoldsLive s m.skip := h
  simp only [Interpreter.runRow, hskip]
  rcases row.routine with op | name
  · simp only [refusal_withStack]
    rcases hgo : m.skip.refusal op w with _ | f
    · exact ⟨rfl, hlive.successor hgo⟩
    · refine ⟨rfl, s, ?_⟩
      by_cases hf : f.isReported = true
      · simp only [hf, if_true]
        exact ⟨trivial, h⟩
      · simp only [hf]
        exact ⟨(beside_withStack s).residue m.skip f, hlive.residue f⟩
  · exact ⟨rfl, s, rfl, hlive⟩

theorem tick (h : HoldsLive s m) : EndsOnStack (m.tick hw) ((m.withStack s).tick hw) := by
  have hfetch : (m.withStack s).fetch = m.fetch := (beside_withStack s).fetch m
  have hpc : (m.withStack s).registers.pc = m.registers.pc := rfl
  rw [tick_eq, tick_eq, hfetch, hpc]
  rcases m.fetch with f | w
  · exact ⟨rfl, s, rfl, h⟩
  simp only
  rcases hw.table.decode w with _ | row
  · exact ⟨rfl, s, rfl, h⟩
  · exact h.runRow w row

/-- So does what has nothing to do with the stack, and changes nothing if it fails. -/
lemma keepOnFault (h : HoldsLive s m) {r r' : Except Fault Interpreter}
    (same : r' = r.map (·.withStack s))
    (registers : (m.keepOnFault r).2.registers = m.registers) :
    EndsOnStack (m.keepOnFault r) ((m.withStack s).keepOnFault r') := by
  subst same
  have hlive : HoldsLive s (m.keepOnFault r).2 := h.of_le (by rw [registers]) (by rw [registers])
  rcases r with f | after
  · exact ⟨rfl, s, rfl, h⟩
  · exact ⟨rfl, s, rfl, hlive⟩

theorem perform (h : HoldsLive s m) (r : Request) :
    EndsOnStack (r.perform hw m) (r.perform hw (m.withStack s)) := by
  have helse := elsewhere_withStack s
  cases r with
  | tick => exact h.tick
  | timers => exact ⟨rfl, s, rfl, h⟩
  | reset => exact ⟨rfl, m.reset.registers.stack, rfl, fun _ _ => rfl⟩
  | load program =>
    obtain ⟨memory, eq⟩ := m.exists_memory_of_load program
    rw [Request.perform, Request.perform]
    exact h.keepOnFault (helse.load m program) (by rw [eq])
  | setKey index pressed =>
    obtain ⟨keys, eq⟩ := m.exists_keys_of_setKeyAt index pressed
    exact h.keepOnFault (helse.setKeyAt m index pressed) (by rw [eq])
  | write address data =>
    obtain ⟨memory, eq⟩ := m.exists_memory_of_withMemory (m.memory.write address data)
    exact h.keepOnFault (helse.ofMemory m _) (by rw [eq])
  | store address value =>
    obtain ⟨memory, eq⟩ := m.exists_memory_of_withMemory (m.memory.store address value)
    exact h.keepOnFault (helse.ofMemory m _) (by rw [eq])

end HoldsLive

/-! ### Processors that agree but for slots out of use -/

/-- Two processors are the same but for the slots from the stack pointer on and the number of bytes
drawn; they run by the same table and draw the same from now on. -/
structure SameLive (hw hw' : Hardware) (m m' : Interpreter) : Prop where
  same : m' = { m with
    registers := { m.registers with stack := m'.registers.stack }
    drawn := m'.drawn }
  live : ∀ k < m.registers.sp, m'.registers.stack[k]? = m.registers.stack[k]?
  table : hw'.table = hw.table
  draws : ∀ k, hw'.random (m'.drawn + k) = hw.random (m.drawn + k)

namespace SameLive

/-- With the stack of the other, one is its twin. -/
lemma twin (h : SameLive hw hw' m m') : Twin hw hw' (m.withStack m'.registers.stack) m' :=
  ⟨h.same, h.table, h.draws⟩

lemma of_twin (twin : Twin hw hw' (m.withStack s) m') (live : HoldsLive s m) :
    SameLive hw hw' m m' := by
  obtain rfl : s = m'.registers.stack := by
    rw [twin.same]
    rfl
  exact ⟨twin.same, live, twin.table, twin.draws⟩

/-- They answer every request in the same way, and agree as much as before. -/
theorem perform (h : SameLive hw hw' m m') (r : Request) :
    (r.perform hw' m').1 = (r.perform hw m).1 ∧
      SameLive hw hw' (r.perform hw m).2 (r.perform hw' m').2 := by
  have hends : EndsOnStack (r.perform hw m) (r.perform hw (m.withStack m'.registers.stack)) :=
    HoldsLive.perform h.live r
  obtain ⟨hstack, s, hs, hlive⟩ := hends
  obtain ⟨hdraws, htwin⟩ := h.twin.perform r
  rw [hs] at htwin
  exact ⟨hdraws.trans hstack, of_twin htwin hlive⟩

lemma run (h : SameLive hw hw' m m') (requests : List Request) :
    SameLive hw hw' (run hw m requests) (run hw' m' requests) := by
  induction requests generalizing m m' with
  | nil => exact h
  | cons r requests ih => exact ih (h.perform r).2

end SameLive

/-- **Slots out of use never matter.** Take two processors that agree on everything but the stack
slots from the stack pointer on, and do the same with both. At every point each next request has the
same outcome in both, success or the same fault, and they agree again on everything but the slots
from the stack pointer on. -/
theorem slots_out_of_use (h : SameLive hw hw' m m') (requests : List Request) :
    let after := run hw m requests
    let after' := run hw' m' requests
    SameLive hw hw' after after' ∧
      ∀ r : Request, (r.perform hw' after').1 = (r.perform hw after).1 ∧
        SameLive hw hw' (r.perform hw after).2 (r.perform hw' after').2 :=
  ⟨h.run requests, (h.run requests).perform⟩

/-- A processor behind a return, which left 0x202 in its slot, and the same with a stack that was
never used. Both jump back, call again and return. -/
theorem slots_out_of_use_stale :
    let program := [0x22, 0x04, 0x12, 0x00, 0x00, 0xEE]
    let used := run {} initial [.write 0x200 program, .tick, .tick]
    let unused := used.withStack (Vector.replicate 16 0)
    used.registers.stack[0] = 0x202 ∧ SameLive {} {} used unused ∧
      SameLive {} {} (run {} used [.tick, .tick, .tick]) (run {} unused [.tick, .tick, .tick]) ∧
      (run {} unused [.tick, .tick, .tick]).registers.pc = 0x202 := by
  intro program used unused
  have trace : used.registers.stack[0] = 0x202 ∧ used.registers.sp = 0 ∧
      (run {} unused [.tick, .tick, .tick]).registers.pc = 0x202 := by
    decide +kernel
  obtain ⟨stale, empty, back⟩ := trace
  have h : SameLive {} {} used unused :=
    ⟨rfl, fun k hk => absurd hk (by omega), rfl, fun k => rfl⟩
  exact ⟨stale, h, (slots_out_of_use h [.tick, .tick, .tick]).1, back⟩

end Chip8.Interpreter
