import Chip8.Proofs.Instruction.Standard
import Chip8.Proofs.Interpreter.History

/-!
What a host does between two ticks.

Whether the timers count down or a key goes up or down before a tick or after it makes a difference
only to operations that look at the timers or the keys. All others neither look at them nor set them
(`Ignores`), and a tick is nothing but a fetch, a decision and an operation, so it can change places
with either (`tick_of_ignores`), also when it fails.
-/

namespace Chip8.Interpreter

open Pattern (Fits)

variable {hw : Hardware} {m : Interpreter} {g : Interpreter → Interpreter} {op : Operation}
  {index : Int} {pressed : Bool}

/-! ### Beside a tick -/

/-- A change that has nothing to do with the program counter and memory. -/
structure Beside (g : Interpreter → Interpreter) : Prop where
  pc : ∀ m, (g m).registers.pc = m.registers.pc
  memory : ∀ m, (g m).memory = m.memory
  setPc : ∀ m pc, (g m).setPc pc = g (m.setPc pc)
  residue : ∀ m f, (g m).residue f = g (m.residue f)

/-- An operation does the same before and after a change. -/
structure Ignores (hw : Hardware) (op : Operation) (g : Interpreter → Interpreter) : Prop where
  refusal : ∀ m w, (g m).refusal op w = m.refusal op w
  successor : ∀ m w, (g m).successor hw op w = g (m.successor hw op w)

lemma Beside.fetch (h : Beside g) (m : Interpreter) : (g m).fetch = m.fetch := by
  rw [Interpreter.fetch, Interpreter.fetch, h.pc, h.memory]

lemma Beside.skip (h : Beside g) (m : Interpreter) : (g m).skip = g m.skip := by
  rw [Interpreter.skip, Interpreter.skip, h.pc, h.setPc]

/-- A tick changes places with a change that its operation ignores. -/
theorem tick_of_ignores (h : Beside g)
    (ignores : ∀ w row op, m.fetch = .ok w → hw.table.decode w = some row →
      row.routine = .known op → Ignores hw op g) :
    (g m).tick hw = ((m.tick hw).1, g (m.tick hw).2) := by
  rw [tick_eq, tick_eq, h.fetch, h.pc]
  rcases hf : m.fetch with f | w
  · rfl
  simp only
  rcases hd : hw.table.decode w with _ | row
  · rfl
  simp only [runRow, h.skip]
  rcases hr : row.routine with op | name
  · have hop := ignores w row op hf hd hr
    simp only [hop.refusal]
    rcases m.skip.refusal op w with _ | f
    · simp only [hop.successor]
    · by_cases hreported : f.isReported = true
      · simp only [hreported, if_true]
      · simp only [hreported, h.residue]
        rfl
  · rfl

/-! ### Timers and keys -/

lemma beside_tickTimers : Beside tickTimers where
  pc _ := rfl
  memory _ := rfl
  setPc _ _ := rfl
  residue _ f := by cases f <;> rfl

lemma beside_setKey (k : Fin 16) (pressed : Bool) : Beside (·.setKey k pressed) where
  pc _ := rfl
  memory _ := rfl
  setPc _ _ := rfl
  residue _ f := by cases f <;> rfl

/-- Whether an operation reads or sets a timer. -/
def usesTimers : Operation → Bool
  | .readDelay | .setDelay | .setSound => true
  | _ => false

/-- Whether an operation reads the keys. -/
def usesKeys : Operation → Bool
  | .skipPressed | .skipReleased | .awaitKey => true
  | _ => false

/-- Skipping commutes with what has nothing to do with the program counter. -/
lemma Beside.skipWhen (h : Beside g) (m : Interpreter) (condition : Bool) :
    (g m).skipWhen condition = g (m.skipWhen condition) := by
  cases condition with
  | false => rfl
  | true => exact h.skip m

lemma ignores_tickTimers (h : usesTimers op = false) : Ignores hw op tickTimers := by
  constructor
  · intro m w
    cases op with
    | readDelay | setDelay | setSound => cases h
    | _ => rfl
  · intro m w
    cases op with
    | readDelay | setDelay | setSound => cases h
    | skipEqual | skipNotEqual | skipSame | skipDifferent | skipPressed | skipReleased =>
      exact beside_tickTimers.skipWhen m _
    | awaitKey =>
      have hkey : m.tickTimers.firstKey? = m.firstKey? := rfl
      simp only [successor, hkey]
      rcases m.firstKey? with _ | k <;> rfl
    | _ => rfl

lemma ignores_setKey (h : usesKeys op = false) (k : Fin 16) (pressed : Bool) :
    Ignores hw op (·.setKey k pressed) := by
  constructor
  · intro m w
    cases op with
    | skipPressed | skipReleased | awaitKey => cases h
    | _ => rfl
  · intro m w
    cases op with
    | skipPressed | skipReleased | awaitKey => cases h
    | skipEqual | skipNotEqual | skipSame | skipDifferent =>
      exact (beside_setKey k pressed).skipWhen m _
    | _ => rfl

/-! ### Requests that change places -/

/-- Two requests come to the same in either order: each is answered as it is without the other, and
they leave one state. -/
structure Swaps (hw : Hardware) (m : Interpreter) (r r' : Request) : Prop where
  answer : (r.perform hw (r'.perform hw m).2).1 = (r.perform hw m).1
  answer' : (r'.perform hw (r.perform hw m).2).1 = (r'.perform hw m).1
  state : (r.perform hw (r'.perform hw m).2).2 = (r'.perform hw (r.perform hw m).2).2

/-- A request that always answers the same and makes the same change swaps with every request that
goes through before it as after it. -/
lemma swaps_of_change {r r' : Request} {o : Except Fault Unit}
    (change : ∀ m, r'.perform hw m = (o, g m))
    (through : r.perform hw (g m) = ((r.perform hw m).1, g (r.perform hw m).2)) :
    Swaps hw m r r' := by
  constructor
  · rw [change, through]
  · rw [change, change]
  · rw [change, change, through]

/-- A key request sets the key, or it is refused whatever the state. -/
lemma setKey_cases (hw : Hardware) (index : Int) (pressed : Bool) :
    (∃ k, ∀ m, (Request.setKey index pressed).perform hw m = (.ok (), m.setKey k pressed)) ∨
      ∃ f, ∀ m, (Request.setKey index pressed).perform hw m = (.error f, m) := by
  simp only [Request.perform, setKeyAt]
  rcases nibble? index with _ | k
  · exact .inr ⟨_, fun _ => rfl⟩
  · exact .inl ⟨k, fun _ => rfl⟩

lemma swaps_tick_timers
    (ignores : ∀ w row op, m.fetch = .ok w → hw.table.decode w = some row →
      row.routine = .known op → usesTimers op = false) : Swaps hw m .tick .timers := by
  refine swaps_of_change (o := .ok ()) (g := tickTimers) (fun _ => rfl) ?_
  exact tick_of_ignores beside_tickTimers fun w row op hf hd hr =>
    ignores_tickTimers (ignores w row op hf hd hr)

lemma swaps_tick_setKey
    (ignores : ∀ w row op, m.fetch = .ok w → hw.table.decode w = some row →
      row.routine = .known op → usesKeys op = false) (index : Int) (pressed : Bool) :
    Swaps hw m .tick (.setKey index pressed) := by
  rcases setKey_cases hw index pressed with ⟨k, hset⟩ | ⟨f, hset⟩
  · have through := tick_of_ignores (g := (·.setKey k pressed)) (m := m) (beside_setKey k pressed)
      fun w row op hf hd hr => ignores_setKey (ignores w row op hf hd hr) k pressed
    exact swaps_of_change (g := (·.setKey k pressed)) hset through
  · exact swaps_of_change (g := fun m => m) hset (Prod.mk.eta).symm

lemma swaps_timers_setKey (index : Int) (pressed : Bool) :
    Swaps hw m .timers (.setKey index pressed) := by
  rcases setKey_cases hw index pressed with ⟨k, hset⟩ | ⟨f, hset⟩
  · exact swaps_of_change (g := (·.setKey k pressed)) hset rfl
  · exact swaps_of_change (g := fun m => m) hset (Prod.mk.eta).symm

/-- The next word reads as one of some patterns. -/
def NextReads (m : Interpreter) (patterns : List Text) : Prop :=
  ∃ w, m.fetch = .ok w ∧ ∃ p ∈ patterns, Fits p w

/-- A word that names an operation reads as its pattern, so that pattern is not one of those. -/
lemma patternOf_notMem {patterns : List Text} (h : ¬m.NextReads patterns) {w : Word}
    {row : Instruction} (fetched : m.fetch = .ok w) (decoded : Table.standard.decode w = some row)
    (routine : row.routine = .known op) : Table.patternOf op ∉ patterns :=
  fun hmem => h ⟨w, fetched, _, hmem, Table.decode_known_iff.1 ⟨row, decoded, routine⟩⟩

/-- A word reads as one pattern only, so as none that belongs to another operation. -/
lemma not_nextReads {patterns : List Text} {w : Word} (fetched : m.fetch = .ok w)
    (reads : Fits (Table.patternOf op) w)
    (others : ∀ p ∈ patterns, ∃ op', p = Table.patternOf op' ∧ op' ≠ op) :
    ¬m.NextReads patterns := by
  rintro ⟨w', fetched', p, hp, reads'⟩
  obtain rfl := Except.ok.inj (fetched.symm.trans fetched')
  obtain ⟨op', rfl, hne⟩ := others p hp
  exact hne (Table.eq_of_fits reads' reads)

/-- **Timers and keys change places with ticks.** Take any processor with the standard table. If the
next word reads as none of the three instructions about timers, or there is no next word, a tick and
a step of the timers come to the same in either order, with the same outcome of the tick, success or
fault; if it reads as none of the three about keys, so do a tick and a key that goes down or up; and
a step of the timers and a key always do. -/
theorem host_requests_swap (random : Nat → UInt8) (m : Interpreter) :
    (¬m.NextReads ["FX07", "FX15", "FX18"] → Swaps { random } m .tick .timers) ∧
      (¬m.NextReads ["EX9E", "EXA1", "FX0A"] →
        ∀ index pressed, Swaps { random } m .tick (.setKey index pressed)) ∧
      ∀ index pressed, Swaps { random } m .timers (.setKey index pressed) := by
  refine ⟨fun hword => ?_, fun hword => ?_, swaps_timers_setKey⟩
  · refine swaps_tick_timers fun w row op hf hd hr => ?_
    have hnot := patternOf_notMem hword hf hd hr
    cases op with
    | readDelay | setDelay | setSound => exact absurd (by decide +kernel) hnot
    | _ => rfl
  · refine swaps_tick_setKey fun w row op hf hd hr => ?_
    have hnot := patternOf_notMem hword hf hd hr
    cases op with
    | skipPressed | skipReleased | awaitKey => exact absurd (by decide +kernel) hnot
    | _ => rfl

/-- A processor with both timers running, about to draw a random byte. -/
theorem host_requests_swap_random :
    let hw : Hardware := { random := fun _ => 0x5A }
    let program := [0x60, 0x07, 0xF0, 0x18, 0xF0, 0x15, 0xC1, 0xFF]
    let m := run hw initial [.write 0x200 program, .tick, .tick, .tick]
    ¬m.NextReads ["FX07", "FX15", "FX18"] ∧ ¬m.NextReads ["EX9E", "EXA1", "FX0A"] ∧
      Swaps hw m .tick .timers ∧ Swaps hw m .tick (.setKey 5 true) ∧
      Swaps hw m .timers (.setKey 5 true) := by
  intro hw program m
  have fetched : m.fetch = .ok ⟨0xC1FF, by decide⟩ := by decide +kernel
  have reads : Fits (Table.patternOf .random) ⟨0xC1FF, by decide⟩ :=
    Table.decode_known_iff.1 ⟨⟨⟨"CXNN", 0xF000, 0xC000⟩, "RND", .known .random⟩, by decide +kernel,
      rfl⟩
  have timers : ¬m.NextReads ["FX07", "FX15", "FX18"] := by
    refine not_nextReads fetched reads ?_
    rw [List.forall_mem_cons, List.forall_mem_cons, List.forall_mem_singleton]
    exact ⟨⟨.readDelay, by decide +kernel, nofun⟩, ⟨.setDelay, by decide +kernel, nofun⟩,
      ⟨.setSound, by decide +kernel, nofun⟩⟩
  have keys : ¬m.NextReads ["EX9E", "EXA1", "FX0A"] := by
    refine not_nextReads fetched reads ?_
    rw [List.forall_mem_cons, List.forall_mem_cons, List.forall_mem_singleton]
    exact ⟨⟨.skipPressed, by decide +kernel, nofun⟩, ⟨.skipReleased, by decide +kernel, nofun⟩,
      ⟨.awaitKey, by decide +kernel, nofun⟩⟩
  have swap := host_requests_swap (fun _ => 0x5A) m
  exact ⟨timers, keys, swap.1 timers, swap.2.1 keys 5 true, swap.2.2 5 true⟩

end Chip8.Interpreter
