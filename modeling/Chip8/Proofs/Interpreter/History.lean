import Chip8.Proofs.Interpreter.Tick

/-!
Histories of a processor.

A host works on a processor by requests, one after another. A request answers whether it went
well and leaves a state; a history is a list of requests, and `run` is the state that it leads to.
Whatever every request keeps, every history keeps (`run_induction`).
-/

namespace Chip8.Interpreter

/-- What a host does with a processor. -/
inductive Request where
  | load (program : List UInt8)
  | reset
  | setKey (index : Int) (pressed : Bool)
  | write (address : Int) (data : List Int)
  | store (address value : Int)
  | tick
  | timers

/-- The state that a request leaves which changes nothing when it fails. -/
def keepOnFault (m : Interpreter) : Except Fault Interpreter → Except Fault Unit × Interpreter
  | .ok after => (.ok (), after)
  | .error f => (.error f, m)

/-- The processor with another memory, or the fault of getting it. -/
def withMemory (m : Interpreter) (r : Except MemoryFault (Memory Region.main)) :
    Except Fault Interpreter :=
  (onMemory r).map fun memory => { m with memory }

/-- What a request answers, and the state that it leaves. -/
def Request.perform (hw : Hardware) (m : Interpreter) : Request → Except Fault Unit × Interpreter
  | .load program => m.keepOnFault (m.load program)
  | .reset => (.ok (), m.reset)
  | .setKey index pressed => m.keepOnFault (m.setKeyAt index pressed)
  | .write address data => m.keepOnFault (m.withMemory (m.memory.write address data))
  | .store address value => m.keepOnFault (m.withMemory (m.memory.store address value))
  | .tick => m.tick hw
  | .timers => (.ok (), m.tickTimers)

/-- The state after a history. -/
def run (hw : Hardware) (m : Interpreter) (requests : List Request) : Interpreter :=
  requests.foldl (fun m r => (r.perform hw m).2) m

variable {hw : Hardware} {m : Interpreter}

lemma run_nil : run hw m [] = m := rfl

lemma run_cons (r : Request) (requests : List Request) :
    run hw m (r :: requests) = run hw (r.perform hw m).2 requests := rfl

lemma run_append (hw : Hardware) (m : Interpreter) (before since : List Request) :
    run hw m (before ++ since) = run hw (run hw m before) since :=
  List.foldl_append ..

/-- What holds at the start and is kept by every request holds after every history. -/
lemma run_induction {P : Interpreter → Prop} (start : P m)
    (keep : ∀ m (r : Request), P m → P (r.perform hw m).2) (requests : List Request) :
    P (run hw m requests) := by
  induction requests generalizing m with
  | nil =>
    rw [run_nil]
    exact start
  | cons r requests ih =>
    rw [run_cons]
    exact ih (keep m r start)

/-! ### The ticks of a history -/

/-- Every tick of a history starts in a state with a property. -/
def AtTicks (hw : Hardware) (P : Interpreter → Prop) (m : Interpreter) (later : List Request) :
    Prop :=
  ∀ before, before ++ [.tick] <+: later → P (run hw m before)

namespace AtTicks

variable {P : Interpreter → Prop} {r : Request} {before later : List Request}

lemma head (h : AtTicks hw P m (r :: later)) (first : r = .tick) : P m := by
  subst first
  exact h [] (List.cons_prefix_cons.2 ⟨rfl, List.nil_prefix⟩)

lemma tail (h : AtTicks hw P m (r :: later)) : AtTicks hw P (r.perform hw m).2 later :=
  fun before hb => h (r :: before) (List.cons_prefix_cons.2 ⟨rfl, hb⟩)

lemma nil : AtTicks hw P m [] := by
  intro before hb
  have hnil := List.prefix_nil.1 hb
  exact absurd hnil (List.append_ne_nil_of_right_ne_nil _ (List.cons_ne_nil _ _))

lemma cons (first : r = .tick → P m) (rest : AtTicks hw P (r.perform hw m).2 later) :
    AtTicks hw P m (r :: later) := by
  intro before hb
  rcases before with _ | ⟨r', before⟩
  · exact first (List.cons_prefix_cons.1 hb).1.symm
  · obtain ⟨rfl, hrest⟩ := List.cons_prefix_cons.1 hb
    exact rest before hrest

lemma of_append {since : List Request} (h : AtTicks hw P m (before ++ since)) :
    AtTicks hw P m before :=
  fun first hfirst => h first (hfirst.trans (List.prefix_append _ _))

end AtTicks

/-! ### What the requests change -/

/-- A program that is not too long can be loaded. -/
lemma exists_load (m : Interpreter) {program : List UInt8}
    (h : program.length ≤ maxProgramSize) : ∃ memory, m.load program = .ok { m with memory } := by
  have hfits : 0 ≤ (programStart : Int) ∧
      (programStart : Int) + (program.map fun b => (b.toNat : Int)).length ≤ 4096 := by
    simp only [maxProgramSize, Region.main, programStart] at h ⊢
    rw [List.length_map]
    omega
  rw [load, if_neg (not_lt.2 h), Memory.write, span_main, dif_pos hfits]
  exact ⟨_, rfl⟩

/-- A write changes nothing but memory. -/
lemma exists_memory_of_withMemory (m : Interpreter) (r : Except MemoryFault (Memory Region.main)) :
    ∃ memory, (m.keepOnFault (m.withMemory r)).2 = { m with memory } := by
  rcases r with f | memory
  · exact ⟨m.memory, rfl⟩
  · exact ⟨memory, rfl⟩

/-- A load changes nothing but memory. -/
lemma exists_memory_of_load (m : Interpreter) (program : List UInt8) :
    ∃ memory, (m.keepOnFault (m.load program)).2 = { m with memory } := by
  rw [load]
  split
  · exact ⟨m.memory, rfl⟩
  · exact m.exists_memory_of_withMemory _

/-- A key request changes nothing but the keys. -/
lemma exists_keys_of_setKeyAt (m : Interpreter) (index : Int) (pressed : Bool) :
    ∃ keys, (m.keepOnFault (m.setKeyAt index pressed)).2 = { m with keys } := by
  rw [setKeyAt]
  rcases nibble? index with _ | k
  · exact ⟨m.keys, rfl⟩
  · exact ⟨setEntry m.keys k pressed, rfl⟩

/-- What a request comes to: a tick, a step of the timers, a reset, or another memory or other keys
and nothing else. -/
inductive Effect (hw : Hardware) (m : Interpreter) : Request → Interpreter → Prop
  | tick : Effect hw m .tick (m.tick hw).2
  | timers : Effect hw m .timers m.tickTimers
  | reset : Effect hw m .reset m.reset
  | memory {r : Request} (memory : Memory Region.main) : Effect hw m r { m with memory }
  | keys {index : Int} {pressed : Bool} (keys : Vector Bool 16) :
      Effect hw m (.setKey index pressed) { m with keys }

theorem effect_perform (hw : Hardware) (m : Interpreter) (r : Request) :
    Effect hw m r (r.perform hw m).2 := by
  cases r with
  | tick => exact .tick
  | timers => exact .timers
  | reset => exact .reset
  | load program =>
    obtain ⟨memory, eq⟩ := m.exists_memory_of_load program
    rw [Request.perform, eq]
    exact .memory memory
  | write address data =>
    obtain ⟨memory, eq⟩ := m.exists_memory_of_withMemory (m.memory.write address data)
    rw [Request.perform, eq]
    exact .memory memory
  | store address value =>
    obtain ⟨memory, eq⟩ := m.exists_memory_of_withMemory (m.memory.store address value)
    rw [Request.perform, eq]
    exact .memory memory
  | setKey index pressed =>
    obtain ⟨keys, eq⟩ := m.exists_keys_of_setKeyAt index pressed
    rw [Request.perform, eq]
    exact .keys keys

/-! ### What has nothing to do with a request -/

/-- A change that has nothing to do with memory and the keys. -/
structure Elsewhere (g : Interpreter → Interpreter) : Prop where
  memory : ∀ m, (g m).memory = m.memory
  withMemory : ∀ m memory, g { m with memory } = { g m with memory }
  setKey : ∀ m k pressed, g (m.setKey k pressed) = (g m).setKey k pressed

namespace Elsewhere

variable {g : Interpreter → Interpreter}

lemma ofMemory (h : Elsewhere g) (m : Interpreter) (r : Except MemoryFault (Memory Region.main)) :
    (g m).withMemory r = (m.withMemory r).map g := by
  rcases r with f | memory
  · rfl
  · exact congrArg Except.ok (h.withMemory m memory).symm

lemma load (h : Elsewhere g) (m : Interpreter) (program : List UInt8) :
    (g m).load program = (m.load program).map g := by
  simp only [Interpreter.load, h.memory]
  split
  · rfl
  · exact h.ofMemory m _

lemma setKeyAt (h : Elsewhere g) (m : Interpreter) (index : Int) (pressed : Bool) :
    (g m).setKeyAt index pressed = (m.setKeyAt index pressed).map g := by
  simp only [Interpreter.setKeyAt]
  rcases nibble? index with _ | k
  · rfl
  · exact congrArg Except.ok (h.setKey m k pressed).symm

end Elsewhere

end Chip8.Interpreter
