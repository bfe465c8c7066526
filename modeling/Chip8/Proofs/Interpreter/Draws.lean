import Chip8.Proofs.Interpreter.Frame
import Chip8.Proofs.Interpreter.History
import Chip8.Proofs.Logging

/-!
Processors that differ in what they have drawn.

Nothing but a draw looks at the number of bytes drawn. Two processors that are the same but for that
number, and whose sources give the same bytes from now on, are twins: they answer every request
alike and stay twins (`Twin.tick`, `Twin.perform`, `Twin.ticks`).
-/

namespace Chip8.Interpreter

variable {hw hw' : Hardware} {m m' : Interpreter} {n : Nat}

/-- The processor with another number of bytes drawn. -/
def withDrawn (m : Interpreter) (n : Nat) : Interpreter := { m with drawn := n }

lemma refusal_withDrawn (op : Operation) (w : Word) :
    (m.withDrawn n).refusal op w = m.refusal op w := by
  cases op <;> rfl

lemma residue_withDrawn (f : Fault) : (m.withDrawn n).residue f = (m.residue f).withDrawn n := by
  cases f <;> rfl

lemma skipWhen_withDrawn (condition : Bool) :
    (m.withDrawn n).skipWhen condition = (m.skipWhen condition).withDrawn n := by
  cases condition <;> rfl

lemma successor_withDrawn (op : Operation) (w : Word) (draw : hw'.random n = hw.random m.drawn) :
    (m.withDrawn n).successor hw' op w = (m.successor hw op w).withDrawn (n + drawsOf op) := by
  cases op with
  | skipEqual | skipNotEqual | skipSame | skipDifferent | skipPressed | skipReleased =>
    exact skipWhen_withDrawn _
  | random =>
    simp only [successor, withDrawn, draw]
    rfl
  | awaitKey =>
    simp only [successor, firstKey?, withDrawn]
    rcases m.keys.toList.findIdx? (· == true) with _ | k <;> rfl
  | _ => rfl

lemma reset_withDrawn : (m.withDrawn n).reset = m.reset.withDrawn n := rfl

lemma elsewhere_withDrawn (n : Nat) : Elsewhere (·.withDrawn n) where
  memory _ := rfl
  withMemory _ _ := rfl
  setKey _ _ _ := rfl

/-! ### Twins -/

/-- Two processors are the same but for the number of bytes drawn, and draw the same from now on. -/
structure Twin (hw hw' : Hardware) (m m' : Interpreter) : Prop where
  same : m' = m.withDrawn m'.drawn
  table : hw'.table = hw.table
  draws : ∀ k, hw'.random (m'.drawn + k) = hw.random (m.drawn + k)

/-- Two processors end in the same way, and as twins. -/
def EndAlike (hw hw' : Hardware) (r r' : Except Fault Unit × Interpreter) : Prop :=
  r'.1 = r.1 ∧ Twin hw hw' r.2 r'.2

namespace Twin

/-- What has nothing to do with draws keeps twins. -/
lemma step (h : Twin hw hw' m m') (g : Interpreter → Interpreter)
    (hg : ∀ n, g (m.withDrawn n) = (g m).withDrawn n) : Twin hw hw' (g m) (g m') := by
  have hself : g m = (g m).withDrawn m.drawn := hg m.drawn
  have hdrawn : (g m).drawn = m.drawn := by rw [hself]; rfl
  have hsame : g m' = (g m).withDrawn m'.drawn := by
    conv_lhs => rw [h.same]
    exact hg _
  refine ⟨by rw [hsame]; rfl, h.table, fun k => ?_⟩
  rw [hsame, hdrawn]
  exact h.draws k

/-- So does what may fail, and then changes nothing. -/
lemma keepOnFault (h : Twin hw hw' m m') (g : Interpreter → Except Fault Interpreter)
    (hg : ∀ n, g (m.withDrawn n) = (g m).map (·.withDrawn n)) :
    EndAlike hw hw' (m.keepOnFault (g m)) (m'.keepOnFault (g m')) := by
  have hsame : g m' = (g m).map (·.withDrawn m'.drawn) := by
    conv_lhs => rw [h.same]
    exact hg _
  rw [hsame]
  rcases hgm : g m with f | after
  · exact ⟨rfl, h⟩
  · have hself : g m = (g m).map (·.withDrawn m.drawn) := hg m.drawn
    rw [hgm] at hself
    have hself : after = after.withDrawn m.drawn := Except.ok.inj hself
    have hdrawn : after.drawn = m.drawn := by rw [hself]; rfl
    refine ⟨rfl, rfl, h.table, fun k => ?_⟩
    change hw'.random (m'.drawn + k) = hw.random (after.drawn + k)
    rw [hdrawn]
    exact h.draws k

/-! ### Twins tick alike -/

lemma pc (h : Twin hw hw' m m') : m'.registers.pc = m.registers.pc := by rw [h.same]; rfl

lemma fetch (h : Twin hw hw' m m') : m'.fetch = m.fetch := by rw [h.same]; rfl

lemma fetchRow (h : Twin hw hw' m m') : m'.fetchRow hw' = m.fetchRow hw := by
  rw [Interpreter.fetchRow, Interpreter.fetchRow, h.fetch, h.table, h.pc]

lemma refusal (h : Twin hw hw' m m') (op : Operation) (w : Word) :
    m'.refusal op w = m.refusal op w := by
  rw [h.same, refusal_withDrawn]

lemma skip (h : Twin hw hw' m m') : Twin hw hw' m.skip m'.skip :=
  h.step Interpreter.skip fun _ => rfl

lemma successor (h : Twin hw hw' m m') (op : Operation) (w : Word) :
    Twin hw hw' (m.successor hw op w) (m'.successor hw' op w) := by
  have hsucc : m'.successor hw' op w =
      (m.successor hw op w).withDrawn (m'.drawn + drawsOf op) := by
    conv_lhs => rw [h.same]
    exact successor_withDrawn op w (h.draws 0)
  refine ⟨by rw [hsucc]; rfl, h.table, fun k => ?_⟩
  calc hw'.random ((m'.successor hw' op w).drawn + k)
      = hw'.random (m'.drawn + (drawsOf op + k)) := by rw [hsucc, ← Nat.add_assoc]; rfl
    _ = hw.random (m.drawn + (drawsOf op + k)) := h.draws _
    _ = hw.random ((m.successor hw op w).drawn + k) := by rw [drawn_successor, Nat.add_assoc]

lemma runRow (h : Twin hw hw' m m') (w : Word) (row : Instruction) :
    EndAlike hw hw' (m.runRow hw w row) (m'.runRow hw' w row) := by
  simp only [Interpreter.runRow]
  rcases row.routine with op | name
  · simp only [h.skip.refusal op w]
    rcases m.skip.refusal op w with _ | f
    · exact ⟨rfl, h.skip.successor op w⟩
    · refine ⟨rfl, ?_⟩
      by_cases hf : f.isReported = true
      · simp only [hf, if_true]
        exact h
      · simp only [hf]
        exact h.skip.step (·.residue f) fun _ => residue_withDrawn f
  · exact ⟨rfl, h.skip⟩

/-- Twins tick alike. -/
theorem tick (h : Twin hw hw' m m') : EndAlike hw hw' (m.tick hw) (m'.tick hw') := by
  rw [tick_eq, tick_eq, h.fetch, h.table, h.pc]
  rcases m.fetch with f | w
  · exact ⟨rfl, h⟩
  simp only
  rcases hw.table.decode w with _ | row
  · exact ⟨rfl, h⟩
  · exact h.runRow w row

/-- Twins answer every request alike. -/
theorem perform (h : Twin hw hw' m m') (r : Request) :
    EndAlike hw hw' (r.perform hw m) (r.perform hw' m') := by
  cases r with
  | load program =>
    exact h.keepOnFault (·.load program) fun n => (elsewhere_withDrawn n).load m program
  | reset => exact ⟨rfl, h.step reset fun _ => reset_withDrawn⟩
  | setKey index pressed =>
    exact h.keepOnFault (·.setKeyAt index pressed)
      fun n => (elsewhere_withDrawn n).setKeyAt m index pressed
  | write address data =>
    exact h.keepOnFault (fun m => m.withMemory (m.memory.write address data))
      fun n => (elsewhere_withDrawn n).ofMemory m _
  | store address value =>
    exact h.keepOnFault (fun m => m.withMemory (m.memory.store address value))
      fun n => (elsewhere_withDrawn n).ofMemory m _
  | tick => exact h.tick
  | timers => exact ⟨rfl, h.step tickTimers fun _ => rfl⟩

/-! ### Twins run alike -/

lemma logTick (h : Twin hw hw' m m') : m'.logTick hw' = m.logTick hw := by
  rw [Interpreter.logTick, Interpreter.logTick, h.fetchRow, h.pc]

lemma loggedTick (h : Twin hw hw' m m') :
    Logging.Alike (EndAlike hw hw') (m.loggedTick hw) (m'.loggedTick hw') := by
  rw [Interpreter.loggedTick, Interpreter.loggedTick, h.logTick]
  exact .after _ fun _ => .pure h.tick

lemma loggedTimers (h : Twin hw hw' m m') :
    Logging.Alike (Twin hw hw') m.loggedTimers m'.loggedTimers := by
  have hlog : m'.logTimers = m.logTimers := by rw [h.same]; rfl
  rw [Interpreter.loggedTimers, Interpreter.loggedTimers, hlog]
  exact .after _ fun _ => .pure (h.step tickTimers fun _ => rfl)

/-- Two rows of ticks end in the same way, after as many ticks, and as twins. -/
structure TicksAlike (hw hw' : Hardware) (r r' : Ticks) : Prop where
  outcome : r'.outcome = r.outcome
  completed : r'.completed = r.completed
  after : Twin hw hw' r.after r'.after

lemma ticks_go (h : Twin hw hw' m m') (count completed : Nat) :
    Logging.Alike (TicksAlike hw hw') (ticks.go hw count completed m)
      (ticks.go hw' count completed m') := by
  induction count generalizing completed m m' with
  | zero => exact .pure ⟨rfl, rfl, h⟩
  | succ count ih =>
    rw [ticks.go, ticks.go]
    refine h.loggedTick.bind ?_
    rintro ⟨o, after⟩ ⟨o', after'⟩ ⟨ho, htwin⟩
    obtain rfl : o' = o := ho
    rcases o' with f | _
    · exact .pure ⟨rfl, rfl, htwin⟩
    · exact ih htwin (completed + 1)

/-- Twins run rows of ticks alike. -/
theorem ticks (h : Twin hw hw' m m') (count : Nat) :
    Logging.Alike (TicksAlike hw hw') (m.ticks hw count) (m'.ticks hw' count) :=
  h.ticks_go count 0

end Twin

end Chip8.Interpreter
