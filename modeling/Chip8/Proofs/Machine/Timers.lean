import Chip8.Proofs.Interpreter.Timers
import Chip8.Proofs.Machine.Frames

/-!
Timers from frame to frame.

The steps of the timers are the frames that are completed. So when a machine does nothing but run
frames, a timer shows what it was last set to less the frames completed since, and the frame in
which it was set is one of them (`Proper.value_of_lastSet`).
-/

namespace Chip8

namespace Interpreter

variable {hw : Hardware} {t : Timer} {m : Interpreter}

/-- A row of ticks sets no timer if none of its ticks does, and what follows does not either. -/
lemma neverSets_ticks {count : Nat} {tail : List Request}
    (unset : ∀ i < count, ∀ a, ¬Sets hw t (run hw m (List.replicate i .tick)) a)
    (rest : NeverSets hw t (run hw m (List.replicate count .tick)) tail) :
    NeverSets hw t m (List.replicate count .tick ++ tail) := by
  induction count generalizing m with
  | zero => exact rest
  | succ count ih =>
    refine .cons (fun _ => unset 0 (Nat.succ_pos count)) (ih (fun i hi => ?_) rest)
    exact unset (i + 1) (Nat.succ_lt_succ hi)

end Interpreter

namespace Machine

open Interpreter (InRange LastSet NeverSets Sets Timer TimersShow initial)

variable {m : Machine} {t : Timer} {k : Nat} {a : Int}

/-- The processor in the next frame, after so many of its ticks. -/
def inFrame (m : Machine) (i : Nat) : Interpreter :=
  Interpreter.run m.hardware m.interpreter (List.replicate i .tick)

/-- A tick of the next frame sets a timer. -/
def SetsAt (m : Machine) (t : Timer) (i : Nat) (a : Int) : Prop :=
  Sets m.hardware t (m.inFrame i) a

/-- What a timer was last set to in a row of frames, and the frames that were completed since then,
that of the setting included. -/
inductive LastSetInFrames (t : Timer) (m : Machine) (k : Nat) : Int → Nat → Prop
  | never (unset : ∀ j < k, ∀ i < m.cyclesPerFrame, ∀ a, ¬(m.afterFrames j).SetsAt t i a) :
      LastSetInFrames t m k (t.value m.interpreter) (m.completed k)
  | set {j i : Nat} {a : Int} (hj : j < k) (hi : i < m.cyclesPerFrame)
      (sets : (m.afterFrames j).SetsAt t i a)
      (unset : ∀ j' < k, ∀ i' < m.cyclesPerFrame, j < j' ∨ j = j' ∧ i < i' →
        ∀ a, ¬(m.afterFrames j').SetsAt t i' a) :
      LastSetInFrames t m k a ((m.afterFrames j).completed (k - j))

/-! ### One frame -/

lemma neverSets_frameEnd (m : Machine) (p : Interpreter) :
    NeverSets m.hardware t p m.frameEnd := by
  rw [frameEnd]
  split
  · refine .cons (fun isTick => ?_) Interpreter.neverSets_nil
    cases isTick
  · exact Interpreter.neverSets_nil

lemma countP_frameEnd (m : Machine) (count : Nat) :
    (List.replicate count Interpreter.Request.tick ++ m.frameEnd).countP (·.isStep) =
      if m.Completes then 1 else 0 := by
  have hticks : (List.replicate count Interpreter.Request.tick).countP (·.isStep) = 0 := by
    rw [List.countP_replicate]
    rfl
  rw [List.countP_append, hticks, Nat.zero_add, frameEnd]
  split <;> rfl

lemma frameRequests_ne_reset : ∀ r ∈ m.frameRequests, r ≠ .reset := by
  intro r hr
  rcases List.mem_append.1 hr with hr | hr
  · rw [List.eq_of_mem_replicate hr]
    rintro ⟨⟩
  · rw [frameEnd] at hr
    split at hr
    · rw [List.mem_singleton.1 hr]
      rintro ⟨⟩
    · exact absurd hr List.not_mem_nil

namespace Proper

lemma value_of_lastSet_frame (h : m.Proper) {n : Nat}
    (last : LastSet m.hardware t m.interpreter m.frameRequests a n) :
    t.value m.afterFrame.interpreter = max 0 (a - n) := by
  rw [h.interpreter_afterFrame]
  rw [h.hardware_eq] at last ⊢
  exact h.inRange.value_of_lastSet frameRequests_ne_reset last

/-- A frame that sets no timer takes one off it if it is completed. -/
lemma value_afterFrame_of_unset (h : m.Proper)
    (unset : ∀ i < m.cyclesPerFrame, ∀ a, ¬m.SetsAt t i a) :
    t.value m.afterFrame.interpreter =
      max 0 (t.value m.interpreter - if m.Completes then 1 else 0) := by
  have hlast := h.value_of_lastSet_frame
    (.never (Interpreter.neverSets_ticks unset (neverSets_frameEnd m _)))
  rw [hlast, frameRequests, countP_frameEnd]
  split <;> rfl

/-- A frame that sets a timer takes one off that if it is completed. -/
lemma value_afterFrame_of_sets (h : m.Proper) {i : Nat} (hi : i < m.cyclesPerFrame)
    (sets : m.SetsAt t i a)
    (unset : ∀ i' < m.cyclesPerFrame, i < i' → ∀ a, ¬m.SetsAt t i' a) :
    t.value m.afterFrame.interpreter = max 0 (a - if m.Completes then 1 else 0) := by
  obtain ⟨left, hleft⟩ := Nat.exists_eq_add_of_lt hi
  have split : m.frameRequests =
      List.replicate i .tick ++ .tick :: (List.replicate left .tick ++ m.frameEnd) := by
    rw [frameRequests, hleft, Nat.add_assoc, List.replicate_add, List.replicate_succ,
      List.append_assoc, List.cons_append]
  have rest : NeverSets m.hardware t
      (Interpreter.run m.hardware m.interpreter (List.replicate i .tick ++ [.tick]))
      (List.replicate left .tick ++ m.frameEnd) := by
    refine Interpreter.neverSets_ticks (fun i' hi' => ?_) (neverSets_frameEnd m _)
    have hshift : Interpreter.run m.hardware
        (Interpreter.run m.hardware m.interpreter (List.replicate i .tick ++ [.tick]))
        (List.replicate i' .tick) = m.inFrame (i + 1 + i') := by
      rw [inFrame, List.replicate_add, List.replicate_succ', ← Interpreter.run_append]
    rw [hshift]
    exact unset (i + 1 + i') (by omega) (by omega)
  have hlast := h.value_of_lastSet_frame (.set split sets rest)
  rw [hlast, countP_frameEnd]
  split <;> rfl

/-! ### Rows of frames -/

lemma value_of_unset (h : m.Proper)
    (unset : ∀ j < k, ∀ i < m.cyclesPerFrame, ∀ a, ¬(m.afterFrames j).SetsAt t i a) :
    t.value (m.afterFrames k).interpreter = max 0 (t.value m.interpreter - m.completed k) := by
  induction k with
  | zero =>
    have hnonneg := h.inRange.value_nonneg t
    change t.value m.interpreter = max 0 (t.value m.interpreter - (0 : Nat))
    omega
  | succ k ih =>
    have hbefore := ih fun j hj => unset j (Nat.lt_succ_of_lt hj)
    have hcycles := (kept_afterFrames m k).cycles
    have hframe := (h.afterFrames k).value_afterFrame_of_unset (hcycles ▸ unset k (Nat.lt_succ_self k))
    rw [afterFrames_succ, hframe, hbefore, completed_succ]
    split <;> omega

/-- A timer shows what it was last set to, less the frames completed since then. -/
theorem value_of_lastSet (h : m.Proper) {n : Nat} (last : LastSetInFrames t m k a n) :
    t.value (m.afterFrames k).interpreter = max 0 (a - n) := by
  cases last with
  | never unset => exact h.value_of_unset unset
  | @set j i _ hj hi sets unset =>
    obtain ⟨left, rfl⟩ := Nat.exists_eq_add_of_lt hj
    have hcycles := (kept_afterFrames m j).cycles
    have hnext := (kept_afterFrames m (j + 1)).cycles
    have hframe : t.value (m.afterFrames (j + 1)).interpreter =
        max 0 (a - if (m.afterFrames j).Completes then 1 else 0) := by
      rw [afterFrames_succ]
      refine (h.afterFrames j).value_afterFrame_of_sets (hcycles ▸ hi) sets fun i' hi' hlt => ?_
      exact unset j hj i' (hcycles ▸ hi') (.inr ⟨rfl, hlt⟩)
    have hrest := (h.afterFrames (j + 1)).value_of_unset (t := t) (k := left) fun j' hj' i' hi' => by
      rw [← afterFrames_add]
      exact unset (j + 1 + j') (by omega) i' (hnext ▸ hi') (.inl (by omega))
    rw [← afterFrames_add, hframe, afterFrames_succ] at hrest
    rw [show j + left + 1 = j + 1 + left by omega, hrest, show j + 1 + left - j = left + 1 by omega,
      completed_add_one]
    split <;> omega

end Proper

lemma exists_last {P : Nat → Prop} {c : Nat} (h : ∃ i < c, P i) :
    ∃ i < c, P i ∧ ∀ i' < c, i < i' → ¬P i' := by
  induction c with
  | zero => obtain ⟨i, hi, -⟩ := h; exact absurd hi (Nat.not_lt_zero i)
  | succ c ih =>
    by_cases hc : P c
    · exact ⟨c, Nat.lt_succ_self c, hc, fun i' hi' hlt => absurd hlt (by omega)⟩
    · obtain ⟨i, hi, hP⟩ := h
      have hne : i ≠ c := fun heq => hc (heq ▸ hP)
      obtain ⟨i, hi, hP, hlast⟩ := ih ⟨i, by omega, hP⟩
      refine ⟨i, Nat.lt_succ_of_lt hi, hP, fun i' hi' hlt => ?_⟩
      by_cases heq : i' = c
      · rwa [heq]
      · exact hlast i' (by omega) hlt

/-- In every row of frames a timer was last set to something. -/
lemma exists_lastSetInFrames (t : Timer) (m : Machine) (k : Nat) :
    ∃ a n, LastSetInFrames t m k a n := by
  induction k with
  | zero => exact ⟨_, _, .never fun j hj => absurd hj (Nat.not_lt_zero j)⟩
  | succ k ih =>
    by_cases hframe : ∃ i < m.cyclesPerFrame, ∃ a, (m.afterFrames k).SetsAt t i a
    · obtain ⟨i, hi, ⟨a, sets⟩, hlast⟩ := exists_last hframe
      refine ⟨a, _, .set (Nat.lt_succ_self k) hi sets fun j' hj' i' hi' hlater a sets' => ?_⟩
      obtain hlt | ⟨rfl, hlt⟩ := hlater
      · omega
      · exact hlast i' hi' hlt ⟨a, sets'⟩
    · push Not at hframe
      obtain ⟨a, n, last⟩ := ih
      cases last with
      | never unset =>
        refine ⟨_, _, .never fun j hj i hi => ?_⟩
        rcases Nat.lt_succ_iff_lt_or_eq.1 hj with hj | rfl
        · exact unset j hj i hi
        · exact hframe i hi
      | @set j i _ hj hi sets unset =>
        refine ⟨a, _, .set (Nat.lt_succ_of_lt hj) hi sets fun j' hj' i' hi' hlater => ?_⟩
        rcases Nat.lt_succ_iff_lt_or_eq.1 hj' with hj' | rfl
        · exact unset j' hj' i' hi' hlater
        · exact hframe i' hi'

/-- What the timers show after a row of frames. -/
structure FramesShow (m : Machine) (k : Nat) : Prop where
  exists_lastSet : ∀ t, ∃ a n, LastSetInFrames t m k a n
  value : ∀ t a n, LastSetInFrames t m k a n →
    t.value (m.afterFrames k).interpreter = max 0 (a - n)

/-- **Timers count down from what they were last set to.** With the standard table, after any
history of a processor and another one without resets, a timer shows what the last instruction that
set it found in its register, or what it showed at the start of the second history, less the steps
of the timers since; the program reads that value, and a tone is due just when it is positive. In a
machine that was made and used without a debugger and then runs frames, the steps since are the
frames completed since. -/
theorem timers_count_down :
    (∀ (random : Nat → UInt8) (requests later : List Interpreter.Request),
      (∀ r ∈ later, r ≠ .reset) →
        TimersShow { random } (Interpreter.run { random } initial requests) later) ∧
    ∀ (program : List UInt8) (cycles : Int) (random : Nat → UInt8) (pad : Keypad) (m : Machine),
      create program cycles random pad = .ok m →
      ∀ (requests : List Request), (∀ r ∈ requests, r.leavesRegisters = true) →
      ∀ (log : Log) (k : Nat), FramesShow ((m.run requests).run log).1.2 k := by
  constructor
  · intro random requests later noReset
    exact (Interpreter.inRange_initial.run requests).timersShow noReset
  · intro program cycles random pad m made requests leave log k
    have used := (proper_of_create made).run leave log
    exact ⟨fun t => exists_lastSetInFrames t _ k, fun _ _ _ last => used.value_of_lastSet last⟩

/-- The delay timer is set to 5 and counted down three times, with a jump on the way; and a machine
with the same program runs frames. -/
theorem timers_count_down_jump :
    let program : List UInt8 := [0x60, 0x05, 0xF0, 0x15, 0x12, 0x04]
    let start := Interpreter.run {} initial [.load program]
    let since : List Interpreter.Request := [.timers, .tick, .timers, .timers]
    LastSet {} .delay start ([.tick, .tick] ++ since) 5 3 ∧
      (Interpreter.run {} start ([.tick, .tick] ++ since)).registers.delay = 2 ∧
      ∃ m, create program 2 (fun _ => 0) Keypad.standard = .ok m ∧
        FramesShow ((m.run [.keypad (.changeAt true 5), .frame]).run {}).1.2 3 := by
  intro program start since
  have trace : (Interpreter.run {} start [.tick]).fetch = .ok ⟨0xF015, by decide⟩ ∧
      ((Interpreter.run {} start [.tick]).tick {}).1 = .ok () ∧
      (Interpreter.run {} start [.tick]).reg 0 = 5 ∧
      (Interpreter.run {} start [.tick, .tick, .timers]).fetch = .ok ⟨0x1204, by decide⟩ := by
    decide +kernel
  obtain ⟨fetched, done, hreg, next⟩ := trace
  have readsSet : Pattern.Fits (Table.patternOf .setDelay) ⟨0xF015, by decide⟩ :=
    Table.fits_of_routine (by decide +kernel)
  have readsJump : Pattern.Fits (Table.patternOf .jump) ⟨0x1204, by decide⟩ :=
    Table.fits_of_routine (by decide +kernel)
  have sets : Sets {} .delay (Interpreter.run {} start [.tick]) 5 :=
    ⟨done, _, fetched, readsSet, by rw [show Word.x ⟨0xF015, by decide⟩ = 0 from rfl, hreg]; rfl⟩
  have jumps : ∀ a, ¬Sets {} .delay (Interpreter.run {} start [.tick, .tick, .timers]) a :=
    Interpreter.not_sets_of_fits next readsJump nofun
  have unset : NeverSets {} .delay (Interpreter.run {} start [.tick, .tick]) since :=
    .cons nofun (.cons (fun _ => jumps) (.cons nofun (.cons nofun Interpreter.neverSets_nil)))
  have last : LastSet {} .delay start ([.tick, .tick] ++ since) 5 3 :=
    .set (show _ = [.tick] ++ .tick :: since from rfl) sets unset
  obtain ⟨m, made⟩ : ∃ m, create program 2 (fun _ => 0) Keypad.standard = .ok m :=
    exists_create (by decide) (by decide) _
  have noReset : ∀ r ∈ [.tick, .tick] ++ since, r ≠ .reset := by simp [since]
  have leave : ∀ r ∈ [Request.keypad (.changeAt true 5), .frame], r.leavesRegisters = true := by
    simp [Request.leavesRegisters]
  refine ⟨last, ?_, m, made, timers_count_down.2 _ _ _ _ m made _ leave {} 3⟩
  exact (timers_count_down.1 (fun _ => 0) [.load program] _ noReset).value .delay 5 3 last

end Machine

end Chip8
