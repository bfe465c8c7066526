import Chip8.Proofs.Interpreter.Frame
import Chip8.Proofs.Interpreter.Words

/-!
What the timers show.

One instruction sets a timer, a step of the timers takes one off it, and nothing else that a host
does short of a reset changes it (`InRange.value_perform`). So a timer shows what it was last set to
less the steps since then, and no less than zero (`InRange.value_of_lastSet`).
-/

namespace Chip8.Interpreter

open Pattern (Fits)

/-- The timers. -/
inductive Timer where
  | delay
  | sound

namespace Timer

/-- What a timer shows. -/
def value : Timer → Interpreter → Int
  | delay, m => m.registers.delay
  | sound, m => m.registers.sound

/-- The pattern of the words that set a timer. -/
def pattern : Timer → Text
  | delay => "FX15"
  | sound => "FX18"

/-- The operation that sets a timer. -/
def setter : Timer → Operation
  | delay => .setDelay
  | sound => .setSound

end Timer

variable {hw : Hardware} {t : Timer} {m : Interpreter} {random : Nat → UInt8} {a : Int}
  {later : List Request}

/-! ### Settings -/

/-- The next tick sets a timer to what is in the register of its word. -/
structure Sets (hw : Hardware) (t : Timer) (m : Interpreter) (a : Int) : Prop where
  done : (m.tick hw).1 = .ok ()
  reads : ∃ w, m.fetch = .ok w ∧ Fits t.pattern w ∧ a = (m.reg w.x).toNat

/-- No tick of a history sets a timer. -/
def NeverSets (hw : Hardware) (t : Timer) (m : Interpreter) (later : List Request) : Prop :=
  ∀ before, before ++ [.tick] <+: later → ∀ a, ¬Sets hw t (run hw m before) a

/-- Whether a request is a step of the timers. -/
def Request.isStep : Request → Bool
  | .timers => true
  | _ => false

/-- What a timer was last set to in a history, and the steps since then. A timer that was not set
counts as set to what it showed at the start. -/
inductive LastSet (hw : Hardware) (t : Timer) (m : Interpreter) (later : List Request) :
    Int → Nat → Prop
  | never (unset : NeverSets hw t m later) :
      LastSet hw t m later (t.value m) (later.countP Request.isStep)
  | set {before since : List Request} {a : Int} (split : later = before ++ .tick :: since)
      (sets : Sets hw t (run hw m before) a)
      (unset : NeverSets hw t (run hw m (before ++ [.tick])) since) :
      LastSet hw t m later a (since.countP Request.isStep)

lemma neverSets_iff :
    NeverSets hw t m later ↔ AtTicks hw (fun m => ∀ a, ¬Sets hw t m a) m later := Iff.rfl

lemma NeverSets.head {r : Request} (h : NeverSets hw t m (r :: later)) (htick : r = .tick) :
    ∀ a, ¬Sets hw t m a := (neverSets_iff.1 h).head htick

lemma NeverSets.tail {r : Request} (h : NeverSets hw t m (r :: later)) :
    NeverSets hw t (r.perform hw m).2 later := neverSets_iff.2 (neverSets_iff.1 h).tail

lemma neverSets_nil : NeverSets hw t m [] := neverSets_iff.2 .nil

lemma NeverSets.cons {r : Request} (first : r = .tick → ∀ a, ¬Sets hw t m a)
    (rest : NeverSets hw t (r.perform hw m).2 later) : NeverSets hw t m (r :: later) :=
  neverSets_iff.2 (.cons first rest)

/-- In every history a timer was last set to something. -/
theorem exists_lastSet (hw : Hardware) (t : Timer) (m : Interpreter) (later : List Request) :
    ∃ a n, LastSet hw t m later a n := by
  induction later generalizing m with
  | nil => exact ⟨_, _, .never neverSets_nil⟩
  | cons r later ih =>
    -- a setting further on counts; without one, the first request may be the setting
    obtain ⟨a, n, last⟩ := ih (r.perform hw m).2
    cases last with
    | @set before since _ split sets unset =>
      have split' : r :: later = (r :: before) ++ .tick :: since := congrArg (r :: ·) split
      exact ⟨a, _, .set split' sets unset⟩
    | never unset =>
      by_cases hfirst : r = .tick ∧ ∃ a, Sets hw t m a
      · obtain ⟨rfl, a, sets⟩ := hfirst
        exact ⟨a, _, .set (List.nil_append _).symm sets unset⟩
      · rw [not_and, not_exists] at hfirst
        exact ⟨_, _, .never (.cons hfirst unset)⟩

/-! ### Single requests -/

lemma patternOf_setter (t : Timer) : Table.patternOf t.setter = t.pattern := by
  cases t <;> rfl

/-- A word that reads as an instruction of another kind sets no timer. -/
lemma not_sets_of_fits {w : Word} {op : Operation} (fetched : m.fetch = .ok w)
    (reads : Fits (Table.patternOf op) w) (hop : op ≠ t.setter) (a : Int) : ¬Sets hw t m a := by
  rintro ⟨-, w', fetched', reads', -⟩
  obtain rfl := Except.ok.inj (fetched.symm.trans fetched')
  exact hop (Table.eq_of_fits reads (patternOf_setter t ▸ reads'))

lemma value_successor (op : Operation) (w : Word) :
    t.value (m.successor hw op w) = if op = t.setter then ((m.reg w.x).toNat : Int)
      else t.value m := by
  rw [successor_eq]
  cases t <;> cases op <;> rfl

lemma value_tickTimers (t : Timer) (m : Interpreter) :
    t.value m.tickTimers = if 0 < t.value m then t.value m - 1 else t.value m := by
  cases t <;> rfl

namespace InRange

lemma value_nonneg (h : m.InRange) (t : Timer) : 0 ≤ t.value m := by
  cases t with
  | delay => exact h.delay.1
  | sound => exact h.sound.1

lemma value_tick_of_sets (h : m.InRange) (sets : Sets { random } t m a) :
    t.value (m.tick { random }).2 = a := by
  obtain ⟨done, w, fetched, reads, rfl⟩ := sets
  obtain ⟨op, runs, go⟩ := h.exists_runs_of_done done
  obtain ⟨-, rfl⟩ := h.eq_word_of_fetch fetched
  have hop : op = t.setter := Table.eq_of_fits runs.fits (patternOf_setter t ▸ reads)
  rw [h.tick_of_go runs go, value_successor, if_pos hop]
  rfl

lemma value_tick_of_not_sets (h : m.InRange) (unset : ∀ a, ¬Sets { random } t m a) :
    t.value (m.tick { random }).2 = t.value m := by
  by_cases done : (m.tick { random }).1 = .ok ()
  · obtain ⟨op, runs, go⟩ := h.exists_runs_of_done done
    have hop : op ≠ t.setter := by
      rintro rfl
      exact unset _ ⟨done, _, h.fetch_word runs.inside, patternOf_setter t ▸ runs.fits, rfl⟩
    rw [h.tick_of_go runs go, value_successor, if_neg hop]
    cases t <;> rfl
  · rw [h.eq_of_not_done done]

/-- A request that is no reset and sets no timer takes one off them if it is a step. -/
theorem value_perform (h : m.InRange) {r : Request} (hreset : r ≠ .reset)
    (unset : r = .tick → ∀ a, ¬Sets { random } t m a) :
    t.value (r.perform { random } m).2 = max 0 (t.value m - if r.isStep then 1 else 0) := by
  have hnonneg := h.value_nonneg t
  by_cases htick : r = .tick
  · subst htick
    refine (h.value_tick_of_not_sets (unset rfl)).trans ?_
    change t.value m = max 0 (t.value m - 0)
    omega
  by_cases hsteps : r = .timers
  · subst hsteps
    refine (value_tickTimers t m).trans ?_
    change _ = max 0 (t.value m - 1)
    split <;> omega
  have hstep : r.isStep = false := by
    cases r with
    | timers => exact absurd rfl hsteps
    | _ => rfl
  have effect := effect_perform { random } m r
  have hsame : t.value (r.perform { random } m).2 = t.value m := by
    generalize (r.perform { random } m).2 = after at effect ⊢
    cases effect with
    | tick => exact absurd rfl htick
    | timers => exact absurd rfl hsteps
    | reset => exact absurd rfl hreset
    | memory | keys => cases t <;> rfl
  rw [hsame, hstep, if_neg Bool.false_ne_true]
  omega

/-- The tick that reads the delay timer succeeds and puts what it shows into its register. -/
lemma reads_delay (h : m.InRange) {w : Word} (fetched : m.fetch = .ok w) (reads : Fits "FX07" w) :
    (m.tick { random }).1 = .ok () ∧
      (((m.tick { random }).2.reg w.x).toNat : Int) = m.registers.delay := by
  have hd := h.delay
  have go : m.skip.refusal .readDelay w = none := if_pos ⟨hd.1, Int.lt_add_one_of_le hd.2⟩
  rw [h.tick_of_reads fetched (show Fits (Table.patternOf .readDelay) w from reads) go]
  refine ⟨rfl, ?_⟩
  change (((m.skip.setReg w.x (byteOf m.registers.delay)).reg w.x).toNat : Int) = _
  rw [reg_setReg, if_pos rfl, natCast_byteOf]
  omega

/-! ### Histories -/

lemma value_of_neverSets (h : m.InRange) (noReset : ∀ r ∈ later, r ≠ .reset)
    (unset : NeverSets { random } t m later) :
    t.value (Interpreter.run { random } m later) =
      max 0 (t.value m - later.countP Request.isStep) := by
  induction later generalizing m with
  | nil =>
    have hnonneg := h.value_nonneg t
    rw [run_nil, List.countP_nil]
    omega
  | cons r later ih =>
    rw [List.forall_mem_cons] at noReset
    have hfirst := h.value_perform noReset.1 unset.head
    have hrest := ih (h.perform r) noReset.2 unset.tail
    rw [run_cons, hrest, hfirst, List.countP_cons]
    split <;> omega

/-- A timer shows what it was last set to, less the steps since then. -/
theorem value_of_lastSet (h : m.InRange) (noReset : ∀ r ∈ later, r ≠ .reset) {n : Nat}
    (last : LastSet { random } t m later a n) :
    t.value (Interpreter.run { random } m later) = max 0 (a - n) := by
  cases last with
  | never unset => exact h.value_of_neverSets noReset unset
  | @set before since _ split sets unset =>
    subst split
    have hbefore : (Interpreter.run { random } m before).InRange := h.run before
    have hset : t.value (Interpreter.run { random } m (before ++ [.tick])) = a := by
      rw [run_append]
      exact hbefore.value_tick_of_sets sets
    have hsince : ∀ r ∈ since, r ≠ .reset := fun r hr =>
      noReset r (List.mem_append_right _ (List.mem_cons_of_mem _ hr))
    have hlaw := (h.run (before ++ [.tick])).value_of_neverSets hsince unset
    rwa [hset, ← run_append, List.append_assoc, List.singleton_append] at hlaw

end InRange

/-- What the timers show after a history without resets, and what the program and the host learn of
it. -/
structure TimersShow (hw : Hardware) (m : Interpreter) (later : List Request) : Prop where
  exists_lastSet : ∀ t, ∃ a n, LastSet hw t m later a n
  value : ∀ t a n, LastSet hw t m later a n → t.value (run hw m later) = max 0 (a - n)
  /-- An instruction that asks for the delay timer gets its value. -/
  read : ∀ a n w, LastSet hw .delay m later a n → (run hw m later).fetch = .ok w → Fits "FX07" w →
    ((run hw m later).tick hw).1 = .ok () ∧
      ((((run hw m later).tick hw).2.reg w.x).toNat : Int) = max 0 (a - n)
  /-- A tone is due as long as the sound timer is not down to zero. -/
  active : ∀ a n, LastSet hw .sound m later a n →
    ((run hw m later).soundActive = true ↔ 0 < max 0 (a - n))

lemma InRange.timersShow (h : m.InRange) (noReset : ∀ r ∈ later, r ≠ .reset) :
    TimersShow { random } m later where
  exists_lastSet t := Interpreter.exists_lastSet _ t m later
  value _ _ _ last := h.value_of_lastSet noReset last
  read a n w last fetched reads := by
    obtain ⟨done, hread⟩ := (h.run later).reads_delay fetched reads
    exact ⟨done, hread.trans (h.value_of_lastSet noReset last)⟩
  active a n last := by
    rw [← h.value_of_lastSet noReset last]
    exact decide_eq_true_iff

end Chip8.Interpreter
