import Chip8.Proofs.Interpreter.Absorbing
import Chip8.Proofs.Interpreter.Flow
import Chip8.Proofs.Interpreter.Timers

/-!
Waiting for a key.

A tick that waits takes the program counter back to its own word, and that undoes all that it did
(`InRange.tick_of_keysUp`). So however long a processor waits, its ticks leave no trace: what is
different later is what steps of the timers and keys made different, and a key that goes down and up
again between two ticks is never seen (`InRange.retries`). The first tick that finds a key down ends
it (`InRange.tick_of_pressed`).
-/

namespace Chip8.Interpreter

open Pattern (Fits)

variable {hw : Hardware} {m : Interpreter} {w : Word} {random : Nat → UInt8} {later : List Request}

/-- No key is down. -/
def KeysUp (m : Interpreter) : Prop := ∀ k, entry m.keys k = false

/-- A key is down and no key before it is. -/
structure IsFirstKey (m : Interpreter) (k : Fin 16) : Prop where
  down : entry m.keys k = true
  up : ∀ j < k, entry m.keys j = false

/-- Whether a request is a tick. -/
def Request.isTick : Request → Bool
  | .tick => true
  | _ => false

/-- What a processor that waits for a key has come to after a history, and what its next tick
does. -/
structure Retries (hw : Hardware) (m : Interpreter) (w : Word) (later : List Request) : Prop where
  /-- Ticks leave no trace. -/
  ticks : run hw m later = run hw m (later.filter fun r => !r.isTick)
  inside : m.SameInside (run hw m later)
  timers : ∀ t : Timer,
    t.value (run hw m later) = max 0 (t.value m - later.countP Request.isStep)
  idle : (run hw m later).KeysUp → (run hw m later).tick hw = (.ok (), run hw m later)
  pressed : ¬(run hw m later).KeysUp → ∃ k, (run hw m later).IsFirstKey k ∧
    (run hw m later).tick hw =
      (.ok (), ((run hw m later).setReg w.x (UInt8.ofNat k)).setPc (m.registers.pc + 2))

/-! ### Single ticks -/

/-- The search for a key finds the first one that is down. -/
lemma exists_firstKey (pressed : ¬m.KeysUp) : ∃ k : Fin 16, m.firstKey? = some k.val ∧
    m.IsFirstKey k := by
  have hkey : m.firstKey? ≠ none := fun idle => pressed (firstKey?_eq_none_iff.1 idle)
  obtain ⟨k, hk⟩ := Option.ne_none_iff_exists'.1 hkey
  have hlt := firstKey?_lt hk
  obtain ⟨_, hdown, hup⟩ := List.findIdx?_eq_some_iff_getElem.1 hk
  refine ⟨⟨k, hlt⟩, hk, ?_, fun j hj => ?_⟩
  · rw [Vector.getElem_toList, beq_iff_eq] at hdown
    exact hdown
  · have h := hup j.val hj
    rw [Vector.getElem_toList, beq_iff_eq, Bool.not_eq_true] at h
    exact h

namespace InRange

lemma tick_of_keysUp (h : m.InRange) (fetched : m.fetch = .ok w) (reads : Fits "FX0A" w)
    (idle : m.KeysUp) : m.tick { random } = (.ok (), m) := by
  have hkey : m.skip.firstKey? = none := firstKey?_eq_none_iff.2 idle
  have contained : m.Contained { random } := h.contained
  have hback := (contained.masks w fetched).2.2
  rw [h.tick_of_reads fetched (show Fits (Table.patternOf .awaitKey) w from reads) rfl,
    Interpreter.successor]
  simp only [hkey, hback, setPc_skip]

lemma tick_of_pressed (h : m.InRange) (fetched : m.fetch = .ok w) (reads : Fits "FX0A" w)
    (pressed : ¬m.KeysUp) : ∃ k, m.IsFirstKey k ∧ m.tick { random } =
      (.ok (), (m.setReg w.x (UInt8.ofNat k)).setPc (m.registers.pc + 2)) := by
  obtain ⟨k, hfirst, first⟩ := exists_firstKey pressed
  have hkey : m.skip.firstKey? = some k.val := hfirst
  have hskip : m.skip = m.setPc (m.registers.pc + 2) :=
    congrArg m.setPc (h.skip_of_fetch fetched).2
  refine ⟨k, first, ?_⟩
  rw [h.tick_of_reads fetched (show Fits (Table.patternOf .awaitKey) w from reads) rfl,
    Interpreter.successor]
  simp only [hkey]
  rw [hskip]
  rfl

end InRange

/-! ### Histories -/

/-- Ticks that change nothing can be left out. -/
lemma run_eq_run_filter (still : AtTicks hw (fun m => (m.tick hw).2 = m) m later) :
    run hw m later = run hw m (later.filter fun r => !r.isTick) := by
  induction later generalizing m with
  | nil => rfl
  | cons r later ih =>
    have hrest := ih still.tail
    cases r with
    | tick =>
      have hfirst : (Request.perform hw m .tick).2 = m := still.head rfl
      rw [hfirst] at hrest
      rw [run_cons, hfirst, hrest]
      rfl
    | _ => exact hrest

namespace InRange

/-- As long as no tick finds a key down, a processor waits at the same word. -/
lemma sameInside_of_unseen (h : m.InRange) (fetched : m.fetch = .ok w) (reads : Fits "FX0A" w)
    (goes : ∀ r ∈ later, r.goesOn = true) (unseen : AtTicks { random } KeysUp m later) :
    m.SameInside (Interpreter.run { random } m later) := by
  refine (SameInside.refl m).run h goes (fun m' h' same idle => ?_) unseen
  rw [h'.tick_of_keysUp (same.fetch.trans fetched) reads idle]

/-- So each of its ticks starts there. -/
lemma atTicks_of_unseen (h : m.InRange) (fetched : m.fetch = .ok w) (reads : Fits "FX0A" w)
    (goes : ∀ r ∈ later, r.goesOn = true) (unseen : AtTicks { random } KeysUp m later) :
    AtTicks { random } (fun m' => m'.InRange ∧ m'.fetch = .ok w ∧ m'.KeysUp) m later := by
  intro before hb
  obtain ⟨since, rfl⟩ := (List.prefix_append before [.tick]).trans hb
  have hgoes : ∀ r ∈ before, r.goesOn = true := fun r hr => goes r (List.mem_append_left _ hr)
  have same := h.sameInside_of_unseen fetched reads hgoes unseen.of_append
  exact ⟨h.run before, same.fetch.trans fetched, unseen before hb⟩

lemma retries (h : m.InRange) (fetched : m.fetch = .ok w) (reads : Fits "FX0A" w)
    (goes : ∀ r ∈ later, r.goesOn = true) (unseen : AtTicks { random } KeysUp m later) :
    Retries { random } m w later := by
  have same := h.sameInside_of_unseen fetched reads goes unseen
  have waits := h.atTicks_of_unseen fetched reads goes unseen
  have h' : (Interpreter.run { random } m later).InRange := h.run later
  have fetched' := same.fetch.trans fetched
  refine { ticks := ?ticks, inside := same, timers := fun t => ?timers, pressed := ?pressed
           idle := h'.tick_of_keysUp fetched' reads }
  case ticks =>
    refine run_eq_run_filter fun before hb => ?_
    obtain ⟨hbefore, hfetch, idle⟩ := waits before hb
    rw [hbefore.tick_of_keysUp hfetch reads idle]
  case timers =>
    have noReset : ∀ r ∈ later, r ≠ .reset := by
      rintro _ hr rfl
      exact Bool.noConfusion (goes _ hr)
    have hsetter : Operation.awaitKey ≠ t.setter := by cases t <;> decide
    refine h.value_of_neverSets noReset (neverSets_iff.2 fun before hb => ?_)
    exact not_sets_of_fits (waits before hb).2.1
      (show Fits (Table.patternOf .awaitKey) w from reads) hsetter
  case pressed =>
    intro pressed
    rw [← same.pc]
    exact h'.tick_of_pressed fetched' reads pressed

end InRange

/-- **Waiting for a key leaves no trace.** Take any processor that a host can bring about, with the
standard table, whose next word waits for a key, and then any ticks, steps of the timers and keys in
any order, such that no tick finds a key down. It comes to the same without the ticks: nothing but
keys and timers is different, and the timers have counted the steps. If no key is down then, the
next tick succeeds and changes nothing. Otherwise it succeeds, puts the first key that is down into
the register of the word, goes on behind the word and changes nothing else. -/
theorem key_wait_retries (random : Nat → UInt8) (requests : List Request) :
    let m := run { random } initial requests
    ∀ w, m.fetch = .ok w → Fits "FX0A" w → ∀ later, (∀ r ∈ later, r.goesOn = true) →
      AtTicks { random } KeysUp m later → Retries { random } m w later := by
  intro m w fetched reads later
  exact InRange.retries (inRange_initial.run requests) fetched reads

/-- The last word of memory waits. Key 5 goes down and up unseen; then 9 and 4 are down. -/
theorem key_wait_retries_last :
    let m := run {} initial [.write 0x200 [0x1F, 0xFE], .write 0xFFE [0xF3, 0x0A], .tick]
    let later := [.setKey 5 true, .setKey 5 false, .tick, .timers, .setKey 9 true, .setKey 4 true]
    ∃ w, (m.fetch = .ok w ∧ Fits "FX0A" w) ∧ (∀ r ∈ later, r.goesOn = true) ∧
      AtTicks {} KeysUp m later ∧ Retries {} m w later ∧
      (((run {} m later).tick {}).2.reg w.x).toNat = 4 ∧
      ((run {} m later).tick {}).2.registers.pc = 0x1000 := by
  intro m later
  have trace : m.fetch = .ok ⟨0xF30A, by decide⟩ ∧
      (((run {} m later).tick {}).2.reg (⟨0xF30A, by decide⟩ : Word).x).toNat = 4 ∧
      ((run {} m later).tick {}).2.registers.pc = 0x1000 := by
    decide +kernel
  obtain ⟨fetched, first, on⟩ := trace
  have idle : KeysUp (run {} m [.setKey 5 true, .setKey 5 false]) := by
    unfold KeysUp
    decide +kernel
  have unseen : AtTicks {} KeysUp m later :=
    .cons nofun (.cons nofun (.cons (fun _ => idle) (.cons nofun (.cons nofun (.cons nofun .nil)))))
  have reads : Fits (Table.patternOf .awaitKey) ⟨0xF30A, by decide⟩ :=
    Table.fits_of_routine (by decide +kernel)
  have goes : ∀ r ∈ later, r.goesOn = true := by decide
  have waits := key_wait_retries (fun _ => 0)
    [.write 0x200 [0x1F, 0xFE], .write 0xFFE [0xF3, 0x0A], .tick] _ fetched reads later goes unseen
  exact ⟨_, ⟨fetched, reads⟩, goes, unseen, waits, first, on⟩

end Chip8.Interpreter
