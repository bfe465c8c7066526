import Chip8.Proofs.Machine.PowerCycle

/-!
The keys of a machine.

A machine holds the keys twice: the keypad knows which are down, and the processor has its own row,
which only hears of changes. The two rows are the same at the start, because a new machine takes
over the keys that are held (`keys_powerOn`), and stay the same: what the keypad tells accounts for
all that it changes (`Keypad.accounts_answer`), and nothing else that a host does through the
machine touches the processor's row (`Mirrors.perform`).
-/

namespace Chip8

/-! ### The processor's row -/

namespace Interpreter

variable {hw : Hardware} {m : Interpreter}

/-- No instruction changes the keys, whether it succeeds or fails. -/
theorem keys_tick : (m.tick hw).2.keys = m.keys := by
  rcases ht : m.tick hw with ⟨o, after⟩
  cases outcome_of_tick ht with
  | unfetched | unknown | missing | refused => rfl
  | slipped fetched decoded routine refused reported =>
    rename_i f
    cases f <;> rfl
  | done => exact keys_successor

lemma keys_loggedTimers : Logging.Gives (fun i => i.keys = m.keys) m.loggedTimers :=
  .after _ fun _ => .pure rfl

lemma keys_ticks_go (count completed : Nat) :
    Logging.Gives (fun t => t.after.keys = m.keys) (ticks.go hw count completed m) := by
  induction count generalizing completed m with
  | zero => exact .pure rfl
  | succ count ih =>
    rw [ticks.go, loggedTick]
    refine Logging.Gives.bind (P := fun r => r.2.keys = m.keys) (.after _ fun _ => .pure keys_tick)
      fun r hr => ?_
    rcases r with ⟨f | _, after⟩
    · exact .pure hr
    · intro log
      exact (ih (completed + 1) log).trans hr

/-- A row of ticks does not change them either. -/
lemma keys_ticks (count : Nat) :
    Logging.Gives (fun t => t.after.keys = m.keys) (m.ticks hw count) := keys_ticks_go count 0

/-- Whether a request leaves the keys alone. -/
def Request.leavesKeys : Request → Bool
  | .reset | .setKey .. => false
  | _ => true

lemma keys_perform {r : Request} (leaves : r.leavesKeys = true) :
    (r.perform hw m).2.keys = m.keys := by
  have effect := effect_perform hw m r
  generalize (r.perform hw m).2 = after at effect ⊢
  cases effect with
  | tick => exact keys_tick
  | timers | memory => rfl
  | reset | keys => cases leaves

lemma keys_loggedPerform {r : Request} (leaves : r.leavesKeys = true) :
    Logging.Gives (fun x => x.2.keys = m.keys) (r.loggedPerform hw m) := by
  cases r with
  | tick => exact .after _ fun _ => .pure keys_tick
  | timers => exact keys_loggedTimers.bind fun _ hi => .pure hi
  | _ => exact .pure (keys_perform leaves)

end Interpreter

namespace Machine

variable {m after : Machine} {p i : Interpreter} {program : List UInt8} {pad : Keypad}

lemma keys_takeKeys (up : ∀ k, entry p.keys k = false) : (takeKeys p pad).keys = pad.down := by
  refine entry_ext fun j => ?_
  rw [takeKeys_eq_foldl, foldl_setKey, Keypad.entry_replay_held, up]
  rcases hdown : pad.isDown j <;> exact hdown.symm

/-- A processor with no key down has those of the keypad down when it powers on. -/
lemma keys_powerOn (up : ∀ k, entry p.keys k = false) (h : powerOn p program pad = .ok i) :
    i.keys = pad.down := by
  obtain ⟨memory, rfl⟩ := exists_memory_of_powerOn h
  exact keys_takeKeys up

/-! ### The two rows -/

/-- The processor has the keys of the keypad, and listens to it. -/
structure Mirrors (m : Machine) : Prop where
  keys : m.interpreter.keys = m.keypad.down
  hears : .processor ∈ m.keypad.listeners

/-- Whether a request leaves the keys of the processor to the keypad. -/
def Request.leavesKeys : Request → Bool
  | .processor r => r.leavesKeys
  | _ => true

lemma mirrors_of_create {cycles : Int} {random : Nat → UInt8}
    (made : create program cycles random pad = .ok m) : m.Mirrors := by
  obtain ⟨-, i, hi, rfl⟩ := create_eq_ok_iff.1 made
  refine ⟨keys_powerOn (fun k => entry_replicate false k) hi, ?_⟩
  exact List.mem_append_right _ List.mem_cons_self

namespace Mirrors

lemma reset (h : m.Mirrors) (hr : m.reset = .ok after) : after.Mirrors := by
  obtain ⟨i, hi, rfl⟩ := reset_eq_ok_iff.1 hr
  exact ⟨keys_powerOn (fun k => entry_replicate false k) hi, h.hears⟩

lemma runFrame (h : m.Mirrors) : Logging.Gives (fun r => r.2.Mirrors) m.runFrame := by
  rw [Machine.runFrame]
  refine (Interpreter.keys_ticks m.cyclesPerFrame).bind fun run hrun => ?_
  have hkeys : run.after.keys = m.keypad.down := hrun.trans h.keys
  rcases run.outcome with f | _
  · exact .pure ⟨hkeys, h.hears⟩
  · refine Interpreter.keys_loggedTimers.bind fun i hi => ?_
    exact .after _ fun _ => .pure ⟨hi.trans hkeys, h.hears⟩

/-- What the keypad tells of a request brings the processor's row to the keypad's. -/
lemma onKeypad (h : m.Mirrors) (r : Keypad.Request) :
    Logging.Gives (fun x => x.2.2.Mirrors) (m.onKeypad (r.answer ·)) := by
  intro log
  have told : Keypad.Accounts m.keypad ((r.answer m.keypad).run log).1.keypad
      ((r.answer m.keypad).run log).1.notices := Keypad.accounts_answer r log
  obtain ⟨events, htold, hdown, -⟩ := told
  have hkeys : (deliver m.interpreter ((r.answer m.keypad).run log).1.notices).keys =
      ((r.answer m.keypad).run log).1.keypad.down := by
    rw [htold, deliver_tell h.hears, foldl_setKey, h.keys, ← hdown]
  exact ⟨hkeys, (Keypad.listeners_answer r log).subset h.hears⟩

theorem perform (h : m.Mirrors) {r : Request} (leaves : r.leavesKeys = true) :
    Logging.Gives (fun x => x.2.Mirrors) (r.perform m) := by
  cases r with
  | frame => exact h.runFrame.bind fun _ hx => .pure hx
  | reset =>
    rw [Request.perform]
    split
    · exact .pure (h.reset ‹_›)
    · exact .pure h
  | processor r =>
    exact (Interpreter.keys_loggedPerform leaves).bind fun _ hx => .pure ⟨hx.trans h.keys, h.hears⟩
  | assign registers => exact .pure ⟨h.keys, h.hears⟩
  | keypad r => exact (h.onKeypad r).bind fun _ hx => .pure hx

theorem run (h : m.Mirrors) {requests : List Request}
    (leave : ∀ r ∈ requests, r.leavesKeys = true) :
    Logging.Gives (fun x => x.2.Mirrors) (m.run requests) := by
  induction requests generalizing m with
  | nil => exact .pure h
  | cons r requests ih =>
    rw [List.forall_mem_cons] at leave
    exact (h.perform leave.1).bind fun x hx => (ih hx leave.2).bind fun y hy => .pure hy

end Mirrors

/-! ### The keypad -/

/-- A frame does nothing to the keypad. -/
lemma keypad_runFrame : Logging.Gives (fun r => r.2.keypad = m.keypad) m.runFrame := by
  rw [Machine.runFrame]
  refine .after _ fun run => ?_
  rcases run.outcome with f | _
  · exact .pure rfl
  · exact .after _ fun _ => .after _ fun _ => .pure rfl

/-- Nothing changes the keypad but what is asked of it. -/
lemma keypad_perform {r : Request} (other : ∀ k, r ≠ .keypad k) :
    Logging.Gives (fun x => x.2.keypad = m.keypad) (r.perform m) := by
  cases r with
  | frame => exact keypad_runFrame.bind fun _ hx => .pure hx
  | reset =>
    rw [Request.perform]
    split
    · rename_i hr
      obtain ⟨i, -, rfl⟩ := reset_eq_ok_iff.1 hr
      exact .pure rfl
    · exact .pure rfl
  | processor => exact .after _ fun _ => .pure rfl
  | assign => exact .pure rfl
  | keypad k => exact absurd rfl (other k)

/-! ### Notices are key requests -/

/-- Passes on what the processor hears of the keypad by key requests, each of which may be
refused. -/
def deliverChecked (p : Interpreter) (notices : List Notice) : Except Fault Interpreter :=
  notices.foldlM
    (fun p n => if n.listener = .processor then p.setKeyAt n.key n.pressed else .ok p) p

/-- None is refused: a notice names a key. -/
lemma deliverChecked_eq (p : Interpreter) (notices : List Notice) :
    deliverChecked p notices = .ok (deliver p notices) := by
  induction notices generalizing p with
  | nil => rfl
  | cons n notices ih =>
    have hstep : (if n.listener = .processor then p.setKeyAt n.key n.pressed else .ok p) =
        .ok (if n.listener = .processor then p.setKey n.key n.pressed else p) := by
      split
      · rw [Interpreter.setKeyAt, nibble?_val]
      · rfl
    rw [deliverChecked, List.foldlM_cons, hstep]
    exact ih _

/-- **The keys of the processor are those of the keypad.** Make a machine on any keypad, whatever
keys are held and whoever listens, and do anything with it but to set keys of the processor or reset
it past the machine. Then the two rows of keys are the same. And whatever the keypad is asked next,
what it tells is passed on without a refusal. -/
theorem keys_eq_snapshot {cycles : Int} {random : Nat → UInt8}
    (made : create program cycles random pad = .ok m) (requests : List Request)
    (leave : ∀ r ∈ requests, r.leavesKeys = true) (log : Log) :
    let after := ((m.run requests).run log).1.2
    after.interpreter.keys = after.keypad.snapshot ∧
      ∀ (r : Keypad.Request) (log : Log),
        deliverChecked after.interpreter ((r.answer after.keypad).run log).1.notices =
          .ok (((Request.keypad r).perform after).run log).1.2.interpreter := by
  intro after
  refine ⟨((mirrors_of_create made).run leave log).keys, fun r log => ?_⟩
  exact deliverChecked_eq ..

/-- A machine on a keypad with a held key, which is pressed again, released and reset. -/
theorem keys_eq_snapshot_held :
    ∃ m, create [0x00, 0x00] 10 (fun _ => 0) (Keypad.standard.pressKey 5).1 = .ok m ∧
      let requests : List Request := [.keypad (.changeAt true 5), .frame, .reset,
        .keypad (.changeAt false 5), .keypad (.changeAt true 16), .keypad .releaseAll]
      (∀ r ∈ requests, r.leavesKeys = true) ∧
      let after := ((m.run requests).run {}).1.2
      after.interpreter.keys = after.keypad.snapshot ∧
        ∀ (r : Keypad.Request) (log : Log),
          deliverChecked after.interpreter ((r.answer after.keypad).run log).1.notices =
            .ok (((Request.keypad r).perform after).run log).1.2.interpreter := by
  obtain ⟨m, made⟩ : ∃ m, create [0x00, 0x00] 10 (fun _ => 0) (Keypad.standard.pressKey 5).1 =
      .ok m := exists_create (by decide) (by decide) _
  have leave : ∀ r ∈ [Request.keypad (.changeAt true 5), .frame, .reset,
      .keypad (.changeAt false 5), .keypad (.changeAt true 16), .keypad .releaseAll],
      r.leavesKeys = true := by
    simp [Request.leavesKeys]
  exact ⟨m, made, leave, keys_eq_snapshot made _ leave {}⟩

end Machine

end Chip8
