import Chip8.Proofs.App.Moves
import Chip8.Proofs.Audio.Protocol
import Chip8.Proofs.Machine.Frames

/-!
The tone and the sound timer.

The timer belongs to the processor and the tone to the beeper, and of the moves of the front end
only two touch both: an update lets the tone follow the timer, as far as the mixer gives a channel
for it, and a reset silences both. Keys and frames leave the beeper as it is, whether a frame is
completed or not. So what an update and a reset do at any time is all that there is to the tone
(`tone_follows_timer`).
-/

namespace Chip8

namespace Beeper

variable {b : Beeper} {h : Host} {active : Bool}

/-- A new tone gets no channel. -/
def Refused (b : Beeper) (h : Host) : Prop :=
  b.playing = false ∧ b.hasChannel = false ∧ h.channels.next.1 = false

/-- The beeper is switched as it was asked, unless it is refused a channel. -/
lemma playing_setActive : ((b.setActive active).run h).1.playing = true ↔
    active = true ∧ ¬b.Refused h := by
  rw [run_setActive]
  split_ifs with hsame hoff hchannel hfound
  · subst hsame
    exact ⟨fun hplaying => ⟨hplaying, fun ⟨silent, _⟩ => Bool.eq_false_iff.1 silent hplaying⟩,
      And.left⟩
  · rw [run_stop, hoff]
    exact iff_of_false Bool.false_ne_true fun h => Bool.false_ne_true h.1
  · exact iff_of_true rfl ⟨Bool.eq_true_of_not_eq_false hoff,
      fun ⟨_, without, _⟩ => Bool.eq_false_iff.1 without hchannel⟩
  · exact iff_of_true rfl ⟨Bool.eq_true_of_not_eq_false hoff,
      fun ⟨_, _, refused⟩ => Bool.eq_false_iff.1 refused hfound⟩
  · have silent : b.playing = false := by
      rw [Bool.eq_true_of_not_eq_false hoff] at hsame
      exact Bool.eq_false_iff.2 (Ne.symm hsame)
    exact iff_of_false (Bool.eq_false_iff.1 silent) fun h =>
      h.2 ⟨silent, Bool.eq_false_iff.2 hchannel, Bool.eq_false_iff.2 hfound⟩

/-- Without a channel a silent beeper asks for one first. -/
lemma asks_setActive (silent : b.playing = false) (without : b.hasChannel = false) :
    ∃ rest, ((b.setActive true).run h).2.calls =
      h.calls ++ .findChannel h.channels.next.1 :: rest := by
  simp only [run_setActive, silent, without, Bool.true_eq_false, Bool.false_eq_true, if_false]
  split
  · refine ⟨[.play (-1), .setVolume b.volume, .readClock h.clock.next.1], Host.calls_of_newest ?_⟩
    rw [newest_start, Host.newest_findChannel rfl]
    rfl
  · exact ⟨[], Host.calls_of_newest (Host.newest_findChannel rfl)⟩

/-- A refused beeper stays as it is. -/
lemma setActive_of_refused (refused : b.Refused h) (active : Bool) :
    ((b.setActive active).run h).1 = b := by
  obtain ⟨silent, without, hnone⟩ := refused
  rw [run_setActive]
  split_ifs with hsame hoff hchannel hfound
  · rfl
  · exact absurd (hoff.trans silent.symm) hsame
  · exact absurd hchannel (Bool.eq_false_iff.1 without)
  · exact absurd hfound (Bool.eq_false_iff.1 hnone)
  · rfl

end Beeper

namespace App

variable {app : App} {m : Machine} {b : Beeper}

/-! ### What moves do to the beeper -/

/-- The front end has a machine that can be reset, and a beeper. -/
structure Equipped (app : App) (m : Machine) (b : Beeper) : Prop where
  machine : app.machine = some m
  beeper : app.beeper = some b
  fits : m.program.length ≤ maxProgramSize

/-- What a move switches the beeper to, if it does. -/
def Move.switches (m : Machine) : Move → Option Bool
  | .key .. | .frame => none
  | .reset => some false
  | .tone => some m.interpreter.soundActive

namespace Equipped

/-- An update switches the beeper to what the timer shows. -/
lemma run_updateAudio (h : app.Equipped m b) : ∃ log, updateAudio.run.run app = (.ok (),
    let r := (b.setActive m.interpreter.soundActive).run app.host
    { app with beeper := some r.1, host := r.2, log }) := by
  obtain ⟨log, hrun⟩ := App.run_updateAudio h.machine
  rw [h.beeper] at hrun
  exact ⟨log, hrun.trans (run_setTone _ b _)⟩

/-- A reset zeroes the timer and switches the beeper off. -/
lemma run_resetMachine (h : app.Equipped m b) : ∃ log after,
    after.interpreter.registers.sound = 0 ∧ after.program = m.program ∧
    resetMachine.run.run app = (.ok (),
      let r := (b.setActive false).run app.host
      { app with machine := some after, beeper := some r.1, host := r.2, log }) := by
  obtain ⟨i, hi⟩ := Machine.exists_powerOn m.interpreter.reset m.keypad h.fits
  have hreset : m.reset = .ok { m with interpreter := i, frames := 0 } :=
    Machine.reset_eq_ok_iff.2 ⟨i, hi, rfl⟩
  have hsound : i.registers.sound = 0 := by rw [Machine.registers_of_powerOn hi]; rfl
  obtain ⟨log, hrun⟩ := App.run_resetMachine h.machine
  rw [hreset, h.beeper] at hrun
  exact ⟨log, { m with interpreter := i, frames := 0 }, hsound, rfl, hrun.trans (run_setTone _ b _)⟩

lemma beeper_perform (h : app.Equipped m b) (move : Move) :
    (move.perform.run.run app).2.beeper = some (match move.switches m with
      | none => b
      | some active => ((b.setActive active).run app.host).1) := by
  cases move with
  | key name pressed =>
    rw [Move.perform, run_bind]
    rcases hname : canonicalName name with _ | key
    · obtain ⟨log, hrun⟩ := run_handleKey_of_unnamed h.machine hname pressed
      rw [hrun]
      exact h.beeper
    · obtain ⟨log, hrun⟩ := run_handleKey_of_named h.machine hname pressed
      rw [hrun]
      exact h.beeper
  | frame =>
    rw [Move.perform, run_stepMachine h.machine]
    split
    · exact h.beeper
    · split <;> exact h.beeper
  | reset =>
    obtain ⟨log, after, -, -, hrun⟩ := h.run_resetMachine
    rw [Move.perform, hrun]
    rfl
  | tone =>
    obtain ⟨log, hrun⟩ := h.run_updateAudio
    rw [Move.perform, hrun]
    rfl

/-- A front end stays equipped. -/
lemma perform (h : app.Equipped m b) (move : Move) :
    ∃ m' b', (move.perform.run.run app).2.Equipped m' b' := by
  obtain ⟨log, hmachine⟩ := machine_perform h.machine move
  rcases hrequest : move.request with _ | r <;> rw [hrequest] at hmachine
  · exact ⟨m, _, hmachine, h.beeper_perform move, h.fits⟩
  · refine ⟨_, _, hmachine, h.beeper_perform move, ?_⟩
    rw [(Machine.kept_perform m r log).program]
    exact h.fits

lemma after (h : app.Equipped m b) (moves : List Move) :
    ∃ m' b', (app.after moves).Equipped m' b' := by
  induction moves generalizing app m b with
  | nil => exact ⟨m, b, h⟩
  | cons move moves ih =>
    obtain ⟨m', b', h'⟩ := h.perform move
    exact ih h'

/-- A beeper that is silent stays as it is until the next update. -/
lemma beeper_after (h : app.Equipped m b) (silent : b.playing = false) {moves : List Move}
    (noTone : .tone ∉ moves) : (app.after moves).beeper = some b := by
  induction moves generalizing app m with
  | nil => exact h.beeper
  | cons move moves ih =>
    rw [List.mem_cons, not_or] at noTone
    have hsame : (move.perform.run.run app).2.beeper = some b := by
      rw [h.beeper_perform]
      cases move with
      | key | frame => rfl
      | reset => exact congrArg (fun r => some r.1) (Beeper.setActive_of_same silent.symm)
      | tone => exact absurd rfl noTone.1
    obtain ⟨m', b', h'⟩ := h.perform move
    obtain rfl := Option.some.inj (h'.beeper.symm.trans hsame)
    exact ih h' noTone.2

end Equipped

/-! ### The tone -/

/-- What the tone has to do with the sound timer, for a front end with a machine and a beeper. -/
structure ToneFollows (app : App) (m : Machine) (b : Beeper) : Prop where
  /-- After an update the beeper is playing if the timer has not run out, unless there was no
  channel for a new tone. -/
  updated : ∃ later b', updateAudio.run.run app = (.ok (), later) ∧ later.machine = some m ∧
    later.beeper = some b' ∧
    (b'.playing = true ↔ 0 < m.interpreter.registers.sound ∧ ¬b.Refused app.host)
  /-- After a reset the timer has run out and the beeper is silent. -/
  reset : ∃ later m' b', resetMachine.run.run app = (.ok (), later) ∧ later.machine = some m' ∧
    m'.interpreter.registers.sound = 0 ∧ later.beeper = some b' ∧ b'.playing = false
  /-- Nothing else changes the beeper, whether it succeeds or fails. -/
  others : ∀ move : Move, move ≠ .reset → move ≠ .tone →
    (move.perform.run.run app).2.beeper = some b
  /-- After an update without a channel the next one asks again, if the timer has not run out. -/
  again : 0 < m.interpreter.registers.sound → b.Refused app.host → ∀ moves, .tone ∉ moves →
    let next := app.after (.tone :: moves)
    ∀ m', next.machine = some m' → 0 < m'.interpreter.registers.sound → ∃ rest,
      (updateAudio.run.run next).2.host.calls =
        next.host.calls ++ .findChannel next.host.channels.next.1 :: rest

namespace Equipped

lemma updates (h : app.Equipped m b) : ∃ later b', updateAudio.run.run app = (.ok (), later) ∧
    later.machine = some m ∧ later.beeper = some b' ∧
    (b'.playing = true ↔ 0 < m.interpreter.registers.sound ∧ ¬b.Refused app.host) := by
  obtain ⟨log, hrun⟩ := h.run_updateAudio
  refine ⟨_, _, hrun, h.machine, rfl, ?_⟩
  rw [Beeper.playing_setActive, Interpreter.soundActive, decide_eq_true_iff]

lemma silences (h : app.Equipped m b) : ∃ later m' b', resetMachine.run.run app = (.ok (), later) ∧
    later.machine = some m' ∧ m'.interpreter.registers.sound = 0 ∧ later.beeper = some b' ∧
    b'.playing = false := by
  obtain ⟨log, after, hsound, -, hrun⟩ := h.run_resetMachine
  refine ⟨_, after, _, hrun, rfl, hsound, rfl, Bool.eq_false_iff.2 fun hplaying => ?_⟩
  exact Bool.false_ne_true (Beeper.playing_setActive.1 hplaying).1

lemma asks_again (h : app.Equipped m b) (silent : b.playing = false)
    (without : b.hasChannel = false) (due : 0 < m.interpreter.registers.sound) : ∃ rest,
    (updateAudio.run.run app).2.host.calls =
      app.host.calls ++ .findChannel app.host.channels.next.1 :: rest := by
  obtain ⟨log, hrun⟩ := h.run_updateAudio
  have hactive : m.interpreter.soundActive = true := decide_eq_true due
  rw [hrun, hactive]
  exact Beeper.asks_setActive silent without

/-- Once refused, the beeper is as silent and without a channel at the next update. -/
lemma after_refused (h : app.Equipped m b) (refused : b.Refused app.host) {moves : List Move}
    (noTone : .tone ∉ moves) : ∃ m', (app.after (.tone :: moves)).Equipped m' b := by
  have htone := h.beeper_perform .tone
  dsimp only [Move.switches] at htone
  rw [Beeper.setActive_of_refused refused] at htone
  obtain ⟨m₁, b₁, h₁⟩ := h.perform .tone
  obtain rfl := Option.some.inj (h₁.beeper.symm.trans htone)
  obtain ⟨m₂, b₂, h₂⟩ := h₁.after moves
  obtain rfl := Option.some.inj (h₂.beeper.symm.trans (h₁.beeper_after refused.1 noTone))
  exact ⟨m₂, h₂⟩

lemma toneFollows (h : app.Equipped m b) : ToneFollows app m b where
  updated := h.updates
  reset := h.silences
  others move hreset htone := by
    rw [h.beeper_perform]
    cases move with
    | key | frame => rfl
    | reset => exact absurd rfl hreset
    | tone => exact absurd rfl htone
  again _ refused moves noTone m' hm due := by
    obtain ⟨m₁, h₁⟩ := h.after_refused refused noTone
    obtain rfl := Option.some.inj (h₁.machine.symm.trans hm)
    exact h₁.asks_again refused.1 refused.2.1 due

end Equipped

/-- **The tone follows the sound timer.** Take a front end with a machine, whatever was done with
it before, and any beeper, on any host. After any moves an update makes the beeper play just if the
timer has not run out and no channel is refused, a reset silences timer and beeper, and nothing else
switches the tone. -/
theorem tone_follows_timer {program : List UInt8} {cycles : Int} {random : Nat → UInt8}
    {pad : Keypad} (made : Machine.create program cycles random pad = .ok m)
    (requests : List Machine.Request) (log : Log)
    (hm : app.machine = some ((m.run requests).run log).1.2) (hb : app.beeper = some b)
    (moves : List Move) : ∃ m' b', (app.after moves).machine = some m' ∧
      (app.after moves).beeper = some b' ∧ ToneFollows (app.after moves) m' b' := by
  have fits : ((m.run requests).run log).1.2.program.length ≤ maxProgramSize := by
    rw [(Machine.kept_run m requests log).program]
    exact (Machine.proper_of_create made).fits
  have start : app.Equipped ((m.run requests).run log).1.2 b := ⟨hm, hb, fits⟩
  obtain ⟨m', b', h⟩ := start.after moves
  exact ⟨m', b', h.machine, h.beeper, h.toneFollows⟩

/-- A program sets its timer to five. The tone is refused a channel after the first frame, and is
played after the second. -/
theorem tone_follows_timer_refused :
    let program : List UInt8 := [0x60, 0x05, 0xF0, 0x18, 0x12, 0x04]
    let front (m : Machine) : App := { create {} { channels := ⟨[false, true], true⟩ } {} with
      machine := some m, beeper := some { volume := 0.25, leastMilliseconds := 35 } }
    let moves : List Move := [.frame, .tone, .key "1" true, .frame]
    ∃ m, Machine.create program 10 (fun _ => 0) Keypad.standard = .ok m ∧
      ((front m).after moves).machine.map (·.interpreter.registers.sound) = some 3 ∧
      ((front m).after moves).beeper.map (·.playing) = some false ∧
      ((front m).after (moves ++ [.tone])).beeper.map (·.playing) = some true ∧
      ∃ m' b', ((front m).after moves).machine = some m' ∧
        ((front m).after moves).beeper = some b' ∧ ToneFollows ((front m).after moves) m' b' := by
  intro program front moves
  obtain ⟨m, made⟩ : ∃ m, Machine.create program 10 (fun _ => 0) Keypad.standard = .ok m :=
    Machine.exists_create (by decide) (by decide) _
  have shows : ((Machine.create program 10 (fun _ => 0) Keypad.standard).toOption.any fun m =>
      decide (((front m).after moves).machine.map (·.interpreter.registers.sound) = some 3 ∧
        ((front m).after moves).beeper.map (·.playing) = some false ∧
        ((front m).after (moves ++ [.tone])).beeper.map (·.playing) = some true)) = true := by
    decide +kernel
  rw [made] at shows
  obtain ⟨timer, silent, playing⟩ := of_decide_eq_true shows
  exact ⟨m, made, timer, silent, playing, tone_follows_timer made [] {} rfl rfl moves⟩

end App

end Chip8
