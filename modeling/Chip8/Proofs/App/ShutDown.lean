import Chip8.Proofs.App.Start
import Chip8.Proofs.App.Turns

/-!
Every way out of the event loop.

A turn ends in one of few ways (`turned_turn`), and in each of them a tone that was ever played has
the channel of the beeper. So this is how the loop leaves it (`holdsTones_loop`), and the shut-down
that comes behind the loop, however it ends, stops the tone and leaves the beeper silent and without
a channel (`isShutDown_shutDown`).
-/

namespace Chip8

/-- Whether a call opens a window like that. -/
def HostCall.opens (width height : Int) (fullscreen : Bool) : HostCall → Bool
  | openWindow w h f => w = width && h = height && f = fullscreen
  | _ => false

lemma HostCall.eq_of_opens {width height : Int} {fullscreen : Bool} {c : HostCall}
    (h : c.opens width height fullscreen = true) : c = openWindow width height fullscreen := by
  cases c <;> simp_all [opens]

namespace App

variable {app : App} {m : Machine} {batch : List Event} {r : Except AppError Unit × App}

/-- The errors that end the loop: a fault, in the words of the front end, an image that cannot be
made, and a speed that cannot be measured. -/
inductive EndsLoop : AppError → Prop
  | halted (pc : Int) (f : Fault) : EndsLoop (.halted pc f)
  | image (e : ImageError) : EndsLoop (.image e)
  | speed : EndsLoop .speedTooLarge

/-- The beeper is silent and has no channel, a tone was stopped after it was last played, and the
last call shuts the host down. -/
structure IsShutDown (app : App) : Prop where
  last : app.host.calls.getLast? = some .shutDown
  stopped : ∀ before loops after, app.host.calls = before ++ .play loops :: after →
    ∃ c ∈ after, c.isHalt = true
  silent : ∀ b, app.beeper = some b → b.playing = false ∧ b.hasChannel = false

/-! ### The loop -/

namespace Turned

lemma left (h : Turned app m batch r) :
    ∃ running shown, Proceeds app running (m.turned batch) shown r.2 := by
  cases h <;> exact ⟨_, _, ‹_›⟩

lemma endsLoop (h : Turned app m batch r) {e : AppError} (he : r.1 = .error e) : EndsLoop e := by
  cases h with
  | halted => cases he; exact .halted _ _
  | undrawn => cases he; exact .image _
  | unmeasured => cases he; exact .speed
  | shown => cases he

end Turned

/-- Whatever the loop comes to, the tone can be stopped. -/
theorem holdsTones_loop (hm : app.machine = some m) (h : m.Proper) (tones : app.HoldsTones)
    (batches : List (List Event)) :
    ((loop batches).run.run app).2.HoldsTones ∧
      ∀ e, ((loop batches).run.run app).1 = .error e → EndsLoop e := by
  induction batches generalizing app m with
  | nil =>
    have hturn := turned_turn hm h [.quit]
    obtain ⟨_, _, left⟩ := hturn.left
    exact ⟨left.tones tones, fun e he => hturn.endsLoop he⟩
  | cons batch rest ih =>
    have hturn := turned_turn hm h batch
    obtain ⟨_, _, left⟩ := hturn.left
    rw [loop, run_bind]
    rcases hrun : (turn batch).run.run app with ⟨e | _, later⟩
    · rw [hrun] at hturn left
      exact ⟨left.tones tones, fun e' he => hturn.endsLoop he⟩
    · rw [hrun] at left
      simp only [run_bind, run_get]
      split
      · exact ih left.machine (h.turned batch) (left.tones tones)
      · exact ⟨left.tones tones, nofun⟩

/-! ### The shut-down -/

/-- What is behind all that was played is behind each of it. -/
lemma exists_halt_after {old ends before after : List HostCall} {loops : Int}
    (split : old ++ ends = before ++ .play loops :: after) (silent : ∀ l, .play l ∉ ends)
    (halts : (∃ l, .play l ∈ old) → ∃ c ∈ ends, c.isHalt = true) : ∃ c ∈ after, c.isHalt = true := by
  rcases List.append_eq_append_iff.1 split with ⟨between, -, rfl⟩ | ⟨between, rfl, hafter⟩
  · exact absurd (List.mem_append_right _ List.mem_cons_self) (silent loops)
  · cases between with
    | nil =>
      rw [List.nil_append] at hafter
      exact absurd (hafter ▸ List.mem_cons_self) (silent loops)
    | cons c between =>
      obtain ⟨rfl, rfl⟩ := List.cons.inj hafter
      obtain ⟨c, hc, hhalt⟩ := halts ⟨loops, List.mem_append_right _ List.mem_cons_self⟩
      exact ⟨c, List.mem_append_right _ hc, hhalt⟩

/-- With a channel, the calls of the shut-down stop the tone. -/
lemma run_shutDown (app : App) : ∃ ends,
    (shutDown.run app).2.host.calls = app.host.calls ++ (ends ++ [.shutDown]) ∧
    (∀ c ∈ ends, c.isFrame = false ∧ c.isPlay = false) ∧
    ((∃ b, app.beeper = some b ∧ b.hasChannel = true) → ∃ c ∈ ends, c.isHalt = true) ∧
    ∀ b, (shutDown.run app).2.beeper = some b → b.playing = false ∧ b.hasChannel = false := by
  rcases app with ⟨config, running, machine, _ | b, timing, timedFrames, host, log⟩
  · refine ⟨[], List.reverse_cons, List.forall_mem_nil _, ?_, ?_⟩
    · rintro ⟨_, ⟨⟩, _⟩
    · rintro _ ⟨⟩
  have hleft : (shutDown.run ⟨config, running, machine, some b, timing, timedFrames, host, log⟩).2 =
      ⟨config, running, machine, some (b.shutDown.run host).1, timing, timedFrames,
        { (b.shutDown.run host).2 with newest := .shutDown :: (b.shutDown.run host).2.newest }, log⟩ :=
    rfl
  rw [hleft, b.run_shutDown, b.run_stop]
  by_cases hb : b.hasChannel = true
  · rw [if_pos hb]
    have hhalt := b.isHalt_halt host.clock.next.1
    refine ⟨[.readClock host.clock.next.1, b.halt host.clock.next.1], ?_, ?_,
      fun _ => ⟨_, ?_, hhalt⟩, ?_⟩
    · simp [Host.calls]
    · rw [List.forall_mem_cons, List.forall_mem_singleton]
      exact ⟨⟨rfl, rfl⟩, HostCall.not_isFrame_of_isHalt hhalt, HostCall.not_isPlay_of_isHalt hhalt⟩
    · exact List.mem_cons_of_mem _ List.mem_cons_self
    · rintro _ ⟨⟩
      exact ⟨rfl, rfl⟩
  · rw [if_neg hb]
    refine ⟨[], List.reverse_cons, List.forall_mem_nil _, ?_, ?_⟩
    · rintro ⟨_, ⟨⟩, hchannel⟩
      exact absurd hchannel hb
    · rintro _ ⟨⟩
      exact ⟨rfl, rfl⟩

/-- The shut-down has nothing to do with frames. -/
lemma shown_shutDown (app : App) : (shutDown.run app).2.host.shown = app.host.shown := by
  obtain ⟨ends, hcalls, hsilent, -⟩ := run_shutDown app
  have hnone : (ends ++ [HostCall.shutDown]).filter (·.isFrame) = [] := by
    rw [List.filter_eq_nil_iff, List.forall_mem_append, List.forall_mem_singleton]
    exact ⟨fun c hc => by rw [(hsilent c hc).1]; exact Bool.false_ne_true, nofun⟩
  rw [Host.shown, hcalls, List.filter_append, hnone, List.append_nil, Host.shown]

theorem isShutDown_shutDown (tones : app.HoldsTones) : IsShutDown (shutDown.run app).2 := by
  obtain ⟨ends, hcalls, hsilent, hhalts, hbeeper⟩ := run_shutDown app
  refine ⟨?_, fun before loops after hsplit => ?_, hbeeper⟩
  · rw [hcalls, ← List.append_assoc]
    exact List.getLast?_concat
  · rw [hcalls] at hsplit
    refine exists_halt_after hsplit (fun l hl => ?_) ?_
    · obtain hl | hl := List.mem_append.1 hl
      · cases (hsilent _ hl).2
      · cases List.mem_singleton.1 hl
    · rintro ⟨l, hl⟩
      obtain ⟨c, hc, hhalt⟩ := hhalts (tones ⟨l, List.mem_reverse.1 hl⟩)
      exact ⟨c, List.mem_append_left _ hc, hhalt⟩

/-! ### Runs -/

/-- Nothing is played before the window is opened. -/
lemma Prepares.holdsTones {machine : Option Machine} {later : App} (h : Prepares app machine later)
    (silent : app.host.newest = []) : later.opened.HoldsTones := by
  rintro ⟨loops, hplay⟩
  obtain hplay | hplay := List.mem_cons.1 hplay
  · cases hplay
  · obtain hold | setUp := h.host.calls _ hplay
    · rw [silent] at hold
      cases hold
    · cases setUp

/-- **The front end is shut down on every way out of the loop.** Take any settings, program image,
events and answers of the host. If a run gets as far as the window, then the last call shuts the
host down, a tone that was played was stopped before, and the beeper ends silent and without a
channel. No fault of the processor or its memory leaves the run but in the words of the front
end. -/
theorem shuts_down_after_loop {files : FileSystem} {config : AppConfig} {host : Host} {log : Log}
    {width height : Int} {fullscreen : Bool}
    (entered : .openWindow width height fullscreen ∈
      ((run files).run.run (create config host.cleared log)).2.host.calls) :
    let r := (run files).run.run (create config host.cleared log)
    IsShutDown r.2 ∧ (∀ f, r.1 ≠ .error (.fault f)) ∧ ∀ e, r.1 = .error e → EndsLoop e := by
  intro r
  have hends : IsShutDown r.2 ∧ ∀ e, r.1 = .error e → EndsLoop e := by
    obtain ⟨o, later, machine, hrun, hlater, -, hmachine, -⟩ :=
      run_prepare files (create config host.cleared log)
    have hr : r = (prepare files >>= fun _ => openAndLoop).run.run (create config host.cleared log) := rfl
    rw [run_bind, hrun] at hr
    rcases o with e | _
    · -- nothing but set-up was asked of the host, so there is no window
      change _ ∈ r.2.host.calls at entered
      rw [hr] at entered
      obtain hold | setUp := hlater.host.calls _ (List.mem_reverse.1 entered)
      · cases hold
      · cases setUp
    · obtain ⟨m, hm, hproper⟩ := hmachine rfl
      have hopened : later.opened.machine = some m := hlater.machine.trans hm
      obtain ⟨tones, ends⟩ :=
        holdsTones_loop hopened hproper (hlater.holdsTones rfl) later.host.events
      rw [hr]
      dsimp only
      rw [run_openAndLoop]
      exact ⟨isShutDown_shutDown tones, ends⟩
  refine ⟨hends.1, fun f hf => ?_, hends.2⟩
  cases hends.2 _ hf

/-- A program that faults in its second frame, while its tone is played. -/
theorem shuts_down_after_loop_tone :
    let files : FileSystem := ⟨fun _ => .file [0x60, 0x0A, 0xF0, 0x18, 0x00, 0xEE]⟩
    let config : AppConfig := { romPath := some ⟨[], ["tone"]⟩, scale := 2, speed := 120 }
    let host : Host := { events := [[.keyDown "5"], [.keyUp "5"], [.quit]] }
    .openWindow 128 64 false ∈ ((run files).run.run (create config host.cleared {})).2.host.calls ∧
      ((run files).run.run (create config host.cleared {})).2.host.Plays ∧
      ((run files).run.run (create config host.cleared {})).1 =
        .error (.halted 0x204 (.stackUnderflow 0x204)) ∧
      let r := (run files).run.run (create config host.cleared {})
      IsShutDown r.2 ∧ (∀ f, r.1 ≠ .error (.fault f)) ∧ ∀ e, r.1 = .error e → EndsLoop e := by
  intro files config host
  have trace :
      (((run files).run.run (create config host.cleared {})).2.host.calls.any
        (·.opens 128 64 false)) = true ∧
      ((run files).run.run (create config host.cleared {})).2.host.Plays ∧
      ((run files).run.run (create config host.cleared {})).1 =
        .error (.halted 0x204 (.stackUnderflow 0x204)) := by
    decide +kernel
  obtain ⟨opens, plays, fault⟩ := trace
  obtain ⟨c, entered, hc⟩ := List.any_eq_true.1 opens
  rw [HostCall.eq_of_opens hc] at entered
  exact ⟨entered, plays, fault, shuts_down_after_loop entered⟩

end App

end Chip8
