import Chip8.App.Run
import Chip8.Proofs.App.Events
import Chip8.Proofs.Audio.Tones

/-!
Turns of the event loop.

The parts of a turn are each described by what they leave: a machine, whether the loop goes on, and
what was shown (`Proceeds`); all else that they change is the log, the tone and the answers that the
host has left. Put together this gives the ways in which a turn can end (`turned_turn`).
-/

namespace Chip8

/-- The image of a screen, in the colours and at the scale of the settings, if there is room. -/
def AppConfig.picture (config : AppConfig) (room : Number.Room) (m : Machine) :
    Except ImageError Image :=
  ({ palette := config.palette } : Renderer).render room m.interpreter.screen.toArray config.scale

namespace App

variable {app later : App} {m : Machine}

/-! ### What the parts of a turn leave -/

/-- If a tone was ever played, the beeper has a channel. -/
def HoldsTones (app : App) : Prop := app.host.Plays → ∃ b, app.beeper = some b ∧ b.hasChannel = true

/-- The front end proceeds: it goes on running or not, has a machine, and made some calls for
frames. -/
structure Proceeds (app : App) (running : Bool) (m : Machine) (shown : List HostCall)
    (later : App) : Prop where
  config : later.config = app.config
  room : later.host.room = app.host.room
  timing : later.timing = app.timing
  running : later.running = running
  machine : later.machine = some m
  shown : later.host.shown = app.host.shown ++ shown
  tones : app.HoldsTones → later.HoldsTones

namespace Proceeds

lemma trans {running running' : Bool} {m m' : Machine} {shown shown' : List HostCall} {last : App}
    (h : Proceeds app running m shown later) (h' : Proceeds later running' m' shown' last) :
    Proceeds app running' m' (shown ++ shown') last where
  config := h'.config.trans h.config
  room := h'.room.trans h.room
  timing := h'.timing.trans h.timing
  running := h'.running
  machine := h'.machine
  shown := by rw [h'.shown, h.shown, List.append_assoc]
  tones := h'.tones ∘ h.tones

/-- What comes next does not end the loop. -/
lemma next {running : Bool} {m m' : Machine} {shown shown' : List HostCall} {last : App}
    (h : Proceeds app running m shown later) (h' : Proceeds later later.running m' shown' last) :
    Proceeds app running m' (shown ++ shown') last :=
  h.trans (h.running ▸ h')

lemma of_same {running : Bool} {machine : Option Machine} {timedFrames : Nat} {host : Host}
    {log : Log} (hm : machine = some m) (calls : host.newest = app.host.newest)
    (room : host.room = app.host.room := by rfl) :
    Proceeds app running m [] { app with running, machine, timedFrames, host, log } where
  config := rfl
  room := room
  timing := rfl
  running := rfl
  machine := hm
  shown := Host.shown_of_newest [] calls
  tones holds hplays := holds (by rwa [Host.Plays, calls] at hplays)

end Proceeds

lemma run_record (hm : app.machine = some m) (call : HostCall) (frame : call.isFrame = true) :
    ∃ later, (onHost (Host.record call)).run.run app = (.ok (), later) ∧
      Proceeds app app.running m [call] later := by
  refine ⟨_, rfl, rfl, rfl, rfl, rfl, hm, ?_, fun tones => ?_⟩
  · rw [Host.shown_of_newest [call] rfl, List.reverse_singleton, List.filter_singleton,
      frame]
    rfl
  · rintro ⟨loops, hplay⟩
    obtain rfl | hplay := List.mem_cons.1 hplay
    · cases frame
    · exact tones ⟨loops, hplay⟩

lemma run_readStopwatch (hm : app.machine = some m) :
    ∃ now later, (onHost Host.readStopwatch).run.run app = (.ok now, later) ∧
      Proceeds app app.running m [] later :=
  ⟨_, _, rfl, .of_same hm rfl⟩

/-- The tone is switched on the channel of the beeper. -/
lemma run_switchTone (hm : app.machine = some m) {b : Beeper} (hb : app.beeper = some b)
    (active : Bool) : ∃ later, (setTone b active).run.run app = (.ok (), later) ∧
      Proceeds app app.running m [] later := by
  obtain ⟨added, holds⟩ := b.holds_setActive active app.host
  rw [run_setTone]
  refine ⟨_, rfl, rfl, b.room_setActive active app.host, rfl, rfl, hm, ?_, fun tones hplays => ?_⟩
  · exact holds.shown.trans (List.append_nil _).symm
  · refine ⟨_, rfl, holds.plays (fun hp => ?_) hplays⟩
    obtain ⟨b', hb', hchannel⟩ := tones hp
    rw [hb] at hb'
    cases hb'
    exact hchannel

lemma run_tone (hm : app.machine = some m) (active : Bool) :
    ∃ later, (match app.beeper with
      | none => (.ok (), app)
      | some b => (setTone b active).run.run app) = (.ok (), later) ∧
        Proceeds app app.running m [] later := by
  rcases hb : app.beeper with _ | b
  · exact ⟨app, rfl, .of_same hm rfl⟩
  · exact run_switchTone hm hb active

/-! ### Events -/

lemma run_key (hm : app.machine = some m) (name : Text) (pressed : Bool) :
    ∃ later, (Move.key name pressed).perform.run.run app = (.ok (), later) ∧
      Proceeds app app.running (m.moved (.key name pressed)) [] later := by
  rw [Move.perform, run_bind, Machine.moved, Move.request]
  rcases hname : canonicalName name with _ | key
  · obtain ⟨log, hrun⟩ := run_handleKey_of_unnamed hm hname pressed
    rw [hrun]
    exact ⟨_, rfl, .of_same hm rfl⟩
  · obtain ⟨log, hrun⟩ := run_handleKey_of_named hm hname pressed
    rw [hrun]
    have hsteady := m.steady_perform (.keypad (.change pressed key)) log
    exact ⟨_, rfl, .of_same (congrArg (fun x => some x.2) hsteady) rfl⟩

/-- A machine that is proper can be reset, and the tone goes off. -/
lemma run_reset (hm : app.machine = some m) (h : m.Proper) :
    ∃ later, Move.reset.perform.run.run app = (.ok (), later) ∧
      Proceeds app app.running (m.moved .reset) [] later := by
  obtain ⟨log, hrun⟩ := run_resetMachine hm
  have hreset : Proceeds app app.running (m.moved .reset) []
      { app with machine := some (m.moved .reset), log } := .of_same rfl rfl
  obtain ⟨later, htone, hlater⟩ := run_tone hreset.machine false
  rw [Move.perform, hrun, h.reset_eq_moved]
  exact ⟨later, htone, hreset.next hlater⟩

lemma handleEvent_eq (e : Event) : handleEvent e = match e.move with
    | some move => move.perform
    | none => if e.isQuit then modify fun app => { app with running := false } else pure () := by
  cases e with
  | quit | keyUp | other => rfl
  | keyDown name =>
    rw [handleEvent, Event.move]
    by_cases hescape : name = "escape"
    · simp only [hescape, if_true, Event.isQuit, decide_true]
    · rw [if_neg hescape, if_neg hescape]
      split <;> rfl

/-- An event is handled without an error. -/
lemma run_handleEvent (hm : app.machine = some m) (h : m.Proper) (e : Event) :
    ∃ later, (handleEvent e).run.run app = (.ok (), later) ∧
      Proceeds app (app.running && !e.isQuit) (m.hear e) [] later := by
  have means := e.means_move
  rw [handleEvent_eq, Machine.hear]
  generalize e.move = move at means ⊢
  cases means with
  | nothing =>
    by_cases hquit : e.isQuit = true
    · simp only [hquit, if_true, Bool.not_true, Bool.and_false]
      exact ⟨_, rfl, .of_same hm rfl⟩
    · simp only [hquit, Bool.not_false, Bool.and_true]
      exact ⟨app, rfl, .of_same hm rfl⟩
  | reset _ goesOn =>
    rw [goesOn, Bool.not_false, Bool.and_true]
    exact run_reset hm h
  | key _ goesOn =>
    rw [goesOn, Bool.not_false, Bool.and_true]
    exact run_key hm _ _

lemma run_batch (hm : app.machine = some m) (h : m.Proper) (batch : List Event) :
    ∃ later, (batch.forM handleEvent).run.run app = (.ok (), later) ∧
      Proceeds app (app.running && !batch.any Event.isQuit) (m.heard batch) [] later := by
  induction batch generalizing app m with
  | nil =>
    rw [List.any_nil, Bool.not_false, Bool.and_true]
    exact ⟨app, rfl, .of_same hm rfl⟩
  | cons e batch ih =>
    -- a quit event stops the loop, not the batch: what comes behind it is still handled
    obtain ⟨mid, he, hmid⟩ := run_handleEvent hm h e
    obtain ⟨later, hbatch, hlater⟩ := ih hmid.machine (h.hear e)
    refine ⟨later, ?_, ?_⟩
    · change (handleEvent e >>= fun _ => batch.forM handleEvent).run.run app = _
      rw [run_bind, he]
      exact hbatch
    · rw [hmid.running, Bool.and_assoc, ← Bool.not_or, ← List.any_cons] at hlater
      exact hmid.trans hlater

/-! ### Frames, the tone and the screen -/

/-- A frame that completes is one step of the machine. -/
lemma run_stepMachine_of_completes (hm : app.machine = some m) (completes : m.Completes) :
    stepMachine.run.run app = (.ok (),
      { app with machine := some m.afterFrame, log := (m.runFrame.run app.log).2 }) := by
  have hframe : (m.runFrame.run app.log).1 = (.ok (), m.afterFrame) :=
    (m.steady_runFrame app.log).trans (Prod.ext completes rfl)
  rw [run_stepMachine hm, hframe]

lemma run_step_of_completes (hm : app.machine = some m) (completes : m.Completes) :
    ∃ later, stepMachine.run.run app = (.ok (), later) ∧
      Proceeds app app.running m.afterFrame [] later :=
  ⟨_, run_stepMachine_of_completes hm completes, .of_same rfl rfl⟩

/-- A fault is reported, and the machine stays as it is then. -/
lemma run_step_of_fault (hm : app.machine = some m) (h : m.Proper) {f : Fault}
    (fault : (Logging.result m.runFrame).1 = .error f) :
    ∃ later, stepMachine.run.run app =
        (.error (.halted m.afterFrame.interpreter.registers.pc f), later) ∧
      Proceeds app false m.afterFrame [] later := by
  have hframe : (m.runFrame.run app.log).1 = (.error f, m.afterFrame) :=
    (m.steady_runFrame app.log).trans (Prod.ext fault rfl)
  have reported : f.isReported = true := h.runFrame.result.2 f fault
  rw [run_stepMachine hm, hframe]
  simp only [reported, if_true]
  exact ⟨_, rfl, .of_same rfl rfl⟩

lemma run_updateTone (hm : app.machine = some m) :
    ∃ later, updateAudio.run.run app = (.ok (), later) ∧ Proceeds app app.running m [] later := by
  obtain ⟨log, hrun⟩ := run_updateAudio hm
  have hlog : Proceeds app app.running m [] { app with log } := .of_same hm rfl
  obtain ⟨later, htone, hlater⟩ := run_tone hlog.machine m.interpreter.soundActive
  exact ⟨later, hrun.trans htone, hlog.next hlater⟩

lemma run_drawScreen_of_error (hm : app.machine = some m) {e : ImageError}
    (refused : app.config.picture app.host.room m = .error e) :
    drawScreen.run.run app = (.error (.image e), app) := by
  rw [AppConfig.picture] at refused
  simp only [drawScreen, run_bind, run_get, hm, Option.map_some, Option.getD_some, run_orThrow,
    refused, Except.mapError]

/-- A picture is drawn and shown. -/
lemma run_drawScreen_of_picture (hm : app.machine = some m) {image : Image}
    (drawn : app.config.picture app.host.room m = .ok image) :
    drawScreen.run.run app = (do
      onHost (Host.record (.draw image))
      onHost (Host.record .present) : AppM Unit).run.run app := by
  rw [AppConfig.picture] at drawn
  simp only [drawScreen, run_bind, run_get, hm, Option.map_some, Option.getD_some, run_orThrow,
    drawn, Except.mapError]

lemma run_drawScreen_of_ok (hm : app.machine = some m) {image : Image}
    (drawn : app.config.picture app.host.room m = .ok image) :
    ∃ later, drawScreen.run.run app = (.ok (), later) ∧
      Proceeds app app.running m [.draw image, .present] later := by
  obtain ⟨mid, hdraw, hmid⟩ := run_record hm (.draw image) rfl
  obtain ⟨later, hpresent, hlater⟩ := run_record hmid.machine .present rfl
  refine ⟨later, ?_, hmid.next hlater⟩
  rw [run_drawScreen_of_picture hm drawn, run_bind, hdraw]
  exact hpresent

/-- A report counts the frame, and fails only over a speed beyond the range of floating point. -/
lemma run_reportTiming (app : App) (seconds : Float) : ∃ timedFrames log,
    (reportTiming seconds).run.run app =
      (if seconds ≤ 0.0 ∨ Number.fitsFloat app.config.cyclesPerFrame = true then .ok ()
        else .error .speedTooLarge, { app with timedFrames, log }) := by
  rw [reportTiming, run_bind, run_modify]
  dsimp only
  by_cases hnone : seconds ≤ 0.0
  · simp only [hnone, decide_true, Bool.not_true, Bool.false_eq_true, if_false, true_or, if_true]
    exact ⟨_, _, rfl⟩
  · simp only [hnone, decide_false, Bool.not_false, if_true, run_bind, run_get, false_or]
    rcases hfits : Number.fitsFloat app.config.cyclesPerFrame with _ | _ <;> exact ⟨_, _, rfl⟩

lemma run_report (hm : app.machine = some m) (seconds : Float) :
    ∃ later, Proceeds app app.running m [] later ∧
      ((reportTiming seconds).run.run app = (.ok (), later) ∨
        Number.fitsFloat app.config.cyclesPerFrame = false ∧
          (reportTiming seconds).run.run app = (.error .speedTooLarge, later)) := by
  obtain ⟨timedFrames, log, hrun⟩ := run_reportTiming app seconds
  refine ⟨{ app with timedFrames, log }, .of_same hm rfl, ?_⟩
  rw [hrun]
  split_ifs with h
  · exact .inl rfl
  · exact .inr ⟨Bool.eq_false_iff.2 fun hfits => h (.inr hfits), rfl⟩

/-! ### Turns -/

/-- How a turn of the loop ends. -/
inductive Turned (app : App) (m : Machine) (batch : List Event) : Except AppError Unit × App → Prop
  /-- A fault ends the loop, and nothing is shown. -/
  | halted {f : Fault} {later : App} (fault : (Logging.result (m.heard batch).runFrame).1 = .error f)
      (left : Proceeds app false (m.turned batch) [] later) :
      Turned app m batch (.error (.halted (m.turned batch).interpreter.registers.pc f), later)
  /-- There is no image at that scale. -/
  | undrawn {e : ImageError} {later : App} (completes : (m.heard batch).Completes)
      (refused : app.config.picture app.host.room (m.turned batch) = .error e)
      (left : Proceeds app (app.running && !batch.any Event.isQuit) (m.turned batch) [] later) :
      Turned app m batch (.error (.image e), later)
  /-- The speed cannot be measured. -/
  | unmeasured {image : Image} {later : App} (completes : (m.heard batch).Completes)
      (drawn : app.config.picture app.host.room (m.turned batch) = .ok image)
      (timed : app.timing = true) (huge : Number.fitsFloat app.config.cyclesPerFrame = false)
      (left : Proceeds app (app.running && !batch.any Event.isQuit) (m.turned batch)
        [.draw image, .present] later) :
      Turned app m batch (.error .speedTooLarge, later)
  | shown {image : Image} {later : App} (completes : (m.heard batch).Completes)
      (drawn : app.config.picture app.host.room (m.turned batch) = .ok image)
      (left : Proceeds app (app.running && !batch.any Event.isQuit) (m.turned batch)
        [.draw image, .present, .pace frameRate] later) :
      Turned app m batch (.ok (), later)

theorem turned_turn (hm : app.machine = some m) (h : m.Proper) (batch : List Event) :
    Turned app m batch ((turn batch).run.run app) := by
  obtain ⟨heard, hbatch, hheard⟩ := run_batch hm h batch
  obtain ⟨before, watched, hwatch, hwatched⟩ := run_readStopwatch hheard.machine
  have hstart := hheard.next hwatched
  simp only [turn, run_bind, hbatch, hwatch]
  -- the turn can stop in three places: in the frame, over the image, and over the time it took
  rcases houtcome : (Logging.result (m.heard batch).runFrame).1 with f | _
  · obtain ⟨later, hstep, hlater⟩ := run_step_of_fault hstart.machine (h.heard batch) houtcome
    rw [hstep]
    exact .halted houtcome (hstart.trans hlater)
  obtain ⟨stepped, hstep, hstepped⟩ := run_step_of_completes hstart.machine houtcome
  obtain ⟨toned, htone, htoned⟩ := run_updateTone hstepped.machine
  have hframe := (hstart.next hstepped).next htoned
  simp only [hstep, htone]
  rcases hpicture : app.config.picture app.host.room (m.turned batch) with e | image
  · rw [run_drawScreen_of_error hframe.machine (hframe.config ▸ hframe.room ▸ hpicture)]
    exact .undrawn houtcome hpicture hframe
  obtain ⟨drawn, hdraw, hdrawn⟩ :=
    run_drawScreen_of_ok hframe.machine (hframe.config ▸ hframe.room ▸ hpicture)
  have hshown := hframe.next hdrawn
  simp only [hdraw, run_get]
  by_cases htimed : drawn.timing = true
  · obtain ⟨after, read, hread, hreading⟩ := run_readStopwatch hdrawn.machine
    obtain ⟨timed, htiming, hreport⟩ := run_report hreading.machine (after - before)
    have hmeasured := (hshown.next hreading).next htiming
    simp only [htimed, if_true, run_bind, hread]
    obtain hreport | ⟨huge, hreport⟩ := hreport
    · obtain ⟨later, hpace, hlater⟩ := run_record htiming.machine (.pace frameRate) rfl
      simp only [hreport, hpace]
      exact .shown houtcome hpicture (hmeasured.next hlater)
    · rw [hreport]
      rw [(hshown.next hreading).config] at huge
      exact .unmeasured houtcome hpicture (hshown.timing ▸ htimed) huge hmeasured
  · obtain ⟨later, hpace, hlater⟩ := run_record hdrawn.machine (.pace frameRate) rfl
    simp only [htimed, if_false, hpace, Bool.false_eq_true]
    exact .shown houtcome hpicture (hshown.next hlater)

/-- A silent front end reads the stopwatch before the frame and behind it. If there is time between
the two, the speed is measured, and that fails if it is beyond the range of floating point. -/
lemma turn_of_unmeasured (hm : app.machine = some m) (silent : app.beeper = none)
    (completes : m.Completes) {image : Image}
    (drawn : app.config.picture app.host.room m.afterFrame = .ok image)
    (timed : app.timing = true) (huge : Number.fitsFloat app.config.cyclesPerFrame = false)
    (late : ¬(app.host.stopwatch.next.2.next.1 - app.host.stopwatch.next.1 ≤ 0.0)) :
    ((turn [.quit]).run.run app).1 = .error .speedTooLarge := by
  have hwatch (h : Host) : Host.readStopwatch.run h =
      (h.stopwatch.next.1, { h with stopwatch := h.stopwatch.next.2 }) := rfl
  have hrecord (call : HostCall) (h : Host) : (Host.record call).run h =
      ((), { h with newest := call :: h.newest }) := rfl
  have hbatch : ([Event.quit].forM handleEvent).run.run app =
      (.ok (), { app with running := false }) := rfl
  simp only [turn, run_bind, hbatch, run_onHost, hwatch]
  -- the frame, the tone and the picture leave the stopwatch as it is
  rw [run_stepMachine_of_completes (by exact hm) completes]
  dsimp only
  rw [run_updateAudio_of_silent (by exact silent)]
  dsimp only
  rw [run_drawScreen_of_picture rfl (by exact drawn)]
  simp only [run_get, timed, if_true, run_bind, run_onHost, hrecord, hwatch]
  generalize hleft : App.mk _ _ _ _ _ _ _ _ = left
  obtain ⟨timedFrames, log, hreport⟩ := run_reportTiming left
    (app.host.stopwatch.next.2.next.1 - app.host.stopwatch.next.1)
  have hconfig : left.config = app.config := hleft ▸ rfl
  rw [hreport, if_neg]
  rintro (early | fits)
  · exact late early
  · rw [hconfig, huge] at fits
    exact Bool.false_ne_true fits

end App

end Chip8
