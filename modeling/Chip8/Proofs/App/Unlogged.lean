import Chip8.Proofs.App.Turns
import Chip8.Proofs.Audio.Protocol

/-!
What the log is about, and all else.

The front end writes its log and never reads it. If frames are timed it also reads its stopwatch and
counts, which goes into the log as well. Front ends that differ in these only agree (`Agree`), and
computations are alike if agreeing front ends get the same from them and agree again (`Alike`).
Chains of alike computations are alike, so every part of the front end is like itself, down to a
whole run (`alike_run`). The one thing that could fail over the log is a speed beyond the range of
floating point, which cannot be reported.
-/

namespace Chip8

namespace Host

/-- The host without what its stopwatch will show. -/
def untimed (h : Host) : Host := { h with stopwatch := ⟨[], 0.0⟩ }

variable {α β : Type}

/-- What a host does has nothing to do with its stopwatch. -/
def Untimed (a : HostM α) : Prop :=
  ∀ h, (a.run h).1 = (a.run h.untimed).1 ∧ (a.run h).2.untimed = (a.run h.untimed).2.untimed

@[simp] lemma available_untimed (h : Host) : h.untimed.available = h.available := rfl

@[simp] lemma mixer_untimed (h : Host) : h.untimed.mixer = h.mixer := rfl

@[simp] lemma room_untimed (h : Host) : h.untimed.room = h.room := rfl

@[simp] lemma channels_untimed (h : Host) : h.untimed.channels = h.channels := rfl

lemma untimed_record (call : HostCall) : Untimed (record call) := fun _ => ⟨rfl, rfl⟩

lemma untimed_openMixer : Untimed openMixer := by
  rintro ⟨_, _, _ | _, _, _, _, _, _, _, _, _⟩ <;> exact ⟨rfl, rfl⟩

end Host

namespace Beeper

open Host (Untimed)

lemma untimed_create (config : BeeperConfig) : Untimed (create config) := by
  intro h
  rw [run_create, run_create, Host.available_untimed, Host.mixer_untimed, Host.room_untimed]
  split_ifs
  · exact ⟨rfl, rfl⟩
  · exact ⟨rfl, rfl⟩
  · split <;> exact ⟨rfl, rfl⟩

lemma untimed_stop (b : Beeper) : Untimed b.stop := by
  intro h
  rw [run_stop, run_stop]
  split <;> exact ⟨rfl, rfl⟩

lemma untimed_setActive (b : Beeper) (active : Bool) : Untimed (b.setActive active) := by
  intro h
  rw [run_setActive, run_setActive, Host.channels_untimed]
  split_ifs
  · exact ⟨rfl, rfl⟩
  · exact b.untimed_stop h
  all_goals exact ⟨rfl, rfl⟩

lemma untimed_perform (r : Request) (b : Beeper) : Untimed (r.perform b) := by
  cases r with
  | setActive active => exact b.untimed_setActive active
  | shutDown =>
    intro h
    rw [Request.perform, run_shutDown, run_shutDown]
    exact ⟨rfl, (b.untimed_stop h).2⟩

end Beeper

namespace App

variable {α β : Type} {app app' : App}

/-- The front end without what the log is about: its lines and what is on, whether frames are timed
and how many were, and what the stopwatch will show. -/
def unlogged (app : App) : App :=
  { app with timing := false, timedFrames := 0, host := app.host.untimed, log := {} }

/-- Two front ends differ in what the log is about only, at a speed that can be measured. -/
structure Agree (app app' : App) : Prop where
  same : app.unlogged = app'.unlogged
  fits : Number.fitsFloat app.config.cyclesPerFrame = true

lemma config_of_same (same : app.unlogged = app'.unlogged) : app.config = app'.config := by
  have hconfig := congrArg App.config same
  exact hconfig

/-- The speed can be measured in both. -/
lemma Agree.fits' (h : Agree app app') :
    Number.fitsFloat app'.config.cyclesPerFrame = true :=
  config_of_same h.same ▸ h.fits

/-- Two computations give the same and leave front ends that agree, wherever front ends agree. -/
def Alike (a a' : AppM α) : Prop :=
  ∀ ⦃app app' : App⦄, Agree app app' → (a.run.run app).1 = (a'.run.run app').1 ∧
    Agree (a.run.run app).2 (a'.run.run app').2

/-- A computation does what it does without what the log is about. -/
structure IgnoresLog (a : AppM α) (app : App) : Prop where
  result : (a.run.run app).1 = (a.run.run app.unlogged).1
  left : (a.run.run app).2.unlogged = (a.run.run app.unlogged).2.unlogged
  config : (a.run.run app).2.config = app.config

namespace Alike

lemma of_unlogged {a : AppM α} (h : ∀ app, IgnoresLog a app) : Alike a a := by
  intro app app' agree
  refine ⟨?_, ?_, ?_⟩
  · rw [(h app).result, (h app').result, agree.same]
  · rw [(h app).left, (h app').left, agree.same]
  · rw [(h app).config]
    exact agree.fits

lemma bind {a a' : AppM α} {k k' : α → AppM β} (h : Alike a a') (hk : ∀ x, Alike (k x) (k' x)) :
    Alike (a >>= k) (a' >>= k') := by
  intro app app' agree
  obtain ⟨hresult, hleft⟩ := h agree
  rw [run_bind, run_bind]
  rcases ha : a.run.run app with ⟨e | x, later⟩ <;>
    rcases ha' : a'.run.run app' with ⟨e' | x', later'⟩ <;> rw [ha, ha'] at hresult hleft
  · exact ⟨congrArg Except.error (Except.error.inj hresult), hleft⟩
  · cases hresult
  · cases hresult
  · obtain rfl := Except.ok.inj hresult
    exact hk x hleft

lemma pure (x : α) : Alike (pure x : AppM α) (pure x) := fun _ _ agree => ⟨rfl, agree⟩

/-- What comes behind an error is not reached. -/
lemma throw_then (e : AppError) {k k' : α → AppM β} :
    Alike ((throw e : AppM α) >>= k) ((throw e : AppM α) >>= k') := by
  intro app app' agree
  rw [run_bind, run_bind]
  exact ⟨rfl, agree⟩

lemma throw (e : AppError) : Alike (throw e : AppM α) (throw e) := fun _ _ agree => ⟨rfl, agree⟩

/-- What is read of the front end is not about the log. -/
lemma get {k : App → AppM α} (hread : ∀ app, k app = k app.unlogged)
    (hk : ∀ app, Alike (k app) (k app)) : Alike (get >>= k) (get >>= k) := by
  intro app app' agree
  have hsame : k app' = k app := by rw [hread app, hread app', agree.same]
  rw [run_bind, run_bind, run_get, run_get]
  dsimp only
  rw [hsame]
  exact hk app agree

/-- What becomes of the rest does not hang on what the log is about. -/
lemma change {g : App → App} (hg : ∀ app, (g app).unlogged = (g app.unlogged).unlogged)
    (hconfig : ∀ app, (g app).config = app.config) :
    Alike (modify g : AppM PUnit) (modify g) :=
  of_unlogged fun app => ⟨rfl, hg app, hconfig app⟩

lemma change_then {g : App → App} {k k' : PUnit → AppM α}
    (hg : ∀ app, (g app).unlogged = (g app.unlogged).unlogged)
    (hconfig : ∀ app, (g app).config = app.config) (hk : ∀ x, Alike (k x) (k' x)) :
    Alike (modify g >>= k) (modify g >>= k') :=
  (change hg hconfig).bind hk

lemma orThrow {ε : Type} (wrap : ε → AppError) (r : Except ε α) :
    Alike (orThrow wrap r) (orThrow wrap r) := by
  cases r with
  | ok x => exact .pure x
  | error e => exact .throw (wrap e)

lemma logging {a : Logging α} (steady : a.Steady) : Alike (logging a) (logging a) :=
  of_unlogged fun app => ⟨by
    rw [run_logging, run_logging, steady app.log, steady app.unlogged.log], rfl, rfl⟩

lemma onHost {a : HostM α} (untimed : Host.Untimed a) : Alike (onHost a) (onHost a) :=
  of_unlogged fun app => by
    obtain ⟨hresult, hleft⟩ := untimed app.host
    refine ⟨congrArg Except.ok hresult, ?_, rfl⟩
    exact congrArg (fun host => { app.unlogged with host }) hleft

/-- Two readings of the stopwatch may differ, so what follows must not hang on them. -/
lemma readStopwatch {k k' : Float → AppM α} (hk : ∀ x y, Alike (k x) (k' y)) :
    Alike (App.onHost Host.readStopwatch >>= k) (App.onHost Host.readStopwatch >>= k') :=
  fun _ _ agree => hk _ _ ⟨agree.same, agree.fits⟩

end Alike

/-! ### What the front end does -/

lemma alike_createMachine (files : FileSystem) (path : Path) :
    Alike (createMachine files path) (createMachine files path) := by
  rw [createMachine]
  refine (Alike.logging (Rom.loadFile_eq files path).steady).bind fun loaded => ?_
  split
  · exact .throw _
  · exact .throw _
  · exact .throw _
  · refine (Alike.logging (.unit _)).bind fun _ => ?_
    exact .get (fun _ => rfl) fun _ => .orThrow _ _

lemma alike_openMixer : Alike openMixer openMixer := by
  rw [openMixer]
  refine .get (fun _ => rfl) fun app => ?_
  split
  · exact .pure _
  · refine (Alike.onHost Host.untimed_openMixer).bind fun failure => ?_
    split
    · exact .pure _
    · exact (Alike.logging (.unit _)).bind fun _ => .pure _

lemma alike_initialiseAudio : Alike initialiseAudio initialiseAudio := by
  rw [initialiseAudio]
  refine alike_openMixer.bind fun opened => ?_
  split
  · refine .get (fun _ => rfl) fun app => ?_
    split
    · exact .logging (.unit _)
    · exact .throw _
    · refine (Alike.onHost (Beeper.untimed_create _)).bind fun made => ?_
      split
      · exact .change (fun _ => rfl) fun _ => rfl
      · exact .throw _
      · exact .change_then (fun _ => rfl) (fun _ => rfl) fun _ => .logging (.unit _)
  · exact .pure _

lemma alike_handleKey (name : Text) (pressed : Bool) :
    Alike (handleKey name pressed) (handleKey name pressed) := by
  rw [handleKey]
  refine .get (fun _ => rfl) fun app => ?_
  split
  · exact .pure _
  · refine (Alike.logging (.unit _)).bind fun _ => ?_
    split
    · exact .pure _
    · have steady (m : Machine) (key : Text) : (m.onKeypad (·.changeNamed pressed key)).Steady :=
        m.steady_onKeypad (m.keypad.steady_changeNamed pressed key)
      refine (Alike.logging (steady _ _)).bind fun r => ?_
      exact .change_then (fun _ => rfl) (fun _ => rfl) fun _ => .pure _

lemma alike_machineFor (asked : String) : Alike (machineFor asked) (machineFor asked) := by
  rw [machineFor]
  refine .get (fun _ => rfl) fun app => ?_
  split
  · exact .pure _
  · exact .throw _

lemma alike_stepMachine : Alike stepMachine stepMachine := by
  rw [stepMachine]
  refine (alike_machineFor _).bind fun m => ?_
  refine (Alike.logging m.steady_runFrame).bind fun r => ?_
  refine .change_then (fun _ => rfl) (fun _ => rfl) fun _ => ?_
  split
  · exact .pure _
  · split
    · exact .change_then (fun _ => rfl) (fun _ => rfl) fun _ => .throw _
    · exact .throw _

lemma alike_setTone (b : Beeper) (active : Bool) : Alike (setTone b active) (setTone b active) := by
  rw [setTone]
  refine (Alike.onHost (b.untimed_setActive active)).bind fun _ => ?_
  exact .change (fun _ => rfl) fun _ => rfl

lemma alike_updateAudio : Alike updateAudio updateAudio := by
  rw [updateAudio]
  refine .get (fun _ => rfl) fun app => ?_
  split
  · exact .pure _
  · refine (alike_machineFor _).bind fun m => ?_
    dsimp only
    split
    · exact (Alike.logging (.unit _)).bind fun _ => alike_setTone _ _
    · exact alike_setTone _ _

lemma alike_resetMachine : Alike resetMachine resetMachine := by
  rw [resetMachine]
  refine (Alike.logging (.unit _)).bind fun _ => (alike_machineFor _).bind fun m => ?_
  refine (Alike.orThrow _ _).bind fun after => ?_
  refine .change_then (fun _ => rfl) (fun _ => rfl) fun _ => ?_
  refine .get (fun _ => rfl) fun app => ?_
  split
  · exact .pure _
  · exact alike_setTone _ _

lemma alike_handleEvent (e : Event) : Alike (handleEvent e) (handleEvent e) := by
  cases e with
  | quit => exact .change (fun _ => rfl) fun _ => rfl
  | keyDown name =>
    rw [handleEvent]
    split_ifs
    · exact .change (fun _ => rfl) fun _ => rfl
    · exact alike_resetMachine
    · exact (alike_handleKey _ _).bind fun _ => .pure _
  | keyUp name => exact (alike_handleKey _ _).bind fun _ => .pure _
  | other => exact .pure _

lemma alike_batch (batch : List Event) :
    Alike (batch.forM handleEvent) (batch.forM handleEvent) := by
  induction batch with
  | nil => exact .pure _
  | cons e batch ih =>
    change Alike (handleEvent e >>= fun _ => batch.forM handleEvent) _
    exact (alike_handleEvent e).bind fun _ => ih

lemma alike_drawScreen : Alike drawScreen drawScreen := by
  rw [drawScreen]
  refine .get (fun _ => rfl) fun app => (Alike.orThrow _ _).bind fun image => ?_
  exact (Alike.onHost (Host.untimed_record _)).bind fun _ => .onHost (Host.untimed_record _)

/-- Whether it is reported how long a frame took makes no difference to what comes next. -/
lemma run_timed (fits : Number.fitsFloat app.config.cyclesPerFrame = true) (before : Float)
    (last : Unit → AppM Unit) : ∃ later, later.unlogged = app.unlogged ∧
      (get >>= fun now : App => if now.timing = true then
          onHost Host.readStopwatch >>= fun after => reportTiming (after - before) >>= last
        else last ()).run.run app = (last ()).run.run later := by
  rw [run_bind, run_get]
  dsimp only
  split
  · rw [run_bind, run_onHost]
    dsimp only
    let watched : App := { app with host := (Host.readStopwatch.run app.host).2 }
    obtain ⟨timedFrames, log, hrun⟩ :=
      run_reportTiming watched ((Host.readStopwatch.run app.host).1 - before)
    rw [if_pos (.inr fits)] at hrun
    refine ⟨{ watched with timedFrames, log }, rfl, ?_⟩
    rw [run_bind, hrun]
  · exact ⟨app, rfl, rfl⟩

lemma alike_turn (batch : List Event) : Alike (turn batch) (turn batch) := by
  rw [turn]
  refine (alike_batch batch).bind fun _ => .readStopwatch fun x y => ?_
  refine alike_stepMachine.bind fun _ => alike_updateAudio.bind fun _ => ?_
  refine alike_drawScreen.bind fun _ => ?_
  -- what is left may report the two readings, each front end by its own setting, before it paces
  intro app app' agree
  let pace : Unit → AppM Unit := fun _ => onHost (Host.record (.pace frameRate))
  obtain ⟨later, hlater, hrun⟩ := run_timed agree.fits x pace
  obtain ⟨later', hlater', hrun'⟩ := run_timed agree.fits' y pace
  have hagree : Agree later later' := by
    refine ⟨hlater.trans (agree.same.trans hlater'.symm), ?_⟩
    rw [config_of_same hlater]
    exact agree.fits
  have hpace := Alike.onHost (Host.untimed_record (.pace frameRate)) hagree
  rw [← hrun, ← hrun'] at hpace
  exact hpace

lemma alike_loop (batches : List (List Event)) : Alike (loop batches) (loop batches) := by
  induction batches with
  | nil => exact alike_turn _
  | cons batch batches ih =>
    rw [loop]
    refine (alike_turn batch).bind fun _ => .get (fun _ => rfl) fun app => ?_
    split
    · exact ih
    · exact .pure _

/-- The shut-down ends tones, whatever the log is about. -/
lemma agree_shutDown (agree : Agree app app') :
    Agree (shutDown.run app).2 (shutDown.run app').2 := by
  have hleft (app : App) :
      (shutDown.run app).2.unlogged = (shutDown.run app.unlogged).2.unlogged := by
    rcases app with ⟨_, _, _, _ | ⟨_, _, _ | _, _, _⟩, _, _, _, _⟩ <;> rfl
  exact ⟨by rw [hleft app, hleft app', agree.same], agree.fits⟩

lemma Alike.andAlways {a a' : AppM α} (h : Alike a a') :
    Alike (andAlways a shutDown) (andAlways a' shutDown) := by
  intro app app' agree
  obtain ⟨hresult, hleft⟩ := h agree
  exact ⟨hresult, agree_shutDown hleft⟩

lemma alike_openAndLoop : Alike openAndLoop openAndLoop := by
  rw [openAndLoop]
  refine .get (fun _ => rfl) fun app => (Alike.onHost (Host.untimed_record _)).bind fun _ => ?_
  refine .change_then (fun _ => rfl) (fun _ => rfl) fun _ => .andAlways ?_
  exact .get (fun _ => rfl) fun app => alike_loop _

lemma alike_findImage (files : FileSystem) : Alike (findImage files) (findImage files) := by
  rw [findImage]
  refine .get (fun _ => rfl) fun app => ?_
  dsimp only
  split
  · exact .throw_then _
  · split
    · exact .throw _
    · refine (Alike.orThrow _ _).bind fun found => ?_
      split
      · exact .throw_then _
      · exact .pure _

lemma alike_announce (title : Text) : Alike (announce title) (announce title) := by
  rw [announce]
  refine (Alike.onHost (Host.untimed_record _)).bind fun _ => ?_
  exact (Alike.onHost (Host.untimed_record _)).bind fun _ => .onHost (Host.untimed_record _)

lemma alike_prepare (files : FileSystem) : Alike (prepare files) (prepare files) := by
  rw [prepare]
  refine (alike_findImage files).bind fun path => (alike_createMachine files path).bind fun m => ?_
  refine .change_then (fun _ => rfl) (fun _ => rfl) fun _ => ?_
  refine (alike_announce _).bind fun _ => .get (fun _ => rfl) fun app => ?_
  split
  · exact alike_initialiseAudio
  · exact .pure _

lemma alike_run (files : FileSystem) : Alike (run files) (run files) := by
  rw [run]
  exact (alike_prepare files).bind fun _ => alike_openAndLoop

end App

end Chip8
