import Chip8.App.Run
import Chip8.Proofs.App.Moves
import Chip8.Proofs.Audio.Tones
import Chip8.Proofs.Machine.Frames

/-!
What comes before the event loop.

Before the window is opened the front end reads the program image, makes the machine, and sets up
the host. It either fails, and then nothing but set-up was asked of the host, or has a machine for
the bytes of the image (`run_prepare`). It does not fail if the image is one and the mixer, should it
be open and wanted, can play the tone (`Ready`).
-/

namespace Chip8

/-- The calls that set up the host. -/
def HostCall.isSetUp : HostCall → Bool
  | configureMixer .. | start | setTitle _ | openMixer _ | makeSound _ => true
  | _ => false

namespace Host

/-- The numbers of the mixer's format once the front end has seen to it, if the mixer is open then. -/
def mixerAsked (h : Host) : Option (List Int) :=
  if h.mixer.isSome then h.mixer else if h.mixerFailure.isSome then none else h.mixerOpened

/-- A mixer that is open tells a sample rate for which there is a tone. -/
def CanSound (h : Host) : Prop :=
  ∀ format, h.mixerAsked = some format → ∃ rate rest wave, format = rate :: rest ∧
    Wave.square h.room (max 1 rate) (.real 440.0) Wave.standardAmplitude = .ok wave

/-- Only set-up was asked of the host, the events are still to come, and nobody looked at the
stopwatch. -/
structure SetsUp (h later : Host) : Prop where
  events : later.events = h.events
  room : later.room = h.room
  stopwatch : later.stopwatch = h.stopwatch
  calls : ∀ c ∈ later.newest, c ∈ h.newest ∨ c.isSetUp = true

variable {h later : Host}

lemma SetsUp.refl (h : Host) : SetsUp h h := ⟨rfl, rfl, rfl, fun _ => .inl⟩

lemma SetsUp.trans {last : Host} (hl : SetsUp h later) (hl' : SetsUp later last) : SetsUp h last :=
  ⟨hl'.events.trans hl.events, hl'.room.trans hl.room, hl'.stopwatch.trans hl.stopwatch,
    fun c hc => (hl'.calls c hc).elim (hl.calls c) .inr⟩

lemma SetsUp.of_newest (call : HostCall) (setUp : call.isSetUp = true)
    (events : later.events = h.events) (room : later.room = h.room)
    (stopwatch : later.stopwatch = h.stopwatch) (calls : later.newest = call :: h.newest) :
    SetsUp h later := by
  refine ⟨events, room, stopwatch, fun c hc => ?_⟩
  rw [calls] at hc
  obtain rfl | hc := List.mem_cons.1 hc
  · exact .inr setUp
  · exact .inl hc

lemma setsUp_record {call : HostCall} (setUp : call.isSetUp = true) (h : Host) :
    SetsUp h ((record call).run h).2 := .of_newest call setUp rfl rfl rfl rfl

lemma setsUp_openMixer (h : Host) : SetsUp h (openMixer.run h).2 := by
  rcases h with ⟨_, _, _ | _, _, _, _, _, _, _, _, _⟩ <;>
    exact .of_newest (.openMixer {}) rfl rfl rfl rfl rfl

lemma mixer_of_opened {h : Host} (opened : (openMixer.run h).1 = none) :
    h.mixerFailure = none ∧ (openMixer.run h).2.mixer = h.mixerOpened := by
  rcases h with ⟨_, _, _ | _, _, _, _, _, _, _, _, _⟩
  · exact ⟨rfl, rfl⟩
  · cases opened

lemma setsUp_create (config : BeeperConfig) (h : Host) :
    SetsUp h ((Beeper.create config).run h).2 := by
  rw [Beeper.run_create]
  split_ifs
  · exact .refl h
  · exact .refl h
  · split
    · exact .refl h
    · exact .of_newest (.makeSound _) rfl rfl rfl rfl rfl

end Host

namespace App

variable {app later : App} {config : AppConfig} {host : Host} {machine : Option Machine}
  {files : FileSystem} {data : List UInt8}

/-- What is left when the host was set up, with a machine or without one. -/
structure Prepares (app : App) (machine : Option Machine) (later : App) : Prop where
  config : later.config = app.config
  timing : later.timing = app.timing
  machine : later.machine = machine
  host : app.host.SetsUp later.host

namespace Prepares

lemma trans {machine' : Option Machine} {last : App} (h : Prepares app machine later)
    (h' : Prepares later machine' last) : Prepares app machine' last :=
  ⟨h'.config.trans h.config, h'.timing.trans h.timing, h'.machine, h.host.trans h'.host⟩

/-- All that changes besides the host are the beeper and the log. -/
lemma next {beeper : Option Beeper} {host : Host} {log : Log} (h : Prepares app machine later)
    (setsUp : later.host.SetsUp host) : Prepares app machine { later with beeper, host, log } :=
  ⟨h.config, h.timing, h.machine, h.host.trans setsUp⟩

lemma refl (app : App) : Prepares app app.machine app := ⟨rfl, rfl, rfl, .refl _⟩

end Prepares

/-! ### The tone -/

/-- The mixer is open then as it is asked for, or the front end stays silent. -/
lemma run_openMixer (app : App) : ∃ loud later, openMixer.run.run app = (.ok loud, later) ∧
    Prepares app app.machine later ∧ (loud = true → later.host.mixer = app.host.mixerAsked) := by
  rw [openMixer, run_bind, run_get, Host.mixerAsked]
  by_cases hopen : app.host.mixer.isSome = true
  · simp only [hopen, if_true]
    exact ⟨true, app, rfl, .refl app, fun _ => rfl⟩
  · have hopened := app.host.setsUp_openMixer
    simp only [hopen, if_false, Bool.false_eq_true, run_bind, run_onHost]
    rcases hrun : Host.openMixer.run app.host with ⟨_ | reason, after⟩
    · have hmixer := Host.mixer_of_opened (congrArg Prod.fst hrun)
      rw [hrun] at hopened hmixer
      refine ⟨true, _, rfl, (Prepares.refl app).next hopened, fun _ => ?_⟩
      rw [hmixer.1]
      exact hmixer.2
    · rw [hrun] at hopened
      exact ⟨false, _, rfl, (Prepares.refl app).next hopened, nofun⟩

/-- Setting up the tone does not fail with a mixer that can play it. -/
lemma run_initialiseAudio (app : App) : ∃ r later, initialiseAudio.run.run app = (r, later) ∧
    Prepares app app.machine later ∧ (app.host.CanSound → r = .ok ()) := by
  obtain ⟨loud, opened, hopen, hopened, hmixer⟩ := run_openMixer app
  simp only [initialiseAudio, run_bind, hopen]
  rcases loud with _ | _
  · exact ⟨_, _, rfl, hopened, fun _ => rfl⟩
  simp only [if_true, run_bind, run_get, hmixer]
  rcases hformat : app.host.mixerAsked with _ | _ | ⟨rate, rest⟩
  · exact ⟨_, _, rfl, hopened.next (.refl _), fun _ => rfl⟩
  · -- a mixer that is open but tells nothing cannot sound
    refine ⟨_, _, rfl, hopened, fun sounds => ?_⟩
    obtain ⟨_, _, _, hnone, -⟩ := sounds [] hformat
    cases hnone
  have hcreated := Host.setsUp_create { rate } opened.host
  simp only [run_bind, run_onHost]
  rcases hmade : (Beeper.create { rate }).run opened.host with ⟨e | b, after⟩
  · rw [hmade] at hcreated
    have hafter (beeper : Option Beeper) (log : Log) :
        Prepares app app.machine { opened with beeper, host := after, log } := hopened.next hcreated
    cases e with
    | wave e =>
      refine ⟨_, _, rfl, hafter _ _, fun sounds => ?_⟩
      obtain ⟨_, _, wave, hrate, hwave⟩ := sounds _ hformat
      cases hrate
      have hnone := Beeper.square_of_run_create (congrArg Prod.fst hmade)
      rw [hopened.host.room, show (({ rate } : BeeperConfig).frequency) = .real 440.0 from rfl,
        hwave] at hnone
      cases hnone
    | noHost => exact ⟨_, _, rfl, hafter _ _, fun _ => rfl⟩
    | mixerClosed => exact ⟨_, _, rfl, hafter _ _, fun _ => rfl⟩
  · rw [hmade] at hcreated
    exact ⟨_, _, rfl, hopened.next hcreated, fun _ => rfl⟩

/-! ### Everything before the loop -/

/-- There is a host, and a program image to be read. -/
structure HasImage (files : FileSystem) (config : AppConfig) (host : Host) (data : List UInt8) :
    Prop where
  available : host.available = true
  image : ∃ path, config.romPath = some path ∧ files.read path = .ok data
  nonempty : 1 ≤ data.length
  fits : data.length ≤ maxProgramSize

namespace HasImage

lemma exists_machine (h : HasImage files config host data) :
    ∃ m, Machine.create data config.cyclesPerFrame host.random Keypad.standard = .ok m :=
  Machine.exists_create config.cyclesPerFrame_pos h.fits Keypad.standard

lemma createMachine_eq_ok {path : Path} {m : Machine} (h : HasImage files app.config app.host data)
    (hread : files.read path = .ok data)
    (made : Machine.create data app.config.cyclesPerFrame app.host.random Keypad.standard = .ok m) :
    ((createMachine files path).run.run app).1 = .ok m := by
  have hdata : data ≠ [] := List.ne_nil_of_length_pos h.nonempty
  exact createMachine_eq_ok_iff.2 ⟨data, _, hread, Rom.ofBytes_of_fits _ hdata h.fits, made⟩

end HasImage

/-- There is an image to be read, and a tone can be played if one is wanted. -/
structure Ready (files : FileSystem) (config : AppConfig) (host : Host) (data : List UInt8) :
    Prop where
  available : host.available = true
  image : ∃ path, config.romPath = some path ∧ files.read path = .ok data
  nonempty : 1 ≤ data.length
  fits : data.length ≤ maxProgramSize
  sounds : config.mute = false → host.CanSound

lemma run_findImage (files : FileSystem) (app : App) :
    ∃ r, (findImage files).run.run app = (r, app) := by
  simp only [findImage, run_bind, run_get]
  split_ifs
  · exact ⟨_, rfl⟩
  · rcases app.config.romPath with _ | path
    · exact ⟨_, rfl⟩
    · simp only [run_bind, run_orThrow]
      rcases files.exists? path with e | _ | _ <;> exact ⟨_, rfl⟩

lemma run_announce (title : Text) (app : App) :
    ∃ later, (announce title).run.run app = (.ok (), later) ∧ Prepares app app.machine later ∧
      later.beeper = app.beeper ∧ (app.host.CanSound → later.host.CanSound) :=
  ⟨_, rfl, ⟨rfl, rfl, rfl, ((Host.setsUp_record rfl _).trans (Host.setsUp_record rfl _)).trans
    (Host.setsUp_record rfl _)⟩, rfl, id⟩

namespace Ready

lemma run_findImage (ready : Ready files app.config app.host data) :
    ∃ path, (findImage files).run.run app = (.ok path, app) ∧ files.read path = .ok data := by
  obtain ⟨path, hpath, hread⟩ := ready.image
  refine ⟨path, ?_, hread⟩
  simp only [findImage, run_bind, run_get, ready.available, hpath, run_orThrow,
    FileSystem.exists?_of_read hread, Except.mapError, Bool.not_true, Bool.false_eq_true, if_false]
  rfl

lemma hasImage (ready : Ready files config host data) : HasImage files config host data :=
  ⟨ready.available, ready.image, ready.nonempty, ready.fits⟩

lemma exists_machine (ready : Ready files config host data) :
    ∃ m, Machine.create data config.cyclesPerFrame host.random Keypad.standard = .ok m :=
  ready.hasImage.exists_machine

end Ready

lemma run_prepared (m : Machine) (title : Text) (app : App) : ∃ r later,
    (do
      modify fun app => { app with machine := some m }
      announce title
      if !(← get).config.mute then initialiseAudio : AppM Unit).run.run app = (r, later) ∧
    Prepares app (some m) later ∧ (app.config.mute = true → later.beeper = app.beeper) ∧
      ((app.config.mute = false → app.host.CanSound) → r = .ok ()) := by
  obtain ⟨told, htell, htold, hbeeper, hsounds⟩ := run_announce title { app with machine := some m }
  simp only [run_bind, run_modify, htell, run_get]
  have hstart : Prepares app (some m) told := ⟨htold.config, htold.timing, htold.machine, htold.host⟩
  by_cases hmute : told.config.mute = true
  · simp only [hmute, Bool.not_true, Bool.false_eq_true, if_false]
    exact ⟨_, _, rfl, hstart, fun _ => hbeeper, fun _ => rfl⟩
  · obtain ⟨r, later, hrun, hlater, hok⟩ := run_initialiseAudio told
    simp only [hmute, Bool.not_false, if_true]
    rw [hstart.config] at hmute
    refine ⟨r, later, hrun, ?_, fun muted => absurd muted hmute, fun sounds => hok (hsounds ?_)⟩
    · exact hstart.trans (hstart.machine ▸ hlater)
    · exact sounds (Bool.not_eq_true _ ▸ hmute)

/-- Nothing but set-up is asked of the host before the loop, and a beeper is made only if the front
end is not muted. With an image that is one and a mixer that can play the tone there is a machine
for the image then. -/
lemma run_prepare (files : FileSystem) (app : App) : ∃ r later machine,
    (prepare files).run.run app = (r, later) ∧ Prepares app machine later ∧
      (app.config.mute = true → later.beeper = app.beeper) ∧
      (r = .ok () → ∃ m, machine = some m ∧ m.Proper) ∧
      ∀ data m, Ready files app.config app.host data →
        Machine.create data app.config.cyclesPerFrame app.host.random Keypad.standard = .ok m →
        r = .ok () ∧ machine = some m := by
  obtain ⟨found, hfind⟩ := run_findImage files app
  rw [prepare, run_bind, hfind]
  rcases found with e | path
  · refine ⟨_, _, _, rfl, .refl app, fun _ => rfl, nofun, fun data m ready _ => ?_⟩
    obtain ⟨path, hpath, -⟩ := ready.run_findImage
    cases hfind.symm.trans hpath
  have hread {data} (ready : Ready files app.config app.host data) : files.read path = .ok data := by
    obtain ⟨path', hpath, hread⟩ := ready.run_findImage
    cases hfind.symm.trans hpath
    exact hread
  obtain ⟨log, hcreate⟩ := run_createMachine app files path
  dsimp only
  rw [run_bind]
  rcases hrun : (createMachine files path).run.run app with ⟨e | m, made⟩
  · obtain rfl : made = { app with log } := congrArg Prod.snd (hrun.symm.trans hcreate)
    refine ⟨_, _, app.machine, rfl, ⟨rfl, rfl, rfl, .refl _⟩, fun _ => rfl, nofun,
      fun data m ready hm => ?_⟩
    have hmade := ready.hasImage.createMachine_eq_ok (hread ready) hm
    rw [hrun] at hmade
    cases hmade
  · obtain rfl : made = { app with log } := congrArg Prod.snd (hrun.symm.trans hcreate)
    obtain ⟨data, rom, -, -, hm⟩ := createMachine_eq_ok_iff.1 (congrArg Prod.fst hrun)
    obtain ⟨r, later, hlast, hlater, hbeeper, hok⟩ := run_prepared m ("CHIP-8 - " ++ path.stem)
      { app with log }
    refine ⟨r, later, some m, hlast, ⟨hlater.config, hlater.timing, hlater.machine, hlater.host⟩,
      hbeeper, fun _ => ⟨m, rfl, Machine.proper_of_create hm⟩,
      fun data m' ready hm' => ⟨hok ready.sounds, ?_⟩⟩
    have hmade := ready.hasImage.createMachine_eq_ok (hread ready) hm'
    rw [hrun] at hmade
    exact congrArg some (Except.ok.inj hmade)

/-- The front end with its window, running. -/
def opened (app : App) : App :=
  { app with
    running := true
    host := { app.host with
      newest := .openWindow (screenWidth * app.config.scale) (screenHeight * app.config.scale)
        app.config.fullscreen :: app.host.newest } }

/-- The loop is shut down however it ends. -/
lemma run_openAndLoop (app : App) : openAndLoop.run.run app =
    let r := (loop app.host.events).run.run app.opened
    (r.1, (shutDown.run r.2).2) := rfl

end App

end Chip8
