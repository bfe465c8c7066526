import Chip8.Proofs.App.Script

/-!
How a run of the front end fails.

What may be wrong with a program image and what a processor reports are foreseen, and the front end
says so in its own words. `Escapes` lists what goes wrong besides: a directory where there should be
a file, a tone or an image that cannot be made, and a speed that cannot be measured. The list is
complete (`escapes_of_run`), and all of it but the last does end a run (`run_of_escapes`); whether a
speed has to be measured is up to the stopwatch.
-/

namespace Chip8

variable {host : Host} {config : AppConfig}

namespace Host

/-- What goes wrong over the tone: a mixer that is open tells no sample rate, or one for which there
is no wave. -/
def toneError? (h : Host) : Option AppError :=
  match h.mixerAsked with
  | none => none
  | some [] => some .noSampleRate
  | some (rate :: _) =>
    match Wave.square h.room (max 1 rate) (.real 440.0) Wave.standardAmplitude with
    | .error e => some (.wave e)
    | .ok _ => none

/-- The events of the first turn. -/
def firstBatch (h : Host) : List Event := h.events.headD [.quit]

lemma canSound_of_toneError? (h : host.toneError? = none) : host.CanSound := by
  intro format hformat
  rw [toneError?, hformat] at h
  rcases format with _ | ⟨rate, rest⟩
  · cases h
  · dsimp only at h
    rcases hwave : Wave.square host.room (max 1 rate) (.real 440.0) Wave.standardAmplitude
      with e | wave
    · rw [hwave] at h
      cases h
    · exact ⟨rate, rest, wave, rfl, hwave⟩

/-- The calls before do not matter. -/
@[simp] lemma toneError?_record (call : HostCall) (h : Host) :
    ((record call).run h).2.toneError? = h.toneError? := by
  change toneError? { h with newest := call :: h.newest } = _
  simp only [toneError?, mixerAsked]

lemma isForeseen_of_toneError? {e : AppError} (h : host.toneError? = some e) :
    e.isForeseen = false := by
  rw [toneError?] at h
  split at h
  · cases h
  · cases h
    rfl
  · split at h <;> cases h
    rfl

end Host

/-- There is no image of a screen if its scale is too large, whatever is on it. -/
lemma AppConfig.picture_of_excess {room : Number.Room} (positive : 0 < config.scale)
    {e : ImageError} (excess : Renderer.excess? room 64 32 config.scale.toNat = some e)
    (m : Machine) : config.picture room m = .error e := by
  have hsize : ((m.interpreter.screen.toArray.size : Nat) : Int) = 64 * 32 := by
    rw [Vector.size_toArray]
    rfl
  have hsome :
      Renderer.excess? room (64 : Int).toNat (32 : Int).toNat config.scale.toNat = some e :=
    excess
  rw [picture, Renderer.render, if_neg (not_le.2 positive), if_neg (not_not.2 hsize)]
  simp only [hsome]

namespace App

variable {app later : App} {m : Machine} {files : FileSystem} {path : Path} {data : List UInt8}
  {log : Log} {e : AppError}

/-- The errors that end a run in words that are not those of the front end. -/
inductive Escapes (files : FileSystem) (config : AppConfig) (host : Host) (timing : Bool) :
    AppError → Prop
  | directory {path : Path} (available : host.available = true)
      (image : config.romPath = some path) (found : files.find path = .directory) :
      Escapes files config host timing (.file (.isDirectory path))
  | tone {data : List UInt8} {e : AppError} (image : HasImage files config host data)
      (loud : config.mute = false) (refused : host.toneError? = some e) :
      Escapes files config host timing e
  /-- The first frame completes, but no frame can be drawn at that scale. -/
  | picture {data : List UInt8} {m : Machine} {e : ImageError}
      (ready : Ready files config host data)
      (made : Machine.create data config.cyclesPerFrame host.random Keypad.standard = .ok m)
      (completes : (m.heard host.firstBatch).Completes)
      (excess : Renderer.excess? host.room 64 32 config.scale.toNat = some e) :
      Escapes files config host timing (.image e)
  /-- Frames can be drawn and are timed, and the speed is beyond the range of floating point. -/
  | speed {data : List UInt8} (ready : Ready files config host data)
      (drawable : Renderer.excess? host.room 64 32 config.scale.toNat = none)
      (timed : timing = true) (huge : Number.fitsFloat config.cyclesPerFrame = false) :
      Escapes files config host timing .speedTooLarge

lemma Escapes.isForeseen_eq_false {timing : Bool} (h : Escapes files config host timing e) :
    e.isForeseen = false := by
  cases h with
  | directory | picture | speed => rfl
  | tone _ _ refused => exact Host.isForeseen_of_toneError? refused

lemma HasImage.ready (h : HasImage files config host data)
    (sounds : config.mute = false → host.toneError? = none) : Ready files config host data :=
  ⟨h.available, h.image, h.nonempty, h.fits, fun loud => Host.canSound_of_toneError? (sounds loud)⟩

/-! ### The machine and the tone -/

/-- **Making the machine fails in a way that is not foreseen exactly where the file cannot be opened
for another reason than that it is missing.** Else it gives a machine, or the error is foreseen. -/
theorem createMachine_unforeseen_iff (app : App) (files : FileSystem) (path : Path) :
    (∃ e, ((createMachine files path).run.run app).1 = .error e ∧ e.isForeseen = false) ↔
      ∃ e, files.read path = .error e ∧ ∀ p, e ≠ .missing p := by
  obtain ⟨log, hrun⟩ := run_createMachine app files path
  rw [hrun]
  rcases files.read path with e | data
  · cases e with
    | missing p =>
      refine iff_of_false ?_ ?_
      · rintro ⟨_, ⟨⟩, hforeseen⟩
        cases hforeseen
      · rintro ⟨_, ⟨⟩, hother⟩
        exact hother p rfl
    | _ => exact iff_of_true ⟨_, rfl, rfl⟩ ⟨_, rfl, fun _ h => by cases h⟩
  · refine iff_of_false ?_ ?_
    · rintro ⟨e, herror, hforeseen⟩
      dsimp only at herror
      rcases hrom : Rom.ofBytes data path.stem with e' | rom <;> rw [hrom] at herror
      · cases herror
        cases hforeseen
      · -- an image that is one fits, so there is a machine for it
        obtain ⟨⟨-, fits⟩, rfl⟩ := Rom.ofBytes_eq_ok_iff.1 hrom
        obtain ⟨m, made⟩ : ∃ m, Machine.create data app.config.cyclesPerFrame app.host.random
            Keypad.standard = .ok m :=
          Machine.exists_create app.config.cyclesPerFrame_pos fits Keypad.standard
        dsimp only at herror
        rw [made] at herror
        cases herror
    · rintro ⟨_, ⟨⟩, -⟩

lemma run_openMixer_loud (app : App) : ∃ loud later, openMixer.run.run app = (.ok loud, later) ∧
    later.host.available = app.host.available ∧ later.host.room = app.host.room ∧
    (if loud then later.host.mixer else none) = app.host.mixerAsked := by
  rcases app with ⟨config, running, machine, beeper, timing, timedFrames,
    ⟨available, _ | format, _ | reason, opened, channels, clock, stopwatch, events, room, random,
      newest⟩,
    log⟩
  · exact ⟨true, _, rfl, rfl, rfl, rfl⟩
  · exact ⟨false, _, rfl, rfl, rfl, rfl⟩
  · exact ⟨true, _, rfl, rfl, rfl, rfl⟩
  · exact ⟨true, _, rfl, rfl, rfl, rfl⟩

/-- Setting up the tone fails over what is wrong with it. -/
lemma answer_initialiseAudio (available : app.host.available = true) :
    (initialiseAudio.run.run app).1 = match app.host.toneError? with
      | some e => .error e
      | none => .ok () := by
  obtain ⟨loud, later, hopen, havailable, hroom, hmixer⟩ := run_openMixer_loud app
  rw [Host.toneError?, ← hmixer, ← hroom, initialiseAudio, run_bind, hopen]
  rcases loud with _ | _
  · rfl
  simp only [if_true, run_bind, run_get]
  rcases hformat : later.host.mixer with _ | _ | ⟨rate, rest⟩
  · rfl
  · rfl
  simp only [run_bind, run_onHost, Beeper.run_create, havailable, available, hformat]
  rcases Wave.square later.host.room (max 1 rate) (.real 440.0) Wave.standardAmplitude with e | wave
    <;> rfl

/-- Before the loop it is the image and the tone that can fail. -/
lemma answer_prepare (available : app.host.available = true)
    (image : app.config.romPath = some path) (found : files.exists? path = .ok true) :
    ((prepare files).run.run app).1 = match ((createMachine files path).run.run app).1 with
      | .error e => .error e
      | .ok _ => if app.config.mute then .ok () else
        match app.host.toneError? with
        | some e => .error e
        | none => .ok () := by
  have hfind : (findImage files).run.run app = (.ok path, app) := by
    simp only [findImage, run_bind, run_get, available, image, run_orThrow, found, Except.mapError,
      Bool.not_true, Bool.false_eq_true, if_false]
    rfl
  obtain ⟨log, hcreate⟩ := run_createMachine app files path
  rw [prepare, run_bind, hfind]
  dsimp only
  rw [run_bind]
  rcases hrun : (createMachine files path).run.run app with ⟨e | m, made⟩
  · rfl
  obtain rfl : made = { app with log } := congrArg Prod.snd (hrun.symm.trans hcreate)
  simp only [run_bind, run_modify, announce, run_onHost, run_get]
  by_cases hmute : app.config.mute = true
  · simp only [hmute, Bool.not_true, Bool.false_eq_true, if_false, if_true]
    rfl
  · simp only [hmute, Bool.not_false, if_true, if_false, Bool.false_eq_true]
    rw [answer_initialiseAudio (by exact available)]
    simp only [Host.toneError?_record]

/-! ### The loop -/

/-- At a scale that is too large a turn ends with its fault, or else over the image. -/
lemma turn_of_excess (hm : app.machine = some m) (h : m.Proper) (positive : 0 < app.config.scale)
    {e : ImageError}
    (excess : Renderer.excess? app.host.room 64 32 app.config.scale.toNat = some e)
    (batch : List Event) :
    (¬(m.heard batch).Completes ∧
        ∃ pc f later, (turn batch).run.run app = (.error (.halted pc f), later)) ∨
      (m.heard batch).Completes ∧
        ∃ later, (turn batch).run.run app = (.error (.image e), later) := by
  have hnone := AppConfig.picture_of_excess positive excess (m.turned batch)
  have hturn := turned_turn hm h batch
  generalize (turn batch).run.run app = r at hturn ⊢
  cases hturn with
  | halted fault =>
    refine .inl ⟨fun completes => ?_, _, _, _, rfl⟩
    cases fault.symm.trans completes
  | undrawn completes refused =>
    cases hnone.symm.trans refused
    exact .inr ⟨completes, _, rfl⟩
  | unmeasured _ drawn | shown _ drawn => cases hnone.symm.trans drawn

/-- An error that ends the loop ended one of its turns. -/
lemma exists_turned_of_loop (hm : app.machine = some m) (h : m.Proper)
    (batches : List (List Event)) (failed : ((loop batches).run.run app).1 = .error e) :
    ∃ before m' batch later, Turned before m' batch (.error e, later) ∧
      before.config = app.config ∧ before.host.room = app.host.room ∧
      before.timing = app.timing := by
  induction batches generalizing app m with
  | nil =>
    have hturn := turned_turn hm h [.quit]
    rcases hrun : (turn [.quit]).run.run app with ⟨r, later⟩
    rw [hrun] at hturn
    obtain rfl : r = .error e := (congrArg Prod.fst hrun).symm.trans failed
    exact ⟨app, m, _, _, hturn, rfl, rfl, rfl⟩
  | cons batch rest ih =>
    have hturn := turned_turn hm h batch
    rw [loop, run_bind] at failed
    rcases hrun : (turn batch).run.run app with ⟨e' | _, mid⟩ <;> rw [hrun] at hturn failed
    · cases failed
      exact ⟨app, m, _, _, hturn, rfl, rfl, rfl⟩
    · obtain ⟨_, _, left⟩ := hturn.left
      simp only [run_bind, run_get] at failed
      split at failed
      · obtain ⟨before, m', batch', later, hbefore, hconfig, hroom, htiming⟩ :=
          ih left.machine (h.turned batch) failed
        exact ⟨before, m', batch', later, hbefore, hconfig.trans left.config,
          hroom.trans left.room, htiming.trans left.timing⟩
      · cases failed

/-! ### Runs -/

/-- After the preparations it is the loop that decides. -/
lemma run_eq (files : FileSystem) (app : App) :
    ((run files).run.run app).1 = match (prepare files).run.run app with
      | (.error e, _) => .error e
      | (.ok (), later) => ((loop later.host.events).run.run later.opened).1 := by
  rw [run, run_bind]
  rcases (prepare files).run.run app with ⟨e | _, later⟩ <;> rfl

lemma run_of_unprepared (failed : ((prepare files).run.run app).1 = .error e) :
    ((run files).run.run app).1 = .error e := by
  rw [run_eq]
  rcases hprepare : (prepare files).run.run app with ⟨r, later⟩
  rw [hprepare] at failed
  cases failed
  rfl

/-- A front end that is ready enters the loop. -/
lemma Ready.exists_start (ready : Ready files config host data) (log : Log)
    (made : Machine.create data config.cyclesPerFrame host.random Keypad.standard = .ok m) :
    ∃ start : App, start.machine = some m ∧ start.config = config ∧
      start.host.room = host.room ∧ start.timing = log.categories.isOn "perf" ∧
      ((run files).run.run (create config host log)).1 =
        ((loop host.events).run.run start).1 := by
  obtain ⟨r, later, machine, hrun, hlater, -, -, hready⟩ :=
    run_prepare files (create config host log)
  obtain ⟨rfl, rfl⟩ := hready data m ready made
  refine ⟨later.opened, hlater.machine, hlater.config, hlater.host.room, hlater.timing, ?_⟩
  rw [run_eq, hrun]
  exact congrArg (fun events => ((loop events).run.run later.opened).1) hlater.host.events

lemma run_of_directory (available : host.available = true) (image : config.romPath = some path)
    (found : files.find path = .directory) :
    ((run files).run.run (create config host log)).1 = .error (.file (.isDirectory path)) := by
  have hexists : files.exists? path = .ok true := by rw [FileSystem.exists?, found]
  have hread : files.read path = .error (.isDirectory path) := by rw [FileSystem.read, found]
  obtain ⟨_, hcreate⟩ := run_createMachine (create config host log) files path
  refine run_of_unprepared ?_
  rw [answer_prepare available image hexists, hcreate, hread]

lemma run_of_toneError (image : HasImage files config host data) (loud : config.mute = false)
    (refused : host.toneError? = some e) :
    ((run files).run.run (create config host log)).1 = .error e := by
  obtain ⟨path, hpath, hread⟩ := image.image
  obtain ⟨m, made⟩ := image.exists_machine
  have hmade : ((createMachine files path).run.run (create config host log)).1 = .ok m :=
    HasImage.createMachine_eq_ok image hread made
  have hmute : (create config host log).config.mute = false := loud
  have htone : (create config host log).host.toneError? = some e := refused
  refine run_of_unprepared ?_
  rw [answer_prepare image.available hpath (FileSystem.exists?_of_read hread), hmade, hmute, htone]
  rfl

/-- Every error of the loop is foreseen or listed. -/
lemma escapes_of_loop {start : App} (positive : 0 < config.scale)
    (ready : Ready files config host data)
    (made : Machine.create data config.cyclesPerFrame host.random Keypad.standard = .ok m)
    (hm : start.machine = some m) (hconfig : start.config = config)
    (hroom : start.host.room = host.room)
    (failed : ((loop host.events).run.run start).1 = .error e) :
    e.isForeseen = true ∨ Escapes files config host start.timing e := by
  subst hconfig
  have hproper : m.Proper := Machine.proper_of_create made
  rcases hexcess : Renderer.excess? host.room 64 32 start.config.scale.toNat with _ | e'
  · -- every frame can be drawn, so a turn ends with a fault or over a speed
    have shows : start.config.Shows host.room false := ⟨positive, hexcess, nofun⟩
    obtain ⟨before, m', batch, later, hturn, hconfig, hbefore, htiming⟩ :=
      exists_turned_of_loop hm hproper host.events failed
    cases hturn with
    | halted => exact .inl rfl
    | undrawn _ refused =>
      obtain ⟨image, drawn⟩ := shows.exists_picture (m'.turned batch)
      rw [← hconfig, ← hroom, ← hbefore, refused] at drawn
      cases drawn
    | unmeasured _ _ timed huge =>
      rw [hconfig] at huge
      rw [htiming] at timed
      exact .inr (.speed ready hexcess timed huge)
  · -- no frame can be drawn, so the first turn is the last one
    obtain ⟨-, _, _, _, hfirst⟩ | ⟨completes, _, hfirst⟩ :=
      turn_of_excess hm hproper positive (hroom ▸ hexcess) host.firstBatch <;>
      rw [loop_of_turn _ hfirst] at failed <;> cases failed
    · exact .inl rfl
    · exact .inr (.picture ready made completes hexcess)

section

variable (positive : 0 < config.scale)

include positive

/-- **Every error that ends a run is foreseen or listed**, if there is something at the path of the
program image. -/
theorem escapes_of_run (image : config.romPath = some path) (found : files.exists? path = .ok true)
    (failed : ((run files).run.run (create config host log)).1 = .error e) :
    e.isForeseen = true ∨ Escapes files config host (log.categories.isOn "perf") e := by
  by_cases available : host.available = true
  swap
  · have hprepare : ((prepare files).run.run (create config host log)).1 = .error .noHost := by
      simp only [prepare, run_bind, findImage, run_get, create, available, Bool.not_false, if_true]
      rfl
    cases (run_of_unprepared hprepare).symm.trans failed
    exact .inl rfl
  cases hfind : files.find path with
  | directory =>
    cases (run_of_directory available image hfind).symm.trans failed
    exact .inr (.directory available image hfind)
  | file data =>
    have hread : files.read path = .ok data := by rw [FileSystem.read, hfind]
    rcases hrom : Rom.ofBytes data path.stem with e' | rom
    · have hprepare : ((prepare files).run.run (create config host log)).1 =
          .error (.romRejected path e') := by
        obtain ⟨_, hcreate⟩ := run_createMachine (create config host log) files path
        rw [answer_prepare available image found, hcreate, hread]
        dsimp only
        rw [hrom]
      cases (run_of_unprepared hprepare).symm.trans failed
      exact .inl rfl
    obtain ⟨⟨nonempty, fits⟩, -⟩ := Rom.ofBytes_eq_ok_iff.1 hrom
    have himage : HasImage files config host data := ⟨available, ⟨_, image, hread⟩, nonempty, fits⟩
    by_cases sounds : config.mute = false → host.toneError? = none
    · obtain ⟨m, made⟩ := himage.exists_machine
      obtain ⟨start, hm, hconfig, hroom, htiming, hrun⟩ :=
        (himage.ready sounds).exists_start log made
      rw [hrun] at failed
      rw [← htiming]
      exact escapes_of_loop positive (himage.ready sounds) made hm hconfig hroom failed
    · obtain ⟨loud, hne⟩ := Classical.not_imp.1 sounds
      obtain ⟨e', refused⟩ := Option.ne_none_iff_exists'.1 hne
      cases (run_of_toneError himage loud refused).symm.trans failed
      exact .inr (.tone himage loud refused)
  | _ =>
    rw [FileSystem.exists?, hfind] at found
    cases found

/-- **Every listed error ends a run**, but for a speed that need not be measured. -/
theorem run_of_escapes {timing : Bool} (escapes : Escapes files config host timing e)
    (notSpeed : e ≠ .speedTooLarge) :
    ((run files).run.run (create config host log)).1 = .error e := by
  cases escapes with
  | directory available image found => exact run_of_directory available image found
  | tone image loud refused => exact run_of_toneError image loud refused
  | picture ready made completes excess =>
    obtain ⟨start, hm, hconfig, hroom, -, hrun⟩ := ready.exists_start log made
    subst hconfig
    rw [← hroom] at excess
    obtain ⟨faults, -⟩ | ⟨-, _, hfirst⟩ :=
      turn_of_excess hm (Machine.proper_of_create made) positive excess host.firstBatch
    · exact absurd completes faults
    · rw [hrun, loop_of_turn _ hfirst]
  | speed => exact absurd rfl notSpeed

end

end App

end Chip8
