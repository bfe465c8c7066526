import Chip8.Proofs.App.ShutDown
import Chip8.Proofs.Machine.FrameTicks

/-!
Scripts that are played.

A host gives its events in batches. The loop plays the batches one after another, each with one
frame that is drawn, shown and waited for, and it looks for a quit event only between them: so it
plays the first batch with one to its end (`loop_to_quit`), unless a frame faults before
(`loop_to_fault`). Where the frames cannot be shown or there is no tone, a run breaks off though no
frame faults (`BreaksOff`).
-/

namespace Chip8

/-- The call that shows a frame. -/
def HostCall.isPresent : HostCall → Bool
  | present => true
  | _ => false

/-- The screens of machines are drawn and shown one after another, with a wait behind each. -/
inductive Drawn (config : AppConfig) (room : Number.Room) : List Machine → List HostCall → Prop
  | nil : Drawn config room [] []
  | cons {m : Machine} {machines : List Machine} {image : Image} {calls : List HostCall}
      (drawn : config.picture room m = .ok image) (rest : Drawn config room machines calls) :
      Drawn config room (m :: machines) (.draw image :: .present :: .pace frameRate :: calls)

namespace Drawn

variable {config : AppConfig} {room : Number.Room} {machines machines' : List Machine}
  {calls calls' : List HostCall}

lemma append (h : Drawn config room machines calls) (h' : Drawn config room machines' calls') :
    Drawn config room (machines ++ machines') (calls ++ calls') := by
  induction h with
  | nil => exact h'
  | cons drawn _ ih => exact .cons drawn ih

/-- As many are shown as are drawn. -/
lemma countP_isPresent (h : Drawn config room machines calls) :
    calls.countP (·.isPresent) = machines.length := by
  induction h with
  | nil => rfl
  | cons drawn _ ih =>
    rw [List.countP_cons_of_neg, List.countP_cons_of_pos, List.countP_cons_of_neg, ih,
      List.length_cons] <;> simp [HostCall.isPresent]

end Drawn

lemma Host.countP_shown (h : Host) :
    h.calls.countP (·.isPresent) = h.shown.countP (·.isPresent) := by
  rw [shown, List.countP_filter]
  refine List.countP_congr fun c _ => ?_
  cases c <;> simp [HostCall.isPresent, HostCall.isFrame]

/-- The settings are such that there is room for every frame to be drawn and, if frames are timed,
the speed can be measured. -/
structure AppConfig.Shows (config : AppConfig) (room : Number.Room) (timing : Bool) : Prop where
  positive : 0 < config.scale
  drawable : Renderer.excess? room 64 32 config.scale.toNat = none
  measurable : timing = true → Number.fitsFloat config.cyclesPerFrame = true

lemma AppConfig.Shows.exists_picture {config : AppConfig} {room : Number.Room} {timing : Bool}
    (h : config.Shows room timing) (m : Machine) : ∃ image, config.picture room m = .ok image := by
  have hsize : ((m.interpreter.screen.toArray.size : Nat) : Int) = 64 * 32 := by
    rw [Vector.size_toArray]
    rfl
  have hnone : Renderer.excess? room (64 : Int).toNat (32 : Int).toNat config.scale.toNat = none :=
    h.drawable
  rw [picture, Renderer.render, if_neg (not_le.2 h.positive), if_neg (not_not.2 hsize)]
  simp only [hnone]
  exact ⟨_, rfl⟩

/-- A program that jumps to itself, whatever the speed. -/
lemma Machine.completes_jump {m : Machine} {cycles : Int} {random : Nat → UInt8}
    (made : create [0x12, 0x00] cycles random Keypad.standard = .ok m) : m.Completes := by
  have proper := proper_of_create made
  obtain ⟨-, i, hi, rfl⟩ := create_eq_ok_iff.1 made
  have start : ((powerOn Interpreter.initial [0x12, 0x00] Keypad.standard).toOption.any fun i =>
      decide (i.fetch = .ok ⟨0x1200, by decide⟩ ∧ i.registers.pc = 0x200)) = true := by
    decide +kernel
  rw [hi] at start
  obtain ⟨fetched, hpc⟩ := of_decide_eq_true start
  have reads : Pattern.Fits (Table.patternOf .jump) ⟨0x1200, by decide⟩ :=
    Table.fits_of_routine (by decide +kernel)
  exact completes_of_still (proper.inRange.tick_of_jump_here fetched reads hpc.symm)

namespace App

variable {app : App} {m : Machine} {batch : List Event} {before : List (List Event)}

/-! ### Turns -/

lemma turn_of_completes (hm : app.machine = some m) (h : m.Proper)
    (shows : app.config.Shows app.host.room app.timing) (completes : (m.heard batch).Completes) :
    ∃ image later, (turn batch).run.run app = (.ok (), later) ∧
      app.config.picture app.host.room (m.turned batch) = .ok image ∧
      Proceeds app (app.running && !batch.any Event.isQuit) (m.turned batch)
        [.draw image, .present, .pace frameRate] later := by
  have hturn := turned_turn hm h batch
  generalize (turn batch).run.run app = r at hturn ⊢
  cases hturn with
  | halted fault => cases fault.symm.trans completes
  | undrawn _ refused =>
    obtain ⟨image, drawn⟩ := shows.exists_picture (m.turned batch)
    cases refused.symm.trans drawn
  | unmeasured _ _ timed huge => cases huge.symm.trans (shows.measurable timed)
  | shown _ drawn left => exact ⟨_, _, rfl, drawn, left⟩

lemma turn_of_fault (hm : app.machine = some m) (h : m.Proper) {f : Fault}
    (fault : (Logging.result (m.heard batch).runFrame).1 = .error f) :
    ∃ later, (turn batch).run.run app =
        (.error (.halted (m.turned batch).interpreter.registers.pc f), later) ∧
      Proceeds app false (m.turned batch) [] later := by
  have hturn := turned_turn hm h batch
  generalize (turn batch).run.run app = r at hturn ⊢
  cases hturn with
  | halted fault' left =>
    cases fault.symm.trans fault'
    exact ⟨_, rfl, left⟩
  | undrawn completes | unmeasured completes | shown completes => cases fault.symm.trans completes

/-! ### The loop -/

/-- The loop goes on through batches without a quit event. -/
theorem loop_append (hm : app.machine = some m) (h : m.Proper) (running : app.running = true)
    (shows : app.config.Shows app.host.room app.timing)
    (goesOn : ∀ batch ∈ before, batch.any Event.isQuit = false) (survives : m.Survives before)
    (rest : List (List Event)) :
    ∃ shown later, (loop (before ++ rest)).run.run app = (loop rest).run.run later ∧
      Drawn app.config app.host.room (m.stages before) shown ∧
      Proceeds app true (m.played before) shown later := by
  induction before generalizing app m with
  | nil => exact ⟨[], app, rfl, .nil, running ▸ .of_same hm rfl⟩
  | cons batch before ih =>
    -- a turn without a quit event leaves the front end running, as the next one needs it
    obtain ⟨completes, hsurvives⟩ := survives
    rw [List.forall_mem_cons] at goesOn
    obtain ⟨image, mid, hturn, drawn, hmid⟩ := turn_of_completes hm h shows completes
    rw [running, goesOn.1, Bool.not_false, Bool.and_true] at hmid
    obtain ⟨shown, later, hloop, hdrawn, hlater⟩ := ih hmid.machine (h.turned batch) hmid.running
      (by rw [hmid.config, hmid.room, hmid.timing]; exact shows) goesOn.2 hsurvives
    rw [hmid.config, hmid.room] at hdrawn
    refine ⟨_, later, ?_, .cons drawn hdrawn, hmid.trans hlater⟩
    rw [List.cons_append, loop, run_bind, hturn]
    simp only [run_bind, run_get, hmid.running, if_true]
    exact hloop

section

variable (hm : app.machine = some m) (h : m.Proper) (running : app.running = true)
  (shows : app.config.Shows app.host.room app.timing)
  (goesOn : ∀ batch ∈ before, batch.any Event.isQuit = false)

include hm h running shows goesOn

/-- It ends after the first batch with one. -/
theorem loop_to_quit (quits : batch.any Event.isQuit = true)
    (survives : m.Survives (before ++ [batch])) (rest : List (List Event)) :
    ∃ shown later, (loop (before ++ batch :: rest)).run.run app = (.ok (), later) ∧
      Drawn app.config app.host.room (m.stages (before ++ [batch])) shown ∧
      Proceeds app false (m.played (before ++ [batch])) shown later := by
  obtain ⟨hbefore, completes, -⟩ := Machine.survives_append_iff.1 survives
  obtain ⟨shown, mid, hloop, hdrawn, hmid⟩ :=
    loop_append hm h running shows goesOn hbefore (batch :: rest)
  obtain ⟨image, later, hturn, drawn, hlater⟩ := turn_of_completes hmid.machine (h.played before)
    (by rw [hmid.config, hmid.room, hmid.timing]; exact shows) completes
  rw [quits, Bool.not_true, Bool.and_false] at hlater
  rw [hmid.config, hmid.room] at drawn
  rw [Machine.stages_append, Machine.played_concat]
  refine ⟨_, later, ?_, hdrawn.append (.cons drawn .nil), hmid.trans hlater⟩
  rw [hloop, loop, run_bind, hturn]
  simp only [run_bind, run_get, hlater.running, Bool.false_eq_true, if_false]
  rfl

/-- It ends at the first frame that faults. -/
theorem loop_to_fault (survives : m.Survives before) {f : Fault}
    (fault : (Logging.result ((m.played before).heard batch).runFrame).1 = .error f)
    (rest : List (List Event)) : ∃ shown later, (loop (before ++ batch :: rest)).run.run app =
        (.error (.halted (m.played (before ++ [batch])).interpreter.registers.pc f), later) ∧
      Drawn app.config app.host.room (m.stages before) shown ∧
      Proceeds app false (m.played (before ++ [batch])) shown later := by
  obtain ⟨shown, mid, hloop, hdrawn, hmid⟩ :=
    loop_append hm h running shows goesOn survives (batch :: rest)
  obtain ⟨later, hturn, hlater⟩ := turn_of_fault hmid.machine (h.played before) fault
  rw [Machine.played_concat]
  refine ⟨shown, later, ?_, hdrawn, ?_⟩
  · rw [hloop, loop, run_bind, hturn]
  · have hall := hmid.trans hlater
    rw [List.append_nil] at hall
    exact hall

end

/-- An error of the first turn ends the loop. -/
lemma loop_of_turn {e : AppError} {later : App} (batches : List (List Event))
    (failed : (turn (batches.headD [.quit])).run.run app = (.error e, later)) :
    (loop batches).run.run app = (.error e, later) := by
  cases batches with
  | nil => exact failed
  | cons batch rest =>
    rw [List.headD_cons] at failed
    rw [loop, run_bind, failed]

/-! ### Runs -/

/-- What a run of batches comes to that ends with a quit event. -/
structure PlaysOut (config : AppConfig) (room : Number.Room) (m : Machine)
    (batches : List (List Event)) (r : Except AppError Unit × App) : Prop where
  normal : r.1 = .ok ()
  machine : r.2.machine = some (m.played batches)
  drawn : Drawn config room (m.stages batches) r.2.host.shown
  presents : r.2.host.calls.countP (·.isPresent) = batches.length
  frames : (m.played batches).frames = batches.length - Machine.lastReset batches + 1
  keypad : (m.played batches).keypad =
    (Event.strokes batches).foldl Keypad.typed (Keypad.standard.listen .processor)

/-- What a run comes to that faults in the frame behind some batches and one more. -/
structure HaltsAfter (config : AppConfig) (room : Number.Room) (m : Machine)
    (before : List (List Event)) (batch : List Event) (f : Fault)
    (r : Except AppError Unit × App) : Prop where
  halted : r.1 = .error (.halted (m.played (before ++ [batch])).interpreter.registers.pc f)
  machine : r.2.machine = some (m.played (before ++ [batch]))
  drawn : Drawn config room (m.stages before) r.2.host.shown
  presents : r.2.host.calls.countP (·.isPresent) = before.length

/-- The front end where the loop starts: it has a machine, and has neither shown anything nor looked
at the stopwatch. -/
structure Starts (config : AppConfig) (host : Host) (log : Log) (m : Machine) (start : App) :
    Prop where
  machine : start.machine = some m
  silent : config.mute = true → start.beeper = none
  running : start.running = true
  config : start.config = config
  room : start.host.room = host.room
  timing : start.timing = log.categories.isOn "perf"
  shown : start.host.shown = []
  stopwatch : start.host.stopwatch = host.stopwatch

/-- A front end that is ready enters the loop. -/
lemma run_of_ready {files : FileSystem} {config : AppConfig} {host : Host} {data : List UInt8}
    (ready : Ready files config host data) (log : Log)
    (made : Machine.create data config.cyclesPerFrame host.random Keypad.standard = .ok m) :
    ∃ start : App, Starts config host log m start ∧
      (run files).run.run (create config host.cleared log) =
        let r := (loop host.events).run.run start
        (r.1, (shutDown.run r.2).2) := by
  obtain ⟨r, later, machine, hrun, hlater, hbeeper, -, hready⟩ :=
    run_prepare files (create config host.cleared log)
  obtain ⟨rfl, rfl⟩ := hready data m
    ⟨ready.available, ready.image, ready.nonempty, ready.fits, ready.sounds⟩ made
  refine ⟨later.opened, ⟨hlater.machine, hbeeper, rfl, hlater.config, hlater.host.room,
    hlater.timing, ?_, hlater.host.stopwatch⟩, ?_⟩
  · refine List.filter_eq_nil_iff.2 fun c hc => ?_
    obtain rfl | hc := List.mem_cons.1 (List.mem_reverse.1 hc)
    · exact Bool.false_ne_true
    · obtain hold | setUp := hlater.host.calls c hc
      · cases hold
      · cases c <;> first | exact Bool.false_ne_true | cases setUp
  · rw [run, run_bind, hrun]
    dsimp only
    rw [run_openAndLoop]
    rw [show later.host.events = host.events from hlater.host.events]

/-- The shut-down leaves what was shown. -/
lemma Proceeds.drawn_shutDown {running : Bool} {shown : List HostCall} {machines : List Machine}
    {later : App} (h : Proceeds app running m shown later) (start : app.host.shown = [])
    (drawn : Drawn app.config app.host.room machines shown) :
    Drawn app.config app.host.room machines (shutDown.run later).2.host.shown ∧
      (shutDown.run later).2.host.calls.countP (·.isPresent) = machines.length := by
  have hshown : (shutDown.run later).2.host.shown = shown := by
    rw [App.shown_shutDown, h.shown, start, List.nil_append]
  rw [Host.countP_shown, hshown]
  exact ⟨drawn, drawn.countP_isPresent⟩

section

variable {files : FileSystem} {config : AppConfig} {host : Host} {log : Log} {data : List UInt8}
  {earlier rest : List (List Event)} {last : List Event} (ready : Ready files config host data)
  (shows : config.Shows host.room (log.categories.isOn "perf"))
  (made : Machine.create data config.cyclesPerFrame host.random Keypad.standard = .ok m)

include ready shows made

lemma playsOut_run (events : host.events = earlier ++ last :: rest)
    (goesOn : ∀ batch ∈ earlier, batch.any Event.isQuit = false)
    (quits : last.any Event.isQuit = true) (survives : m.Survives (earlier ++ [last])) :
    PlaysOut config host.room m (earlier ++ [last])
      ((run files).run.run (create config host.cleared log)) := by
  obtain ⟨start, ⟨hm, -, running, rfl, hroom, htiming, hnone, -⟩, hrun⟩ :=
    run_of_ready ready log made
  rw [← hroom, ← htiming] at shows
  have hproper : m.Proper := Machine.proper_of_create made
  obtain ⟨-, i, -, hmade⟩ := Machine.create_eq_ok_iff.1 made
  have hnew : m.frames = 0 := by rw [hmade]
  have hpad : m.keypad = Keypad.standard.listen .processor := by rw [hmade]
  obtain ⟨shown, later, hloop, hdrawn, hlater⟩ :=
    loop_to_quit hm hproper running shows goesOn quits survives rest
  obtain ⟨hshown, hpresents⟩ := hlater.drawn_shutDown hnone hdrawn
  rw [hrun, events]
  simp only [hloop]
  constructor
  case normal => rfl
  case machine => exact hlater.machine
  case drawn => exact hroom ▸ hshown
  case presents => exact hpresents.trans (m.length_stages _)
  case frames => exact Machine.frames_played hproper hnew (List.concat_ne_nil _ _) survives
  case keypad => rw [Machine.keypad_played, hpad]

lemma haltsAfter_run (events : host.events = before ++ batch :: rest)
    (goesOn : ∀ batch ∈ before, batch.any Event.isQuit = false) (survives : m.Survives before)
    {f : Fault} (fault : (Logging.result ((m.played before).heard batch).runFrame).1 = .error f) :
    HaltsAfter config host.room m before batch f
      ((run files).run.run (create config host.cleared log)) := by
  obtain ⟨start, ⟨hm, -, running, rfl, hroom, htiming, hnone, -⟩, hrun⟩ :=
    run_of_ready ready log made
  rw [← hroom, ← htiming] at shows
  obtain ⟨shown, later, hloop, hdrawn, hlater⟩ :=
    loop_to_fault hm (Machine.proper_of_create made) running shows goesOn survives fault rest
  obtain ⟨hshown, hpresents⟩ := hlater.drawn_shutDown hnone hdrawn
  rw [hrun, events]
  simp only [hloop]
  constructor
  case halted => rfl
  case machine => exact hlater.machine
  case drawn => exact hroom ▸ hshown
  case presents => exact hpresents.trans (m.length_stages _)

end

/-! ### Runs that break off -/

/-- A run breaks off: the image is one and no frame up to the quit event faults, yet the run ends
with an error. -/
structure BreaksOff (files : FileSystem) (config : AppConfig) (host : Host) (log : Log)
    (data : List UInt8) (e : AppError) : Prop where
  image : ∃ path, config.romPath = some path ∧ files.read path = .ok data
  nonempty : 1 ≤ data.length
  fits : data.length ≤ maxProgramSize
  positive : 1 ≤ config.scale
  events : host.events = [[.quit]]
  survives : ∃ m, Machine.create data config.cyclesPerFrame host.random Keypad.standard = .ok m ∧
    m.Survives host.events
  broken : ((run files).run.run (create config host.cleared log)).1 = .error e

section

variable {files : FileSystem} {config : AppConfig} {host : Host} {log : Log} {e : AppError}

/-- A jump to itself can be played at every speed. -/
lemma breaksOff_of_jump
    (image : ∃ path, config.romPath = some path ∧ files.read path = .ok [0x12, 0x00])
    (positive : 1 ≤ config.scale) (events : host.events = [[.quit]])
    (broken : ((run files).run.run (create config host.cleared log)).1 = .error e) :
    BreaksOff files config host log [0x12, 0x00] e := by
  refine ⟨image, by decide, by decide, positive, events, ?_, broken⟩
  obtain ⟨m, made⟩ : ∃ m, Machine.create [0x12, 0x00] config.cyclesPerFrame host.random
      Keypad.standard = .ok m :=
    Machine.exists_create config.cyclesPerFrame_pos (by decide) Keypad.standard
  rw [events]
  exact ⟨m, made, Machine.completes_jump made, trivial⟩

lemma breaksOff_of_unmeasured (ready : Ready files config host [0x12, 0x00])
    (muted : config.mute = true) (shows : config.Shows host.room false)
    (events : host.events = [[.quit]]) (timed : log.categories.isOn "perf" = true)
    (huge : Number.fitsFloat config.cyclesPerFrame = false)
    (late : ¬(host.stopwatch.next.2.next.1 - host.stopwatch.next.1 ≤ 0.0)) :
    BreaksOff files config host log [0x12, 0x00] .speedTooLarge := by
  refine breaksOff_of_jump ready.image shows.positive events ?_
  obtain ⟨m, made⟩ := ready.exists_machine
  obtain ⟨start, ⟨hm, silent, -, rfl, hroom, htiming, -, hwatch⟩, hrun⟩ :=
    run_of_ready ready log made
  rw [← hroom] at shows
  rw [← hwatch] at late
  obtain ⟨image, drawn⟩ := shows.exists_picture m.afterFrame
  have hturn := turn_of_unmeasured hm (silent muted) (Machine.completes_jump made) drawn
    (htiming.trans timed) huge late
  rcases hfirst : (turn [.quit]).run.run start with ⟨r, later⟩
  rw [hfirst] at hturn
  obtain rfl : r = .error .speedTooLarge := hturn
  rw [hrun, events, loop_of_turn [[.quit]] hfirst]

end

/-! ### Scripts -/

/-- **The loop plays the batches up to the first quit event, with one frame for each.** Take a front
end that is ready, with settings at which its frames can be shown, and batches of events, the last
of which is the first one with a quit event. If no frame faults, the run ends normally; each batch
had its frame, which was drawn, shown and waited for; the machine counts the frames since the last
reset, that of its batch included; and the keypad heard the other keys of all batches in order. If a
frame faults, the run ends with that fault: the frames before it were shown, and the machine is as
the fault left it. -/
theorem run_plays_script {files : FileSystem} {config : AppConfig} {host : Host} {log : Log}
    {data : List UInt8} {earlier rest : List (List Event)} {last : List Event}
    (ready : Ready files config host data)
    (shows : config.Shows host.room (log.categories.isOn "perf"))
    (events : host.events = earlier ++ last :: rest)
    (goesOn : ∀ batch ∈ earlier, batch.any Event.isQuit = false)
    (quits : last.any Event.isQuit = true) :
    ∃ m, Machine.create data config.cyclesPerFrame host.random Keypad.standard = .ok m ∧
      let r := (run files).run.run (create config host.cleared log)
      (m.Survives (earlier ++ [last]) → PlaysOut config host.room m (earlier ++ [last]) r) ∧
      ∀ before batch f, before ++ [batch] <+: earlier ++ [last] → m.Survives before →
        (Logging.result ((m.played before).heard batch).runFrame).1 = .error f →
        HaltsAfter config host.room m before batch f r := by
  obtain ⟨m, made⟩ := ready.exists_machine
  refine ⟨m, made, playsOut_run ready shows made events goesOn quits, ?_⟩
  intro before batch f now survives fault
  -- only the last batch quits, and it is not one of those before the fault
  have hbefore : before <+: earlier := by
    rcases List.prefix_concat_iff.1 now with heq | hearlier
    · exact List.append_inj_left' heq rfl ▸ List.prefix_rfl
    · exact (List.prefix_append before [batch]).trans hearlier
  obtain ⟨behind, hsplit⟩ := now
  have hevents : host.events = before ++ batch :: (behind ++ rest) := by
    rw [events, List.append_cons, ← hsplit]
    simp
  exact haltsAfter_run ready shows made hevents (fun b hb => goesOn b (hbefore.subset hb)) survives
    fault

/-- A key that is held through two frames, in the second of which the escape key goes down. -/
theorem run_plays_script_escape :
    let files : FileSystem := ⟨fun _ => .file [0x12, 0x00]⟩
    let config : AppConfig := { romPath := some ⟨[], ["still"]⟩, scale := 2, speed := 120 }
    let script : List (List Event) :=
      [[.keyDown "q"], [.keyDown "escape", .keyUp "q", .keyDown "1"]]
    let host : Host := { events := script ++ [[.keyUp "1"]] }
    Ready files config host [0x12, 0x00] ∧ config.Shows host.room false ∧
      ∃ m, Machine.create [0x12, 0x00] config.cyclesPerFrame host.random Keypad.standard = .ok m ∧
        m.Survives script ∧
        PlaysOut config host.room m script
          ((run files).run.run (create config host.cleared {})) := by
  intro files config script host
  have ready : Ready files config host [0x12, 0x00] := by
    refine ⟨rfl, ⟨_, rfl, rfl⟩, by decide, by decide, fun _ format hformat => ?_⟩
    obtain rfl : format = [44100, -16, 1] := by
      cases hformat
      rfl
    exact ⟨44100, [-16, 1], ⟨12000, 50, 50⟩, rfl, by decide +kernel⟩
  have shows : config.Shows host.room false := ⟨by decide, by decide, nofun⟩
  have events : host.events =
      [[.keyDown "q"]] ++ [.keyDown "escape", .keyUp "q", .keyDown "1"] :: [[.keyUp "1"]] := rfl
  obtain ⟨m, made, plays, -⟩ :=
    @run_plays_script files config host {} _ _ _ _ ready shows events (by decide) (by decide)
  have survives : ((Machine.create [0x12, 0x00] config.cyclesPerFrame host.random
      Keypad.standard).toOption.any fun m => decide (m.Survives script)) = true := by
    decide +kernel
  rw [made] at survives
  have hsurvives : m.Survives script := of_decide_eq_true survives
  exact ⟨ready, shows, m, made, hsurvives, plays hsurvives⟩

/-- Where a script is not played: at a scale that is positive but has no image, so that no frame is
shown; without a host; with a mixer that tells no sample rate, or one for which there is no tone;
and at a speed that is to be measured but is beyond the range of floating point. -/
theorem run_plays_script_unless :
    let files : FileSystem := ⟨fun _ => .file [0x12, 0x00]⟩
    let config : AppConfig := { romPath := some ⟨[], ["s"]⟩, mute := true }
    let loud : AppConfig := { config with mute := false }
    let host : Host := { events := [[.quit]] }
    let huge : AppConfig := { config with scale := 2 ^ 63 }
    BreaksOff files huge host {} [0x12, 0x00] (.image .hugeScale) ∧
      ((run files).run.run (create huge host.cleared {})).2.host.calls.countP (·.isPresent) = 0 ∧
      BreaksOff files config { host with available := false } {} [0x12, 0x00] .noHost ∧
      BreaksOff files loud { host with mixer := some [] } {} [0x12, 0x00] .noSampleRate ∧
      BreaksOff files loud { host with mixer := some [10 ^ 400] } {} [0x12, 0x00]
        (.wave .rateTooLarge) ∧
      BreaksOff files { config with speed := 60 * 2 ^ 1024 }
        { host with stopwatch := ⟨[0.0, 1.0], 0.0⟩ } { categories := ⟨["perf"]⟩ } [0x12, 0x00]
        .speedTooLarge := by
  intro files config loud host huge
  refine ⟨?_, by decide +kernel, ?_, ?_, ?_, ?_⟩
  · exact breaksOff_of_jump ⟨_, rfl, rfl⟩ (by decide) rfl (by decide +kernel)
  · exact breaksOff_of_jump ⟨_, rfl, rfl⟩ (by decide) rfl (by decide +kernel)
  · exact breaksOff_of_jump ⟨_, rfl, rfl⟩ (by decide) rfl (by decide +kernel)
  · exact breaksOff_of_jump ⟨_, rfl, rfl⟩ (by decide) rfl (by decide +kernel)
  · exact breaksOff_of_unmeasured ⟨rfl, ⟨_, rfl, rfl⟩, by decide, by decide, nofun⟩ rfl
      ⟨by decide, by decide, nofun⟩ rfl (by decide +kernel) (by decide +kernel) (by decide +kernel)

end App

end Chip8
