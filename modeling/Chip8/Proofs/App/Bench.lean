import Chip8.Proofs.App.Unlogged
import Chip8.Proofs.Number

/-!
A bench for all parts under one log.

On the bench stand a processor, a keypad, and a front end that is given machines and beepers; each
of them can be asked for what it does, and all write to one log. Under two settings of the log the
same requests are answered alike and leave the same but for what the log is about
(`session_of_any_setting`).
-/

namespace Chip8

/-- Whether the timers that a request assigns can be written out, as the log of a frame does. What a
program sets them to are bytes. -/
def Machine.Request.isWritable : Machine.Request → Bool
  | .assign registers => Number.isWritable registers.delay && Number.isWritable registers.sound
  | .frame | .reset | .processor _ | .keypad _ => true

namespace App

/-- What a host asks of a front end, or of the machine or the beeper that it has. -/
inductive Request where
  | makeMachine (program : List UInt8) (cycles : Int) (random : Nat → UInt8) (pad : Keypad)
  | makeBeeper (config : BeeperConfig)
  | machine (r : Machine.Request) (writable : r.isWritable = true := by rfl)
  /-- Asks the keypad of the machine, and listens. -/
  | keypad (r : Keypad.Request)
  | beeper (r : Beeper.Request)
  | load (files : FileSystem) (path : Path)
  | openAudio
  | key (name : Text) (pressed : Bool)
  | frame
  | reset
  | tone
  | run (files : FileSystem)

/-- What is answered to a request, and what the listeners hear of it. -/
inductive Answer where
  | done
  | outcome (o : Except Fault Unit)
  | machine (reply : Machine.Reply)
  | keypad (value : Except KeypadError Bool) (heard : List Notice)
  | beeper (made : Except BeeperError Unit)
  | heard (notices : List Notice)

/-- Answers a request. -/
def Request.answer : Request → AppM Answer
  | .makeMachine program cycles random pad => do
    let m ← orThrow .machine (Machine.create program cycles random pad)
    modify fun app => { app with machine := some m }
    pure .done
  | .makeBeeper config => do
    match ← onHost (Beeper.create config) with
    | .ok b =>
      modify fun app => { app with beeper := some b }
      pure (.beeper (.ok ()))
    | .error e => pure (.beeper (.error e))
  | .machine r _ => do
    let (reply, m) ← logging (r.perform (← machineFor "machine"))
    modify fun app => { app with machine := some m }
    pure (.machine reply)
  | .keypad r => do
    let (value, notices, m) ← logging ((← machineFor "keypad").onKeypad (r.answer ·))
    modify fun app => { app with machine := some m }
    pure (.keypad value notices)
  | .beeper r => do
    match (← get).beeper with
    | none => pure .done
    | some b =>
      let b ← onHost (r.perform b)
      modify fun app => { app with beeper := some b }
      pure .done
  | .load files path => do
    let m ← createMachine files path
    modify fun app => { app with machine := some m }
    pure .done
  | .openAudio => do
    initialiseAudio
    pure .done
  | .key name pressed => do pure (.heard (← handleKey name pressed))
  | .frame => do
    stepMachine
    pure .done
  | .reset => do
    resetMachine
    pure .done
  | .tone => do
    updateAudio
    pure .done
  | .run files => do
    App.run files
    pure .done

lemma alike_answer (r : Request) : Alike r.answer r.answer := by
  cases r with
  | makeMachine program cycles random pad =>
    refine (Alike.orThrow _ _).bind fun m => ?_
    exact .change_then (fun _ => rfl) (fun _ => rfl) fun _ => .pure _
  | makeBeeper config =>
    refine (Alike.onHost (Beeper.untimed_create config)).bind fun made => ?_
    split
    · exact .change_then (fun _ => rfl) (fun _ => rfl) fun _ => .pure _
    · exact .pure _
  | machine r =>
    refine (alike_machineFor _).bind fun m => (Alike.logging (m.steady_perform r)).bind fun x => ?_
    exact .change_then (fun _ => rfl) (fun _ => rfl) fun _ => .pure _
  | keypad r =>
    refine (alike_machineFor _).bind fun m => ?_
    refine (Alike.logging (m.steady_onKeypad (Keypad.steady_answer _ r))).bind fun x => ?_
    exact .change_then (fun _ => rfl) (fun _ => rfl) fun _ => .pure _
  | beeper r =>
    refine .get (fun _ => rfl) fun app => ?_
    split
    · exact .pure _
    · refine (Alike.onHost (Beeper.untimed_perform r _)).bind fun b => ?_
      exact .change_then (fun _ => rfl) (fun _ => rfl) fun _ => .pure _
  | load files path =>
    refine (alike_createMachine files path).bind fun m => ?_
    exact .change_then (fun _ => rfl) (fun _ => rfl) fun _ => .pure _
  | openAudio => exact alike_initialiseAudio.bind fun _ => .pure _
  | key name pressed => exact (alike_handleKey name pressed).bind fun _ => .pure _
  | frame => exact alike_stepMachine.bind fun _ => .pure _
  | reset => exact alike_resetMachine.bind fun _ => .pure _
  | tone => exact alike_updateAudio.bind fun _ => .pure _
  | run files => exact (alike_run files).bind fun _ => .pure _

end App

/-- A speed well below the range of floating point can be measured. -/
lemma AppConfig.fits_of_speed {config : AppConfig} (slow : config.speed < 2 ^ 1000) :
    Number.fitsFloat config.cyclesPerFrame = true := by
  refine Number.fitsFloat_of_lt le_rfl ?_
  have hone : (1 : Int) < 2 ^ 1000 := one_lt_pow₀ (by decide) (by decide)
  generalize hbound : (2 : Nat) ^ 1000 = bound
  have hcast : (2 : Int) ^ 1000 = bound := by rw [← hbound, Nat.cast_pow, Nat.cast_ofNat]
  rw [hcast] at slow hone
  rw [cyclesPerFrame, frameRate]
  omega

/-- A processor, a keypad and a front end, with the log of the front end for all. -/
structure Bench where
  hardware : Hardware
  processor : Interpreter
  keypad : Keypad
  app : App

namespace Bench

/-- What is asked of the parts of a bench. -/
inductive Request where
  | processor (r : Interpreter.Request)
  | keypad (r : Keypad.Request)
  | app (r : App.Request)

/-- The answer to a request, and the bench afterwards. -/
def Request.perform (b : Bench) : Request → Except AppError App.Answer × Bench
  | .processor r =>
    let ((o, after), log) := (r.loggedPerform b.hardware b.processor).run b.app.log
    (.ok (.outcome o), { b with processor := after, app := { b.app with log } })
  | .keypad r =>
    let (a, log) := (r.answer b.keypad).run b.app.log
    (.ok (.keypad a.value a.notices), { b with keypad := a.keypad, app := { b.app with log } })
  | .app r =>
    let (answer, after) := r.answer.run.run b.app
    (answer, { b with app := after })

/-- The answers to requests one after another, and the bench afterwards. -/
def session (b : Bench) : List Request → List (Except AppError App.Answer) × Bench
  | [] => ([], b)
  | r :: requests =>
    let (answer, after) := r.perform b
    let (answers, last) := after.session requests
    (answer :: answers, last)

/-- A bench with a new processor, set up under a setting of the log. -/
def setUp (hardware : Hardware) (keypad : Keypad) (config : AppConfig) (host : Host)
    (setting : Option Text) : Bench where
  hardware := hardware
  processor := .initial
  keypad := keypad
  app := .create config host { categories := .ofSetting setting }

/-- The bench without what the log is about. -/
def unlogged (b : Bench) : Bench := { b with app := b.app.unlogged }

variable {b b' : Bench}

/-- Two benches differ in what the log is about only, at a speed that can be measured. -/
structure Agree (b b' : Bench) : Prop where
  hardware : b.hardware = b'.hardware
  processor : b.processor = b'.processor
  keypad : b.keypad = b'.keypad
  app : b.app.Agree b'.app

namespace Agree

lemma unlogged (h : Agree b b') : b.unlogged = b'.unlogged := by
  rw [Bench.unlogged, Bench.unlogged, h.hardware, h.processor, h.keypad, h.app.same]

/-- Benches that agree answer a request alike and agree afterwards. -/
lemma perform (h : Agree b b') (r : Request) :
    (r.perform b).1 = (r.perform b').1 ∧ Agree (r.perform b).2 (r.perform b').2 := by
  cases r with
  | processor r =>
    have steady := b.processor.steady_loggedPerform b.hardware r
    have hsame : ((r.loggedPerform b'.hardware b'.processor).run b'.app.log).1 =
        ((r.loggedPerform b.hardware b.processor).run b.app.log).1 := by
      rw [← h.hardware, ← h.processor, steady, steady]
    refine ⟨?_, h.hardware, ?_, h.keypad, ?_⟩
    · exact congrArg (fun x => Except.ok (App.Answer.outcome x.1)) hsame.symm
    · exact congrArg Prod.snd hsame.symm
    · exact ⟨h.app.same, h.app.fits⟩
  | keypad r =>
    have steady := b.keypad.steady_answer r
    have hsame : ((r.answer b'.keypad).run b'.app.log).1 =
        ((r.answer b.keypad).run b.app.log).1 := by
      rw [← h.keypad, steady, steady]
    refine ⟨?_, h.hardware, h.processor, ?_, ?_⟩
    · exact congrArg (fun a => Except.ok (App.Answer.keypad a.value a.notices)) hsame.symm
    · exact congrArg Keypad.Answer.keypad hsame.symm
    · exact ⟨h.app.same, h.app.fits⟩
  | app r =>
    obtain ⟨hanswer, hleft⟩ := App.alike_answer r h.app
    exact ⟨hanswer, h.hardware, h.processor, h.keypad, hleft⟩

lemma session (h : Agree b b') (requests : List Request) :
    (b.session requests).1 = (b'.session requests).1 ∧
      Agree (b.session requests).2 (b'.session requests).2 := by
  induction requests generalizing b b' with
  | nil => exact ⟨rfl, h⟩
  | cons r requests ih =>
    obtain ⟨hanswer, hafter⟩ := h.perform r
    obtain ⟨hanswers, hlast⟩ := ih hafter
    exact ⟨congrArg₂ List.cons hanswer hanswers, hlast⟩

end Agree

/-- **The log does not interfere.** Set a bench up under any two settings of the log, or under none,
and ask the same of both: the answers are the same, errors and what the listeners hear included, and
so is all that is left but what the log is about. In particular the processor, the keypad, the
machine, the beeper and the calls that reached the host are the same. -/
theorem session_of_any_setting {config : AppConfig} (slow : config.speed < 2 ^ 1000)
    (hardware : Hardware) (keypad : Keypad) (host : Host) (setting setting' : Option Text)
    (requests : List Request) :
    let r := (setUp hardware keypad config host setting).session requests
    let r' := (setUp hardware keypad config host setting').session requests
    r.1 = r'.1 ∧ r.2.unlogged = r'.2.unlogged := by
  intro r r'
  have agree : Agree (setUp hardware keypad config host setting)
      (setUp hardware keypad config host setting') :=
    ⟨rfl, rfl, rfl, rfl, AppConfig.fits_of_speed slow⟩
  obtain ⟨hanswers, hleft⟩ := agree.session requests
  exact ⟨hanswers, hleft.unlogged⟩

/-- A session with every part of a bench, under no setting and under one that switches everything
on. The second one writes to the log. -/
theorem session_of_any_setting_all :
    let config : AppConfig := { romPath := some ⟨[], ["still"]⟩, speed := 120 }
    let files : FileSystem := ⟨fun _ => .file [0x12, 0x00]⟩
    let host : Host := { events := [[.keyDown "q"], [.quit]], clock := ⟨[10, 20], 0⟩ }
    let pad := Keypad.standard.listen (.recorder "pad")
    let requests : List Request := [.processor .tick, .keypad (.change true "q"),
      .app (.load files ⟨[], ["still"]⟩), .app (.machine .frame), .app (.makeBeeper {}),
      .app (.beeper (.setActive true)), .app (.key "z" true), .app .tone, .app .reset,
      .app (.run files)]
    let silent := setUp {} pad config host none
    let loud := setUp {} pad config host (some "ALL")
    config.speed < 2 ^ 1000 ∧
      (silent.session (requests.take 2)).2.app.log.newest.length = 0 ∧
      (loud.session (requests.take 2)).2.app.log.newest.length = 2 ∧
      (silent.session requests).1 = (loud.session requests).1 ∧
      (silent.session requests).2.unlogged = (loud.session requests).2.unlogged := by
  intro config files host pad requests silent loud
  have slow : config.speed < 2 ^ 1000 := by
    calc (120 : Int) < 2 ^ 7 := by decide
      _ ≤ 2 ^ 1000 := pow_le_pow_right₀ (by decide) (by decide)
  have hnames : ((Text.ofString "ALL").splitOn (.char ',')).map
      (fun part => Text.lower (Text.trim part)) = ["all"] := by decide +kernel
  have hparsed : Categories.ofSetting (some "ALL") = ⟨["all"]⟩ := by
    rw [Categories.ofSetting, Categories.parse, hnames]
    change Categories.mk (List.mergeSort [_] _).eraseDups = _
    rw [List.mergeSort_singleton]
    decide +kernel
  have hloud : (loud.session (requests.take 2)).2.app.log.newest.length = 2 := by
    simp only [loud, setUp, hparsed]
    decide +kernel
  exact ⟨slow, by decide +kernel, hloud,
    session_of_any_setting slow {} pad host none (some "ALL") requests⟩

end Bench

end Chip8
