import Chip8.App.Control
import Chip8.Proofs.Machine.Keys
import Chip8.Proofs.Rom

/-!
What a host does with the front end between two turns of its loop.

A computation of the front end is a chain of links, each with an equation for how it runs, so what
a move does is read off its links: keys, frames and resets come to requests to the machine
(`machine_perform`), and an error leaves all that was done before it.
-/

namespace Chip8

/-- A frame has instructions at every speed. -/
lemma AppConfig.cyclesPerFrame_pos (config : AppConfig) : 0 < config.cyclesPerFrame := by
  rw [cyclesPerFrame]
  omega

namespace App

variable {α β : Type} (app : App)

/-! ### How computations run -/

@[simp] lemma run_throw (e : AppError) : (throw e : AppM α).run.run app = (.error e, app) := rfl

@[simp] lemma run_get : (get : AppM App).run.run app = (.ok app, app) := rfl

@[simp] lemma run_modify (g : App → App) :
    (modify g : AppM PUnit).run.run app = (.ok ⟨⟩, g app) := rfl

@[simp] lemma run_logging (action : Logging α) :
    (logging action).run.run app =
      (.ok (action.run app.log).1, { app with log := (action.run app.log).2 }) := rfl

@[simp] lemma run_onHost (action : HostM α) :
    (onHost action).run.run app =
      (.ok (action.run app.host).1, { app with host := (action.run app.host).2 }) := rfl

/-- An error ends the chain where it is. -/
lemma run_bind (a : AppM α) (g : α → AppM β) :
    (a >>= g).run.run app = match a.run.run app with
      | (.ok x, after) => (g x).run.run after
      | (.error e, after) => (.error e, after) := by
  unfold ExceptT.run StateT.run
  simp only [bind, ExceptT.bind, ExceptT.mk, StateT.bind, ExceptT.bindCont]
  rcases a app with ⟨_ | _, _⟩ <;> rfl

variable {app}

lemma run_orThrow {ε : Type} (wrap : ε → AppError) (r : Except ε α) :
    (orThrow wrap r).run.run app = (r.mapError wrap, app) := by
  cases r <;> rfl

/-! ### The machine for a program image -/

variable {m : Machine}

/-- A machine is made of the bytes of a file, and only the log changes. -/
lemma run_createMachine (app : App) (files : FileSystem) (path : Path) :
    ∃ log, (createMachine files path).run.run app = ((match files.read path with
      | .error (.missing _) => .error (.romNotFound path)
      | .error e => .error (.file e)
      | .ok data =>
        match Rom.ofBytes data path.stem with
        | .error e => .error (.romRejected path e)
        | .ok rom =>
          (Machine.create rom.data app.config.cyclesPerFrame app.host.random
            Keypad.standard).mapError .machine), { app with log }) := by
  have hload := Rom.loadFile_eq files path app.log
  simp only [createMachine, run_bind, run_logging]
  generalize (Rom.loadFile files path).run app.log = loaded at hload ⊢
  rcases loaded with ⟨o, log⟩
  dsimp only at hload ⊢
  subst hload
  rcases files.read path with e | data
  · cases e <;> exact ⟨log, rfl⟩
  · dsimp only
    rcases Rom.ofBytes data path.stem with e | rom
    · exact ⟨log, rfl⟩
    · simp only [Except.mapError, run_bind, run_logging, run_get, run_orThrow]
      exact ⟨_, rfl⟩

lemma createMachine_eq_ok_iff {files : FileSystem} {path : Path} :
    ((createMachine files path).run.run app).1 = .ok m ↔ ∃ data rom,
      files.read path = .ok data ∧ Rom.ofBytes data path.stem = .ok rom ∧
      Machine.create rom.data app.config.cyclesPerFrame app.host.random Keypad.standard = .ok m := by
  obtain ⟨log, hrun⟩ := run_createMachine app files path
  rw [hrun]
  rcases files.read path with e | data
  · exact iff_of_false (by cases e <;> nofun) fun ⟨_, _, h, _⟩ => nomatch h
  · dsimp only
    rcases hrom : Rom.ofBytes data path.stem with e | rom
    · refine iff_of_false nofun ?_
      rintro ⟨_, _, ⟨⟩, h, _⟩
      rw [hrom] at h
      nomatch h
    · dsimp only
      constructor
      · intro h
        rcases hmade : Machine.create rom.data app.config.cyclesPerFrame app.host.random
          Keypad.standard with e | made
        · rw [hmade] at h
          nomatch h
        · rw [hmade] at h
          cases h
          exact ⟨data, rom, rfl, hrom, hmade⟩
      · rintro ⟨_, _, ⟨⟩, h, hmade⟩
        rw [hrom] at h
        cases h
        rw [hmade]
        rfl

/-! ### Keys, frames, resets and the tone -/

/-- A host key without a name on the keypad is logged, and no more. -/
lemma run_handleKey_of_unnamed (hm : app.machine = some m) {name : Text}
    (unnamed : canonicalName name = none) (pressed : Bool) :
    ∃ log, (handleKey name pressed).run.run app = (.ok [], { app with log }) := by
  cases app
  cases hm
  rw [handleKey, run_bind, run_get]
  simp only [unnamed]
  exact ⟨_, rfl⟩

/-- One with a name reaches the keypad of the machine. -/
lemma run_handleKey_of_named (hm : app.machine = some m) {name key : Text}
    (named : canonicalName name = some key) (pressed : Bool) :
    ∃ log, let r := (m.onKeypad (·.changeNamed pressed key)).run log
      (handleKey name pressed).run.run app =
        (.ok r.1.2.1, { app with machine := some r.1.2.2, log := r.2 }) := by
  cases app
  cases hm
  rw [handleKey, run_bind, run_get]
  simp only [named]
  exact ⟨_, rfl⟩

lemma run_machineFor (hm : app.machine = some m) (asked : String) :
    (machineFor asked).run.run app = (.ok m, app) := by
  rw [machineFor, run_bind, run_get]
  simp only [hm]
  rfl

/-- A frame leaves the machine as its frame does, and a fault is an error afterwards. -/
lemma run_stepMachine (hm : app.machine = some m) :
    let r := m.runFrame.run app.log
    let after := { app with machine := some r.1.2, log := r.2 }
    stepMachine.run.run app = match r.1.1 with
      | .ok () => (.ok (), after)
      | .error f =>
        if f.isReported then
          (.error (.halted r.1.2.interpreter.registers.pc f), { after with running := false })
        else (.error (.fault f), after) := by
  simp only [stepMachine, run_bind, run_machineFor hm, run_logging, run_modify]
  rcases m.runFrame.run app.log with ⟨⟨f | _, after⟩, log⟩
  · by_cases hf : f.isReported = true
    · simp only [hf, if_true, run_bind, run_modify, run_throw]
    · simp only [hf, if_false, run_throw, Bool.false_eq_true]
  · rfl

/-- The beeper is switched on the host, and nothing else changes. -/
lemma run_setTone (app : App) (b : Beeper) (active : Bool) :
    (setTone b active).run.run app = (.ok (),
      let r := (b.setActive active).run app.host
      { app with beeper := some r.1, host := r.2 }) := by
  rw [setTone, run_bind, run_onHost]
  rfl

/-- A reset that fails leaves the machine as it is; otherwise the tone goes off. -/
lemma run_resetMachine (hm : app.machine = some m) :
    ∃ log, resetMachine.run.run app = match m.reset with
      | .error f => (.error (.fault f), { app with log })
      | .ok after =>
        match app.beeper with
        | none => (.ok (), { app with machine := some after, log })
        | some beeper => (setTone beeper false).run.run { app with machine := some after, log } := by
  have hfor (log : Log) : (machineFor "reset").run.run { app with log } =
      (.ok m, { app with log }) := by
    apply run_machineFor
    exact hm
  refine ⟨((say "input" fun _ => "reset requested").run app.log).2, ?_⟩
  simp only [resetMachine, run_bind, run_logging, hfor, run_orThrow]
  rcases m.reset with f | after
  · rfl
  · simp only [Except.mapError, run_modify, run_get]
    rcases app with ⟨_, _, _, _ | _, _, _, _, _⟩ <;> rfl

/-- The tone follows the sound timer of the machine. -/
lemma run_updateAudio (hm : app.machine = some m) :
    ∃ log, updateAudio.run.run app = match app.beeper with
      | none => (.ok (), { app with log })
      | some beeper => (setTone beeper m.interpreter.soundActive).run.run { app with log } := by
  rcases app with ⟨config, running, machine, _ | beeper, timing, timedFrames, host, log⟩
  · exact ⟨log, rfl⟩
  · simp only [updateAudio, run_bind, run_get, run_machineFor hm]
    by_cases hchange : (m.interpreter.soundActive != beeper.playing) = true
    · simp only [hchange, if_true, run_bind, run_logging]
      exact ⟨_, rfl⟩
    · simp only [hchange, if_false, Bool.false_eq_true]
      exact ⟨log, rfl⟩

/-- Without a beeper there is no tone to follow. -/
lemma run_updateAudio_of_silent (silent : app.beeper = none) :
    updateAudio.run.run app = (.ok (), app) := by
  cases app
  cases silent
  rfl

/-! ### Moves -/

/-- What a host does with the front end. -/
inductive Move where
  | key (name : Text) (pressed : Bool)
  | frame
  | reset
  | tone
  deriving DecidableEq

/-- Performs a move. -/
def Move.perform : Move → AppM Unit
  | .key name pressed => do let _ ← handleKey name pressed
  | .frame => stepMachine
  | .reset => resetMachine
  | .tone => updateAudio

/-- The front end after moves, whether they succeed or fail. -/
def after (app : App) (moves : List Move) : App :=
  moves.foldl (fun app move => (move.perform.run.run app).2) app

/-- What a move asks of the machine. -/
def Move.request : Move → Option Machine.Request
  | .key name pressed => (canonicalName name).map fun key => .keypad (.change pressed key)
  | .frame => some .frame
  | .reset => some .reset
  | .tone => none

/-- The machine after a move is the machine after what the move asks of it. -/
theorem machine_perform (hm : app.machine = some m) (move : Move) :
    ∃ log, (move.perform.run.run app).2.machine = match move.request with
      | none => some m
      | some r => some ((r.perform m).run log).1.2 := by
  cases move with
  | key name pressed =>
    simp only [Move.perform, Move.request, run_bind]
    rcases hname : canonicalName name with _ | key
    · obtain ⟨log, hrun⟩ := run_handleKey_of_unnamed hm hname pressed
      rw [hrun]
      exact ⟨log, hm⟩
    · obtain ⟨log, hrun⟩ := run_handleKey_of_named hm hname pressed
      rw [hrun]
      exact ⟨log, rfl⟩
  | frame =>
    refine ⟨app.log, ?_⟩
    simp only [Move.perform, Move.request, run_stepMachine hm]
    split
    · rfl
    · split <;> rfl
  | reset =>
    obtain ⟨log, hrun⟩ := run_resetMachine hm
    refine ⟨log, ?_⟩
    simp only [Move.perform, Move.request, hrun, Machine.Request.perform]
    rcases m.reset with f | after
    · exact hm
    · rcases app.beeper <;> rfl
  | tone =>
    obtain ⟨log, hrun⟩ := run_updateAudio hm
    refine ⟨log, ?_⟩
    simp only [Move.perform, Move.request, hrun]
    rcases app.beeper <;> exact hm

end App

end Chip8
