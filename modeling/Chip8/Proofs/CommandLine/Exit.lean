import Chip8.CommandLine.Run
import Chip8.Proofs.App.Failures

/-!
How a command line ends.

A command line is read, its options are checked, and the front end runs; each of these may end it
with an exit status. `Escapes` lists what ends it without one. The list is complete, and all of it
but a speed that cannot be measured does end the command line so (`run_ends`).
-/

namespace Chip8.CommandLine

variable {files : FileSystem} {host : Host} {log : Log} {o : Options} {config : AppConfig}
  {f : Failure}

/-- The settings that options ask for. -/
structure Asks (o : Options) (config : AppConfig) : Prop where
  rom : config.romPath = some o.rom
  scale : o.scale = some config.scale ∧ 0 < config.scale
  speed : o.speed = some config.speed ∧ 0 < config.speed
  palette : ∃ name, o.palette = some name ∧
    config.palette = (palettes.lookup name).getD Palette.monochrome
  fullscreen : config.fullscreen = o.fullscreen
  mute : config.mute = o.mute

/-- What ends a command line without a status: a path that is too long to be looked up, an option
left empty, of those the first, and an error of the front end that is not foreseen. -/
inductive Escapes (files : FileSystem) (host : Host) (log : Log) (o : Options) : Failure → Prop
  | lookup (long : files.find o.rom = .tooLong) :
      Escapes files host log o (.app (.file (.tooLong o.rom)))
  | noScale (found : files.exists? o.rom = .ok true) (empty : o.scale = none) :
      Escapes files host log o (.emptyOption .scale)
  | noSpeed {scale : Int} (found : files.exists? o.rom = .ok true)
      (asked : o.scale = some scale ∧ 0 < scale) (empty : o.speed = none) :
      Escapes files host log o (.emptyOption .speed)
  | noPalette {scale speed : Int} (found : files.exists? o.rom = .ok true)
      (asked : o.scale = some scale ∧ 0 < scale) (asked' : o.speed = some speed ∧ 0 < speed)
      (empty : o.palette = none) : Escapes files host log o (.emptyOption .palette)
  | app {config : AppConfig} {e : AppError} (found : files.exists? o.rom = .ok true)
      (asks : Asks o config)
      (escapes : App.Escapes files config host (log.categories.isOn "perf") e) :
      Escapes files host log o (.app e)

/-! ### Checking options -/

lemma check_of_found (found : files.exists? o.rom = .ok true) : check files o =
    match o.scale with
    | none => .error (.failure (.emptyOption .scale))
    | some scale => if scale ≤ 0 then .error (.usage .scale) else
      match o.speed with
      | none => .error (.failure (.emptyOption .speed))
      | some speed => if speed ≤ 0 then .error (.usage .speed) else
        match o.palette with
        | none => .error (.failure (.emptyOption .palette))
        | some palette => .ok {
            romPath := some o.rom
            scale, speed
            fullscreen := o.fullscreen
            mute := o.mute
            palette := (palettes.lookup palette).getD Palette.monochrome } := by
  rw [check, found]
  rcases o.scale with _ | scale
  · rfl
  by_cases hscale : scale ≤ 0
  · exact (if_pos hscale).trans (if_pos hscale).symm
  refine (if_neg hscale).trans (Eq.trans ?_ (if_neg hscale).symm)
  rcases o.speed with _ | speed
  · rfl
  by_cases hspeed : speed ≤ 0
  · exact (if_pos hspeed).trans (if_pos hspeed).symm
  refine (if_neg hspeed).trans (Eq.trans ?_ (if_neg hspeed).symm)
  rcases o.palette with _ | palette <;> rfl

lemma check_of_asks (found : files.exists? o.rom = .ok true) (asks : Asks o config) :
    check files o = .ok config := by
  obtain ⟨romPath, scale, speed, fullscreen, mute, palette⟩ := config
  obtain ⟨rfl, ⟨hscale, scalePositive⟩, ⟨hspeed, speedPositive⟩, ⟨name, hpalette, rfl⟩, rfl, rfl⟩ :=
    asks
  rw [check_of_found found, hscale, hspeed, hpalette]
  exact (if_neg (not_le.2 scalePositive)).trans (if_neg (not_le.2 speedPositive))

lemma check_of_tooLong (long : files.find o.rom = .tooLong) :
    check files o = .error (.failure (.app (.file (.tooLong o.rom)))) := by
  rw [check, FileSystem.exists?, long]
  rfl

lemma tooLong_of_exists? {path : Path} {e : OpenError} (h : files.exists? path = .error e) :
    files.find path = .tooLong := by
  rw [FileSystem.exists?] at h
  cases hfind : files.find path with
  | tooLong => rfl
  | _ =>
    rw [hfind] at h
    cases h

/-- A check ends in a message on usage, in a failure that is listed, or in what was asked for. -/
lemma check_cases (files : FileSystem) (host : Host) (log : Log) (o : Options) :
    (∃ e, check files o = .error (.usage e)) ∨
      (∃ f, check files o = .error (.failure f) ∧ Escapes files host log o f) ∨
      ∃ config, check files o = .ok config ∧ files.exists? o.rom = .ok true ∧ Asks o config := by
  rcases hfound : files.exists? o.rom with e | _ | _
  · have long := tooLong_of_exists? hfound
    exact .inr (.inl ⟨_, check_of_tooLong long, .lookup long⟩)
  · rw [check, hfound]
    exact .inl ⟨_, rfl⟩
  rw [check_of_found hfound]
  rcases hscale : o.scale with _ | scale
  · exact .inr (.inl ⟨_, rfl, .noScale hfound hscale⟩)
  dsimp only
  split_ifs with hscaleLow
  · exact .inl ⟨_, rfl⟩
  have asked : o.scale = some scale ∧ 0 < scale := ⟨hscale, not_le.1 hscaleLow⟩
  rcases hspeed : o.speed with _ | speed
  · exact .inr (.inl ⟨_, rfl, .noSpeed hfound asked hspeed⟩)
  dsimp only
  split_ifs with hspeedLow
  · exact .inl ⟨_, rfl⟩
  have asked' : o.speed = some speed ∧ 0 < speed := ⟨hspeed, not_le.1 hspeedLow⟩
  rcases hpalette : o.palette with _ | name
  · exact .inr (.inl ⟨_, rfl, .noPalette hfound asked asked' hpalette⟩)
  · exact .inr (.inr ⟨_, rfl, rfl, rfl, asked, asked', ⟨name, hpalette, rfl⟩, rfl, rfl⟩)

/-! ### The exit status -/

variable {argv : List Text}

lemma exit_run (parsed : parse argv = .ok o) :
    (run argv files host log).exit = match check files o with
      | .error (.usage _) => .ok 2
      | .error (.failure f) => .error f
      | .ok config => (runConfig config files host log).exit := by
  simp only [run, parsed]
  rcases check files o with (e | f) | config <;> rfl

lemma exit_runConfig (config : AppConfig) (files : FileSystem) (host : Host) (log : Log) :
    (runConfig config files host log).exit =
      match ((App.run files).run.run (App.create config host log)).1 with
      | .ok () => .ok 0
      | .error e => if e.isForeseen then .ok 1 else .error (.app e) := by
  rw [runConfig]
  rcases (App.run files).run.run (App.create config host log) with ⟨e | _, app⟩
  · dsimp only
    split <;> rfl
  · rfl

/-- Whatever the options are, the command line ends with a status or as listed. -/
lemma exit_cases (parsed : parse argv = .ok o) :
    (∃ s ≤ 2, (run argv files host log).exit = .ok s) ∨
      ∃ f, (run argv files host log).exit = .error f ∧ Escapes files host log o f := by
  rw [exit_run parsed]
  obtain ⟨e, hcheck⟩ | ⟨f, hcheck, listed⟩ | ⟨config, hcheck, found, asks⟩ :=
    check_cases files host log o <;> rw [hcheck]
  · exact .inl ⟨2, le_rfl, rfl⟩
  · exact .inr ⟨f, rfl, listed⟩
  dsimp only
  rw [exit_runConfig]
  rcases hrun : ((App.run files).run.run (App.create config host log)).1 with e | _
  swap
  · exact .inl ⟨0, by decide, rfl⟩
  obtain foreseen | escapes := App.escapes_of_run asks.scale.2 asks.rom found hrun
  · exact .inl ⟨1, by decide, if_pos foreseen⟩
  · refine .inr ⟨.app e, if_neg ?_, .app found asks escapes⟩
    exact Bool.not_eq_true _ ▸ escapes.isForeseen_eq_false

/-- All that is listed ends the command line, but for a speed that need not be measured. -/
lemma exit_of_escapes (parsed : parse argv = .ok o) (escapes : Escapes files host log o f)
    (notSpeed : f ≠ .app .speedTooLarge) : (run argv files host log).exit = .error f := by
  rw [exit_run parsed]
  cases escapes with
  | lookup long => rw [check_of_tooLong long]
  | noScale found empty => rw [check_of_found found, empty]
  | noSpeed found asked empty =>
    rw [check_of_found found, asked.1, empty]
    simp only [if_neg (not_le.2 asked.2)]
  | noPalette found asked asked' empty =>
    rw [check_of_found found, asked.1, asked'.1, empty]
    simp only [if_neg (not_le.2 asked.2), if_neg (not_le.2 asked'.2)]
  | app found asks escapes =>
    rw [check_of_asks found asks]
    dsimp only
    rw [exit_runConfig, App.run_of_escapes asks.scale.2 escapes fun h => notSpeed (congrArg _ h)]
    exact if_neg (Bool.not_eq_true _ ▸ escapes.isForeseen_eq_false)

/-- What the end of a command line can be. -/
structure Ends (argv : List Text) (files : FileSystem) (host : Host) (log : Log) : Prop where
  /-- It ends with one of the statuses 0, 1 and 2, or as listed. -/
  cases : (∃ s ≤ 2, (run argv files host log).exit = .ok s) ∨
    ∃ f, (run argv files host log).exit = .error f ∧
      ∃ o, parse argv = .ok o ∧ Escapes files host log o f
  /-- All that is listed does end it, but for a speed that need not be measured. -/
  escapes : ∀ o f, parse argv = .ok o → Escapes files host log o f → f ≠ .app .speedTooLarge →
    (run argv files host log).exit = .error f
  /-- Making the machine fails in a way that is not foreseen exactly where the file cannot be opened
  for another reason than that it is missing. -/
  machine : ∀ (app : App) (path : Path),
    (∃ e, ((App.createMachine files path).run.run app).1 = .error e ∧ e.isForeseen = false) ↔
      ∃ e, files.read path = .error e ∧ ∀ p, e ≠ .missing p

/-- **A command line ends with an exit status, but for what is listed.** Take any arguments, files,
host and log. The status is 0, 1 or 2, unless what ends the command line is listed; the list has no
case that does not end it so, but for the speed; and making the machine gives a machine or fails as
foreseen, unless the file cannot be opened for another reason than that it is missing. -/
theorem run_ends (argv : List Text) (files : FileSystem) (host : Host) (log : Log) :
    Ends argv files host log where
  cases := by
    rcases hparse : parse argv with (_ | e) | o
    · exact .inl ⟨0, by decide, by simp only [run, hparse]⟩
    · exact .inl ⟨2, le_rfl, by simp only [run, hparse]; rfl⟩
    · exact (exit_cases hparse).imp_right fun ⟨f, hexit, listed⟩ => ⟨f, hexit, o, rfl, listed⟩
  escapes _ _ parsed := exit_of_escapes parsed
  machine app path := App.createMachine_unforeseen_iff app files path

/-- A directory in the place of the program image ends the command line without a status. -/
theorem run_directory :
    let files : FileSystem := ⟨fun _ => .directory⟩
    let path := Path.ofText "sub"
    (run ["sub"] files {} {}).exit = .error (.app (.file (.isDirectory path))) ∧
      ¬(∃ s, (run ["sub"] files {} {}).exit = .ok s) ∧
      ((App.createMachine files path).run.run (App.create {} {} {})).1 =
        .error (.file (.isDirectory path)) := by
  intro files path
  have exit : (run ["sub"] files {} {}).exit = .error (.app (.file (.isDirectory path))) := by
    decide +kernel
  refine ⟨exit, ?_, rfl⟩
  rintro ⟨s, hs⟩
  cases exit.symm.trans hs

end Chip8.CommandLine
