import Chip8.Proofs.Interpreter.Absorbing
import Chip8.Proofs.Machine.Timers

/-!
Frames tick by tick.

A frame is a row of ticks that stops at the first one that fails, with a step of the timers behind
it if none does (`runsTicks`). In a machine that came about without a debugger a tick that fails
leaves the processor as it was, so the frame stops where that tick started, and the next frame
starts with the same tick. Frames and keys do not lead on from there (`Proper.standsStill_run`).
-/

namespace Chip8

namespace Interpreter

variable {hw : Hardware} {m : Interpreter} {f : Fault}

/-- A tick that succeeds is followed by the others. -/
lemma gives_ticks_go_of_ok {P : Ticks → Prop} {count completed : Nat}
    (ok : (m.tick hw).1 = .ok ())
    (rest : Logging.Gives P (ticks.go hw count (completed + 1) (m.tick hw).2)) :
    Logging.Gives P (ticks.go hw (count + 1) completed m) := by
  have hfirst : m.tick hw = (.ok (), (m.tick hw).2) := Prod.ext ok rfl
  rw [ticks.go, loggedTick]
  refine Logging.Gives.bind (P := (· = m.tick hw)) (.after _ fun _ => .pure rfl) fun r hr => ?_
  rw [hr, hfirst]
  exact rest

/-- A tick that fails is the last one. -/
lemma gives_ticks_go_of_error {count completed : Nat} (fault : (m.tick hw).1 = .error f) :
    Logging.Gives (· = ⟨.error f, completed, (m.tick hw).2⟩)
      (ticks.go hw (count + 1) completed m) := by
  have hfirst : m.tick hw = (.error f, (m.tick hw).2) := Prod.ext fault rfl
  rw [ticks.go, loggedTick]
  refine Logging.Gives.bind (P := (· = m.tick hw)) (.after _ fun _ => .pure rfl) fun r hr => ?_
  rw [hr, hfirst]
  exact .pure rfl

/-- Ticks that all succeed are all performed. -/
lemma ticks_go_of_done {count : Nat} (completed : Nat)
    (done : ∀ j < count, ((run hw m (List.replicate j .tick)).tick hw).1 = .ok ()) :
    Logging.Gives (· = ⟨.ok (), completed + count, run hw m (List.replicate count .tick)⟩)
      (ticks.go hw count completed m) := by
  induction count generalizing completed m with
  | zero => exact .pure rfl
  | succ count ih =>
    have hrest := ih (m := (m.tick hw).2) (completed + 1) fun j hj =>
      done (j + 1) (Nat.succ_lt_succ hj)
    refine gives_ticks_go_of_ok (m := m) (done 0 (Nat.succ_pos count)) ?_
    rw [show completed + (count + 1) = completed + 1 + count by omega]
    exact hrest

/-- Ticks stop at the first one that fails, and leave what it leaves. -/
lemma ticks_go_of_fault {count k : Nat} (completed : Nat) (hk : k < count)
    (done : ∀ j < k, ((run hw m (List.replicate j .tick)).tick hw).1 = .ok ())
    (fault : ((run hw m (List.replicate k .tick)).tick hw).1 = .error f) :
    Logging.Gives
      (· = ⟨.error f, completed + k, ((run hw m (List.replicate k .tick)).tick hw).2⟩)
      (ticks.go hw count completed m) := by
  induction k generalizing count completed m with
  | zero =>
    obtain ⟨left, rfl⟩ := Nat.exists_eq_add_of_lt hk
    exact gives_ticks_go_of_error fault
  | succ k ih =>
    obtain ⟨left, rfl⟩ := Nat.exists_eq_add_of_lt hk
    have hleft : k < k + 1 + left := by omega
    have hrest := ih (m := (m.tick hw).2) (completed + 1) hleft
      (fun j hj => done (j + 1) (Nat.succ_lt_succ hj)) fault
    refine gives_ticks_go_of_ok (m := m) (done 0 (Nat.succ_pos k)) ?_
    rw [show completed + (k + 1) = completed + 1 + k by omega]
    exact hrest

/-- Ticks that leave the processor as it is can go on for any time. -/
lemma run_replicate_of_still (still : m.tick hw = (.ok (), m)) (k : Nat) :
    run hw m (List.replicate k .tick) = m := by
  induction k with
  | zero => rfl
  | succ k ih =>
    rw [List.replicate_succ, run, List.foldl_cons, ← run]
    rw [Request.perform, still]
    exact ih

end Interpreter

namespace Machine

variable {m after : Machine} {f : Fault} {k n : Nat}

/-- What a tick of the next frame comes to. -/
def tickAt (m : Machine) (k : Nat) : Except Fault Unit × Interpreter :=
  (m.inFrame k).tick m.hardware

/-! ### One frame -/

lemma runFrame_of_done (done : ∀ k < m.cyclesPerFrame, (m.tickAt k).1 = .ok ()) :
    Logging.Gives (· = (.ok (), { m with
      interpreter := (m.inFrame m.cyclesPerFrame).tickTimers
      frames := m.frames + 1 })) m.runFrame := by
  have hticks := (Interpreter.ticks_go_of_done 0 done).result
  have hframe := runFrame_eq m
  rw [Interpreter.ticks, hticks] at hframe
  exact hframe

lemma runFrame_of_fault (hk : k < m.cyclesPerFrame) (done : ∀ j < k, (m.tickAt j).1 = .ok ())
    (fault : (m.tickAt k).1 = .error f) :
    Logging.Gives (· = (.error f, m.withInterpreter (m.tickAt k).2)) m.runFrame := by
  have hticks := (Interpreter.ticks_go_of_fault 0 hk done fault).result
  have hframe := runFrame_eq m
  rw [Interpreter.ticks, hticks] at hframe
  exact hframe

/-- What the next frame of a machine comes to. -/
structure RunsTicks (m : Machine) : Prop where
  /-- If all ticks succeed, the timers take a step behind them and the frame counts. -/
  completes : (∀ k < m.cyclesPerFrame, (m.tickAt k).1 = .ok ()) →
    Logging.Gives (· = (.ok m.cyclesPerFrame, { m with
      interpreter := (m.inFrame m.cyclesPerFrame).tickTimers
      frames := m.frames + 1 })) m.countedFrame
  /-- The first tick that fails ends the frame with its fault, and nothing else is done. -/
  stops : ∀ k < m.cyclesPerFrame, (∀ j < k, (m.tickAt j).1 = .ok ()) →
    ∀ f, (m.tickAt k).1 = .error f →
      Logging.Gives (· = (.error f, m.withInterpreter (m.tickAt k).2)) m.countedFrame

/-- Every machine runs its frames so, by whatever table and in whatever state. -/
theorem runsTicks (m : Machine) : m.RunsTicks := by
  constructor
  · intro done
    refine (runFrame_of_done done).bind fun r hr => ?_
    subst hr
    exact .pure rfl
  · intro k hk done f fault
    refine (runFrame_of_fault hk done fault).bind fun r hr => ?_
    subst hr
    exact .pure rfl

/-- Either all ticks of a frame succeed, or there is a first one that fails. -/
lemma exists_first_fault (h : ¬∀ k < m.cyclesPerFrame, (m.tickAt k).1 = .ok ()) :
    ∃ k < m.cyclesPerFrame, (∀ j < k, (m.tickAt j).1 = .ok ()) ∧
      ∃ f, (m.tickAt k).1 = .error f := by
  classical
  push Not at h
  obtain ⟨hk, hfails⟩ := Nat.find_spec h
  refine ⟨Nat.find h, hk, fun j hj => ?_, ?_⟩
  · have hbefore := Nat.find_min h hj
    push Not at hbefore
    exact hbefore (hj.trans hk)
  · rcases ho : (m.tickAt (Nat.find h)).1 with f | _
    · exact ⟨f, rfl⟩
    · exact absurd ho hfails

lemma completes_iff : m.Completes ↔ ∀ k < m.cyclesPerFrame, (m.tickAt k).1 = .ok () := by
  constructor
  · intro completes
    by_contra h
    obtain ⟨k, hk, done, f, fault⟩ := exists_first_fault h
    have hframe := (runFrame_of_fault hk done fault).result
    rw [Completes, hframe] at completes
    cases completes
  · intro done
    rw [Completes, (runFrame_of_done done).result]

lemma completes_of_still (still : m.interpreter.tick m.hardware = (.ok (), m.interpreter)) :
    m.Completes := by
  refine completes_iff.2 fun k _ => ?_
  rw [tickAt, inFrame, Interpreter.run_replicate_of_still still, still]

/-- A frame that fails has a first tick that fails with the same fault. -/
lemma exists_fault_of_frame (fault : (Logging.result m.runFrame).1 = .error f) :
    ∃ k < m.cyclesPerFrame, (∀ j < k, (m.tickAt j).1 = .ok ()) ∧ (m.tickAt k).1 = .error f ∧
      m.afterFrame = m.withInterpreter (m.tickAt k).2 := by
  have h : ¬∀ k < m.cyclesPerFrame, (m.tickAt k).1 = .ok () := by
    rw [← completes_iff, Completes, fault]
    rintro ⟨⟩
  obtain ⟨k, hk, done, f', fault'⟩ := exists_first_fault h
  have hframe := (runFrame_of_fault hk done fault').result
  rw [hframe] at fault
  refine ⟨k, hk, done, fault'.trans fault, ?_⟩
  rw [afterFrame, hframe]

/-! ### Frames one after another -/

/-- What completed frames ask of the processor: the ticks of each, and a step of the timers. -/
def frameTicks (m : Machine) (n : Nat) : List Interpreter.Request :=
  (List.replicate n (List.replicate m.cyclesPerFrame .tick ++ [.timers])).flatten

lemma afterFrame_of_completes (completes : m.Completes) : m.afterFrame = { m with
    interpreter := Interpreter.run m.hardware m.interpreter (m.frameTicks 1)
    frames := m.frames + 1 } := by
  rw [afterFrame, (runFrame_of_done (completes_iff.1 completes)).result, frameTicks,
    List.replicate_one, List.flatten_singleton, Interpreter.run_append]
  rfl

lemma afterFrames_of_completes (completes : ∀ j < n, (m.afterFrames j).Completes) :
    m.afterFrames n = { m with
      interpreter := Interpreter.run m.hardware m.interpreter (m.frameTicks n)
      frames := m.frames + n } := by
  induction n with
  | zero => rfl
  | succ n ih =>
    have hbefore := ih fun j hj => completes j (Nat.lt_succ_of_lt hj)
    have hlast := afterFrame_of_completes (completes n (Nat.lt_succ_self n))
    have hticks : m.frameTicks (n + 1) = m.frameTicks n ++ m.frameTicks 1 := by
      simp only [frameTicks, List.replicate_succ', List.flatten_append, List.replicate_zero,
        List.nil_append]
    rw [afterFrames_succ, hlast, hbefore, hticks, Interpreter.run_append]
    rfl

/-! ### After a fault -/

/-- A machine is the same as before, but that keys may have gone down and up. -/
structure StandsStill (m after : Machine) : Prop where
  kept : Kept m after
  interpreter : ∃ keys, after.interpreter = { m.interpreter with keys }
  frames : after.frames = m.frames

lemma StandsStill.refl (m : Machine) : StandsStill m m := ⟨.refl m, ⟨_, rfl⟩, rfl⟩

/-- Whether a request runs a frame or is for the keypad. -/
def Request.goesOn : Request → Bool
  | .frame | .keypad _ => true
  | _ => false

/-- What the processor hears of the keypad changes nothing but its keys. -/
lemma exists_keys_deliver (p : Interpreter) (notices : List Notice) :
    ∃ keys, deliver p notices = { p with keys } := by
  induction notices generalizing p with
  | nil => exact ⟨p.keys, rfl⟩
  | cons n notices ih =>
    rw [deliver, List.foldl_cons, ← deliver]
    by_cases hears : n.listener = .processor
    · obtain ⟨keys, hkeys⟩ := ih (p.setKey n.key n.pressed)
      rw [if_pos hears, hkeys]
      exact ⟨keys, rfl⟩
    · rw [if_neg hears]
      exact ih p

/-- The standard table names no routine that there is not. -/
lemma Proper.present (h : m.Proper) (p : Interpreter) : ¬p.MissesRoutine m.hardware := by
  rintro ⟨w, row, name, -, decoded, routine⟩
  rw [h.table] at decoded
  obtain ⟨op, hop⟩ := Table.exists_known_of_mem_standard row
    ((Table.decode_standard_iff w row).1 decoded).1
  cases hop.symm.trans routine

lemma Proper.inRange_inFrame (h : m.Proper) (k : Nat) : (m.inFrame k).InRange := by
  rw [inFrame, h.hardware_eq]
  exact h.inRange.run _

lemma Proper.tickAt_of_fault (h : m.Proper) (fault : (m.tickAt k).1 = .error f) :
    (m.tickAt k).2 = m.inFrame k :=
  (h.inRange_inFrame k).eq_of_fault_of_present (h.present _) fault

namespace StandsStill

/-- Where the next tick fails, so does the next frame, and it leaves the machine as it is. -/
lemma runFrame (still : StandsStill m after) (h : m.Proper) (pos : 0 < m.cyclesPerFrame)
    (fault : (m.interpreter.tick m.hardware).1 = .error f) :
    Logging.Gives (· = (.error f, after)) after.runFrame := by
  obtain ⟨keys, hkeys⟩ := still.interpreter
  have same : m.interpreter.SameInside after.interpreter := ⟨_, _, keys, hkeys⟩
  have hrange : after.interpreter.InRange := h.inRange.of_same (by rw [hkeys])
  have htick : after.tickAt 0 = (.error f, after.interpreter) := by
    change after.interpreter.tick after.hardware = _
    rw [still.kept.hardware]
    exact h.inRange.tick_of_sameInside (h.present _) fault hrange same
  have hframe := runFrame_of_fault (still.kept.cycles ▸ pos) (fun j hj => absurd hj j.not_lt_zero)
    (congrArg Prod.fst htick)
  rw [htick] at hframe
  exact hframe

lemma perform (still : StandsStill m after) (h : m.Proper) (pos : 0 < m.cyclesPerFrame)
    (fault : (m.interpreter.tick m.hardware).1 = .error f) {r : Request} (goes : r.goesOn = true) :
    Logging.Gives (fun x => StandsStill m x.2) (r.perform after) := by
  cases r with
  | frame =>
    refine (still.runFrame h pos fault).bind fun r hr => ?_
    subst hr
    exact .pure still
  | keypad r =>
    intro log
    refine ⟨still.kept.trans (kept_perform after (.keypad r) log), ?_, still.frames⟩
    obtain ⟨keys, hkeys⟩ := still.interpreter
    obtain ⟨keys', hkeys'⟩ := exists_keys_deliver after.interpreter
      ((r.answer after.keypad).run log).1.notices
    refine ⟨keys', hkeys'.trans ?_⟩
    rw [hkeys]
  | reset | processor | assign => cases goes

lemma run (still : StandsStill m after) (h : m.Proper) (pos : 0 < m.cyclesPerFrame)
    (fault : (m.interpreter.tick m.hardware).1 = .error f) {later : List Request}
    (goes : ∀ r ∈ later, r.goesOn = true) :
    Logging.Gives (fun x => StandsStill m x.2) (after.run later) := by
  induction later generalizing after with
  | nil => exact .pure still
  | cons r later ih =>
    rw [List.forall_mem_cons] at goes
    exact (still.perform h pos fault goes.1).bind fun x hx =>
      (ih hx goes.2).bind fun y hy => .pure hy

end StandsStill

/-! ### The law of frames -/

/-- What the frames come to where a tick that fails changes nothing. -/
structure FrameLaw (m : Machine) : Prop where
  /-- A tick that fails leaves what the ticks before it led to. -/
  atomic : ∀ k f, (m.tickAt k).1 = .error f → (m.tickAt k).2 = m.inFrame k
  /-- Completed frames are their ticks, with a step of the timers behind those of each. -/
  row : ∀ n, (∀ j < n, (m.afterFrames j).Completes) → m.afterFrames n = { m with
    interpreter := Interpreter.run m.hardware m.interpreter (m.frameTicks n)
    frames := m.frames + n }
  /-- After a frame that failed, frames and keys change nothing but keys, and the next frame fails
  in the same way and changes nothing at all. -/
  halts : ∀ f, (Logging.result m.countedFrame).1 = .error f →
    ∀ later, (∀ r ∈ later, r.goesOn = true) →
      Logging.Gives (fun x => StandsStill m.afterFrame x.2 ∧
        Logging.Gives (· = (.error f, x.2)) x.2.countedFrame) (m.afterFrame.run later)

lemma Proper.halts (h : m.Proper) (fault : (Logging.result m.runFrame).1 = .error f)
    {later : List Request} (goes : ∀ r ∈ later, r.goesOn = true) :
    Logging.Gives (fun x => StandsStill m.afterFrame x.2 ∧
      Logging.Gives (· = (.error f, x.2)) x.2.countedFrame) (m.afterFrame.run later) := by
  obtain ⟨k, hk, -, hfault, hafter⟩ := exists_fault_of_frame fault
  have hproper : m.afterFrame.Proper := h.runFrame.result.1
  have hpos : 0 < m.afterFrame.cyclesPerFrame := by
    rw [hafter]
    exact Nat.zero_lt_of_lt hk
  have hnext : (m.afterFrame.interpreter.tick m.afterFrame.hardware).1 = .error f := by
    rw [hafter, h.tickAt_of_fault hfault]
    exact hfault
  refine ((StandsStill.refl m.afterFrame).run hproper hpos hnext goes).mono fun x still => ?_
  refine ⟨still, (still.runFrame hproper hpos hnext).bind fun r hr => ?_⟩
  subst hr
  exact .pure rfl

lemma Proper.frameLaw (h : m.Proper) : m.FrameLaw where
  atomic _ _ := h.tickAt_of_fault
  row _ := afterFrames_of_completes
  halts f fault later goes := by
    refine h.halts ?_ goes
    have hcounted : (Logging.result m.countedFrame).1 =
        (Logging.result m.runFrame).1.map fun () => m.cyclesPerFrame := rfl
    rw [hcounted] at fault
    rcases ho : (Logging.result m.runFrame).1 with f' | _ <;> rw [ho] at fault <;> cases fault
    rfl

/-- **A frame is its ticks and one step of the timers.** That holds of every machine, in whatever
state and by whatever table: if all ticks of a frame succeed, the timers step behind them, the frame
counts and tells how many ticks there were; the first tick that fails ends it with its fault. In a
machine that was made and used without a debugger such a tick leaves what the ticks before it led
to; frames that are completed one after another are the ticks of all of them, with the timers
stepping behind those of each; and after a frame that failed every other one fails in the same way,
whatever keys go down and up, and changes nothing. -/
theorem frames_run_ticks : (∀ m : Machine, m.RunsTicks) ∧
    ∀ (program : List UInt8) (cycles : Int) (random : Nat → UInt8) (pad : Keypad) (m : Machine),
      create program cycles random pad = .ok m →
      ∀ requests : List Request, (∀ r ∈ requests, r.leavesRegisters = true) →
      ∀ log : Log, FrameLaw ((m.run requests).run log).1.2 := by
  refine ⟨runsTicks, fun program cycles random pad m made requests leave log => ?_⟩
  have used : ((m.run requests).run log).1.2.Proper := (proper_of_create made).run leave log
  exact used.frameLaw

/-- A machine that returns from nowhere in the second tick of its frame, while a key is held. -/
theorem frames_run_ticks_return :
    ∃ m, create [0x60, 0x05, 0x00, 0xEE] 3 (fun _ => 0) Keypad.standard = .ok m ∧
      let used := ((m.run [.keypad (.changeAt true 5)]).run {}).1.2
      (Logging.result used.runFrame).1 = .error (.stackUnderflow 0x202) ∧
        used.RunsTicks ∧ used.FrameLaw := by
  let requests : List Request := [.keypad (.changeAt true 5)]
  obtain ⟨m, made⟩ : ∃ m, create [0x60, 0x05, 0x00, 0xEE] 3 (fun _ => 0) Keypad.standard = .ok m :=
    exists_create (by decide) (by decide) _
  have fault : ((create [0x60, 0x05, 0x00, 0xEE] 3 (fun _ => 0) Keypad.standard).toOption.any
      fun m => decide ((Logging.result ((m.run requests).run {}).1.2.runFrame).1 =
        .error (.stackUnderflow 0x202))) = true := by
    decide +kernel
  rw [made] at fault
  have leave : ∀ r ∈ requests, r.leavesRegisters = true := by
    simp [requests, Request.leavesRegisters]
  exact ⟨m, made, of_decide_eq_true fault, frames_run_ticks.1 _,
    frames_run_ticks.2 _ _ _ _ m made requests leave {}⟩

end Machine

end Chip8
