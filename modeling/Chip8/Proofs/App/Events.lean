import Chip8.Proofs.App.Keys
import Chip8.Proofs.Machine.Frames

/-!
Scripts of events.

What the event loop does to a machine is told by batches of events: those of a batch one after
another, and a frame behind them (`turned`). What the machine shows of a script are the frames since
the last batch with a reset (`frames_played`), and on its keypad the host keys of all batches
(`keypad_played`).
-/

namespace Chip8

namespace Event

/-- What the front end does for an event, besides going on or not. -/
def move : Event → Option App.Move
  | .keyDown name =>
    if name = "escape" then none else if name = "f5" then some .reset else some (.key name true)
  | .keyUp name => some (.key name false)
  | .quit | .other => none

/-- Whether an event ends the loop. -/
def isQuit : Event → Bool
  | .quit => true
  | .keyDown name => name = "escape"
  | _ => false

/-- Whether an event resets the machine. -/
def isReset : Event → Bool
  | .keyDown name => name = "f5"
  | _ => false

/-- An event is for nothing, for a reset or for a host key. -/
inductive Means : Event → Option App.Move → Prop
  | nothing {e : Event} (stays : e.isReset = false) : Means e none
  | reset {e : Event} (resets : e.isReset = true) (goesOn : e.isQuit = false) :
      Means e (some .reset)
  | key {e : Event} {name : Text} {pressed : Bool} (stays : e.isReset = false)
      (goesOn : e.isQuit = false) : Means e (some (.key name pressed))

lemma means_move (e : Event) : Means e e.move := by
  cases e with
  | quit | other => exact .nothing rfl
  | keyUp name => exact .key rfl rfl
  | keyDown name =>
    rw [move]
    split_ifs with hescape hf5
    · refine .nothing ?_
      rw [isReset, hescape]
      decide
    · refine .reset (decide_eq_true hf5) (decide_eq_false hescape)
    · exact .key (decide_eq_false hf5) (decide_eq_false hescape)

end Event

namespace Machine

open App (Move)

variable {m : Machine}

/-- The machine after a move. -/
def moved (m : Machine) (move : Move) : Machine :=
  match move.request with
  | none => m
  | some r => (Logging.result (r.perform m)).2

/-- The machine after an event. -/
def hear (m : Machine) (e : Event) : Machine :=
  match e.move with
  | none => m
  | some move => m.moved move

/-- The machine after the events of a batch. -/
def heard (m : Machine) (batch : List Event) : Machine := batch.foldl hear m

/-- The machine after a turn: the events of the batch, and a frame. -/
def turned (m : Machine) (batch : List Event) : Machine := (m.heard batch).afterFrame

lemma leaves_of_request {move : Move} {r : Request} (h : move.request = some r) :
    r.leavesRegisters = true := by
  cases move with
  | key name pressed =>
    obtain ⟨key, -, rfl⟩ := Option.map_eq_some_iff.1 h
    rfl
  | frame | reset => cases h; rfl
  | tone => cases h

namespace Proper

lemma moved (h : m.Proper) (move : Move) : (m.moved move).Proper := by
  rw [Machine.moved]
  split
  · exact h
  · exact (h.perform (leaves_of_request ‹_›)).result

lemma reset_eq_moved (h : m.Proper) : m.reset = .ok (m.moved .reset) := by
  obtain ⟨after, hafter⟩ := h.exists_reset
  rw [hafter]
  change _ = Except.ok (Logging.result (Request.reset.perform m)).2
  rw [Request.perform, hafter]
  rfl

lemma hear (h : m.Proper) (e : Event) : (m.hear e).Proper := by
  rw [Machine.hear]
  split
  · exact h
  · exact h.moved _

lemma heard (h : m.Proper) (batch : List Event) : (m.heard batch).Proper := by
  induction batch generalizing m with
  | nil => exact h
  | cons e batch ih => exact ih (h.hear e)

lemma turned (h : m.Proper) (batch : List Event) : (m.turned batch).Proper :=
  (h.heard batch).runFrame.result.1

end Proper

/-! ### Scripts -/

/-- The machine after turns. -/
def played (m : Machine) (batches : List (List Event)) : Machine := batches.foldl turned m

/-- The machines after each of the turns. -/
def stages (m : Machine) : List (List Event) → List Machine
  | [] => []
  | batch :: batches => m.turned batch :: (m.turned batch).stages batches

/-- The frame of every turn is completed. -/
def Survives (m : Machine) : List (List Event) → Prop
  | [] => True
  | batch :: batches => (m.heard batch).Completes ∧ (m.turned batch).Survives batches

instance decidableSurvives : (m : Machine) → (batches : List (List Event)) →
    Decidable (m.Survives batches)
  | _, [] => .isTrue trivial
  | m, batch :: batches =>
    have := (m.turned batch).decidableSurvives batches
    inferInstanceAs (Decidable ((m.heard batch).Completes ∧ (m.turned batch).Survives batches))

lemma played_concat (m : Machine) (before : List (List Event)) (batch : List Event) :
    m.played (before ++ [batch]) = (m.played before).turned batch :=
  List.foldl_concat ..

lemma length_stages (m : Machine) (batches : List (List Event)) :
    (m.stages batches).length = batches.length := by
  induction batches generalizing m with
  | nil => rfl
  | cons batch batches ih => exact congrArg (· + 1) (ih _)

lemma stages_append (m : Machine) (before since : List (List Event)) :
    m.stages (before ++ since) = m.stages before ++ (m.played before).stages since := by
  induction before generalizing m with
  | nil => rfl
  | cons batch before ih => exact congrArg (m.turned batch :: ·) (ih _)

lemma survives_append_iff {before since : List (List Event)} :
    m.Survives (before ++ since) ↔ m.Survives before ∧ (m.played before).Survives since := by
  induction before generalizing m with
  | nil => exact (true_and _).symm.to_iff
  | cons batch before ih => exact (and_congr_right fun _ => ih).trans and_assoc.symm

lemma Proper.played (h : m.Proper) (batches : List (List Event)) : (m.played batches).Proper := by
  induction batches generalizing m with
  | nil => exact h
  | cons batch batches ih => exact ih (h.turned batch)

/-! ### The keypad -/

end Machine

/-- The keypad after a host key went down or up. -/
def Keypad.typed (pad : Keypad) (stroke : Text × Bool) : Keypad :=
  match canonicalName stroke.1 with
  | none => pad
  | some key => (Logging.result (pad.changeNamed stroke.2 key)).keypad

/-- What host keys did in batches of events. -/
def Event.strokes (batches : List (List Event)) : List (Text × Bool) :=
  App.strokes (batches.flatten.filterMap Event.move)

lemma Event.strokes_cons (batch : List Event) (batches : List (List Event)) :
    strokes (batch :: batches) = App.strokes (batch.filterMap Event.move) ++ strokes batches := by
  rw [strokes, List.flatten_cons, List.filterMap_append, App.strokes, List.filterMap_append]
  rfl

namespace Machine

variable {m : Machine}

lemma keypad_afterFrame (m : Machine) : m.afterFrame.keypad = m.keypad := keypad_runFrame.result

lemma keypad_moved_key (m : Machine) (name : Text) (pressed : Bool) :
    (m.moved (.key name pressed)).keypad = m.keypad.typed (name, pressed) := by
  rw [moved, App.Move.request, Keypad.typed]
  rcases canonicalName name with _ | key <;> rfl

lemma keypad_moved_reset (m : Machine) : (m.moved .reset).keypad = m.keypad :=
  (keypad_perform (r := .reset) nofun).result

lemma keypad_heard (m : Machine) (batch : List Event) : (m.heard batch).keypad =
    (App.strokes (batch.filterMap Event.move)).foldl Keypad.typed m.keypad := by
  induction batch generalizing m with
  | nil => rfl
  | cons e batch ih =>
    have means := e.means_move
    rw [heard, List.foldl_cons, ← heard, ih, hear, List.filterMap_cons]
    generalize e.move = move at means ⊢
    cases means with
    | nothing => rfl
    | reset =>
      simp only [keypad_moved_reset]
      rfl
    | key =>
      simp only [keypad_moved_key]
      rfl

/-- The keypad follows the host keys. -/
theorem keypad_played (m : Machine) (batches : List (List Event)) :
    (m.played batches).keypad = (Event.strokes batches).foldl Keypad.typed m.keypad := by
  induction batches generalizing m with
  | nil => rfl
  | cons batch batches ih =>
    rw [played, List.foldl_cons, ← played, ih, turned, keypad_afterFrame, keypad_heard,
      Event.strokes_cons, List.foldl_append]

/-! ### The frames -/

/-- The number of the last batch with a reset, or one. -/
def lastReset (batches : List (List Event)) : Nat :=
  (batches.zipIdx 1).foldl (fun b (batch, n) => if batch.any Event.isReset then n else b) 1

lemma lastReset_concat (before : List (List Event)) (batch : List Event) :
    lastReset (before ++ [batch]) =
      if batch.any Event.isReset then before.length + 1 else lastReset before := by
  rw [lastReset, List.zipIdx_append, List.foldl_append, ← lastReset, Nat.add_comm]
  rfl

lemma lastReset_mem (batches : List (List Event)) :
    1 ≤ lastReset batches ∧ lastReset batches ≤ max 1 batches.length := by
  induction batches using List.reverseRecOn with
  | nil => decide
  | append_singleton before batch ih =>
    rw [lastReset_concat, List.length_append, List.length_singleton]
    split <;> omega

lemma frames_afterFrame (completes : m.Completes) : m.afterFrame.frames = m.frames + 1 := by
  have hframe := (runFrame_eq m).result
  rw [Completes, hframe] at completes
  rw [afterFrame, hframe]
  rcases houtcome : (Logging.result (m.interpreter.ticks m.hardware m.cyclesPerFrame)).outcome
    with f | _
  · rw [houtcome] at completes
    cases completes
  · rfl

lemma frames_moved_key (m : Machine) (name : Text) (pressed : Bool) :
    (m.moved (.key name pressed)).frames = m.frames := by
  rw [moved, App.Move.request]
  rcases canonicalName name with _ | key <;> rfl

lemma frames_moved_reset (h : m.Proper) : (m.moved .reset).frames = 0 := by
  obtain ⟨i, -, hi⟩ := reset_eq_ok_iff.1 h.reset_eq_moved
  rw [hi]

lemma frames_heard (h : m.Proper) (batch : List Event) :
    (m.heard batch).frames = if batch.any Event.isReset then 0 else m.frames := by
  induction batch generalizing m with
  | nil => rfl
  | cons e batch ih =>
    have means := e.means_move
    rw [heard, List.foldl_cons, ← heard, ih (h.hear e), hear, List.any_cons]
    generalize e.move = move at means ⊢
    cases means with
    | nothing stays => rw [stays, Bool.false_or]
    | reset resets =>
      rw [resets, Bool.true_or, if_pos rfl]
      simp only [frames_moved_reset h, ite_self]
    | key stays =>
      rw [stays, Bool.false_or]
      simp only [frames_moved_key]

/-- The frames of a new machine are those since the last batch with a reset, that of the batch
included. -/
theorem frames_played (h : m.Proper) (new : m.frames = 0) {batches : List (List Event)}
    (nonempty : batches ≠ []) (survives : m.Survives batches) :
    (m.played batches).frames = batches.length - lastReset batches + 1 := by
  -- from behind, since the last batch with a reset decides
  induction batches using List.reverseRecOn with
  | nil => exact absurd rfl nonempty
  | append_singleton before batch ih =>
    obtain ⟨hbefore, completes, -⟩ := survives_append_iff.1 survives
    rw [played_concat, turned, frames_afterFrame completes, frames_heard (h.played before),
      lastReset_concat, List.length_append, List.length_singleton]
    split
    · omega
    · by_cases hne : before = []
      · subst hne
        exact congrArg (· + 1) new
      · have hlength := List.length_pos_of_ne_nil hne
        have hlast := (lastReset_mem before).2
        rw [ih hne hbefore]
        omega

end Machine

end Chip8
