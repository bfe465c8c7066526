import Chip8.Proofs.App.Moves
import Chip8.Proofs.Keypad.Listeners

/-!
Host keys that are held.

A key of the keypad is down while a host key that stands for it is held. The front end only sees
host keys go down and up, one after another, and several of them can stand for one key. What it
keeps is a number for each key of the keypad, and that is the number of host keys that are held and
stand for it (`Tracks`).
-/

namespace Chip8.App

variable {app : App} {m : Machine} {moves before : List Move} {held : List Text}

/-- What host keys did among moves, in order. -/
def strokes (moves : List Move) : List (Text × Bool) :=
  moves.filterMap fun
    | .key name pressed => some (name, pressed)
    | _ => none

/-- Each host key goes down and up in turn, and first down. -/
def InTurns (moves : List Move) : Prop :=
  ∀ name, (false :: Keypad.waysOf name (strokes moves)).IsChain (· ≠ ·)

/-- It is enough to look at the host keys that did something. -/
lemma inTurns_iff : InTurns moves ↔ ∀ name ∈ (strokes moves).map (·.1),
    (false :: Keypad.waysOf name (strokes moves)).IsChain (· ≠ ·) := by
  refine ⟨fun h name _ => h name, fun h name => ?_⟩
  by_cases hname : name ∈ (strokes moves).map (·.1)
  · exact h name hname
  · have hnone : Keypad.waysOf name (strokes moves) = [] := by
      rw [Keypad.waysOf, List.map_eq_nil_iff, List.filter_eq_nil_iff]
      intro e he heq
      exact hname (List.mem_map.2 ⟨e, he, of_decide_eq_true heq⟩)
    rw [hnone]
    exact .singleton false

instance : Decidable (InTurns moves) := decidable_of_iff _ inTurns_iff.symm

/-- The last thing that a host key did was to go down. -/
def IsHeld (moves : List Move) (name : Text) : Prop :=
  (Keypad.waysOf name (strokes moves)).getLast? = some true

instance {name : Text} : Decidable (IsHeld moves name) :=
  inferInstanceAs (Decidable (_ = some true))

/-- The key of the keypad that a host key stands for. -/
def keyOf (name : Text) : Option (Fin 16) := (canonicalName name).bind Keypad.standard.lookup

/-! ### The host keys that are held -/

/-- The host keys that are held after a move, the last one first. -/
def hold (held : List Text) : Move → List Text
  | .key name true => name :: held
  | .key name false => held.erase name
  | _ => held

section

variable {name : Text} {move : Move}

lemma waysOf_strokes_self (name : Text) (pressed : Bool) :
    Keypad.waysOf name (strokes (moves ++ [.key name pressed])) =
      Keypad.waysOf name (strokes moves) ++ [pressed] := by
  rw [strokes, List.filterMap_append, Keypad.waysOf_append, ← strokes]
  simp [Keypad.waysOf]

lemma isHeld_key (name n : Text) (pressed : Bool) :
    IsHeld (moves ++ [.key n pressed]) name ↔
      if n = name then pressed = true else IsHeld moves name := by
  split
  · rename_i h
    subst h
    rw [IsHeld, waysOf_strokes_self, List.getLast?_concat, Option.some.injEq]
  · rename_i h
    rw [IsHeld, strokes, List.filterMap_append, Keypad.waysOf_append, ← strokes, IsHeld]
    simp [Keypad.waysOf, h]

/-- A move that is not of a host key lets them be. -/
lemma isHeld_of_other (name : Text) (other : ∀ n pressed, move ≠ .key n pressed) :
    IsHeld (moves ++ [move]) name ↔ IsHeld moves name := by
  rw [IsHeld, strokes, List.filterMap_append, Keypad.waysOf_append, ← strokes, IsHeld]
  cases move with
  | key n pressed => exact absurd rfl (other n pressed)
  | frame | reset | tone => simp [Keypad.waysOf]

lemma InTurns.of_prefix (turns : InTurns moves) (h : before <+: moves) : InTurns before := by
  obtain ⟨later, rfl⟩ := h
  intro name
  have hall := turns name
  rw [strokes, List.filterMap_append, Keypad.waysOf_append, ← List.cons_append] at hall
  exact hall.left_of_append

/-- A host key that is in turn goes down if it is up, and up if it is down. -/
lemma InTurns.isHeld_iff {pressed : Bool} (turns : InTurns (moves ++ [.key name pressed])) :
    IsHeld moves name ↔ pressed = false := by
  have hall := turns name
  rw [waysOf_strokes_self, ← List.cons_append, List.isChain_append] at hall
  have hlast := hall.2.2 _ List.getLast?_cons pressed rfl
  rw [IsHeld]
  rcases hways : (Keypad.waysOf name (strokes moves)).getLast? with _ | way
  · rw [hways] at hlast
    cases pressed with
    | false => exact absurd rfl hlast
    | true => exact iff_of_false nofun nofun
  · rw [hways] at hlast
    cases pressed <;> cases way <;> simp_all

end

/-- Those that are held are each on the list once. -/
lemma held_of_inTurns (turns : InTurns moves) :
    (moves.foldl hold []).Nodup ∧ ∀ name, name ∈ moves.foldl hold [] ↔ IsHeld moves name := by
  -- From the end, because only the last move of a host key decides whether it is held.
  induction moves using List.reverseRecOn with
  | nil => exact ⟨List.nodup_nil, fun name => iff_of_false List.not_mem_nil nofun⟩
  | append_singleton moves move ih =>
    obtain ⟨once, hmem⟩ := ih (turns.of_prefix (List.prefix_append ..))
    rw [List.foldl_append, List.foldl_cons, List.foldl_nil]
    cases move with
    | key n pressed =>
      cases pressed with
      | true =>
        have hn : n ∉ moves.foldl hold [] := by
          rw [hmem, turns.isHeld_iff]
          exact Bool.noConfusion
        refine ⟨List.nodup_cons.2 ⟨hn, once⟩, fun name => ?_⟩
        rw [hold, List.mem_cons, hmem, isHeld_key]
        split
        · rename_i h
          exact iff_of_true (.inl h.symm) rfl
        · rename_i h
          exact or_iff_right (Ne.symm h)
      | false =>
        refine ⟨once.erase n, fun name => ?_⟩
        rw [hold, once.mem_erase_iff, hmem, isHeld_key]
        split
        · rename_i h
          exact iff_of_false (fun hname => hname.1 h.symm) Bool.noConfusion
        · rename_i h
          exact and_iff_right (Ne.symm h)
    | frame | reset | tone =>
      refine ⟨once, fun name => ?_⟩
      rw [isHeld_of_other]
      · exact hmem name
      · exact nofun

/-! ### The counts are those of the host keys -/

/-- The machine of the front end counts the host keys that are held. -/
structure Tracks (app : App) (held : List Text) (m : Machine) : Prop where
  attached : app.machine = some m
  mirrors : m.Mirrors
  counted : m.keypad.Counted
  bindings : m.keypad.bindings = Keypad.standardBindings
  counts : ∀ k, m.keypad.count k = held.countP fun name => keyOf name = some k

lemma Tracks.lookup (h : Tracks app held m) {name key : Text}
    (named : canonicalName name = some key) : m.keypad.lookup key = keyOf name := by
  rw [keyOf, named, Option.bind_some, Keypad.lookup, h.bindings]
  rfl

/-- A host key that comes up was held. -/
def Fits (held : List Text) : Move → Prop
  | .key name false => name ∈ held
  | _ => True

lemma countP_hold {name : Text} {pressed : Bool} (fits : Fits held (.key name pressed))
    (p : Text → Bool) :
    (hold held (.key name pressed)).countP p =
      if p name then (if pressed then held.countP p + 1 else held.countP p - 1)
      else held.countP p := by
  cases pressed with
  | true =>
    rw [hold, List.countP_cons, if_pos rfl]
    split <;> rfl
  | false =>
    have hmem : name ∈ held := fits
    rw [hold, List.countP_erase, if_neg Bool.false_ne_true]
    simp only [hmem, true_and]
    split <;> rfl

lemma Tracks.of_keypad_eq (h : Tracks app held m) {app' : App} {after : Machine}
    (attached : app'.machine = some after) (mirrors : after.Mirrors)
    (same : after.keypad = m.keypad) : Tracks app' held after :=
  ⟨attached, mirrors, same ▸ h.counted, same ▸ h.bindings, same ▸ h.counts⟩

/-- What a move leaves counts the host keys that are held then. -/
lemma Tracks.perform (h : Tracks app held m) {move : Move} (fits : Fits held move) :
    ∃ m, Tracks (move.perform.run.run app).2 (hold held move) m := by
  obtain ⟨log, hmachine⟩ := machine_perform h.attached move
  cases move with
  | key name pressed =>
    rw [Move.request] at hmachine
    rcases hname : canonicalName name with _ | key
    · have hkey : keyOf name = none := by rw [keyOf, hname, Option.bind_none]
      rw [hname] at hmachine
      refine ⟨m, hmachine, h.mirrors, h.counted, h.bindings, fun k => ?_⟩
      rw [countP_hold fits, hkey, if_neg (by simp), h.counts]
    · rw [hname] at hmachine
      let r : Keypad.Request := .change pressed key
      refine ⟨_, hmachine, h.mirrors.perform rfl log, h.counted.answer r log, ?_, fun k => ?_⟩
      · exact (Keypad.bindings_answer r log).trans h.bindings
      · refine ((Keypad.obeyed_answer m.keypad r log).counts k).trans ?_
        rw [Keypad.tally_change, h.lookup hname, countP_hold fits, h.counts]
        simp
  | frame =>
    exact ⟨_, h.of_keypad_eq hmachine (h.mirrors.perform rfl log)
      (Machine.keypad_perform (r := .frame) (by simp) log)⟩
  | reset =>
    exact ⟨_, h.of_keypad_eq hmachine (h.mirrors.perform rfl log)
      (Machine.keypad_perform (r := .reset) (by simp) log)⟩
  | tone => exact ⟨m, h.of_keypad_eq hmachine h.mirrors rfl⟩

/-- Over moves in turns the machine counts the host keys that are held. -/
theorem Tracks.after (h : Tracks app [] m) (turns : InTurns moves) :
    ∃ m, Tracks (app.after moves) (moves.foldl hold []) m := by
  induction moves using List.reverseRecOn with
  | nil => exact ⟨m, h⟩
  | append_singleton moves move ih =>
    have hbefore : InTurns moves := turns.of_prefix (List.prefix_append ..)
    obtain ⟨m, hm⟩ := ih hbefore
    -- a host key that comes up in turn went down before, so its count does not stop at nothing
    have hfits : Fits (moves.foldl hold []) move := by
      rcases move with ⟨name, _ | _⟩ | _ | _ | _
      · exact ((held_of_inTurns hbefore).2 name).2 (turns.isHeld_iff.2 rfl)
      all_goals trivial
    rw [App.after, List.foldl_append, List.foldl_append]
    exact hm.perform hfits

/-! ### No key is stuck, and none is lost -/

/-- The machine for a program image counts no host key. -/
lemma tracks_of_createMachine {files : FileSystem} {path : Path} {maker : App}
    (made : ((createMachine files path).run.run maker).1 = .ok m) (attached : app.machine = some m) :
    Tracks app [] m := by
  obtain ⟨data, rom, -, -, hcreate⟩ := createMachine_eq_ok_iff.1 made
  obtain ⟨-, i, -, rfl⟩ := Machine.create_eq_ok_iff.1 hcreate
  obtain ⟨hcounted, hzero⟩ := Keypad.counted_of_untouched Keypad.standardBindings [.processor]
  exact ⟨attached, Machine.mirrors_of_create hcreate, hcounted, rfl, hzero⟩

/-- A host key that stands for none changes nothing in the machine. -/
lemma Tracks.machine_of_unbound (h : Tracks app held m) {name : Text} (unbound : keyOf name = none)
    (pressed : Bool) : ((Move.key name pressed).perform.run.run app).2.machine = some m := by
  obtain ⟨log, hmachine⟩ := machine_perform h.attached (.key name pressed)
  rw [Move.request] at hmachine
  rw [hmachine]
  rcases hname : canonicalName name with _ | key
  · rfl
  · have hkey : m.keypad.lookup key = none := (h.lookup hname).trans unbound
    let r : Keypad.Request := .change pressed key
    have hrejected : r.IsRejected m.keypad := hkey
    obtain ⟨hkeypad, hnotices, -⟩ := (Keypad.obeyed_answer m.keypad r log).rejects hrejected
    change some { m with
      keypad := ((r.answer m.keypad).run log).1.keypad
      interpreter := Machine.deliver m.interpreter ((r.answer m.keypad).run log).1.notices } = some m
    rw [hkeypad, hnotices]
    rfl

/-- **No key is stuck, and none is lost.** Take a front end with a machine as it makes one for a
program image, and let host keys go down and up in turn, with frames, resets and the tone between.
At every moment a key of the keypad is down, and the processor has it down, just when a host key
that stands for it is held; and a host key that stands for none changes nothing in the machine. -/
theorem down_iff_held {files : FileSystem} {path : Path} {maker : App}
    (made : ((createMachine files path).run.run maker).1 = .ok m) (attached : app.machine = some m)
    (turns : InTurns moves) (now : before <+: moves) :
    ∃ m, (app.after before).machine = some m ∧
      (∀ k, (m.keypad.isDown k = true ↔ ∃ name, IsHeld before name ∧ keyOf name = some k) ∧
        entry m.interpreter.keys k = m.keypad.isDown k) ∧
      ∀ name pressed, keyOf name = none →
        ((Move.key name pressed).perform.run.run (app.after before)).2.machine = some m := by
  have hbefore : InTurns before := turns.of_prefix now
  obtain ⟨m, hm⟩ := (tracks_of_createMachine made attached).after hbefore
  refine ⟨m, hm.attached, fun k => ⟨?_, ?_⟩, fun name pressed unbound => ?_⟩
  · rw [hm.counted, decide_eq_true_eq, hm.counts, List.countP_pos_iff]
    simp only [(held_of_inTurns hbefore).2, decide_eq_true_eq]
  · rw [hm.mirrors.keys, Keypad.isDown]
  · exact hm.machine_of_unbound unbound pressed

/-- Two host keys for one key of the keypad, twice; two that stand for none; and the machine is
reset while some are held. -/
theorem down_iff_held_aliases :
    let files : FileSystem := ⟨fun _ => .file [0x12, 0x00]⟩
    let maker := create {} {} {}
    let before : List Move := [.key "4" true, .key "[4]" true, .key "left shift" true, .frame,
      .key "4" false, .key "W" true, .reset, .key "w" true, .key "k" true, .key "W" false]
    let moves := before ++ [.tone, .key "[4]" false, .key "4" true]
    ∃ m, ((createMachine files ⟨[], ["jump"]⟩).run.run maker).1 = .ok m ∧ InTurns moves ∧
      before <+: moves ∧ (IsHeld before "[4]" ∧ keyOf "[4]" = some 0xC) ∧
      ∃ m', (({ maker with machine := some m } : App).after before).machine = some m' ∧
        (∀ k, (m'.keypad.isDown k = true ↔ ∃ name, IsHeld before name ∧ keyOf name = some k) ∧
          entry m'.interpreter.keys k = m'.keypad.isDown k) ∧
        ∀ name pressed, keyOf name = none → ((Move.key name pressed).perform.run.run
          (({ maker with machine := some m } : App).after before)).2.machine = some m' := by
  intro files maker before moves
  obtain ⟨m, hcreate⟩ : ∃ m, Machine.create [0x12, 0x00] 10 (fun _ => 0) Keypad.standard = .ok m :=
    Machine.exists_create (by decide) (by decide) _
  have made : ((createMachine files ⟨[], ["jump"]⟩).run.run maker).1 = .ok m :=
    createMachine_eq_ok_iff.2 ⟨_, ⟨[0x12, 0x00], "jump", programStart⟩, rfl, by decide, hcreate⟩
  have turns : InTurns moves := by decide
  have now : before <+: moves := List.prefix_append ..
  exact ⟨m, made, turns, now, ⟨by decide, by decide +kernel⟩, down_iff_held made rfl turns now⟩

end Chip8.App
