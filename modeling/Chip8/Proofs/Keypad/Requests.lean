import Chip8.Keypad
import Chip8.Proofs.Logging

/-!
Requests to a keypad.

What the listeners hear of a request is one notice each for every key that went down or up
(`tell`). Nothing else depends on the listeners: keypads that differ in them only are twins, and
answer every request alike (`Twin.answer`).
-/

namespace Chip8.Keypad

/-- What a host asks of a keypad. -/
inductive Request where
  | change (pressed : Bool) (name : Text)
  | changeAt (pressed : Bool) (index : Int)
  | releaseAll
  | listen (l : Listener)

/-- The answer to a request. -/
def Request.answer (pad : Keypad) : Request → Logging (Answer (Except KeypadError Bool))
  | .change pressed name => do
    let a ← pad.changeNamed pressed name
    pure { value := .ok a.value, keypad := a.keypad, notices := a.notices }
  | .changeAt pressed index => do
    let a ← pad.changeAt pressed index
    pure { value := a.value.map fun _ => true, keypad := a.keypad, notices := a.notices }
  | .releaseAll => pure { value := .ok true, keypad := pad.reset.1, notices := pad.reset.2 }
  | .listen l => pure { value := .ok true, keypad := pad.listen l }

/-- The key that a request presses or releases, and which of the two it asks for. -/
def Request.stroke? (pad : Keypad) : Request → Option (Fin 16 × Bool)
  | .change pressed name => (pad.lookup name).map (·, pressed)
  | .changeAt pressed index => (nibble? index).map (·, pressed)
  | .releaseAll | .listen _ => none

/-- Presses or releases a key. -/
def strike (pad : Keypad) (pressed : Bool) (k : Fin 16) : Keypad × List Notice :=
  if pressed then pad.pressKey k else pad.releaseKey k

/-- All that a request can do, and its answer. -/
inductive Request.Does (pad : Keypad) : Request → Answer (Except KeypadError Bool) → Prop
  | strikes {r : Request} {k : Fin 16} {pressed : Bool}
      (stroke : r.stroke? pad = some (k, pressed)) :
      Does pad r ⟨.ok true, (pad.strike pressed k).1, (pad.strike pressed k).2⟩
  | unbound {pressed : Bool} {name : Text} (unbound : pad.lookup name = none) :
      Does pad (.change pressed name) ⟨.ok false, pad, []⟩
  | outOfRange {pressed : Bool} {index : Int} (outside : nibble? index = none) :
      Does pad (.changeAt pressed index) ⟨.error (.outOfRange index), pad, []⟩
  | releasesAll : Does pad .releaseAll ⟨.ok true, pad.reset.1, pad.reset.2⟩
  | listens (l : Listener) : Does pad (.listen l) ⟨.ok true, pad.listen l, []⟩

variable {α : Type} {pad pad' : Keypad}

/-- A stroke leaves everything but the key that it strikes. -/
lemma exists_strike_eq (pad : Keypad) (pressed : Bool) (k : Fin 16) : ∃ isDown held,
    (pad.strike pressed k).1 = { pad with
      down := setEntry pad.down k isDown
      held := setEntry pad.held k held } := by
  cases pressed with
  | true => exact ⟨_, _, rfl⟩
  | false =>
    change ∃ isDown held, pad.lessOne k = _
    rw [lessOne]
    split
    · exact ⟨_, _, rfl⟩
    · refine ⟨pad.isDown k, some (pad.count k - 1), ?_⟩
      rw [isDown, setEntry_entry]

lemma does_answer (pad : Keypad) (r : Request) : Logging.Gives (r.Does pad) (r.answer pad) := by
  intro log
  cases r with
  | change pressed name =>
    rw [Request.answer, changeNamed]
    rcases hname : pad.lookup name with _ | k
    · exact .unbound hname
    · refine .strikes (k := k) ?_
      rw [Request.stroke?, hname, Option.map_some]
  | changeAt pressed index =>
    rw [Request.answer, changeAt]
    rcases hindex : nibble? index with _ | k
    · exact .outOfRange hindex
    · refine .strikes (k := k) ?_
      rw [Request.stroke?, hindex, Option.map_some]
  | releaseAll => exact .releasesAll
  | listen l => exact .listens l

lemma steady_changeNamed (pressed : Bool) (pad : Keypad) (name : Text) :
    Logging.Steady (pad.changeNamed pressed name) := by
  intro log
  rw [changeNamed]
  rcases pad.lookup name with _ | k <;> rfl

/-- An answer does not hang on the log. -/
lemma steady_answer (pad : Keypad) (r : Request) : Logging.Steady (r.answer pad) := by
  cases r with
  | change pressed name => exact (steady_changeNamed pressed pad name).bind fun _ => .pure _
  | changeAt pressed index =>
    intro log
    rw [Request.answer, changeAt]
    rcases nibble? index with _ | k <;> rfl
  | releaseAll | listen => exact .pure _

/-! ### What is told -/

/-- What the listeners hear of keys that went down or up one after another. -/
def tell (pad : Keypad) (events : List (Fin 16 × Bool)) : List Notice :=
  events.flatMap fun e => pad.notices e.1 e.2

/-- A key that is pressed goes down unless it is. -/
lemma notices_pressKey (k : Fin 16) :
    (pad.pressKey k).2 = pad.tell (if pad.isDown k then [] else [(k, true)]) := by
  simp only [pressKey]
  split <;> simp [tell]

/-- A key that is released goes up with its last press. -/
lemma notices_releaseKey (k : Fin 16) :
    (pad.releaseKey k).2 =
      pad.tell (if pad.isDown k && !(pad.lessOne k).isDown k then [(k, false)] else []) := by
  simp only [releaseKey]
  split <;> simp [tell]

lemma notices_reset :
    pad.reset.2 = pad.tell (((List.finRange 16).filter pad.isDown).map fun k => (k, false)) := by
  simp [reset, tell, List.flatMap_map]

/-! ### What is told accounts for what changed -/

/-- The keys that are down after keys went down or up one after another. -/
def replay (down : Vector Bool 16) (events : List (Fin 16 × Bool)) : Vector Bool 16 :=
  events.foldl (fun down e => setEntry down e.1 e.2) down

lemma replay_cons (down : Vector Bool 16) (e : Fin 16 × Bool) (events : List (Fin 16 × Bool)) :
    replay down (e :: events) = replay (setEntry down e.1 e.2) events := rfl

/-- Keys that all go the same way. -/
lemma entry_replay_map (down : Vector Bool 16) (ks : List (Fin 16)) (b : Bool) (j : Fin 16) :
    entry (replay down (ks.map fun k => (k, b))) j = if j ∈ ks then b else entry down j := by
  induction ks generalizing down with
  | nil => rfl
  | cons k ks ih =>
    rw [List.map_cons, replay_cons, ih, entry_setEntry]
    by_cases hj : j ∈ ks
    · rw [if_pos hj, if_pos (List.mem_cons_of_mem k hj)]
    · by_cases hk : k = j
      · subst hk
        rw [if_neg hj, if_pos rfl, if_pos List.mem_cons_self]
      · rw [if_neg hj, if_neg hk, if_neg (List.not_mem_cons_of_ne_of_not_mem (Ne.symm hk) hj)]

/-- The keys that are down all go the same way. -/
lemma entry_replay_held (v : Vector Bool 16) (b : Bool) (j : Fin 16) :
    entry (replay v (((List.finRange 16).filter pad.isDown).map fun k => (k, b))) j =
      if pad.isDown j = true then b else entry v j := by
  rw [entry_replay_map]
  simp only [List.mem_filter, List.mem_finRange, true_and]

/-- Each event is a change: the key went the other way than it was. -/
def Edges (down : Vector Bool 16) : List (Fin 16 × Bool) → Prop
  | [] => True
  | e :: events => entry down e.1 ≠ e.2 ∧ Edges (setEntry down e.1 e.2) events

/-- Keys that all go the other way than they were, each once. -/
lemma edges_map {down : Vector Bool 16} {ks : List (Fin 16)} {b : Bool} (once : ks.Nodup)
    (other : ∀ k ∈ ks, entry down k ≠ b) : Edges down (ks.map fun k => (k, b)) := by
  induction ks generalizing down with
  | nil => trivial
  | cons k ks ih =>
    rw [List.nodup_cons] at once
    rw [List.forall_mem_cons] at other
    refine ⟨other.1, ih once.2 fun j hj => ?_⟩
    have hkj : k ≠ j := fun h => once.1 (h ▸ hj)
    rw [entry_setEntry_ne down b hkj]
    exact other.2 j hj

/-- The listeners hear of everything that changed and of nothing else: the keys that were down, with
what is told replayed on them, are the keys that are down, and each event is a change. -/
def Accounts (pad after : Keypad) (notices : List Notice) : Prop :=
  ∃ events, notices = pad.tell events ∧ after.down = replay pad.down events ∧
    Edges pad.down events

lemma accounts_pressKey (k : Fin 16) : Accounts pad (pad.pressKey k).1 (pad.pressKey k).2 := by
  refine ⟨_, notices_pressKey k, ?_⟩
  rcases hdown : pad.isDown k
  · exact ⟨rfl, ne_true_of_eq_false hdown, trivial⟩
  · have hself : setEntry pad.down k true = pad.down := by
      rw [← hdown]
      exact setEntry_entry pad.down k
    exact ⟨hself, trivial⟩

lemma accounts_releaseKey (k : Fin 16) :
    Accounts pad (pad.releaseKey k).1 (pad.releaseKey k).2 := by
  refine ⟨_, notices_releaseKey k, ?_⟩
  change (pad.lessOne k).down = _ ∧ _
  by_cases hlast : pad.count k ≤ 1
  · have hafter : (pad.lessOne k).down = setEntry pad.down k false := by rw [lessOne, if_pos hlast]
    have hup : (pad.lessOne k).isDown k = false := by
      rw [isDown, hafter, entry_setEntry_self]
    rw [hafter, hup]
    rcases hdown : pad.isDown k
    · have hself : setEntry pad.down k false = pad.down := by
        rw [← hdown]
        exact setEntry_entry pad.down k
      exact ⟨hself, trivial⟩
    · exact ⟨rfl, ne_false_of_eq_true hdown, trivial⟩
  · have hafter : (pad.lessOne k).down = pad.down := by rw [lessOne, if_neg hlast]
    have hsame : (pad.lessOne k).isDown k = pad.isDown k := by rw [isDown, hafter, isDown]
    rw [hafter, hsame, Bool.and_not_self]
    exact ⟨rfl, trivial⟩

lemma accounts_reset : Accounts pad pad.reset.1 pad.reset.2 := by
  refine ⟨_, notices_reset, entry_ext fun j => ?_, ?_⟩
  · have hup : entry pad.reset.1.down j = false := entry_replicate false j
    rw [entry_replay_held, hup]
    rcases hdown : pad.isDown j
    · exact hdown.symm
    · rfl
  · refine edges_map ((List.nodup_finRange 16).filter _) fun k hk => ?_
    exact ne_false_of_eq_true (List.mem_filter.1 hk).2

lemma accounts_strike (pressed : Bool) (k : Fin 16) :
    Accounts pad (pad.strike pressed k).1 (pad.strike pressed k).2 := by
  cases pressed with
  | true => exact accounts_pressKey k
  | false => exact accounts_releaseKey k

lemma Accounts.refl (pad : Keypad) : Accounts pad pad [] := ⟨[], rfl, rfl, trivial⟩

/-- A request tells of everything that it changes. -/
theorem accounts_answer (r : Request) :
    Logging.Gives (fun a => Accounts pad a.keypad a.notices) (r.answer pad) := by
  refine (does_answer pad r).mono fun a ha => ?_
  cases ha with
  | strikes => exact accounts_strike ..
  | unbound | outOfRange | listens => exact .refl pad
  | releasesAll => exact accounts_reset

/-! ### Listeners stay -/

lemma listeners_strike (pressed : Bool) (k : Fin 16) :
    (pad.strike pressed k).1.listeners = pad.listeners := by
  obtain ⟨_, _, h⟩ := exists_strike_eq pad pressed k
  rw [h]

/-- No listener is taken away or moved. -/
lemma listeners_answer (r : Request) :
    Logging.Gives (fun a => pad.listeners <+: a.keypad.listeners) (r.answer pad) := by
  refine (does_answer pad r).mono fun a ha => ?_
  cases ha with
  | strikes => rw [listeners_strike]
  | unbound | outOfRange | releasesAll => exact List.prefix_rfl
  | listens l => exact List.prefix_append ..

/-! ### Twins -/

/-- Two keypads differ in their listeners only, and the processor is one of them. -/
structure Twin (pad pad' : Keypad) : Prop where
  same : pad' = { pad with listeners := pad'.listeners }
  hears : .processor ∈ pad.listeners
  hears' : .processor ∈ pad'.listeners

/-- Two answers have the same value, leave twins, and tell of the same events. -/
structure AnswerAlike (pad pad' : Keypad) (a a' : Answer α) : Prop where
  value : a'.value = a.value
  keypad : Twin a.keypad a'.keypad
  notices : ∃ events, a.notices = pad.tell events ∧ a'.notices = pad'.tell events

namespace Twin

lemma isDown (h : Twin pad pad') : pad'.isDown = pad.isDown := by rw [h.same]; rfl

lemma lookup (h : Twin pad pad') (name : Text) : pad'.lookup name = pad.lookup name := by
  rw [h.same]; rfl

lemma pressKey (h : Twin pad pad') (k : Fin 16) :
    Twin (pad.pressKey k).1 (pad'.pressKey k).1 := by
  refine ⟨?_, h.hears, h.hears'⟩
  rw [h.same]
  rfl

lemma lessOne (h : Twin pad pad') (k : Fin 16) : Twin (pad.lessOne k) (pad'.lessOne k) := by
  have hcount : pad'.count k = pad.count k := by rw [h.same]; rfl
  simp only [Keypad.lessOne, hcount]
  split <;> exact ⟨by rw [h.same], h.hears, h.hears'⟩

/-- Two changes of a key leave twins, and tell of the same events. -/
def ChangeAlike (pad pad' : Keypad) (r r' : Keypad × List Notice) : Prop :=
  Twin r.1 r'.1 ∧ ∃ events, r.2 = pad.tell events ∧ r'.2 = pad'.tell events

lemma strike (h : Twin pad pad') (pressed : Bool) (k : Fin 16) :
    ChangeAlike pad pad' (pad.strike pressed k) (pad'.strike pressed k) := by
  cases pressed with
  | true =>
    refine ⟨h.pressKey k, _, notices_pressKey k, ?_⟩
    rw [← h.isDown]
    exact notices_pressKey k
  | false =>
    refine ⟨h.lessOne k, _, notices_releaseKey k, ?_⟩
    rw [← h.isDown, ← (h.lessOne k).isDown]
    exact notices_releaseKey k

lemma change (h : Twin pad pad') (pressed : Bool) (k : Fin 16) :
    Logging.Alike (ChangeAlike pad pad') (pad.change pressed k) (pad'.change pressed k) := by
  have hk := h.strike pressed k
  have hcount : (if pressed then pad'.pressKey k else pad'.releaseKey k).1.count k =
      (if pressed then pad.pressKey k else pad.releaseKey k).1.count k := by
    change (pad'.strike pressed k).1.count k = (pad.strike pressed k).1.count k
    rw [hk.1.same]
    rfl
  rw [Keypad.change, Keypad.change]
  simp only [hcount]
  exact .after _ fun _ => .pure hk

lemma changeNamed (h : Twin pad pad') (pressed : Bool) (name : Text) :
    Logging.Alike (AnswerAlike pad pad') (pad.changeNamed pressed name)
      (pad'.changeNamed pressed name) := by
  rw [Keypad.changeNamed, Keypad.changeNamed, h.lookup]
  rcases pad.lookup name with _ | k
  · exact .after _ fun _ => .pure ⟨rfl, h, [], rfl, rfl⟩
  · exact (h.change pressed k).bind fun _ _ hk => .pure ⟨rfl, hk.1, hk.2⟩

lemma changeAt (h : Twin pad pad') (pressed : Bool) (index : Int) :
    Logging.Alike (AnswerAlike pad pad') (pad.changeAt pressed index)
      (pad'.changeAt pressed index) := by
  rw [Keypad.changeAt, Keypad.changeAt]
  rcases nibble? index with _ | k
  · exact .pure ⟨rfl, h, [], rfl, rfl⟩
  · exact (h.change pressed k).bind fun _ _ hk => .pure ⟨rfl, hk.1, hk.2⟩

/-- Twins answer alike. -/
theorem answer (h : Twin pad pad') (r : Request) :
    Logging.Alike (AnswerAlike pad pad') (r.answer pad) (r.answer pad') := by
  cases r with
  | change pressed name =>
    refine (h.changeNamed pressed name).bind fun a a' ha => .pure ⟨?_, ha.keypad, ha.notices⟩
    rw [ha.value]
  | changeAt pressed index =>
    refine (h.changeAt pressed index).bind fun a a' ha => .pure ⟨?_, ha.keypad, ha.notices⟩
    rw [ha.value]
  | releaseAll =>
    refine .pure ⟨rfl, ⟨by rw [h.same]; rfl, h.hears, h.hears'⟩, _, notices_reset, ?_⟩
    rw [← h.isDown]
    exact notices_reset
  | listen l =>
    refine .pure ⟨rfl, ⟨?_, List.mem_append_left _ h.hears, List.mem_append_left _ h.hears'⟩,
      [], rfl, rfl⟩
    simp only [Keypad.listen]
    rw [h.same]

end Twin

end Chip8.Keypad
