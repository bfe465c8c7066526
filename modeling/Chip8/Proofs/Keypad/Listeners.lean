import Chip8.Proofs.Keypad.Counts

/-!
What listeners hear over a row of requests.

The listeners stand in a row and hear of each event in turn, so a listener is known by its place.
All that a request tells are changes (`Edges`), and rows of changes chain (`edges_append`), so over
any row of requests each listener hears of each key in alternation and is left with how the key is.
One that is added has the place behind the others, and from then on hears what they hear (`Joins`).
-/

namespace Chip8.Keypad

variable {pad start : Keypad} {down : Vector Bool 16} {events : List (Fin 16 × Bool)}

/-! ### Rows of requests -/

/-- What a request told, and how many listeners there were to hear it. -/
structure Told where
  listeners : Nat
  notices : List Notice

/-- Answers requests one after another. -/
def run (pad : Keypad) : List Request → Logging (List Told × Keypad)
  | [] => pure ([], pad)
  | r :: requests => do
    let a ← r.answer pad
    let (told, after) ← a.keypad.run requests
    pure (⟨pad.listeners.length, a.notices⟩ :: told, after)

/-- The notices for the listener at a place: the listeners hear of each event in turn. -/
def Told.to (place : Nat) (told : Told) : List Notice :=
  (told.notices.zipIdx.filter fun n => n.2 % told.listeners = place).map (·.1)

/-- All that the listener at a place hears. -/
def heard (place : Nat) (told : List Told) : List Notice := told.flatMap (Told.to place)

/-! ### Counts over a row of requests -/

lemma bindings_answer (r : Request) :
    Logging.Gives (fun a => a.keypad.bindings = pad.bindings) (r.answer pad) := by
  refine (does_answer pad r).mono fun a ha => ?_
  cases ha with
  | @strikes _ k pressed _ =>
    obtain ⟨_, _, h⟩ := exists_strike_eq pad pressed k
    rw [h]
  | unbound | outOfRange | releasesAll | listens => rfl

lemma Counted.answer (h : pad.Counted) (r : Request) :
    Logging.Gives (fun a => a.keypad.Counted) (r.answer pad) := by
  refine (does_answer pad r).mono fun a ha => ?_
  cases ha with
  | strikes => exact h.strike _ _
  | unbound | outOfRange | listens => exact h
  | releasesAll =>
    intro k
    rw [count_reset]
    exact entry_replicate false k

/-- A keypad after requests: its keys are counted, and the requests tell the counts. -/
structure Follows (pad after : Keypad) (requests : List Request) : Prop where
  counted : after.Counted
  bindings : after.bindings = pad.bindings
  counts : ∀ k, after.count k = requests.foldl (tally pad k) (pad.count k)

theorem follows_run (h : pad.Counted) (requests : List Request) :
    Logging.Gives (fun x => pad.Follows x.2 requests) (pad.run requests) := by
  induction requests generalizing pad with
  | nil => exact .pure ⟨h, rfl, fun _ => rfl⟩
  | cons r requests ih =>
    intro log
    have hr : r.Obeyed pad ((r.answer pad).run log).1 := obeyed_answer pad r log
    have hb : ((r.answer pad).run log).1.keypad.bindings = pad.bindings := bindings_answer r log
    have hrest := ih (h.answer r log) ((r.answer pad).run log).2
    refine ⟨hrest.counted, hrest.bindings.trans hb, fun k => ?_⟩
    -- the rest is tallied on the keypad in between, which has the same bindings
    rw [List.foldl_cons, ← hr.counts, ← tally_congr hb]
    exact hrest.counts k

/-- On a keypad that nobody has touched no key is pressed. -/
lemma counted_of_untouched (bindings : List (Text × Fin 16)) (listeners : List Listener) :
    Counted { bindings, listeners } ∧ ∀ k, count { bindings, listeners } k = 0 := by
  have hcount (k : Fin 16) : count { bindings, listeners } k = 0 := by
    rw [count, entry_replicate, Option.getD_none]
  refine ⟨fun k => ?_, hcount⟩
  rw [hcount]
  exact entry_replicate false k

lemma counted_of_ofBindings {bindings : List (Text × Int)} (made : ofBindings bindings = .ok pad) :
    pad.Counted ∧ ∀ k, pad.count k = 0 := by
  simp only [ofBindings, bind, Except.bind] at made
  split at made
  · nomatch made
  · cases made
    exact counted_of_untouched _ []

/-! ### Events of one key -/

section

variable {κ : Type} [DecidableEq κ]

/-- Which way a key went, one time after another. -/
def waysOf (k : κ) (events : List (κ × Bool)) : List Bool :=
  (events.filter fun e => e.1 = k).map (·.2)

lemma waysOf_cons_self (k : κ) (b : Bool) (events : List (κ × Bool)) :
    waysOf k ((k, b) :: events) = b :: waysOf k events := by
  simp [waysOf]

lemma waysOf_cons_ne {k j : κ} (h : j ≠ k) (b : Bool) (events : List (κ × Bool)) :
    waysOf k ((j, b) :: events) = waysOf k events := by
  simp [waysOf, h]

lemma waysOf_append (k : κ) (events events' : List (κ × Bool)) :
    waysOf k (events ++ events') = waysOf k events ++ waysOf k events' := by
  simp [waysOf]

end

/-- Where each event is a change, a key goes now this way and now that. -/
lemma Edges.alternates (edges : Edges down events) (k : Fin 16) :
    (entry down k :: waysOf k events).IsChain (· ≠ ·) := by
  induction events generalizing down with
  | nil => exact .singleton _
  | cons e events ih =>
    obtain ⟨j, b⟩ := e
    obtain ⟨other, edges⟩ := edges
    have hrest := ih edges
    by_cases hj : j = k
    · subst hj
      rw [entry_setEntry_self] at hrest
      rw [waysOf_cons_self, List.isChain_cons_cons]
      exact ⟨other, hrest⟩
    · rw [entry_setEntry_ne down b hj] at hrest
      rw [waysOf_cons_ne hj]
      exact hrest

/-- A key is left the way it went last, or as it was. -/
lemma getLastD_waysOf (down : Vector Bool 16) (events : List (Fin 16 × Bool)) (k : Fin 16) :
    (waysOf k events).getLastD (entry down k) = entry (replay down events) k := by
  induction events generalizing down with
  | nil => rfl
  | cons e events ih =>
    obtain ⟨j, b⟩ := e
    rw [replay_cons, ← ih]
    by_cases hj : j = k
    · subst hj
      rw [waysOf_cons_self, List.getLastD_cons, entry_setEntry_self]
    · rw [waysOf_cons_ne hj, entry_setEntry_ne down b hj]

lemma edges_append {events' : List (Fin 16 × Bool)} :
    Edges down (events ++ events') ↔ Edges down events ∧ Edges (replay down events) events' := by
  induction events generalizing down with
  | nil => exact ⟨fun h => ⟨trivial, h⟩, And.right⟩
  | cons e events ih =>
    rw [List.cons_append, Edges, Edges, ih, and_assoc]
    rfl

lemma replay_append (events' : List (Fin 16 × Bool)) :
    replay down (events ++ events') = replay (replay down events) events' :=
  List.foldl_append

/-! ### The share of a listener -/

lemma filter_zipIdx {α : Type} (block : List α) (place : Nat) (h : place < block.length)
    (i : Nat) :
    ((block.zipIdx i).filter fun n => n.2 = i + place).map (·.1) = [block[place]] := by
  induction block generalizing place i with
  | nil => nomatch h
  | cons a block ih =>
    rw [List.zipIdx_cons]
    cases place with
    | zero =>
      have hrest : (block.zipIdx (i + 1)).filter (fun n => n.2 = i + 0) = [] := by
        rw [List.filter_eq_nil_iff]
        intro n hn
        have hle := List.le_snd_of_mem_zipIdx hn
        simp only [decide_eq_true_eq]
        omega
      rw [List.filter_cons_of_pos (by simp), hrest]
      rfl
    | succ place =>
      have hrest := ih place (Nat.lt_of_succ_lt_succ h) (i + 1)
      rw [Nat.add_right_comm, Nat.add_assoc] at hrest
      rw [List.filter_cons_of_neg (by simp)]
      exact hrest

/-- Of a block that is told to all listeners in turn each has one notice. -/
lemma filter_zipIdx_mod {α : Type} {block : List α} {n : Nat} (hn : block.length = n) (place : Nat)
    (h : place < block.length) (i : Nat) (whole : i % n = 0) :
    ((block.zipIdx i).filter fun x => x.2 % n = place).map (·.1) = [block[place]] := by
  rw [← filter_zipIdx block place h i]
  congr 1
  refine List.filter_congr fun x hx => ?_
  have hle := List.le_snd_of_mem_zipIdx hx
  have hlt := List.snd_lt_add_of_mem_zipIdx hx
  obtain ⟨j, hj⟩ := Nat.exists_eq_add_of_le hle
  have hmod : x.2 % n = j := by
    rw [hj, Nat.add_mod, whole, Nat.zero_add, Nat.mod_mod, Nat.mod_eq_of_lt (by omega)]
  rw [hmod, decide_eq_decide]
  omega

lemma to_tell (pad : Keypad) (events : List (Fin 16 × Bool)) (place : Nat)
    (h : place < pad.listeners.length) :
    Told.to place ⟨pad.listeners.length, pad.tell events⟩ =
      events.map fun e => ⟨pad.listeners[place], e.1, e.2⟩ := by
  -- Every block starts at a multiple of the number of listeners.
  have hblocks (i : Nat) (whole : i % pad.listeners.length = 0) :
      (((pad.tell events).zipIdx i).filter fun n => n.2 % pad.listeners.length = place).map (·.1) =
        events.map fun e => (⟨pad.listeners[place], e.1, e.2⟩ : Notice) := by
    induction events generalizing i with
    | nil => rfl
    | cons e events ih =>
      have hlen : (pad.notices e.1 e.2).length = pad.listeners.length := List.length_map ..
      have hfirst := filter_zipIdx_mod hlen place (hlen.symm ▸ h) i whole
      have hnotice : (pad.notices e.1 e.2)[place] = ⟨pad.listeners[place], e.1, e.2⟩ :=
        List.getElem_map ..
      have hrest := ih (i + pad.listeners.length) (by rw [Nat.add_mod_right, whole])
      rw [hnotice] at hfirst
      rw [tell, List.flatMap_cons, List.zipIdx_append, List.filter_append, List.map_append, hfirst,
        hlen, ← tell, hrest, List.map_cons, List.singleton_append]
  exact hblocks 0 (Nat.zero_mod _)

/-! ### What is heard -/

/-- The listeners of a keypad all hear the same events. -/
def HearAll (pad : Keypad) (told : List Told) (events : List (Fin 16 × Bool)) : Prop :=
  ∀ place, (h : place < pad.listeners.length) →
    heard place told = events.map fun e => ⟨pad.listeners[place], e.1, e.2⟩

/-- Of each key the events tell in alternation which way it goes, beginning with the other way than
it was, up to how it is in the end. -/
def Alternates (pad : Keypad) (events : List (Fin 16 × Bool)) (after : Keypad) : Prop := ∀ k,
  (pad.isDown k :: waysOf k events).IsChain (· ≠ ·) ∧
  (waysOf k events).getLastD (pad.isDown k) = after.isDown k

/-- While a keypad changes its listeners hear the same events. -/
def Heard (pad : Keypad) (told : List Told) (after : Keypad) : Prop :=
  ∃ events, pad.HearAll told events ∧ pad.Alternates events after

/-- A listener that is added has the place behind the others, and hears there what all of them hear
from then on. -/
def Joins (pad : Keypad) (l : Listener) (told : List Told) (after : Keypad) : Prop :=
  ∃ events, heard pad.listeners.length told = events.map (fun e => ⟨l, e.1, e.2⟩) ∧
    (pad.listen l).HearAll told events ∧ pad.Alternates events after

/-- What is heard of the first request, and then of the others by those who were there. -/
lemma HearAll.cons {next : Keypad} {told : List Told} {events' : List (Fin 16 × Bool)}
    (stay : pad.listeners <+: next.listeners) (rest : next.HearAll told events')
    (events : List (Fin 16 × Bool)) :
    pad.HearAll (⟨pad.listeners.length, pad.tell events⟩ :: told) (events ++ events') := by
  intro place h
  have hrest := rest place (h.trans_le stay.length_le)
  rw [← stay.getElem h] at hrest
  rw [heard, List.flatMap_cons, ← heard, to_tell pad events place h, hrest, List.map_append]

lemma exists_events_run (pad : Keypad) (requests : List Request) :
    Logging.Gives (fun x => ∃ events, pad.HearAll x.1 events ∧
      x.2.down = replay pad.down events ∧ Edges pad.down events) (pad.run requests) := by
  induction requests generalizing pad with
  | nil => exact .pure ⟨[], fun _ _ => rfl, rfl, trivial⟩
  | cons r requests ih =>
    intro log
    have hr : Accounts pad ((r.answer pad).run log).1.keypad ((r.answer pad).run log).1.notices :=
      accounts_answer r log
    obtain ⟨events, htold, hdown, hedges⟩ := hr
    have hstay : pad.listeners <+: ((r.answer pad).run log).1.keypad.listeners :=
      listeners_answer r log
    obtain ⟨events', hheard, hdown', hedges'⟩ := ih _ ((r.answer pad).run log).2
    refine ⟨events ++ events', ?_, ?_, ?_⟩
    · have hall := HearAll.cons hstay hheard events
      rw [← htold] at hall
      exact hall
    · rw [replay_append, ← hdown]
      exact hdown'
    · rw [edges_append, ← hdown]
      exact ⟨hedges, hedges'⟩

/-- Whatever is asked of a keypad, its listeners hear of it. -/
theorem heard_run (pad : Keypad) (requests : List Request) :
    Logging.Gives (fun x => pad.Heard x.1 x.2) (pad.run requests) := by
  refine (exists_events_run pad requests).mono fun x hx => ?_
  obtain ⟨events, hall, hdown, hedges⟩ := hx
  refine ⟨events, hall, fun k => ⟨hedges.alternates k, ?_⟩⟩
  rw [isDown, getLastD_waysOf, ← hdown, isDown]

theorem joins_run (pad : Keypad) (l : Listener) (requests : List Request) :
    Logging.Gives (fun x => pad.Joins l x.1 x.2) ((pad.listen l).run requests) := by
  refine (heard_run (pad.listen l) requests).mono fun x hx => ?_
  obtain ⟨events, hall, halternates⟩ := hx
  refine ⟨events, ?_, hall, halternates⟩
  have hlast : pad.listeners.length < (pad.listen l).listeners.length := by
    rw [listen, List.length_append, List.length_singleton]
    exact Nat.lt_succ_self _
  have hplace : (pad.listen l).listeners[pad.listeners.length] = l :=
    List.getElem_concat_length rfl _
  rw [hall _ hlast, hplace]

/-- **Keys are counted, and every listener hears of each change.** Take a keypad with any bindings
and ask anything of it. Then each key has been pressed as often as the requests tell, and is down if
that is more than nothing. Whatever is asked next is obeyed: a stroke is for its own key only, a
rejected request does nothing, releasing all keys tells of each key that was down, in order, and a
listener that is added comes behind the others. And whatever comes later, the one that is added
hears at its place what all the others hear at theirs: of each key in alternation which way it goes,
beginning with the other way than the key was, up to how it is. -/
theorem counted_and_heard {bindings : List (Text × Int)} (made : ofBindings bindings = .ok start)
    (before : List Request) (log : Log) :
    let pad := ((start.run before).run log).1.2
    (∀ k : Fin 16, pad.count k = before.foldl (tally start k) 0 ∧
      pad.isDownAt k.val = .ok (decide (0 < pad.count k))) ∧
    (∀ (r : Request) (log : Log), r.Obeyed pad ((r.answer pad).run log).1) ∧
    ∀ (l : Listener) (later : List Request) (log : Log),
      pad.Joins l (((pad.listen l).run later).run log).1.1
        (((pad.listen l).run later).run log).1.2 := by
  intro pad
  obtain ⟨hcounted, hzero⟩ := counted_of_ofBindings made
  have hpad : start.Follows pad before := follows_run hcounted before log
  refine ⟨fun k => ⟨?_, ?_⟩, fun r log => obeyed_answer pad r log, fun l later log => ?_⟩
  · rw [hpad.counts, hzero]
  · rw [isDownAt, nibble?_val, ← hpad.counted k]
  · exact joins_run pad l later log

/-- Two names for one key, a name and an index that stand for none, releases too many, and a
recorder that comes while the key is down: it hears of another key first, then that this one comes
up, and nothing of a second press. -/
theorem counted_and_heard_held :
    ∃ start, ofBindings [("a", 5), ("b", 5)] = .ok start ∧
      let before : List Request := [.listen .processor, .changeAt false 5, .change true "A",
        .change true "b", .change true "zz", .changeAt true 16, .changeAt false 7,
        .change false "a"]
      let pad := ((start.run before).run {}).1.2
      before.foldl (tally start 5) 0 = 1 ∧
      (∀ k : Fin 16, pad.count k = before.foldl (tally start k) 0 ∧
        pad.isDownAt k.val = .ok (decide (0 < pad.count k))) ∧
      (∀ (r : Request) (log : Log), r.Obeyed pad ((r.answer pad).run log).1) ∧
      (∀ (l : Listener) (later : List Request) (log : Log),
        pad.Joins l (((pad.listen l).run later).run log).1.1
          (((pad.listen l).run later).run log).1.2) ∧
      let l : Listener := .recorder "late"
      let later : List Request := [.changeAt true 7, .change true "a", .releaseAll]
      heard pad.listeners.length (((pad.listen l).run later).run {}).1.1 =
        [⟨l, 7, true⟩, ⟨l, 5, false⟩, ⟨l, 7, false⟩] := by
  have made : ofBindings [("a", 5), ("b", 5)] = .ok { bindings := [("a", 5), ("b", 5)] } := rfl
  obtain ⟨hcounts, hobeyed, hjoins⟩ := counted_and_heard made [.listen .processor,
    .changeAt false 5, .change true "A", .change true "b", .change true "zz", .changeAt true 16,
    .changeAt false 7, .change false "a"] {}
  exact ⟨_, made, by decide, hcounts, hobeyed, hjoins, by decide +kernel⟩

end Chip8.Keypad
