import Chip8.Proofs.Keypad.Requests

/-!
Counted keys.

A keypad knows of a key twice: whether it is down, and how often it is pressed. The two go together
(`Counted`): a request that changes one of them changes the other. So the requests alone tell how
often a key is pressed (`tally`) and whether it is down.
-/

namespace Chip8.Keypad

variable {pad start : Keypad} {r : Request}

/-- The keys that are down are those that are pressed more often than released. -/
def Counted (pad : Keypad) : Prop := ∀ k, pad.isDown k = decide (0 < pad.count k)

/-- How often a key is pressed after a request, from how often it was before. -/
def tally (pad : Keypad) (k : Fin 16) (n : Nat) : Request → Nat
  | .releaseAll => 0
  | r =>
    match r.stroke? pad with
    | some (j, pressed) => if j = k then (if pressed then n + 1 else n - 1) else n
    | none => n

lemma tally_of_stroke {j : Fin 16} {pressed : Bool} (stroke : r.stroke? pad = some (j, pressed))
    (k : Fin 16) (n : Nat) :
    tally pad k n r = if j = k then (if pressed then n + 1 else n - 1) else n := by
  cases r with
  | releaseAll => nomatch stroke
  | _ => simp only [tally, stroke]

lemma tally_of_none (stroke : r.stroke? pad = none) (other : r ≠ .releaseAll) (k : Fin 16)
    (n : Nat) : tally pad k n r = n := by
  cases r with
  | releaseAll => exact absurd rfl other
  | _ => simp only [tally, stroke]

/-- A name is for the key that it is bound to. -/
lemma tally_change (pressed : Bool) (name : Text) (k : Fin 16) (n : Nat) :
    tally pad k n (.change pressed name) =
      if pad.lookup name = some k then (if pressed then n + 1 else n - 1) else n := by
  rcases hname : pad.lookup name with _ | j
  · have hnone : (Request.change pressed name).stroke? pad = none := by
      rw [Request.stroke?, hname, Option.map_none]
    rw [tally_of_none hnone (by simp), if_neg (by simp)]
  · have hsome : (Request.change pressed name).stroke? pad = some (j, pressed) := by
      rw [Request.stroke?, hname, Option.map_some]
    simp only [tally_of_stroke hsome, Option.some.injEq]

/-- It depends on the bindings only. -/
lemma tally_congr (same : pad.bindings = start.bindings) (k : Fin 16) :
    tally pad k = tally start k := by
  funext n r
  have hstroke : r.stroke? pad = r.stroke? start := by
    cases r with
    | change pressed name => simp only [Request.stroke?, lookup, same]
    | _ => rfl
  cases r with
  | releaseAll => rfl
  | _ => simp only [tally, hstroke]

/-! ### Strokes -/

lemma count_strike (pressed : Bool) (k j : Fin 16) :
    (pad.strike pressed k).1.count j =
      if k = j then (if pressed then pad.count j + 1 else pad.count j - 1) else pad.count j := by
  have hcount : (pad.strike pressed k).1.count j =
      if k = j then (if pressed then pad.count k + 1 else pad.count k - 1) else pad.count j := by
    cases pressed with
    | true => exact count_pressKey pad k j
    | false => exact count_lessOne pad k j
  rw [hcount]
  split
  · rename_i h
    rw [h]
  · rfl

/-- A key goes down with its first press and comes up with its last release. -/
lemma Counted.strike (h : pad.Counted) (pressed : Bool) (k : Fin 16) :
    (pad.strike pressed k).1.Counted := by
  intro j
  rw [count_strike]
  by_cases hkj : k = j
  · subst hkj
    rw [if_pos rfl]
    cases pressed with
    | true => exact (entry_setEntry_self pad.down k true).trans (by simp)
    | false =>
      change (pad.lessOne k).isDown k = decide (0 < pad.count k - 1)
      -- a release too many and the last one both leave the key up
      by_cases hlast : pad.count k ≤ 1
      · rw [lessOne, if_pos hlast]
        have hzero : pad.count k - 1 = 0 := by omega
        rw [hzero]
        exact entry_setEntry_self pad.down k false
      · rw [lessOne, if_neg hlast]
        have hdown : pad.isDown k = decide (0 < pad.count k - 1) := by
          rw [h k]
          congr 1
          exact propext (by omega)
        exact hdown
  · rw [if_neg hkj]
    obtain ⟨isDown, held, hafter⟩ := exists_strike_eq pad pressed k
    rw [hafter]
    exact (entry_setEntry_ne pad.down isDown hkj).trans (h j)

/-! ### What a request may do -/

/-- A request is for a key that there is not. -/
def Request.IsRejected (pad : Keypad) : Request → Prop
  | .change _ name => pad.lookup name = none
  | .changeAt _ index => nibble? index = none
  | .releaseAll | .listen _ => False

/-- An answer does what the request asks for, and no more. -/
structure Request.Obeyed (pad : Keypad) (r : Request) (a : Answer (Except KeypadError Bool)) :
    Prop where
  counts : ∀ k, a.keypad.count k = tally pad k (pad.count k) r
  /-- A stroke is for one key. -/
  others : ∀ k pressed, r.stroke? pad = some (k, pressed) → ∀ j, j ≠ k →
    entry a.keypad.down j = entry pad.down j ∧ entry a.keypad.held j = entry pad.held j
  own : ∀ k pressed, r.stroke? pad = some (k, pressed) → ∀ n ∈ a.notices, n.key = k
  rejects : r.IsRejected pad → a.keypad = pad ∧ a.notices = [] ∧ a.value ≠ .ok true
  /-- The keys that were down come up in the order of their numbers, each once. -/
  releases : r = .releaseAll → ∃ ks : List (Fin 16), ks.Pairwise (· < ·) ∧
    (∀ k, k ∈ ks ↔ pad.isDown k = true) ∧ a.notices = pad.tell (ks.map fun k => (k, false))
  /-- A listener comes behind the others, and nobody hears of it. -/
  joins : ∀ l, r = .listen l →
    a.keypad = { pad with listeners := pad.listeners ++ [l] } ∧ a.notices = []
  /-- Listeners come in no other way, and none leaves. -/
  stay : (∀ l, r ≠ .listen l) → a.keypad.listeners = pad.listeners

lemma stroke?_of_isRejected (h : r.IsRejected pad) : r.stroke? pad = none := by
  cases r with
  | change pressed name =>
    have hname : pad.lookup name = none := h
    rw [Request.stroke?, hname, Option.map_none]
  | changeAt pressed index =>
    have hindex : nibble? index = none := h
    rw [Request.stroke?, hindex, Option.map_none]
  | releaseAll | listen => exact h.elim

lemma obeyed_of_isRejected (h : r.IsRejected pad) {value : Except KeypadError Bool}
    (refused : value ≠ .ok true) : r.Obeyed pad ⟨value, pad, []⟩ := by
  have hstroke := stroke?_of_isRejected h
  have hother : r ≠ .releaseAll := by
    rintro rfl
    exact h
  refine ⟨fun k => (tally_of_none hstroke hother k _).symm, fun _ _ hk => ?_, fun _ _ _ => nofun,
    fun _ => ⟨rfl, rfl, refused⟩, fun hr => absurd hr hother, fun _ => ?_, fun _ => rfl⟩
  · rw [hstroke] at hk
    nomatch hk
  · rintro rfl
    exact h.elim

lemma key_of_mem_strike (pressed : Bool) (k : Fin 16) :
    ∀ n ∈ (pad.strike pressed k).2, n.key = k := by
  intro n hn
  have htold : n ∈ pad.notices k pressed := by
    cases pressed with
    | true =>
      simp only [Keypad.strike, if_true, pressKey] at hn
      split at hn
      · exact absurd hn List.not_mem_nil
      · exact hn
    | false =>
      simp only [Keypad.strike, Bool.false_eq_true, if_false, releaseKey] at hn
      split at hn
      · exact hn
      · exact absurd hn List.not_mem_nil
  rw [notices, List.mem_map] at htold
  obtain ⟨l, -, rfl⟩ := htold
  rfl

/-- Every request is obeyed. -/
theorem obeyed_answer (pad : Keypad) (r : Request) :
    Logging.Gives (r.Obeyed pad) (r.answer pad) := by
  refine (does_answer pad r).mono fun a ha => ?_
  cases ha with
  | @strikes _ k pressed stroke =>
    have hk {j pressed'} (h : r.stroke? pad = some (j, pressed')) : j = k := by
      rw [stroke] at h
      cases h
      rfl
    refine ⟨fun j => ?_, fun i _ hi j hj => ?_, fun i _ hi n hn => ?_, fun rejected => ?_, ?_,
      fun _ => ?_, fun _ => listeners_strike pressed k⟩
    · rw [count_strike, tally_of_stroke stroke]
    · obtain ⟨isDown, held, hafter⟩ := exists_strike_eq pad pressed k
      have hkj : k ≠ j := fun h => hj (h ▸ (hk hi).symm)
      rw [hafter]
      exact ⟨entry_setEntry_ne _ _ hkj, entry_setEntry_ne _ _ hkj⟩
    · rw [hk hi]
      exact key_of_mem_strike pressed k n hn
    · rw [stroke?_of_isRejected rejected] at stroke
      nomatch stroke
    · rintro rfl
      nomatch stroke
    · rintro rfl
      nomatch stroke
  | unbound => exact obeyed_of_isRejected ‹_› nofun
  | outOfRange => exact obeyed_of_isRejected ‹_› nofun
  | releasesAll =>
    refine ⟨fun k => count_reset pad k, nofun, nofun, nofun, fun _ =>
      ⟨(List.finRange 16).filter pad.isDown, ?_, fun k => ?_, notices_reset⟩, nofun, fun _ => rfl⟩
    · exact List.Pairwise.filter _ (List.pairwise_lt_finRange 16)
    · simp
  | listens l =>
    refine ⟨fun k => rfl, nofun, nofun, nofun, nofun, fun _ same => ?_, fun other => ?_⟩
    · cases same
      exact ⟨rfl, rfl⟩
    · exact absurd rfl (other l)

end Chip8.Keypad
