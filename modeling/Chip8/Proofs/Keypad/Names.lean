import Chip8.Proofs.Keypad.Listeners
import Chip8.Proofs.Text.Case

/-!
Names of keys.

A name is looked up in lower case, and the bindings are searched as they were given. So whoever is
looked up the names count only that are given in lower case: such a name is found however it is
written, and one with a capital letter in it is never found (`names_bound`). Lower case has nothing
to change about lower case, so names that are told apart by it stand for at most one binding each.
-/

namespace Chip8.Keypad

variable {pad start : Keypad} {bindings : List (Text × Int)} {name n : Text} {k : Fin 16}

/-! ### Bindings -/

/-- A keypad holds the bindings that it was given. -/
lemma map_bindings_of_ofBindings (made : ofBindings bindings = .ok start) :
    start.bindings.map (fun b => (b.1, (b.2.val : Int))) = bindings := by
  simp only [ofBindings, bind, Except.bind] at made
  split at made
  · cases made
  rename_i bound hbound
  cases made
  induction bindings generalizing bound with
  | nil =>
    cases hbound
    rfl
  | cons b rest ih =>
    obtain ⟨name, index⟩ := b
    rw [List.mapM_cons] at hbound
    rcases hindex : nibble? index with _ | k <;> rw [hindex] at hbound
    · cases hbound
    simp only [bind, Except.bind] at hbound
    split at hbound
    · cases hbound
    rename_i bound' hrest
    cases hbound
    have hfirst : (k.val : Int) = index := (nibble?_eq_some_iff.1 hindex).symm
    simp only [List.map_cons, hfirst]
    exact congrArg ((name, index) :: ·) (ih bound' hrest)

/-- What is looked up is bound under its lower case. -/
lemma mem_of_lookup (h : pad.lookup name = some k) : (Text.lower name, k) ∈ pad.bindings := by
  obtain ⟨before, after, heq, -⟩ := List.lookup_eq_some_iff.1 h
  rw [heq]
  exact List.mem_append_right _ List.mem_cons_self

/-- No two names have the same lower case. -/
def Apart (pad : Keypad) : Prop := (pad.bindings.map fun b => Text.lower b.1).Nodup

lemma Apart.eq (apart : pad.Apart) {n' : Text} {k' : Fin 16} (h : (n, k) ∈ pad.bindings)
    (h' : (n', k') ∈ pad.bindings) (same : Text.lower n = Text.lower n') : n = n' ∧ k = k' := by
  have heq := List.inj_on_of_nodup_map apart h h' same
  exact Prod.mk.inj heq

/-- A name that is bound in lower case is found however it is written. -/
lemma Apart.lookup_eq_some (apart : pad.Apart) (h : (n, k) ∈ pad.bindings)
    (same : Text.lower name = Text.lower n) (low : Text.lower n = n) :
    pad.lookup name = some k := by
  rcases hname : pad.lookup name with _ | k'
  · have hnone := List.lookup_eq_none_iff.1 hname (n, k) h
    rw [same, low] at hnone
    exact absurd rfl (bne_iff_ne.1 hnone)
  · have hfound := mem_of_lookup hname
    rw [same, low] at hfound
    rw [(apart.eq hfound h rfl).2]

/-- A name that is bound with a capital letter is found in no way of writing it. -/
lemma Apart.lookup_eq_none (apart : pad.Apart) (h : (n, k) ∈ pad.bindings)
    (same : Text.lower name = Text.lower n) (capital : Text.lower n ≠ n) :
    pad.lookup name = none := by
  rcases hname : pad.lookup name with _ | k'
  · rfl
  · have hfound := mem_of_lookup hname
    rw [same] at hfound
    exact absurd (apart.eq hfound h (Text.lower_lower n)).1 capital

lemma lookup_eq_none_of_forall_ne (other : ∀ b ∈ pad.bindings, Text.lower name ≠ Text.lower b.1) :
    pad.lookup name = none := by
  rcases hname : pad.lookup name with _ | k
  · rfl
  · exact absurd (Text.lower_lower name).symm (other _ (mem_of_lookup hname))

/-! ### Strokes by name -/

/-- A name stands for a key: pressing and releasing it are for this key and for no other. -/
structure Strikes (pad : Keypad) (name : Text) (k : Fin 16) : Prop where
  lookup : pad.lookup name = some k
  press : Logging.Gives (fun a => a.value = true ∧ ∀ j, a.keypad.count j =
    if k = j then pad.count j + 1 else pad.count j) (pad.press name)
  release : Logging.Gives (fun a => a.value = true ∧ ∀ j, a.keypad.count j =
    if k = j then pad.count j - 1 else pad.count j) (pad.release name)

/-- A name stands for no key: nothing comes of pressing or releasing it. -/
structure Ignores (pad : Keypad) (name : Text) : Prop where
  lookup : pad.lookup name = none
  press : Logging.Gives (· = ⟨false, pad, []⟩) (pad.press name)
  release : Logging.Gives (· = ⟨false, pad, []⟩) (pad.release name)

lemma strikes_of_lookup (h : pad.lookup name = some k) : pad.Strikes name k := by
  have hchange (pressed : Bool) : Logging.Gives (fun a => a.value = true ∧
      a.keypad = (pad.strike pressed k).1) (pad.changeNamed pressed name) := by
    intro log
    rw [changeNamed, h]
    exact ⟨rfl, rfl⟩
  refine ⟨h, (hchange true).mono fun a ha => ⟨ha.1, fun j => ?_⟩,
    (hchange false).mono fun a ha => ⟨ha.1, fun j => ?_⟩⟩
  · rw [ha.2, count_strike, if_pos rfl]
  · rw [ha.2, count_strike, if_neg Bool.false_ne_true]

lemma ignores_of_lookup (h : pad.lookup name = none) : pad.Ignores name := by
  have hchange (pressed : Bool) :
      Logging.Gives (· = ⟨false, pad, []⟩) (pad.changeNamed pressed name) := by
    intro log
    rw [changeNamed, h]
    rfl
  exact ⟨h, hchange true, hchange false⟩

/-- **Names in lower case are bound however they are written.** Take a keypad with any bindings of
which no two names have the same lower case, and ask anything of it. A name is then bound exactly
if it has the lower case of a name that was given in lower case: it strikes the key that this one
was given with. All other names are ignored, also those that were given with a capital letter. -/
theorem names_bound (made : ofBindings bindings = .ok start)
    (apart : (bindings.map fun b => Text.lower b.1).Nodup) (before : List Request) (log : Log) :
    let pad := ((start.run before).run log).1.2
    (∀ n index, (n, index) ∈ bindings → ∀ name, Text.lower name = Text.lower n →
      (Text.lower n = n → ∃ k : Fin 16, k.val = index ∧ pad.Strikes name k) ∧
      (Text.lower n ≠ n → pad.Ignores name)) ∧
    ∀ name, (∀ b ∈ bindings, Text.lower name ≠ Text.lower b.1) → pad.Ignores name := by
  intro pad
  have hfollows : start.Follows pad before :=
    follows_run (counted_of_ofBindings made).1 before log
  have hgiven : pad.bindings.map (fun b => (b.1, (b.2.val : Int))) = bindings := by
    rw [hfollows.bindings]
    exact map_bindings_of_ofBindings made
  have hapart : pad.Apart := by
    rw [← hgiven, List.map_map] at apart
    exact apart
  constructor
  · intro n index hn name same
    rw [← hgiven, List.mem_map] at hn
    obtain ⟨⟨n', k⟩, hmem, heq⟩ := hn
    obtain ⟨rfl, rfl⟩ := Prod.mk.inj heq
    constructor
    · intro low
      exact ⟨k, rfl, strikes_of_lookup (hapart.lookup_eq_some hmem same low)⟩
    · intro capital
      exact ignores_of_lookup (hapart.lookup_eq_none hmem same capital)
  · intro name other
    apply ignores_of_lookup
    apply lookup_eq_none_of_forall_ne
    intro b hb
    exact other (b.1, (b.2.val : Int)) (hgiven ▸ List.mem_map_of_mem hb)

/-- A name in lower case that is written otherwise, a name with a capital letter and a name that is
not bound, after the first was pressed. -/
theorem names_bound_capital : ∃ start, ofBindings [("q", 4), ("K", 5)] = .ok start ∧
    let pad := ((start.run [.change true "Q"]).run {}).1.2
    pad.Strikes "Q" 4 ∧ pad.Ignores "K" ∧ pad.Ignores "p" := by
  have made : ofBindings [("q", 4), ("K", 5)] = .ok { bindings := [("q", 4), ("K", 5)] } := rfl
  obtain ⟨hgiven, hother⟩ := names_bound made (by decide +kernel) [.change true "Q"] {}
  obtain ⟨k, hk, hstrikes⟩ := (hgiven "q" 4 (by decide) "Q" (by decide +kernel)).1
    (by decide +kernel)
  obtain rfl : k = 4 := Fin.ext (Int.ofNat.inj hk)
  exact ⟨_, made, hstrikes, (hgiven "K" 5 (by decide) "K" rfl).2 (by decide +kernel),
    hother "p" (by decide +kernel)⟩

/-- The key that is bound to a capital letter is struck by neither case of it. -/
theorem not_strikes_capital : ∃ pad, ofBindings [("K", 5)] = .ok pad ∧
    pad.lookup "K" = none ∧ pad.lookup "k" = none ∧ ¬pad.Strikes "K" 5 := by
  have made : ofBindings [("K", 5)] = .ok { bindings := [("K", 5)] } := rfl
  have hlookup : lookup { bindings := [("K", 5)] } "K" = none := by
    decide +kernel
  refine ⟨_, made, hlookup, by decide +kernel, ?_⟩
  intro h
  exact absurd (hlookup.symm.trans h.lookup) nofun

end Chip8.Keypad
