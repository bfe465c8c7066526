import Mathlib
import Chip8.Log

/-!
Computations that log alike.

Two computations are alike when they write the same lines and their results are related. Chains of
alike computations are alike (`Alike.bind`), so a relation between states is carried through
everything that is logged on the way. The log is written and not read: what a chain gives is the
same whatever was logged before if this is so for its links (`Steady.bind`).
-/

namespace Chip8.Logging

variable {α β γ δ : Type} {R : α → β → Prop} {S : γ → δ → Prop}

/-- Two computations write the same and give related results. -/
def Alike (R : α → β → Prop) (a : Logging α) (b : Logging β) : Prop :=
  ∀ log, R (a.run log).1 (b.run log).1 ∧ (a.run log).2 = (b.run log).2

lemma Alike.pure {x : α} {y : β} (h : R x y) : Alike R (pure x : Logging α) (pure y) :=
  fun _ => ⟨h, rfl⟩

lemma Alike.bind {a : Logging α} {b : Logging β} {f : α → Logging γ} {g : β → Logging δ}
    (h : Alike R a b) (hfg : ∀ x y, R x y → Alike S (f x) (g y)) : Alike S (a >>= f) (b >>= g) := by
  intro log
  obtain ⟨hr, hlog⟩ := h log
  have hnext := hfg _ _ hr (a.run log).2
  change S ((f (a.run log).1).run (a.run log).2).1 ((g (b.run log).1).run (b.run log).2).1 ∧
    ((f (a.run log).1).run (a.run log).2).2 = ((g (b.run log).1).run (b.run log).2).2
  rw [← hlog]
  exact hnext

/-- A computation is like itself. -/
lemma Alike.same (a : Logging α) : Alike (· = ·) a a := fun _ => ⟨rfl, rfl⟩

/-- The same computation before two alike ones. -/
lemma Alike.after (a : Logging α) {f : α → Logging γ} {g : α → Logging δ}
    (hfg : ∀ x, Alike S (f x) (g x)) : Alike S (a >>= f) (a >>= g) :=
  (Alike.same a).bind fun x _ h => h ▸ hfg x

/-! ### What a computation gives -/

/-- A computation gives a result of a kind, whatever was logged before. -/
def Gives (P : α → Prop) (a : Logging α) : Prop := ∀ log, P (a.run log).1

variable {P : α → Prop} {Q : γ → Prop}

lemma Gives.pure {x : α} (h : P x) : Gives P (pure x : Logging α) := fun _ => h

lemma Gives.bind {a : Logging α} {f : α → Logging γ} (h : Gives P a)
    (hf : ∀ x, P x → Gives Q (f x)) : Gives Q (a >>= f) :=
  fun log => hf _ (h log) _

lemma Gives.mono {P' : α → Prop} {a : Logging α} (h : Gives P a) (hP : ∀ x, P x → P' x) :
    Gives P' a :=
  fun log => hP _ (h log)

/-- What comes after a computation of which nothing is known. -/
lemma Gives.after (a : Logging α) {f : α → Logging γ} (hf : ∀ x, Gives Q (f x)) :
    Gives Q (a >>= f) :=
  fun _ => hf _ _

/-! ### What does not hang on the log -/

/-- What a computation gives when nothing was logged before. -/
def result (a : Logging α) : α := (a.run {}).1

/-- A computation gives the same whatever was logged before. -/
def Steady (a : Logging α) : Prop := Gives (· = a.result) a

lemma Gives.result {a : Logging α} (h : Gives P a) : P a.result := h {}

lemma Gives.steady {x : α} {a : Logging α} (h : Gives (· = x) a) : Steady a :=
  fun log => (h log).trans h.result.symm

lemma Steady.pure (x : α) : Steady (pure x : Logging α) := fun _ => rfl

/-- What gives nothing gives nothing else. -/
lemma Steady.unit (a : Logging Unit) : Steady a := fun _ => rfl

lemma Steady.bind {a : Logging α} {f : α → Logging γ} (ha : Steady a) (hf : ∀ x, Steady (f x)) :
    Steady (a >>= f) := by
  intro log
  have hx : (a.run log).1 = a.result := ha log
  change ((f (a.run log).1).run (a.run log).2).1 = ((f a.result).run (a.run {}).2).1
  rw [hx, hf a.result, hf a.result]

end Chip8.Logging
