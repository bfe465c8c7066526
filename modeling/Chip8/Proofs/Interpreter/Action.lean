import Chip8.Interpreter.Tick
import Chip8.Proofs.Memory

/-!
How computations on the processor run.

A computation is a chain of reads, changes and checks. Each link is an equation for `Action.run`,
so a whole operation is run by rewriting with them, and the state at a fault is read off the link
that stopped.
-/

namespace Chip8.Interpreter

namespace Action

variable {α β : Type} (m : Interpreter)

@[simp] lemma run_pure (a : α) : (pure a : Action α).run m = (.ok a, m) := rfl

@[simp] lemma run_throw (f : Fault) : (throw f : Action α).run m = (.error f, m) := rfl

@[simp] lemma run_get : (get : Action Interpreter).run m = (.ok m, m) := rfl

@[simp] lemma run_modify (g : Interpreter → Interpreter) :
    (modify g : Action PUnit).run m = (.ok ⟨⟩, g m) := rfl

@[simp] lemma run_require (r : Except Fault α) : (require r).run m = (r, m) := rfl

/-- A fault ends the chain where it is. -/
lemma run_bind (a : Action α) (g : α → Action β) :
    (a >>= g).run m = match a.run m with
      | (.ok x, after) => (g x).run after
      | (.error f, after) => (.error f, after) := by
  unfold Action.run ExceptT.run StateT.run
  simp only [bind, ExceptT.bind, ExceptT.mk, StateT.bind, ExceptT.bindCont]
  rcases a m with ⟨_ | _, _⟩ <;> rfl

/-- A handler starts in the state that the fault left. -/
lemma run_tryCatch (a : Action α) (g : Fault → Action α) :
    (tryCatch a g).run m = match a.run m with
      | (.ok x, after) => (.ok x, after)
      | (.error f, after) => (g f).run after := by
  unfold Action.run ExceptT.run StateT.run
  simp only [tryCatch, tryCatchThe, MonadExceptOf.tryCatch, ExceptT.tryCatch, ExceptT.mk, bind,
    StateT.bind]
  rcases a m with ⟨_ | _, _⟩ <;> rfl

end Action

/-! ### Bytes into registers -/

variable {m : Interpreter}

lemma run_jumpTo (address : Int) : (jumpTo address).run m = (.ok (), m.setPc address) := rfl

/-- A register takes every number that a byte is. -/
lemma run_putReg {x : Fin 16} {n : Int} {b : UInt8} (h : n = b.toNat) :
    (putReg x n).run m = (.ok (), m.setReg x b) := by
  have hb := b.toNat_lt
  rw [putReg, Action.run_bind, Action.run_require, byte?, if_pos (by omega), h, byteOf_toNat]
  rfl

lemma run_putReg_of_not_byte {x : Fin 16} {n : Int} (h : ¬(0 ≤ n ∧ n < 256)) :
    (putReg x n).run m = (.error .notByte, m) := by
  rw [putReg, Action.run_bind, Action.run_require, byte?, if_neg h]

end Chip8.Interpreter
