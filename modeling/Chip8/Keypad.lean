import Chip8.Log
import Chip8.Nibble
import Chip8.Number.Radix
import Chip8.Text.Quoted

/-!
The hexadecimal keypad. Host keys have names, and a binding says which of the sixteen keys a name
stands for. Several host keys can stand for one key, so a key that is down counts its presses and
comes up with the last release. Listeners hear of a key only when it goes down or up.
-/

namespace Chip8

/-- Who hears of the keys: the processor, or a recorder with a tag. -/
inductive Listener where
  | processor
  | recorder (tag : Text)
  deriving DecidableEq, Repr

/-- What a listener hears: a key went down or up. -/
structure Notice where
  listener : Listener
  key : Fin 16
  pressed : Bool
  deriving DecidableEq, Repr

/-- Why a keypad request is rejected. -/
inductive KeypadError where
  | badBinding (name : Text) (index : Int)
  | outOfRange (index : Int)
  deriving DecidableEq, Repr

/-- The message of a keypad error. -/
def KeypadError.message : KeypadError → String
  | .badBinding name index =>
    Number.showing [index] s!"key {Text.quote name} maps to invalid keypad index {index}"
  | .outOfRange index => Number.showing [index] s!"keypad index out of range: {index}"

/-- The keypad: the bindings of names, the keys that are down, the presses that hold a key, and
the listeners in the order in which they were added. -/
structure Keypad where
  bindings : List (Text × Fin 16)
  down : Vector Bool 16 := Vector.replicate 16 false
  /-- A key that was not pressed since it came up has no entry. -/
  held : Vector (Option Nat) 16 := Vector.replicate 16 none
  listeners : List Listener := []
  deriving DecidableEq

namespace Keypad

/-- The left block of a keyboard, by position. -/
def standardBindings : List (Text × Fin 16) :=
  [("1", 0x1), ("2", 0x2), ("3", 0x3), ("4", 0xC),
   ("q", 0x4), ("w", 0x5), ("e", 0x6), ("r", 0xD),
   ("a", 0x7), ("s", 0x8), ("d", 0x9), ("f", 0xE),
   ("z", 0xA), ("x", 0x0), ("c", 0xB), ("v", 0xF)]

/-- The keypad with the standard bindings. -/
def standard : Keypad := { bindings := standardBindings }

/-- The keypad with given bindings; the first one without a key is an error. -/
def ofBindings (bindings : List (Text × Int)) : Except KeypadError Keypad := do
  let bindings ← bindings.mapM fun (name, index) =>
    match nibble? index with
    | some k => .ok (name, k)
    | none => .error (.badBinding name index)
  pure { bindings }

/-- How often a key is pressed without having been released. -/
def count (pad : Keypad) (k : Fin 16) : Nat := (entry pad.held k).getD 0

/-- Whether a key is down. -/
def isDown (pad : Keypad) (k : Fin 16) : Bool := entry pad.down k

/-- The keys that are down. -/
def snapshot (pad : Keypad) : Vector Bool 16 := pad.down

/-- The key that a name is bound to; the name is looked up in lower case. -/
def lookup (pad : Keypad) (name : Text) : Option (Fin 16) :=
  pad.bindings.lookup (Text.lower name)

/-- Adds a listener after the others. -/
def listen (pad : Keypad) (l : Listener) : Keypad :=
  { pad with listeners := pad.listeners ++ [l] }

/-- What the listeners hear when a key goes down or up. -/
def notices (pad : Keypad) (k : Fin 16) (pressed : Bool) : List Notice :=
  pad.listeners.map fun l => ⟨l, k, pressed⟩

/-- Presses a key once more. -/
def pressKey (pad : Keypad) (k : Fin 16) : Keypad × List Notice :=
  ({ pad with
      down := setEntry pad.down k true
      held := setEntry pad.held k (some (pad.count k + 1)) },
    if pad.isDown k then [] else pad.notices k true)

/-- The keypad with one press less on a key. The last press takes the entry along. -/
def lessOne (pad : Keypad) (k : Fin 16) : Keypad :=
  if pad.count k ≤ 1 then
    { pad with down := setEntry pad.down k false, held := setEntry pad.held k none }
  else { pad with held := setEntry pad.held k (some (pad.count k - 1)) }

/-- Releases a key once. -/
def releaseKey (pad : Keypad) (k : Fin 16) : Keypad × List Notice :=
  (pad.lessOne k, if pad.isDown k && !(pad.lessOne k).isDown k then pad.notices k false else [])

/-- Releases every key. -/
def reset (pad : Keypad) : Keypad × List Notice :=
  ({ pad with down := Vector.replicate 16 false, held := Vector.replicate 16 none },
    ((List.finRange 16).filter pad.isDown).flatMap fun k => pad.notices k false)

/-! ### Requests, with what they log -/

/-- What a request answers, the keypad after it, and what the listeners hear. -/
structure Answer (α : Type) where
  value : α
  keypad : Keypad
  notices : List Notice := []

/-- Presses or releases a key and logs its new count. -/
def change (pressed : Bool) (pad : Keypad) (k : Fin 16) : Logging (Keypad × List Notice) := do
  let (after, notices) := if pressed then pad.pressKey k else pad.releaseKey k
  say "input" fun _ =>
    let verb := if pressed then "press" else "release"
    s!"keypad_{verb} key={Number.plainHex 1 k.val} count={after.count k}"
  pure (after, notices)

/-- Presses or releases the key that a name is bound to, and tells if there is one. -/
def changeNamed (pressed : Bool) (pad : Keypad) (name : Text) : Logging (Answer Bool) := do
  match pad.lookup name with
  | some k =>
    let (keypad, notices) ← pad.change pressed k
    pure { value := true, keypad, notices }
  | none =>
    say "input" fun _ =>
      let verb := if pressed then "press" else "release"
      s!"unmapped_{verb}=" ++ name
    pure { value := false, keypad := pad }

/-- Presses or releases the key of an index. -/
def changeAt (pressed : Bool) (pad : Keypad) (index : Int) :
    Logging (Answer (Except KeypadError Unit)) := do
  match nibble? index with
  | some k =>
    let (keypad, notices) ← pad.change pressed k
    pure { value := .ok (), keypad, notices }
  | none => pure { value := .error (.outOfRange index), keypad := pad }

/-- Presses the key that a name is bound to. -/
def press (pad : Keypad) (name : Text) : Logging (Answer Bool) := pad.changeNamed true name

/-- Releases the key that a name is bound to. -/
def release (pad : Keypad) (name : Text) : Logging (Answer Bool) := pad.changeNamed false name

/-- Whether the key of an index is down. -/
def isDownAt (pad : Keypad) (index : Int) : Except KeypadError Bool :=
  match nibble? index with
  | some k => .ok (pad.isDown k)
  | none => .error (.outOfRange index)

/-! ### Counts -/

theorem count_pressKey (pad : Keypad) (k j : Fin 16) :
    (pad.pressKey k).1.count j = if k = j then pad.count k + 1 else pad.count j := by
  simp only [count, pressKey, entry_setEntry]
  split <;> rfl

theorem count_lessOne (pad : Keypad) (k j : Fin 16) :
    (pad.lessOne k).count j = if k = j then pad.count k - 1 else pad.count j := by
  unfold lessOne
  split
  · rename_i h
    simp only [count, entry_setEntry] at h ⊢
    split
    · rw [Option.getD_none]
      omega
    · rfl
  · simp only [count, entry_setEntry]
    split <;> rfl

theorem count_reset (pad : Keypad) (j : Fin 16) : pad.reset.1.count j = 0 := by
  simp [count, reset]

end Keypad

end Chip8
