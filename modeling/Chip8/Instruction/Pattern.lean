import Chip8.Text.Case
import Chip8.Text.Digit
import Chip8.Text.Quoted
import Chip8.Word

/-!
Patterns of instruction words. A pattern is written as four symbols: a hexadecimal digit has
to match exactly, `X`, `Y` and `N` match any nibble. Reading a pattern gives a mask, which has the
bits of the exact nibbles, and the value of those bits. The symbols are read in upper case;
where that makes the text longer, the mask has more than four nibbles.
-/

namespace Chip8

/-- A pattern as written, with its mask and value. -/
structure Pattern where
  text : Text
  mask : Nat
  value : Nat
  deriving DecidableEq, Repr

/-- Why a text is not a pattern. -/
inductive PatternError where
  | length (text : Text)
  | character (c : Symbol) (text : Text)
  /-- The leading nibble has to be exact, because it tells the group. -/
  | openGroup (text : Text)
  deriving DecidableEq, Repr

/-- The message of a pattern error. -/
def PatternError.message : PatternError → String
  | .length text => s!"pattern must be four nibbles: {Text.quote text}"
  | .character c text =>
    s!"invalid pattern character {Text.quote [c]} in {Text.quote text}"
  | .openGroup text => s!"pattern must fix the leading nibble: {Text.quote text}"

namespace Pattern

/-- What one symbol of a pattern asks of its nibble: nothing, or an exact value. -/
abbrev Demand := Option Nat

/-- What a symbol in upper case asks for. -/
def demand? (c : Symbol) : Option Demand :=
  if c = 'X' ∨ c = 'Y' ∨ c = 'N' then some none else (Text.hexDigit? c).map some

/-- The demands that symbols in upper case write. -/
def demands (text : Text) : Text → Except PatternError (List Demand)
  | [] => .ok []
  | c :: rest =>
    match demand? c with
    | some d => do pure (d :: (← demands text rest))
    | none => .error (.character c text)

/-- The mask of a row of demands. -/
def maskOf (ds : List Demand) : Nat :=
  ds.foldl (fun mask d => mask * 16 + if d.isSome then 15 else 0) 0

/-- The value of a row of demands. -/
def valueOf (ds : List Demand) : Nat :=
  ds.foldl (fun value d => value * 16 + d.getD 0) 0

/-- Reads a pattern. -/
def parse (text : Text) : Except PatternError Pattern :=
  if text.length ≠ 4 then .error (.length text)
  else do
    let ds ← demands text (Text.upper text)
    if maskOf ds &&& 0xF000 = 0 then throw (.openGroup text)
    pure ⟨text, maskOf ds, valueOf ds⟩

/-- The group of words that a pattern describes. -/
def group (p : Pattern) : Fin 16 := ⟨p.value / 4096 % 16, Nat.mod_lt _ (by decide)⟩

/-- Whether a pattern matches a number: the exact nibbles agree. -/
def covers (p : Pattern) (n : Nat) : Bool := n &&& p.mask == p.value

/-- Whether a pattern matches an integer; of a negative one the low bits count, as far up as the
mask reaches. -/
def coversInt (p : Pattern) (n : Int) : Bool := p.covers (n % Nat.pow 2 (p.mask.log2 + 1)).toNat

/-- Whether two patterns agree wherever both are exact. -/
def overlaps (p q : Pattern) : Bool := (p.value ^^^ q.value) &&& (p.mask &&& q.mask) == 0

theorem overlaps_comm (p q : Pattern) : p.overlaps q = q.overlaps p := by
  simp [overlaps, Nat.xor_comm, Nat.and_comm]

theorem overlaps_self (p : Pattern) : p.overlaps p = true := by
  simp [overlaps]

theorem length_of_parse {text : Text} {p : Pattern} (h : parse text = .ok p) :
    text.length = 4 := by
  unfold parse at h
  split at h
  · cases h
  · rename_i h4
    exact Decidable.not_not.1 h4

end Pattern

end Chip8
