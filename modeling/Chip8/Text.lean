/-!
Texts. What comes in from outside is a row of symbols. A symbol is a character, or one half of a
surrogate pair that stands without the other half: such a half has a code point but is no
character, so a string cannot hold it. Every symbol is told by its code point (`ofCode_code`), and
every code point tells one (`code_ofCode`).
-/

namespace Chip8

/-- A symbol of a text: a character, or a half of a surrogate pair, counted from U+D800. -/
inductive Symbol where
  | char (c : Char)
  | half (k : Fin 2048)
  deriving DecidableEq, Repr

namespace Symbol

instance : Coe Char Symbol := ⟨char⟩

/-- The code point of a symbol. -/
def code : Symbol → Nat
  | char c => c.toNat
  | half k => 0xD800 + k.val

/-- The symbol of a code point. -/
def ofCode (n : Nat) : Symbol :=
  if h : 0xD800 ≤ n ∧ n < 0xE000 then half ⟨n - 0xD800, by omega⟩ else char (Char.ofNat n)

/-- Whether a symbol is a digit of ASCII. -/
def isAsciiDigit (c : Symbol) : Bool := 48 ≤ c.code && c.code ≤ 57

/-- No character has the code point of a half. -/
theorem not_half_of_char (c : Char) : ¬(0xD800 ≤ c.toNat ∧ c.toNat < 0xE000) := by
  have h := c.valid
  simp only [UInt32.isValidChar, Nat.isValidChar] at h
  simp only [Char.toNat]
  omega

theorem ofCode_code (c : Symbol) : ofCode c.code = c := by
  cases c with
  | char c => rw [code, ofCode, dif_neg (not_half_of_char c), Char.ofNat_toNat]
  | half k =>
    have h : 0xD800 ≤ 0xD800 + k.val ∧ 0xD800 + k.val < 0xE000 := by omega
    rw [code, ofCode, dif_pos h]
    exact congrArg half (Fin.ext (Nat.add_sub_cancel_left ..))

theorem code_ofCode {n : Nat} (h : n < 0x110000) : (ofCode n).code = n := by
  unfold ofCode
  split
  · rename_i hs
    exact Nat.add_sub_cancel' hs.1
  · rename_i hs
    have hv : n.isValidChar := by
      unfold Nat.isValidChar
      omega
    rw [code, Char.ofNat, dif_pos hv]
    rfl

end Symbol

/-- A text. -/
abbrev Text := List Symbol

namespace Text

/-- The text of characters. -/
def ofChars (cs : List Char) : Text := cs.map .char

/-- The text of a string. -/
def ofString (s : String) : Text := ofChars s.toList

instance : Coe String Text := ⟨ofString⟩

/-- Whether a text stands before another in the order of code points, or is that text. -/
def sortsBefore : Text → Text → Bool
  | [], _ => true
  | _ :: _, [] => false
  | a :: s, b :: t => a.code < b.code || (a.code == b.code && sortsBefore s t)

/-- Texts in a row with a separator between them. -/
def join (separator : Text) (parts : List Text) : Text := separator.intercalate parts

theorem ofString_inj {s t : String} : ofString s = ofString t ↔ s = t := by
  have h : Function.Injective Symbol.char := fun _ _ => Symbol.char.inj
  rw [ofString, ofString, ofChars, ofChars, List.map_inj_right h, String.toList_inj]

@[simp] theorem length_ofChars (cs : List Char) : (ofChars cs).length = cs.length := by
  simp [ofChars]

theorem ofChars_append (a b : List Char) : ofChars (a ++ b) = ofChars a ++ ofChars b := by
  simp [ofChars]

end Text

end Chip8
