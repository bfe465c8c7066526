import Chip8.Text.Quoted

/-!
Texts as bytes, the form in which a system keeps names. Characters are written in UTF-8. A byte
that belongs to no character is read as a half from U+DC80 to U+DCFF, and such a half is written as
that byte; no other half can be written. So reading loses nothing: what was read is written as the
same bytes (`bytes_decode`).
-/

namespace Chip8

/-- The half that a byte outside of all characters is read as. -/
def Symbol.ofByte (b : UInt8) : Symbol := .ofCode (0xDC00 + b.toNat)

/-- The bytes of a symbol, unless it is a half that stands for no byte. The halves from 0x480 to
0x4FF, counted from U+D800, are those from U+DC80 to U+DCFF. -/
def Symbol.bytes? : Symbol → Option (List UInt8)
  | .char c => some (String.utf8EncodeChar c)
  | .half k => if 0x480 ≤ k.val ∧ k.val < 0x500 then some [UInt8.ofNat (k.val - 0x400)] else none

/-- Whether a symbol is a half. -/
def Symbol.isHalf : Symbol → Bool
  | .char _ => false
  | .half _ => true

namespace Text

/-! ### Writing -/

/-- The halves that keep a text from being written: how many symbols stand before them, the first
of them, and how many follow it in a row. -/
structure Unwritable where
  position : Nat
  half : Fin 2048
  more : Nat
  deriving DecidableEq, Repr

/-- The message about a text that cannot be written. -/
def Unwritable.message (u : Unwritable) : String :=
  if u.more = 0 then
    let shown := String.ofList (codeEscape (Symbol.half u.half).code)
    s!"'utf-8' codec can't encode character '{shown}' in position {u.position}: surrogates not allowed"
  else
    s!"'utf-8' codec can't encode characters in position {u.position}-{u.position + u.more}: surrogates not allowed"

/-- The bytes of a text; symbols that have none are left out. -/
def bytes (s : Text) : List UInt8 := s.flatMap fun c => c.bytes?.getD []

/-- Why a text cannot be written, if it has symbols without bytes. -/
def unwritable? (s : Text) : Option Unwritable :=
  let written := s.takeWhile (·.bytes?.isSome)
  match s.drop written.length with
  | .half k :: rest => some ⟨written.length, k, (rest.takeWhile Symbol.isHalf).length⟩
  | _ => none

/-! ### Reading -/

/-- The character that up to four bytes write if they are the bytes of a character. -/
def charOf : List UInt8 → Char
  | [a] => .ofNat a.toNat
  | [a, b] => .ofNat (a.toNat % 32 * 64 + b.toNat % 64)
  | [a, b, c] => .ofNat ((a.toNat % 16 * 64 + b.toNat % 64) * 64 + c.toNat % 64)
  | [a, b, c, d] =>
    .ofNat (((a.toNat % 8 * 64 + b.toNat % 64) * 64 + c.toNat % 64) * 64 + d.toNat % 64)
  | _ => .ofNat 0

/-- The character that bytes begin with. -/
def leading? (bs : List UInt8) : Option Char :=
  ([1, 2, 3, 4].map fun n => charOf (bs.take n)).find? fun c =>
    (String.utf8EncodeChar c).isPrefixOf bs

/-- The text that bytes write. -/
def decode : List UInt8 → Text
  | [] => []
  | b :: rest =>
    match leading? (b :: rest) with
    | some c => .char c :: decode (rest.drop ((String.utf8EncodeChar c).length - 1))
    | none => .ofByte b :: decode rest
termination_by bs => bs.length

theorem bytes_cons (c : Symbol) (s : Text) : bytes (c :: s) = c.bytes?.getD [] ++ bytes s := by
  simp [bytes]

theorem leading?_ascii {b : UInt8} (h : b < 128) (rest : List UInt8) :
    (leading? (b :: rest)).isSome := by
  have hb : b.toNat < 128 := h
  have hv : b.toNat.isValidChar := by
    unfold Nat.isValidChar
    omega
  have e : (Char.ofNat b.toNat).val.toNat = b.toNat := by
    rw [Char.ofNat, dif_pos hv]
    rfl
  have hc : String.utf8EncodeChar (Char.ofNat b.toNat) = [b] := by
    simp only [String.utf8EncodeChar]
    rw [if_pos (by omega), e]
    simp
  simp [leading?, charOf, hc]

theorem bytes?_ofByte {b : UInt8} (h : ¬b < 128) : (Symbol.ofByte b).bytes? = some [b] := by
  have h1 : 128 ≤ b.toNat := Nat.not_lt.1 h
  have h2 := b.toNat_lt
  have hs : 0xD800 ≤ 0xDC00 + b.toNat ∧ 0xDC00 + b.toNat < 0xE000 := by omega
  have hk : 0x480 ≤ 0xDC00 + b.toNat - 0xD800 ∧ 0xDC00 + b.toNat - 0xD800 < 0x500 := by omega
  have e : 0xDC00 + b.toNat - 0xD800 - 0x400 = b.toNat := by omega
  rw [Symbol.ofByte, Symbol.ofCode, dif_pos hs, Symbol.bytes?, if_pos hk, e, UInt8.ofNat_toNat]

theorem bytes_decode (bs : List UInt8) : bytes (decode bs) = bs := by
  fun_induction decode bs with
  | case1 => rfl
  | case2 b rest c h ih =>
    have hp := List.find?_some h
    obtain ⟨t, ht⟩ := List.isPrefixOf_iff_prefix.1 hp
    have hl : 0 < (String.utf8EncodeChar c).length := by
      rw [String.length_utf8EncodeChar]
      exact c.utf8Size_pos
    have hd : rest.drop ((String.utf8EncodeChar c).length - 1) = t := by
      have e := congrArg (List.drop (String.utf8EncodeChar c).length) ht
      rw [List.drop_left] at e
      obtain ⟨n, hn⟩ : ∃ n, (String.utf8EncodeChar c).length = n + 1 :=
        ⟨_, (Nat.succ_pred_eq_of_pos hl).symm⟩
      rw [e, hn]
      rfl
    rw [bytes_cons, ih, hd, ← ht]
    rfl
  | case3 b rest h ih =>
    have hb : ¬b < 128 := by
      intro hb
      have := leading?_ascii hb rest
      rw [h] at this
      cases this
    rw [bytes_cons, bytes?_ofByte hb, ih]
    rfl

end Text

end Chip8
