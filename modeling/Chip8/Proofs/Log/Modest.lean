import Chip8.Proofs.Log.Template
import Chip8.Proofs.Number

/-!
Numbers of a sensible size.

Where the whole numbers among the arguments are code points and the others are not infinite, and
where no directive writes out a width that there is no room for or a precision beyond a machine
integer, nothing stops the filling of a template (`not_overflows_of_isModest`).
-/

namespace Chip8.Log

variable {precision : Option Nat} {letter : Symbol} {a : Arg} {d : Directive}
  {args left : List Arg} {e : Overflow} {room : Number.Room}

/-- A whole number is a code point, and a floating-point number is finite or none at all. -/
def Arg.IsModest : Arg → Prop
  | .int n => 0 ≤ n ∧ n < 0x110000
  | .real x => ∀ negative, Number.parts x ≠ .infinite negative
  | _ => True

/-- A width or a precision that is written out is at most a limit. -/
def Bound.AtMost (limit : Nat) (b : Bound) : Prop := ∀ n, b = .number n → n ≤ limit

/-- There is room for the width that is written out in a directive, and the precision is a machine
integer. -/
structure Directive.IsModest (room : Number.Room) (d : Directive) : Prop where
  width : d.width.AtMost room.bytes
  precision : d.precision.AtMost (Number.max32 - 3)

lemma Arg.IsModest.exactInt (h : a.IsModest) {n : Int} (ha : a.exactInt = .ok n) :
    0 ≤ n ∧ n < 0x110000 := by
  cases a with
  | int m => exact Except.ok.inj ha ▸ h
  | truth b =>
    obtain rfl := Except.ok.inj ha
    cases b <;> decide
  | _ => cases ha

lemma nextBound_of_isModest (all : ∀ a ∈ args, a.IsModest) {fits : Int → Bool} {what : Overflow}
    {n : Int} (h : nextBound fits what args = .ok (n, left)) :
    0 ≤ n ∧ n < 0x110000 ∧ ∀ a ∈ left, a.IsModest := by
  rcases args with _ | ⟨a, rest⟩
  · cases h
  obtain ⟨m, ha, h⟩ := bind_eq_ok_iff.1 h
  split_ifs at h
  cases h
  obtain ⟨low, high⟩ := (all a List.mem_cons_self).exactInt ha
  exact ⟨low, high, fun b hb => all b (List.mem_cons_of_mem a hb)⟩

lemma sides_of_isModest (modest : d.IsModest room) (all : ∀ a ∈ args, a.IsModest)
    {sides : Text × Nat} (h : d.sides args = .ok (sides, left)) :
    sides.2 ≤ room.bytes ∧ ∀ a ∈ left, a.IsModest := by
  unfold Directive.sides at h
  split at h
  · cases h
    exact ⟨Nat.zero_le _, all⟩
  · next n written =>
    cases h
    exact ⟨modest.width n written, all⟩
  · cases h
  · obtain ⟨⟨n, rest⟩, hnext, h⟩ := bind_eq_ok_iff.1 h
    cases h
    obtain ⟨low, high, hleft⟩ := nextBound_of_isModest all hnext
    refine ⟨?_, hleft⟩
    have := room.ample
    rw [widthSize]
    split_ifs <;> omega

lemma places_of_isModest (modest : d.IsModest room) (all : ∀ a ∈ args, a.IsModest)
    (h : d.places args = .ok (precision, left)) :
    (∀ p, precision = some p → p ≤ Number.max32 - 3) ∧ ∀ a ∈ left, a.IsModest := by
  unfold Directive.places at h
  split at h
  · cases h
    exact ⟨by simp, all⟩
  · next n written =>
    cases h
    exact ⟨fun p hp => Option.some.inj hp ▸ modest.precision n written, all⟩
  · cases h
  · obtain ⟨⟨n, rest⟩, hnext, h⟩ := bind_eq_ok_iff.1 h
    cases h
    obtain ⟨low, high, hleft⟩ := nextBound_of_isModest all hnext
    refine ⟨fun p hp => ?_, hleft⟩
    obtain rfl := Option.some.inj hp
    rw [Number.max32]
    omega

lemma field_of_isModest (modest : d.IsModest room) (all : ∀ a ∈ args, a.IsModest) {f : Field}
    (h : d.field args = .ok (f, left)) : f.width ≤ room.bytes ∧
      (∀ p, f.precision = some p → p ≤ Number.max32 - 3) ∧ ∀ a ∈ left, a.IsModest := by
  obtain ⟨⟨sides, rest⟩, hsides, h⟩ := bind_eq_ok_iff.1 h
  obtain ⟨⟨precision, rest'⟩, hplaces, h⟩ := bind_eq_ok_iff.1 h
  cases h
  obtain ⟨hwidth, hrest⟩ := sides_of_isModest modest all hsides
  obtain ⟨hprecision, hleft⟩ := places_of_isModest modest hrest hplaces
  exact ⟨hwidth, hprecision, hleft⟩

lemma not_refuses_of_isModest (modest : a.IsModest)
    (few : ∀ p, precision = some p → p ≤ Number.max32 - 3) : ¬Refuses precision letter a e := by
  intro h
  cases h with
  | character _ outside => exact outside modest
  | infinite _ infinite => exact modest _ infinite
  | @float n _ beyond =>
    obtain ⟨low, high⟩ := modest
    have bits : n.natAbs < 2 ^ 21 := by omega
    exact Bool.noConfusion (beyond.symm.trans (Number.fitsFloat_of_lt (by decide) bits))
  | digits _ asked many => exact absurd (few _ asked) (not_le.2 many)

/-- A code point is a machine integer. -/
lemma fits32_of_codePoint {n : Int} (low : 0 ≤ n) (high : n < 0x110000) :
    Number.fits32 n = true := by
  rw [Number.fits32, Bool.and_eq_true, decide_eq_true_eq, decide_eq_true_eq, Number.max32]
  omega

lemma not_exceeds_of_isModest (modest : d.IsModest room) (all : ∀ a ∈ args, a.IsModest) :
    ¬d.Exceeds room args e := by
  intro h
  cases h with
  | width _ large =>
    obtain ⟨low, high⟩ := all _ List.mem_cons_self
    have fits := Number.fits64_of_fits32 (fits32_of_codePoint low high)
    exact Bool.noConfusion (large.symm.trans fits)
  | precision before _ large =>
    obtain ⟨-, hrest⟩ := sides_of_isModest modest all before
    obtain ⟨low, high⟩ := hrest _ List.mem_cons_self
    exact Bool.noConfusion (large.symm.trans (fits32_of_codePoint low high))
  | argument before _ refuses =>
    obtain ⟨-, few, hrest⟩ := field_of_isModest modest all before
    exact not_refuses_of_isModest (hrest _ List.mem_cons_self) few refuses
  | field before _ _ wide => exact absurd (field_of_isModest modest all before).1 (not_le.2 wide)

/-- What a directive leaves is behind the argument that it printed. -/
lemma exists_field_of_render {s : Text} (h : d.render room args = .ok (s, left)) :
    ∃ f a, d.field args = .ok (f, a :: left) := by
  obtain ⟨why, -, hrender⟩ | hrender | ⟨f, a, rest, letter, before, -, hrender⟩ :=
    render_cases room d args <;> rw [hrender] at h
  · cases h
  · cases h
  · obtain ⟨_, -, h⟩ := bind_eq_ok_iff.1 h
    cases h
    exact ⟨f, a, before⟩

/-- **Modest arguments stop no template of modest directives.** -/
theorem not_overflows_of_isModest {ps : List Piece}
    (directives : ∀ d, .directive d ∈ ps → Directive.IsModest room d)
    (all : ∀ a ∈ args, a.IsModest) : ¬Overflows room ps args e := by
  intro h
  induction h with
  | here exceeds => exact not_exceeds_of_isModest (directives _ List.mem_cons_self) all exceeds
  | literal _ ih => exact ih (fun d hd => directives d (List.mem_cons_of_mem _ hd)) all
  | directive prints _ ih =>
    obtain ⟨f, a, hfield⟩ := exists_field_of_render prints
    obtain ⟨-, -, hleft⟩ := field_of_isModest (directives _ List.mem_cons_self) all hfield
    exact ih (fun d hd => directives d (List.mem_cons_of_mem _ hd))
      fun b hb => hleft b (List.mem_cons_of_mem a hb)

end Chip8.Log
