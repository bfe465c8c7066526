import Mathlib
import Chip8.Instruction.Pattern

/-!
What patterns match.

A mask and a value are built nibble by nibble from the demands of the symbols, so matching them is
matching every nibble (`covers_iff_fits`). The leading nibble of a pattern is exact, so every number
that it matches is in its group (`group_of_covers`). Two patterns that agree wherever both are exact
have the number in common that puts their values together (`overlaps_iff_exists_covers`).
-/

namespace Chip8.Pattern

/-! ### Nibbles of masks -/

lemma land_nibble {a b m k : Nat} (hb : b < 16) (hk : k < 16) :
    (a * 16 + b) &&& (m * 16 + k) = (a &&& m) * 16 + (b &&& k) := by
  have hdiv := Nat.and_div_two_pow (a := a * 16 + b) (b := m * 16 + k) (n := 4)
  have hmod := Nat.and_mod_two_pow (a := a * 16 + b) (b := m * 16 + k) (n := 4)
  rw [show (a * 16 + b) / 2 ^ 4 = a by omega, show (m * 16 + k) / 2 ^ 4 = m by omega] at hdiv
  rw [show (a * 16 + b) % 2 ^ 4 = b by omega, show (m * 16 + k) % 2 ^ 4 = k by omega] at hmod
  omega

lemma land_fifteen {n : Nat} (h : n < 16) : n &&& 15 = n := by
  rw [show (15 : Nat) = 2 ^ 4 - 1 from rfl, Nat.and_two_pow_sub_one_eq_mod]
  exact Nat.mod_eq_of_lt h

/-- A nibble is what a demand asks for. -/
def Meets (d : Demand) (nibble : Nat) : Prop := ∀ v ∈ d, nibble = v

lemma meets_iff {d : Demand} {n a m v : Nat} (hd : ∀ v ∈ d, v < 16) (hn : n < 16) :
    ((a * 16 + n) &&& (m * 16 + if d.isSome then 15 else 0)) = v * 16 + d.getD 0 ↔
      (a &&& m) = v ∧ Meets d n := by
  cases d with
  | none =>
    rw [land_nibble hn (by simp)]
    simp [Meets]
  | some x =>
    have hx : x < 16 := hd x rfl
    rw [land_nibble hn (by simp)]
    simp only [Option.isSome_some, if_true, land_fifteen hn, Option.getD_some, Meets,
      Option.mem_some_iff, forall_eq']
    omega

/-- A number matches a row of demands when its nibbles do, one by one. -/
lemma forall₂_meets_iff {ds : List Demand} {ns : List Nat} (hlen : ds.length = ns.length)
    (hd : ∀ d ∈ ds, ∀ v ∈ d, v < 16) (hn : ∀ n ∈ ns, n < 16) (a m v : Nat) :
    (ns.foldl (fun a n => a * 16 + n) a &&&
        ds.foldl (fun mask d => mask * 16 + if d.isSome then 15 else 0) m) =
      ds.foldl (fun value d => value * 16 + d.getD 0) v ↔
      (a &&& m) = v ∧ List.Forall₂ Meets ds ns := by
  induction ds generalizing ns a m v with
  | nil =>
    obtain rfl := List.length_eq_zero_iff.1 hlen.symm
    simp
  | cons d ds ih =>
    rcases ns with _ | ⟨n, ns⟩
    · cases hlen
    rw [List.forall_mem_cons] at hd hn
    rw [List.foldl_cons, List.foldl_cons, List.foldl_cons,
      ih (Nat.succ.inj hlen) hd.2 hn.2, meets_iff hd.1 hn.1, List.forall₂_cons, and_assoc]

/-! ### What was read -/

lemma forall₂_of_demands {text cs : Text} {ds : List Demand} (h : demands text cs = .ok ds) :
    List.Forall₂ (fun c d => demand? c = some d) cs ds := by
  induction cs generalizing ds with
  | nil =>
    cases h
    exact .nil
  | cons c rest ih =>
    rw [demands] at h
    rcases hc : demand? c with _ | d <;> simp only [hc] at h
    · cases h
    rcases hr : demands text rest with e | ds' <;> rw [hr] at h <;> cases h
    exact .cons hc (ih hr)

lemma demand?_lt {c : Symbol} {d : Demand} (h : demand? c = some d) : ∀ v ∈ d, v < 16 := by
  unfold demand? at h
  split at h
  · cases h
    exact nofun
  · obtain ⟨v, hv, rfl⟩ := Option.map_eq_some_iff.1 h
    intro v' hv'
    cases hv'
    exact Text.hexDigit?_lt hv

lemma lt_of_demands {cs : Text} {ds : List Demand}
    (h : List.Forall₂ (fun c d => demand? c = some d) cs ds) : ∀ d ∈ ds, ∀ v ∈ d, v < 16 := by
  induction h with
  | nil => exact nofun
  | cons hc _ ih => exact List.forall_mem_cons.2 ⟨demand?_lt hc, ih⟩

lemma exists_demands_of_parse {text : Text} {p : Pattern} (h : parse text = .ok p) :
    ∃ ds, demands text (Text.upper text) = .ok ds ∧ maskOf ds &&& 0xF000 ≠ 0 ∧
      p = ⟨text, maskOf ds, valueOf ds⟩ := by
  rw [parse, if_neg (not_not.2 (length_of_parse h))] at h
  rcases hd : demands text (Text.upper text) with e | ds <;> rw [hd] at h
  · cases h
  refine ⟨ds, rfl, ?_⟩
  by_cases hm : maskOf ds &&& 0xF000 = 0
  · simp only [bind, Except.bind, hm, if_true] at h
    cases h
  · simp only [bind, Except.bind, hm, if_false] at h
    exact ⟨hm, (Except.ok.inj h).symm⟩

/-- A symbol in upper case stands for a nibble. -/
def SymbolFits (c : Symbol) (nibble : Nat) : Prop :=
  c = 'X' ∨ c = 'Y' ∨ c = 'N' ∨ Text.hexDigit? c = some nibble

/-- A word reads as four symbols in upper case. -/
def Fits (text : Text) (w : Word) : Prop := List.Forall₂ SymbolFits text w.nibbles

lemma meets_iff_symbolFits {c : Symbol} {d : Demand} {n : Nat} (h : demand? c = some d) :
    Meets d n ↔ SymbolFits c n := by
  unfold demand? at h
  split at h
  · rename_i hc
    cases h
    simp only [SymbolFits]
    exact iff_of_true nofun (by tauto)
  · rename_i hc
    obtain ⟨v, hv, rfl⟩ := Option.map_eq_some_iff.1 h
    simp only [Meets, SymbolFits, hv, Option.mem_some_iff, forall_eq', Option.some.injEq]
    constructor
    · rintro rfl
      exact .inr (.inr (.inr rfl))
    · rintro (hX | hY | hN | rfl)
      · exact absurd (.inl hX) hc
      · exact absurd (.inr (.inl hY)) hc
      · exact absurd (.inr (.inr hN)) hc
      · rfl

lemma forall₂_meets_iff_symbolFits {cs : Text} {ds : List Demand}
    (h : List.Forall₂ (fun c d => demand? c = some d) cs ds) (ns : List Nat) :
    List.Forall₂ Meets ds ns ↔ List.Forall₂ SymbolFits cs ns := by
  induction h generalizing ns with
  | nil => simp
  | cons hc _ ih =>
    cases ns with
    | nil => simp
    | cons n ns => rw [List.forall₂_cons, List.forall₂_cons, meets_iff_symbolFits hc, ih]

lemma nibbles_lt {w : Word} : ∀ n ∈ w.nibbles, n < 16 := by
  simp [Word.nibbles, w.n_lt]

lemma val_eq_foldl (w : Word) : w.val = w.nibbles.foldl (fun a n => a * 16 + n) 0 := by
  rw [Word.val_eq_nibbles]
  simp [Word.nibbles]

/-- A pattern of four nibbles matches the words that read as it. -/
theorem covers_iff_fits {text : Text} {p : Pattern} (h : parse text = .ok p)
    (four : (Text.upper text).length = 4) (w : Word) :
    p.covers w.val = true ↔ Fits (Text.upper text) w := by
  obtain ⟨ds, hds, -, rfl⟩ := exists_demands_of_parse h
  have hall := forall₂_of_demands hds
  have hlen : ds.length = w.nibbles.length := by rw [← hall.length_eq, four]; rfl
  rw [covers, beq_iff_eq, val_eq_foldl, maskOf, valueOf,
    forall₂_meets_iff hlen (lt_of_demands hall) nibbles_lt, and_iff_right (Nat.and_self 0),
    forall₂_meets_iff_symbolFits hall, Fits]

/-! ### Digits of masks and values -/

/-- Digits one after another, the last one first. -/
lemma foldl_eq_ofDigits (f : Demand → Nat) (ds : List Demand) :
    ds.foldl (fun n d => n * 16 + f d) 0 = Nat.ofDigits 16 (ds.reverse.map f) := by
  induction ds using List.reverseRecOn with
  | nil => rfl
  | append_singleton ds d ih =>
    rw [List.foldl_append, ih, List.reverse_concat, List.map_cons, Nat.ofDigits_cons]
    exact (Nat.add_comm ..).trans (congrArg (f d + ·) (Nat.mul_comm ..))

/-- A digit of a number. -/
lemma ofDigits_div_mod {digits : List Nat} (small : ∀ d ∈ digits, d < 16) (j : Nat) :
    Nat.ofDigits 16 digits / 16 ^ j % 16 = digits[j]?.getD 0 := by
  rw [Nat.ofDigits_div_pow_eq_ofDigits_drop j (by decide) digits small]
  rcases hdrop : digits.drop j with _ | ⟨d, rest⟩
  · rw [List.getElem?_eq_none (List.drop_eq_nil_iff.1 hdrop)]
    rfl
  · have hd : digits[j]? = some d := by
      rw [← List.head?_drop, hdrop, List.head?_cons]
    have hlt : d < 16 := small d (List.mem_of_getElem? hd)
    rw [hd, Nat.ofDigits_cons, Option.getD_some]
    omega

section

variable {ds : List Demand} {f : Demand → Nat}

lemma mem_digits_lt (small : ∀ d ∈ ds, f d < 16) : ∀ n ∈ ds.reverse.map f, n < 16 :=
  List.forall_mem_map.2 fun d hd => small d (List.mem_reverse.1 hd)

lemma foldl_lt_pow (small : ∀ d ∈ ds, f d < 16) :
    ds.foldl (fun n d => n * 16 + f d) 0 < 16 ^ ds.length := by
  have hlt := Nat.ofDigits_lt_base_pow_length (b := 16) (by decide) (mem_digits_lt small)
  rwa [List.length_map, List.length_reverse, ← foldl_eq_ofDigits] at hlt

lemma foldl_div_mod (small : ∀ d ∈ ds, f d < 16) (j : Nat) :
    ds.foldl (fun n d => n * 16 + f d) 0 / 16 ^ j % 16 = (ds.reverse[j]?.map f).getD 0 := by
  rw [foldl_eq_ofDigits, ofDigits_div_mod (mem_digits_lt small), List.getElem?_map]

end

lemma maskDigit_lt (d : Demand) : (if d.isSome then 15 else 0) < 16 := by
  split <;> decide

lemma valueDigit_lt {d : Demand} (small : ∀ v ∈ d, v < 16) : d.getD 0 < 16 := by
  cases d with
  | none => decide
  | some v => exact small v rfl

/-! ### Groups -/

lemma nibble_maskOf (ds : List Demand) (j : Nat) :
    maskOf ds / 16 ^ j % 16 = 0 ∨ maskOf ds / 16 ^ j % 16 = 15 := by
  rw [maskOf, foldl_div_mod fun d _ => maskDigit_lt d]
  rcases ds.reverse[j]? with _ | _ | v
  · exact .inl rfl
  · exact .inl rfl
  · exact .inr rfl

lemma land_div_mod (a b : Nat) :
    (a &&& b) / 4096 % 16 = (a / 4096 % 16) &&& (b / 4096 % 16) := by
  have hdiv := Nat.and_div_two_pow (a := a) (b := b) (n := 12)
  have hmod := Nat.and_mod_two_pow (a := a / 4096) (b := b / 4096) (n := 4)
  rw [show (2 : Nat) ^ 12 = 4096 from rfl] at hdiv
  rw [hdiv]
  exact hmod

lemma land_leading {m : Nat} (h : m / 4096 % 16 = 0) : m &&& 0xF000 = 0 := by
  have hdiv := Nat.and_div_two_pow (a := m) (b := 0xF000) (n := 12)
  have hmod := Nat.and_mod_two_pow (a := m) (b := 0xF000) (n := 12)
  have hlow : m / 4096 &&& (2 ^ 4 - 1) = m / 4096 % 2 ^ 4 := Nat.and_two_pow_sub_one_eq_mod _ 4
  simp only [Nat.reducePow, Nat.reduceDiv, Nat.reduceMod, Nat.reduceSub, Nat.and_zero]
    at hdiv hmod hlow
  omega

/-- A number that a pattern matches has the leading nibble of the pattern. -/
theorem val_group_of_covers {text : Text} {p : Pattern} (h : parse text = .ok p) {n : Nat}
    (hn : p.covers n = true) : p.group.val = n / 4096 % 16 := by
  obtain ⟨ds, -, hopen, rfl⟩ := exists_demands_of_parse h
  have hexact : maskOf ds / 16 ^ 3 % 16 = 15 :=
    (nibble_maskOf ds 3).resolve_left fun h0 => hopen (land_leading h0)
  rw [covers, beq_iff_eq] at hn
  simp only [group] at hn ⊢
  rw [← hn, land_div_mod, show maskOf ds / 4096 % 16 = 15 from hexact,
    land_fifteen (Nat.mod_lt _ (by omega))]

/-- A word that a pattern matches is in the group of the pattern. -/
theorem group_of_covers {text : Text} {p : Pattern} (h : parse text = .ok p) {w : Word}
    (hw : p.covers w.val = true) : p.group = w.group :=
  Fin.ext (val_group_of_covers h hw)

/-! ### Overlaps -/

/-- The value of a row of demands has no bit outside the mask. -/
lemma land_foldl_demands {ds : List Demand} (hd : ∀ d ∈ ds, ∀ v ∈ d, v < 16) {a m : Nat}
    (h : a &&& m = a) :
    ds.foldl (fun value d => value * 16 + d.getD 0) a &&&
        ds.foldl (fun mask d => mask * 16 + if d.isSome then 15 else 0) m =
      ds.foldl (fun value d => value * 16 + d.getD 0) a := by
  induction ds generalizing a m with
  | nil => exact h
  | cons d ds ih =>
    rw [List.forall_mem_cons] at hd
    refine ih hd.2 ?_
    cases d with
    | none =>
      simp only [Option.getD_none, Option.isSome_none, Bool.false_eq_true, if_false]
      rw [land_nibble (by omega) (by omega), h, Nat.and_self]
    | some v =>
      have hv : v < 16 := hd.1 v rfl
      simp only [Option.getD_some, Option.isSome_some, if_true]
      rw [land_nibble hv (by omega), h, land_fifteen hv]

lemma value_land_mask {text : Text} {p : Pattern} (h : parse text = .ok p) :
    p.value &&& p.mask = p.value := by
  obtain ⟨ds, hds, -, rfl⟩ := exists_demands_of_parse h
  exact land_foldl_demands (lt_of_demands (forall₂_of_demands hds)) rfl

/-- Two patterns that match one number overlap. -/
theorem overlaps_of_covers {p q : Pattern} {n : Nat} (hp : p.covers n = true)
    (hq : q.covers n = true) : p.overlaps q = true := by
  rw [covers, beq_iff_eq] at hp hq
  rw [overlaps, beq_iff_eq, ← hp, ← hq]
  apply Nat.eq_of_testBit_eq
  intro i
  simp only [Nat.testBit_and, Nat.testBit_xor, Nat.zero_testBit]
  cases n.testBit i <;> cases p.mask.testBit i <;> cases q.mask.testBit i <;> rfl

/-- The bits of two values that agree where both masks reach, put together, give one value back
under its mask. -/
lemma lor_land_mask {v m v' m' : Nat} (hv : v &&& m = v) (hv' : v' &&& m' = v')
    (agree : (v ^^^ v') &&& (m &&& m') = 0) : (v ||| v') &&& m = v := by
  apply Nat.eq_of_testBit_eq
  intro i
  have hbit := congrArg (·.testBit i) hv
  have hbit' := congrArg (·.testBit i) hv'
  have hagree := congrArg (·.testBit i) agree
  simp only [Nat.testBit_and, Nat.testBit_or, Nat.testBit_xor, Nat.zero_testBit]
    at hbit hbit' hagree ⊢
  cases hvi : v.testBit i <;> cases hv'i : v'.testBit i <;> cases hmi : m.testBit i <;>
    cases hm'i : m'.testBit i <;> simp_all

/-- **Overlaps are exact.** Two patterns overlap exactly when some number is matched by both. -/
theorem overlaps_iff_exists_covers {text text' : Text} {p q : Pattern} (hp : parse text = .ok p)
    (hq : parse text' = .ok q) :
    p.overlaps q = true ↔ ∃ n, p.covers n = true ∧ q.covers n = true := by
  constructor
  · intro hover
    have hvp := value_land_mask hp
    have hvq := value_land_mask hq
    rw [overlaps, beq_iff_eq] at hover
    refine ⟨p.value ||| q.value, ?_, ?_⟩
    · rw [covers, beq_iff_eq]
      exact lor_land_mask hvp hvq hover
    · rw [covers, beq_iff_eq, Nat.lor_comm]
      rw [Nat.xor_comm, Nat.land_comm p.mask] at hover
      exact lor_land_mask hvq hvp hover
  · rintro ⟨n, hpn, hqn⟩
    exact overlaps_of_covers hpn hqn

/-- Patterns that overlap are in one group. -/
lemma group_eq_of_overlaps {text text' : Text} {p q : Pattern} (hp : parse text = .ok p)
    (hq : parse text' = .ok q) (h : p.overlaps q = true) : p.group = q.group := by
  obtain ⟨n, hpn, hqn⟩ := (overlaps_iff_exists_covers hp hq).1 h
  exact Fin.ext ((val_group_of_covers hp hpn).trans (val_group_of_covers hq hqn).symm)

end Chip8.Pattern
