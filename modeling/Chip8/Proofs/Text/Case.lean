import Mathlib
import Chip8.Text.Case

/-!
Upper and lower case.

A case table is a list of runs, and the images of a run are in a row as what it covers is. So it is
enough to compare the runs of a table with each other to see that no image is mapped any further
(`CaseRun.misses`), and with a range of code points to see that no image is there
(`CaseRun.avoids`). The lower case of a text is in lower case, then (`lower_lower`).
-/

namespace Chip8

lemma Symbol.code_lt (c : Symbol) : c.code < 0x110000 := by
  cases c with
  | char c =>
    have hvalid := c.valid
    simp only [UInt32.isValidChar, Nat.isValidChar] at hvalid
    rw [code, Char.toNat]
    omega
  | half k =>
    rw [code]
    omega

namespace Text

/-! ### Runs -/

namespace CaseRun

variable {r s : CaseRun} {n m lo hi : Nat}

/-- What a run makes of a number that it covers. -/
def image (r : CaseRun) (n : Nat) : Nat := ((n : Int) + r.offset).toNat

/-- The images of a run are code points. -/
def Within (r : CaseRun) : Prop := 0 ≤ r.first + r.offset ∧ r.image r.last < 0x110000

instance : Decidable r.Within := inferInstanceAs (Decidable (_ ∧ _))

/-- Whether the images of a run are all outside a range. -/
def avoids (r : CaseRun) (lo hi : Nat) : Bool := r.image r.last < lo || hi < r.image r.first

/-- Whether a run covers no image of another one: they are all outside its range, or they all
stand between its code points. -/
def misses (s r : CaseRun) : Bool :=
  r.avoids s.first s.last ||
    (r.first == r.last || r.step % s.step == 0) && r.image r.first % s.step != s.first % s.step

lemma covers_iff : r.covers n = true ↔
    r.first ≤ n ∧ n ≤ r.last ∧ (n - r.first) % r.step = 0 := by
  simp [covers, and_assoc]

lemma image_mono (h : n ≤ m) : r.image n ≤ r.image m := by
  unfold image
  omega

lemma image_lt (within : r.Within) (hn : r.covers n = true) : r.image n < 0x110000 :=
  (image_mono (covers_iff.1 hn).2.1).trans_lt within.2

lemma not_le_of_avoids (h : r.avoids lo hi = true) (hn : r.covers n = true) :
    ¬(lo ≤ r.image n ∧ r.image n ≤ hi) := by
  obtain ⟨hfirst, hlast, -⟩ := covers_iff.1 hn
  have hfrom := image_mono (r := r) hfirst
  have hto := image_mono (r := r) hlast
  simp only [avoids, Bool.or_eq_true, decide_eq_true_eq] at h
  omega

/-- All code points of a run, or all their images, have one remainder by a step of the run. -/
lemma image_mod (within : r.Within) (hn : r.covers n = true) {step : Nat}
    (same : r.first = r.last ∨ step ∣ r.step) : r.image n % step = r.image r.first % step := by
  obtain ⟨hfirst, hlast, hmod⟩ := covers_iff.1 hn
  have hstep : step ∣ n - r.first := by
    rcases same with hsingle | hdvd
    · have hzero : n - r.first = 0 := by omega
      rw [hzero]
      exact dvd_zero step
    · exact hdvd.trans (Nat.dvd_of_mod_eq_zero hmod)
  have himage : r.image n = r.image r.first + (n - r.first) := by
    have hpos := within.1
    unfold image
    omega
  rw [himage, Nat.add_mod, Nat.mod_eq_zero_of_dvd hstep, Nat.add_zero, Nat.mod_mod]

lemma not_covers_image (within : r.Within) (h : s.misses r = true) (hn : r.covers n = true) :
    ¬s.covers (r.image n) = true := by
  intro hs
  obtain ⟨hlo, hhi, hmod⟩ := covers_iff.1 hs
  simp only [misses, Bool.or_eq_true, Bool.and_eq_true, beq_iff_eq, bne_iff_ne] at h
  rcases h with avoids | ⟨same, apart⟩
  · exact not_le_of_avoids avoids hn ⟨hlo, hhi⟩
  · apply apart
    rw [← image_mod within hn (same.imp_right Nat.dvd_of_mod_eq_zero)]
    exact (Nat.modEq_iff_dvd' hlo).2 (Nat.dvd_of_mod_eq_zero hmod) |>.symm

end CaseRun

section

variable {table : List CaseRun}

/-- A number stays as it is, or a run that covers it takes it to its image. -/
lemma mapByRuns_cases (table : List CaseRun) (n : Nat) :
    ((∀ r ∈ table, ¬r.covers n = true) ∧ mapByRuns table n = n) ∨
      ∃ r ∈ table, r.covers n = true ∧ mapByRuns table n = r.image n := by
  rcases hfind : table.find? (·.covers n) with _ | r
  · refine .inl ⟨List.find?_eq_none.1 hfind, ?_⟩
    rw [mapByRuns, hfind]
  · have hcovers := List.find?_some hfind
    refine .inr ⟨r, List.mem_of_find?_eq_some hfind, hcovers, ?_⟩
    rw [mapByRuns, hfind]
    rfl

lemma mapByRuns_of_not_covers {n : Nat} (h : ∀ r ∈ table, ¬r.covers n = true) :
    mapByRuns table n = n := by
  rw [mapByRuns, List.find?_eq_none.2 h]

lemma code_ofCode_mapByRuns (within : ∀ r ∈ table, r.Within) (c : Symbol) :
    (Symbol.ofCode (mapByRuns table c.code)).code = mapByRuns table c.code := by
  apply Symbol.code_ofCode
  rcases mapByRuns_cases table c.code with ⟨-, heq⟩ | ⟨r, hr, hcovers, heq⟩ <;> rw [heq]
  · exact c.code_lt
  · exact CaseRun.image_lt (within r hr) hcovers

/-- Where no run covers an image, images are not mapped any further. -/
lemma mapByRuns_mapByRuns (within : ∀ r ∈ table, r.Within)
    (misses : ∀ r ∈ table, ∀ s ∈ table, s.misses r = true) (n : Nat) :
    mapByRuns table (mapByRuns table n) = mapByRuns table n := by
  rcases mapByRuns_cases table n with ⟨-, heq⟩ | ⟨r, hr, hcovers, heq⟩
  · rw [heq, heq]
  · rw [heq]
    apply mapByRuns_of_not_covers
    intro s hs
    exact CaseRun.not_covers_image (within r hr) (misses r hr s hs) hcovers

end

/-! ### Lower case -/

lemma within_lowerRuns : ∀ r ∈ lowerRuns, r.Within := by
  decide +kernel

lemma misses_lowerRuns : ∀ r ∈ lowerRuns, ∀ s ∈ lowerRuns, s.misses r = true := by
  have hall : (lowerRuns.all fun r => lowerRuns.all fun s => s.misses r) = true := by
    decide +kernel
  intro r hr
  exact List.all_eq_true.1 (List.all_eq_true.1 hall r hr)

lemma avoids_lowerRuns : ∀ r ∈ lowerRuns, r.avoids 0x130 0x130 = true := by
  decide +kernel

/-- Lower case has nothing to change about a symbol, wherever it stands. -/
def IsLower (c : Symbol) : Prop := c.code ≠ 0x3A3 ∧ lowerSymbol c = [c]

instance (c : Symbol) : Decidable (IsLower c) := inferInstanceAs (Decidable (_ ∧ _))

/-- The lower case of a letter is in lower case. -/
lemma isLower_ofCode {c : Symbol} (hc : c.code ≠ 0x130) :
    IsLower (Symbol.ofCode (mapByRuns lowerRuns c.code)) := by
  have hcode := code_ofCode_mapByRuns within_lowerRuns c
  have hfixed := mapByRuns_mapByRuns within_lowerRuns misses_lowerRuns c.code
  have hdot : mapByRuns lowerRuns c.code ≠ 0x130 := by
    rcases mapByRuns_cases lowerRuns c.code with ⟨-, heq⟩ | ⟨r, hr, hcovers, heq⟩ <;> rw [heq]
    · exact hc
    · intro h
      exact CaseRun.not_le_of_avoids (avoids_lowerRuns r hr) hcovers ⟨h.ge, h.le⟩
  constructor
  · -- a capital sigma would be mapped further
    rw [hcode]
    intro hsigma
    rw [hsigma] at hfixed
    exact absurd hfixed (by decide +kernel)
  · rw [lowerSymbol, hcode, if_neg hdot, hfixed]

lemma isLower_of_mem_lowerSymbol {c d : Symbol} (hd : d ∈ lowerSymbol c) : IsLower d := by
  unfold lowerSymbol at hd
  split at hd
  · have hdotted : ∀ d ∈ ([.char 'i', Symbol.ofCode 0x307] : Text), IsLower d := by
      decide +kernel
    exact hdotted d hd
  · rename_i hc
    obtain rfl := List.mem_singleton.1 hd
    exact isLower_ofCode hc

lemma isLower_of_mem_lowerAfter {before s : Text} {d : Symbol} (hd : d ∈ lowerAfter before s) :
    IsLower d := by
  induction s generalizing before with
  | nil => nomatch hd
  | cons c rest ih =>
    rw [lowerAfter, List.mem_append] at hd
    rcases hd with hd | hd
    · split at hd
      · obtain rfl := List.mem_singleton.1 hd
        split <;> decide +kernel
      · exact isLower_of_mem_lowerSymbol hd
    · exact ih hd

lemma lowerAfter_eq_self {before s : Text} (h : ∀ c ∈ s, IsLower c) : lowerAfter before s = s := by
  induction s generalizing before with
  | nil => rfl
  | cons c rest ih =>
    rw [List.forall_mem_cons] at h
    rw [lowerAfter, if_neg h.1.1, h.1.2, ih h.2, List.singleton_append]

/-- **Lower case is lower case.** Taking it again changes nothing. -/
theorem lower_lower (s : Text) : lower (lower s) = lower s :=
  lowerAfter_eq_self fun _ => isLower_of_mem_lowerAfter

end Text

end Chip8
