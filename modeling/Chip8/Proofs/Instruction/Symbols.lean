import Chip8.Proofs.Instruction.Pattern
import Chip8.Proofs.Text.Case

/-!
What patterns mean as they are written.

A pattern is read in upper case. That changes no symbol that it can be written with into one that
asks for something else, with one exception: the ligature of two small letters `f` becomes two
letters. So a pattern means its symbols once the ligatures are spelled out (`spelled`,
`map_asks_spelled`), and there are more than four of them exactly where it has a ligature.
-/

namespace Chip8.Pattern

open Text (CaseRun)

variable {text : Text} {p : Pattern} {ds : List Demand} {c u : Symbol}

/-! ### Symbols as they are written -/

/-- The symbols that match any nibble. -/
def wildcards : Text := "XYNxyn"

/-- What a symbol asks of its nibble, in upper case or not. -/
def asks (c : Symbol) : Option Demand :=
  if c ∈ wildcards then some none else (Text.hexDigit? c).map some

/-- A symbol stands for a nibble: it matches any, or is its digit. -/
def Reads (c : Symbol) (nibble : Nat) : Prop := c ∈ wildcards ∨ Text.hexDigit? c = some nibble

lemma reads_iff {nibble : Nat} : Reads c nibble ↔ ∃ d, asks c = some d ∧ Meets d nibble := by
  unfold Reads asks
  split
  · rename_i hc
    exact iff_of_true (.inl hc) ⟨none, rfl, nofun⟩
  · rename_i hc
    rw [or_iff_right hc]
    constructor
    · intro h
      refine ⟨some nibble, by rw [h, Option.map_some], ?_⟩
      rintro v ⟨⟩
      rfl
    · rintro ⟨d, hd, meets⟩
      obtain ⟨v, hv, rfl⟩ := Option.map_eq_some_iff.1 hd
      rw [hv, meets v rfl]

/-- The ligature of two small letters `f`. -/
def ligature : Symbol := Symbol.ofCode 0xFB00

/-- A symbol, spelled out. -/
def spelling (c : Symbol) : Text := if c = ligature then "FF" else [c]

/-- A text with its ligatures spelled out. -/
def spelled (text : Text) : Text := text.flatMap spelling

lemma length_spelled (text : Text) : (spelled text).length = text.length + text.count ligature := by
  induction text with
  | nil => rfl
  | cons c rest ih =>
    rw [spelled, List.flatMap_cons, List.length_append, ← spelled, ih, List.count_cons, spelling]
    by_cases hc : c = ligature
    · have htwo : ((("FF" : String) : Text)).length = 2 := rfl
      rw [if_pos hc, if_pos (beq_iff_eq.2 hc), htwo, List.length_cons]
      omega
    · rw [if_neg hc, if_neg (mt beq_iff_eq.1 hc), List.length_singleton, List.length_cons]
      omega

lemma spelled_eq_self (plain : ligature ∉ text) : spelled text = text := by
  induction text with
  | nil => rfl
  | cons c rest ih =>
    rw [List.mem_cons, not_or] at plain
    rw [spelled, List.flatMap_cons, spelling, if_neg (Ne.symm plain.1), ← spelled, ih plain.2,
      List.singleton_append]

/-! ### Upper case -/

/-- The ranges of the symbols that a pattern can be written with. -/
def ranges : List (Nat × Nat) :=
  [(65, 70), (78, 78), (88, 89), (97, 102)] ++ Text.decimalZeros.map fun z => (z, z + 9)

lemma exists_range_of_demand? {d : Demand} (h : demand? u = some d) :
    ∃ range ∈ ranges, range.1 ≤ u.code ∧ u.code ≤ range.2 := by
  unfold demand? at h
  split at h
  · rename_i hu
    rcases hu with rfl | rfl | rfl
    · exact ⟨(88, 89), by decide, by decide⟩
    · exact ⟨(88, 89), by decide, by decide⟩
    · exact ⟨(78, 78), by decide, by decide⟩
  · obtain ⟨v, hv, -⟩ := Option.map_eq_some_iff.1 h
    unfold Text.hexDigit? at hv
    split at hv
    · rename_i hsmall
      exact ⟨(97, 102), by decide, hsmall⟩
    · split at hv
      · rename_i hlarge
        exact ⟨(65, 70), by decide, hlarge⟩
      · obtain ⟨z, hz, -⟩ := Option.map_eq_some_iff.1 hv
        have hin := List.find?_some hz
        simp only [Bool.and_eq_true, decide_eq_true_eq] at hin
        refine ⟨(z, z + 9), List.mem_append_right _ (List.mem_map_of_mem ?_), hin.1, ?_⟩
        · exact List.mem_of_find?_eq_some hz
        · exact Nat.le_of_lt_succ hin.2

/-- The letters of ASCII, which stand first in the table. -/
def asciiRun : CaseRun := ⟨97, 122, 1, -32⟩

lemma within_upperRuns : ∀ r ∈ Text.upperRuns, r.Within := by
  decide +kernel

lemma avoids_upperRuns :
    ∀ r ∈ Text.upperRuns.tail, ∀ range ∈ ranges, r.avoids range.1 range.2 = true := by
  decide +kernel

lemma asks_ascii : ∀ i < 26, asks (Symbol.ofCode (97 + i)) = demand? (Symbol.ofCode (65 + i)) := by
  decide +kernel

lemma demand?_wildcard :
    ∀ c ∈ wildcards, demand? c = some none ∨ asciiRun.covers c.code = true := by
  decide +kernel

/-- Letters that become several in upper case have one among them that no pattern is written with,
apart from the ligature. -/
lemma exists_demand?_eq_none : ∀ e ∈ Text.upperExpansions, e.1 = 0xFB00 ∨
    ∃ letter ∈ e.2, demand? (Symbol.ofCode letter) = none := by
  decide +kernel

/-- Upper case does not change what a letter asks for, if it stays one letter. -/
lemma asks_eq_demand?
    (asked : demand? (Symbol.ofCode (Text.mapByRuns Text.upperRuns c.code)) ≠ none) :
    asks c = demand? (Symbol.ofCode (Text.mapByRuns Text.upperRuns c.code)) := by
  obtain ⟨d, hd⟩ := Option.ne_none_iff_exists'.1 asked
  rcases Text.mapByRuns_cases Text.upperRuns c.code with ⟨hnone, heq⟩ | ⟨r, hr, hcovers, heq⟩
  · have hfirst : ¬asciiRun.covers c.code = true := hnone _ List.mem_cons_self
    rw [heq, Symbol.ofCode_code, asks]
    split
    · rename_i hc
      exact ((demand?_wildcard c hc).resolve_right hfirst).symm
    · rename_i hc
      have hupper : ¬(c = 'X' ∨ c = 'Y' ∨ c = 'N') := by
        rintro (rfl | rfl | rfl) <;> exact hc (by decide)
      rw [demand?, if_neg hupper]
  · rcases List.mem_cons.1 hr with rfl | htail
    · obtain ⟨hlo, hhi, -⟩ := CaseRun.covers_iff.1 hcovers
      have hlast : c.code ≤ 122 := hhi
      obtain ⟨i, hcode⟩ : ∃ i, c.code = 97 + i := Nat.exists_eq_add_of_le hlo
      have himage : Text.mapByRuns Text.upperRuns c.code = 65 + i := by
        rw [heq, CaseRun.image, hcode]
        change (((97 + i : Nat) : Int) + (-32)).toNat = 65 + i
        omega
      rw [himage, ← asks_ascii i (by omega), ← hcode, Symbol.ofCode_code]
    · obtain ⟨range, hrange, hin⟩ := exists_range_of_demand? hd
      rw [Text.code_ofCode_mapByRuns within_upperRuns, heq] at hin
      exact absurd hin (CaseRun.not_le_of_avoids (avoids_upperRuns r htail range hrange) hcovers)

lemma map_asks_spelling (read : ∀ u ∈ Text.upperSymbol c, demand? u ≠ none) :
    (spelling c).map asks = (Text.upperSymbol c).map demand? := by
  unfold Text.upperSymbol at read ⊢
  rcases hlookup : Text.upperExpansions.lookup c.code with _ | letters
  · rw [hlookup] at read
    have hc : c ≠ ligature := by
      rintro rfl
      exact absurd hlookup (by decide +kernel)
    rw [spelling, if_neg hc, List.map_singleton, List.map_singleton,
      asks_eq_demand? (read _ List.mem_cons_self)]
  · rw [hlookup] at read
    have hmem : (c.code, letters) ∈ Text.upperExpansions := by
      obtain ⟨l₁, l₂, heq, -⟩ := List.lookup_eq_some_iff.1 hlookup
      rw [heq]
      exact List.mem_append_right _ List.mem_cons_self
    rcases exists_demand?_eq_none _ hmem with hcode | ⟨letter, hletter, hnone⟩
    · have hc : c = ligature := by
        rw [← Symbol.ofCode_code c]
        exact congrArg Symbol.ofCode hcode
      have hlig : Text.upperExpansions.lookup ligature.code = some [70, 70] := by
        decide +kernel
      rw [hc, hlig] at hlookup
      cases hlookup
      rw [hc]
      decide +kernel
    · exact absurd hnone (read _ (List.mem_map_of_mem hletter))

/-- A pattern asks for the same in upper case, once its ligatures are spelled out. -/
lemma map_asks_spelled (read : ∀ u ∈ Text.upper text, demand? u ≠ none) :
    (spelled text).map asks = (Text.upper text).map demand? := by
  induction text with
  | nil => rfl
  | cons c rest ih =>
    rw [Text.upper, List.flatMap_cons, ← Text.upper, List.forall_mem_append] at read
    rw [spelled, List.flatMap_cons, List.map_append, ← spelled, Text.upper, List.flatMap_cons,
      List.map_append, ← Text.upper, map_asks_spelling read.1, ih read.2]

lemma map_asks_of_demands (h : demands text (Text.upper text) = .ok ds) :
    (spelled text).map asks = ds.map some := by
  have hall := forall₂_of_demands h
  have hmap : (Text.upper text).map demand? = ds.map some := by
    rw [← List.forall₂_eq_eq_eq, List.forall₂_map_left_iff, List.forall₂_map_right_iff]
    exact hall
  rw [← hmap]
  apply map_asks_spelled
  intro u hu hnone
  have hmem : demand? u ∈ ds.map some := hmap ▸ List.mem_map_of_mem hu
  rw [hnone] at hmem
  simp at hmem

/-! ### Meanings -/

/-- A pattern means its symbols: one nibble each. -/
structure Means (p : Pattern) (symbols : Text) : Prop where
  mask_lt : p.mask < 16 ^ symbols.length
  value_lt : p.value < 16 ^ symbols.length
  value_land_mask : p.value &&& p.mask = p.value
  /-- The digit of the group stands fourth from the end. -/
  leading : ∃ c, symbols[symbols.length - 4]? = some c ∧
    Text.hexDigit? c = some p.group.val
  /-- It matches the words that read as it, with a zero in front for each symbol too many. -/
  covers_iff : ∀ w : Word, p.covers w.val = true ↔
    List.Forall₂ Reads symbols (List.replicate (symbols.length - 4) 0 ++ w.nibbles)

lemma hexDigit?_of_asks {v : Nat} (h : asks c = some (some v)) : Text.hexDigit? c = some v := by
  unfold asks at h
  split at h
  · nomatch h
  · obtain ⟨v', hv, hsome⟩ := Option.map_eq_some_iff.1 h
    cases hsome
    exact hv

/-- Where the leading nibble is exact, there is a digit that says which one it is. -/
lemma exists_leading {symbols : Text} (read : symbols.map asks = ds.map some)
    (small : ∀ d ∈ ds, ∀ v ∈ d, v < 16) (fixed : maskOf ds &&& 0xF000 ≠ 0) :
    ∃ c, symbols[symbols.length - 4]? = some c ∧
      Text.hexDigit? c = some (valueOf ds / 4096 % 16) := by
  have hmask : maskOf ds / 16 ^ 3 % 16 =
      (ds.reverse[3]?.map fun d => if d.isSome then 15 else 0).getD 0 :=
    foldl_div_mod (fun d _ => maskDigit_lt d) 3
  have hvalue : valueOf ds / 16 ^ 3 % 16 = (ds.reverse[3]?.map (·.getD 0)).getD 0 :=
    foldl_div_mod (fun d hd => valueDigit_lt (small d hd)) 3
  obtain ⟨v, hv⟩ : ∃ v, ds.reverse[3]? = some (some v) := by
    rcases hd : ds.reverse[3]? with _ | _ | v
    · rw [hd] at hmask
      exact absurd (land_leading hmask) fixed
    · rw [hd] at hmask
      exact absurd (land_leading hmask) fixed
    · exact ⟨v, rfl⟩
  have hreverse : (symbols.reverse[3]?).map asks = some (some (some v)) := by
    rw [← List.getElem?_map, List.map_reverse, read, ← List.map_reverse, List.getElem?_map, hv]
    rfl
  obtain ⟨c, hc, hasks⟩ := Option.map_eq_some_iff.1 hreverse
  have hlen : 3 < symbols.length := by
    have hlt := (List.getElem?_eq_some_iff.1 hc).1
    rwa [List.length_reverse] at hlt
  rw [List.getElem?_reverse hlen] at hc
  have hdigit : valueOf ds / 4096 % 16 = v := by
    rw [hv] at hvalue
    exact hvalue
  exact ⟨c, hc, hdigit ▸ hexDigit?_of_asks hasks⟩

lemma foldl_zeros (k : Nat) (ns : List Nat) :
    (List.replicate k 0 ++ ns).foldl (fun a n => a * 16 + n) 0 =
      ns.foldl (fun a n => a * 16 + n) 0 := by
  induction k with
  | zero => rfl
  | succ k ih =>
    rw [List.replicate_succ, List.cons_append, List.foldl_cons]
    exact ih

lemma forall₂_reads_iff {symbols : Text} (read : symbols.map asks = ds.map some) (ns : List Nat) :
    List.Forall₂ Reads symbols ns ↔ List.Forall₂ Meets ds ns := by
  have hreads : List.Forall₂ Reads symbols ns ↔
      List.Forall₂ (fun asked n => ∃ d, asked = some d ∧ Meets d n) (symbols.map asks) ns := by
    rw [List.forall₂_map_left_iff]
    simp only [← reads_iff]
  rw [hreads, read, List.forall₂_map_left_iff]
  simp only [Option.some.injEq, exists_eq_left']

/-- A pattern that was read means its symbols, with ligatures spelled out. -/
lemma means_spelled (h : parse text = .ok p) : p.Means (spelled text) := by
  obtain ⟨ds, hds, hexact, rfl⟩ := exists_demands_of_parse h
  have hsmall := lt_of_demands (forall₂_of_demands hds)
  have hread := map_asks_of_demands hds
  have hlen : ds.length = (spelled text).length := by
    rw [← List.length_map (f := some), ← hread, List.length_map]
  have hfour : 4 ≤ (spelled text).length := by
    rw [length_spelled, length_of_parse h]
    exact Nat.le_add_right ..
  refine ⟨?_, ?_, value_land_mask h, exists_leading hread hsmall hexact, fun w => ?_⟩
  · rw [← hlen]
    exact foldl_lt_pow fun d _ => maskDigit_lt d
  · rw [← hlen]
    exact foldl_lt_pow fun d hd => valueDigit_lt (hsmall d hd)
  · have hnibbles : w.nibbles.length = 4 := rfl
    have hall : ∀ n ∈ List.replicate ((spelled text).length - 4) 0 ++ w.nibbles, n < 16 := by
      rw [List.forall_mem_append]
      refine ⟨fun n hn => ?_, nibbles_lt⟩
      rw [List.eq_of_mem_replicate hn]
      decide
    rw [covers, beq_iff_eq, val_eq_foldl, ← foldl_zeros ((spelled text).length - 4), maskOf,
      valueOf, forall₂_meets_iff ?_ hsmall hall, and_iff_right (Nat.and_self 0),
      forall₂_reads_iff hread]
    rw [List.length_append, List.length_replicate, hlen, hnibbles]
    omega

/-- **A pattern means what it says.** Take any pattern that is read. It describes as many nibbles as
it has symbols once its ligatures are spelled out, which is four and one for each ligature: its mask
and its value have that many nibbles, the value has no bit outside the mask, the group is the digit
fourth from the end, and it matches the words that read as it, symbol by symbol. A pattern without
ligatures is spelled out as it is, so it describes exactly four nibbles, and its first symbol is
the digit of its group. -/
theorem means_of_parse (h : parse text = .ok p) :
    p.Means (spelled text) ∧ (spelled text).length = 4 + text.count ligature ∧
      (ligature ∉ text → p.Means text ∧ text.length = 4) := by
  have hmeans := means_spelled h
  have hfour := length_of_parse h
  refine ⟨hmeans, ?_, fun plain => ⟨?_, hfour⟩⟩
  · rw [length_spelled, hfour]
  · rwa [spelled_eq_self plain] at hmeans

/-- A pattern with a digit of another script and wildcards in both cases. -/
theorem means_of_parse_script : ∃ p, parse "8xY٤" = .ok p ∧ p = ⟨"8xY٤", 0xF00F, 0x8004⟩ ∧
    p.Means "8xY٤" := by
  have hparse : parse "8xY٤" = .ok ⟨"8xY٤", 0xF00F, 0x8004⟩ := by
    decide +kernel
  have hmeans := (means_of_parse hparse).2.2 (by decide +kernel)
  exact ⟨_, hparse, rfl, hmeans.1⟩

/-- A ligature takes two nibbles, so that the pattern has five. It matches no word, and the first
symbol is not the digit of the group. -/
theorem not_four_nibbles : ∃ p, parse "1ﬀNN" = .ok p ∧ p.mask = 0xFFF00 ∧ p.value = 0x1FF00 ∧
    Text.hexDigit? '1' ≠ some p.group.val ∧ ∀ w : Word, p.covers w.val = false := by
  have hparse : parse "1ﬀNN" = .ok ⟨"1ﬀNN", 0xFFF00, 0x1FF00⟩ := by
    decide +kernel
  refine ⟨_, hparse, rfl, rfl, by decide +kernel, fun w => ?_⟩
  have hlt := w.val_lt
  have hle : w.val &&& 0xFFF00 ≤ w.val := Nat.and_le_left
  rw [covers, beq_eq_false_iff_ne]
  change w.val &&& 0xFFF00 ≠ 0x1FF00
  omega

end Chip8.Pattern
