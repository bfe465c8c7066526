import Chip8.Instruction.Standard
import Chip8.Proofs.Instruction.Table

/-!
The standard table.

Its masks are what its patterns say: it finds a row exactly for the words that read as the pattern
(`decode_standard_iff`). Every operation has one row in it, so a word names one operation at most
(`decode_known_iff`, `eq_of_fits`).
-/

namespace Chip8.Table

variable {is : List Instruction} {w : Word} {op : Operation}

/-! ### Patterns -/

lemma ofList_standard : ofList Instruction.standard = .ok standard := by
  have h := toOption_ofList_standard
  rcases hl : ofList Instruction.standard with e | t <;> rw [hl] at h <;> cases h
  rfl

lemma parse_of_mem_standard {i : Instruction} (hi : i ∈ Instruction.standard) :
    Pattern.parse i.pattern.text = .ok i.pattern := by
  have h := Instruction.parse_standard i hi
  rcases hp : Pattern.parse i.pattern.text with e | p <;> rw [hp] at h <;> cases h
  rfl

lemma areRead_standard : AreRead Instruction.standard :=
  fun _ hi => ⟨_, parse_of_mem_standard hi⟩

/-- The symbols of the standard patterns. -/
def standardSymbols : Text := "0123456789ABCDEFXYN"

lemma mem_standardSymbols : ∀ i ∈ Instruction.standard, ∀ c ∈ i.pattern.text,
    c ∈ standardSymbols := by
  decide +kernel

lemma upperSymbol_of_mem : ∀ c ∈ standardSymbols, Text.upperSymbol c = [c] := by
  decide +kernel

lemma upper_of_forall {s : Text} (h : ∀ c ∈ s, Text.upperSymbol c = [c]) : Text.upper s = s := by
  induction s with
  | nil => rfl
  | cons c rest ih =>
    rw [List.forall_mem_cons] at h
    rw [Text.upper, List.flatMap_cons, h.1, List.singleton_append]
    exact congrArg (c :: ·) (ih h.2)

lemma upper_standard {i : Instruction} (hi : i ∈ Instruction.standard) :
    Text.upper i.pattern.text = i.pattern.text :=
  upper_of_forall fun c hc => upperSymbol_of_mem c (mem_standardSymbols i hi c hc)

lemma covers_standard_iff {i : Instruction} (hi : i ∈ Instruction.standard) (w : Word) :
    i.covers w = true ↔ Pattern.Fits i.pattern.text w := by
  have hp := parse_of_mem_standard hi
  have hup := upper_standard hi
  have hfits := Pattern.covers_iff_fits hp (by rw [hup, Pattern.length_of_parse hp]) w
  rwa [hup] at hfits

/-- **The standard table is its documentation.** It finds a row for a word exactly when the word
reads as the pattern of the row. -/
theorem decode_standard_iff (w : Word) (i : Instruction) :
    standard.decode w = some i ↔ i ∈ Instruction.standard ∧ Pattern.Fits i.pattern.text w := by
  rw [decode_eq_some_iff ofList_standard areRead_standard]
  exact and_congr_right fun hi => covers_standard_iff hi w

/-- It finds none exactly for the words that read as no pattern. -/
theorem decode_none_iff : standard.decode w = none ↔
    ∀ i ∈ Instruction.standard, ¬Pattern.Fits i.pattern.text w := by
  rw [decode_eq_none_iff ofList_standard areRead_standard]
  exact forall₂_congr fun i hi => not_congr (covers_standard_iff hi w)

/-! ### Operations -/

/-- The pattern of an operation. -/
def patternOf (op : Operation) : Text :=
  ((Instruction.standard.find? fun i => i.routine == .known op).map (·.pattern.text)).getD []

lemma text_of_mem_standard {i : Instruction} (hi : i ∈ Instruction.standard)
    (hop : i.routine = .known op) : i.pattern.text = patternOf op := by
  have hall : ∀ i ∈ Instruction.standard, ∀ op ∈ Operation.all, i.routine = .known op →
      i.pattern.text = patternOf op := by
    decide +kernel
  exact hall i hi op (Operation.mem_all op) hop

lemma exists_mem_standard (op : Operation) : ∃ i ∈ Instruction.standard, i.routine = .known op := by
  have hall : ∀ op ∈ Operation.all, ∃ i ∈ Instruction.standard, i.routine = .known op := by
    decide +kernel
  exact hall op (Operation.mem_all op)

/-- A word names an operation exactly when it reads as its pattern. -/
theorem decode_known_iff : (∃ i, standard.decode w = some i ∧ i.routine = .known op) ↔
    Pattern.Fits (patternOf op) w := by
  constructor
  · rintro ⟨i, hd, hop⟩
    obtain ⟨hi, hfits⟩ := (decode_standard_iff w i).1 hd
    rwa [← text_of_mem_standard hi hop]
  · intro hfits
    obtain ⟨i, hi, hop⟩ := exists_mem_standard op
    rw [← text_of_mem_standard hi hop] at hfits
    exact ⟨i, (decode_standard_iff w i).2 ⟨hi, hfits⟩, hop⟩

/-- What the table makes of a word says how it reads. -/
lemma fits_of_routine (h : (standard.decode w).map (·.routine) = some (.known op)) :
    Pattern.Fits (patternOf op) w := by
  obtain ⟨i, hd, hop⟩ := Option.map_eq_some_iff.1 h
  exact decode_known_iff.1 ⟨i, hd, hop⟩

/-- A word reads as the pattern of one operation at most. -/
theorem eq_of_fits {op' : Operation} (h : Pattern.Fits (patternOf op) w)
    (h' : Pattern.Fits (patternOf op') w) : op = op' := by
  obtain ⟨i, hi, hop⟩ := decode_known_iff.2 h
  obtain ⟨j, hj, hop'⟩ := decode_known_iff.2 h'
  obtain rfl := Option.some.inj (hi.symm.trans hj)
  exact Routine.known.inj (hop.symm.trans hop')

/-! ### Lines -/

lemma exists_known_of_mem_standard :
    ∀ i ∈ Instruction.standard, ∃ op, i.routine = .known op := by
  simp only [Instruction.standard, List.forall_mem_cons, Routine.known.injEq, exists_eq',
    List.not_mem_nil, IsEmpty.forall_iff, implies_true, and_self]

/-- The line of a row. -/
def lineOf (i : Instruction) : Text × Text × Text := (i.pattern.text, i.mnemonic, i.routine.name)

/-- A row reads back from its line. -/
def ReadsBack (i : Instruction) : Prop :=
  Instruction.ofTexts i.pattern.text i.mnemonic i.routine.name = .ok i

lemma ofTexts_lines (back : ∀ i ∈ is, ReadsBack i) : ofTexts (is.map lineOf) = ofList is := by
  have hall : (is.map lineOf).mapM (fun (p, m, r) => Instruction.ofTexts p m r) = .ok is := by
    induction is with
    | nil => rfl
    | cons i is ih =>
      rw [List.forall_mem_cons] at back
      rw [List.map_cons, List.mapM_cons, ih back.2]
      simp only [lineOf]
      rw [back.1]
      rfl
  rw [ofTexts, hall]
  rfl

/-- The lines of the standard table. -/
def standardLines : List (Text × Text × Text) := Instruction.standard.map lineOf

lemma readsBack_of_mem_standard {i : Instruction} (hi : i ∈ Instruction.standard) :
    ReadsBack i := by
  obtain ⟨op, hop⟩ := exists_known_of_mem_standard i hi
  rw [ReadsBack, Instruction.ofTexts, parse_of_mem_standard hi, hop, Routine.ofName_name_known,
    ← hop]
  rfl

lemma ofTexts_standardLines : ofTexts standardLines = .ok standard :=
  (ofTexts_lines fun _ => readsBack_of_mem_standard).trans ofList_standard

lemma namesOperation_of_mem_standardLines : ∀ line ∈ standardLines, NamesOperation line := by
  rw [standardLines, List.forall_mem_map]
  intro i hi
  obtain ⟨op, hop⟩ := exists_known_of_mem_standard i hi
  rw [NamesOperation, lineOf, hop, Routine.name, Operation.ofName?_name]
  rfl

end Chip8.Table
