import Chip8.Instruction.Table
import Chip8.Proofs.Instruction.Pattern

/-!
What a built table finds.

Building keeps every row in its group and lets no two rows of a group overlap (`rows_of_built`,
`pairwise_of_built`). Hence looking for the first row in one group finds the row that matches,
wherever it stands (`decode_eq_some_iff`).
-/

namespace Chip8.Table

variable {t after : Table} {is : List Instruction}

/-! ### Building -/

/-- A row is taken when it overlaps none of its group. -/
lemma register_eq_ok_iff {i : Instruction} : t.register i = .ok after ↔
    (∀ j ∈ t.rows i.pattern.group, j.pattern.overlaps i.pattern = false) ∧
      after = t.insert i := by
  rw [register]
  split
  · rename_i j hf
    have hover := List.find?_some hf
    have hmem := List.mem_of_find?_eq_some hf
    refine iff_of_false nofun fun h => ?_
    rw [h.1 j hmem] at hover
    cases hover
  · rename_i hf
    have hall : ∀ j ∈ t.rows i.pattern.group, j.pattern.overlaps i.pattern = false := by
      simpa using hf
    rw [and_iff_right hall, Except.ok.injEq]
    exact eq_comm

lemma registerAll_cons_eq_ok_iff {i : Instruction} : t.registerAll (i :: is) = .ok after ↔
    ∃ mid, t.register i = .ok mid ∧ mid.registerAll is = .ok after := by
  rw [registerAll, List.foldlM_cons]
  rcases t.register i with e | mid
  · exact iff_of_false nofun fun ⟨_, h, _⟩ => nomatch h
  · refine ⟨fun h => ⟨mid, rfl, h⟩, ?_⟩
    rintro ⟨mid', hmid, h⟩
    cases hmid
    exact h

/-- Every row goes behind those of its group. -/
lemma rows_of_registerAll (h : t.registerAll is = .ok after) (g : Fin 16) :
    after.rows g = t.rows g ++ is.filter (·.pattern.group == g) := by
  induction is generalizing t with
  | nil =>
    cases h
    simp
  | cons i is ih =>
    obtain ⟨mid, hr, hm⟩ := registerAll_cons_eq_ok_iff.1 h
    obtain ⟨-, rfl⟩ := register_eq_ok_iff.1 hr
    rw [ih hm, rows_insert, List.filter_cons]
    by_cases hg : i.pattern.group = g <;> simp [hg]

/-- No two rows of a group overlap. -/
def IsExact (t : Table) : Prop :=
  ∀ g, (t.rows g).Pairwise fun i j => i.pattern.overlaps j.pattern = false

lemma isExact_of_register {i : Instruction} (ht : t.IsExact) (h : t.register i = .ok after) :
    after.IsExact := by
  obtain ⟨hnone, rfl⟩ := register_eq_ok_iff.1 h
  intro g
  rw [rows_insert]
  split
  · rename_i hg
    rw [List.pairwise_append]
    refine ⟨ht g, List.pairwise_singleton .., fun j hj k hk => ?_⟩
    rw [List.mem_singleton.1 hk]
    exact hnone j (hg ▸ hj)
  · exact ht g

lemma isExact_of_registerAll (ht : t.IsExact) (h : t.registerAll is = .ok after) :
    after.IsExact := by
  induction is generalizing t with
  | nil =>
    cases h
    exact ht
  | cons i is ih =>
    obtain ⟨mid, hr, hm⟩ := registerAll_cons_eq_ok_iff.1 h
    exact ih (isExact_of_register ht hr) hm

lemma rows_of_ofList (built : ofList is = .ok t) (g : Fin 16) :
    t.rows g = is.filter (·.pattern.group == g) := by
  rw [rows_of_registerAll built, rows_empty, List.nil_append]

lemma isExact_of_ofList (built : ofList is = .ok t) : t.IsExact :=
  isExact_of_registerAll (fun g => by rw [rows_empty]; exact .nil) built

/-! ### Looking up -/

/-- In an exact table a row that matches is the one that is found. -/
lemma decode_of_mem (ht : t.IsExact) {w : Word} {i : Instruction} (hi : i ∈ t.rows w.group)
    (hw : i.covers w = true) : t.decode w = some i := by
  rcases hd : t.decode w with _ | j
  · have hnone := List.find?_eq_none.1 hd i hi
    exact absurd hw hnone
  · have hj := covers_of_decode hd
    by_contra hne
    have hij : j ≠ i := fun e => hne (congrArg some e)
    have : Std.Symm fun i j : Instruction => i.pattern.overlaps j.pattern = false :=
      ⟨fun i j h => (Pattern.overlaps_comm ..).trans h⟩
    have hno := (ht w.group).forall (mem_of_decode hd) hi hij
    rw [Pattern.overlaps_of_covers hj hw] at hno
    cases hno

/-- The rows were read from texts. -/
def AreRead (is : List Instruction) : Prop :=
  ∀ i ∈ is, ∃ text, Pattern.parse text = .ok i.pattern

/-- **One group is enough.** A built table finds a row for a word exactly when it is one of its rows
and matches. -/
theorem decode_eq_some_iff (built : ofList is = .ok t) (read : AreRead is) (w : Word)
    (i : Instruction) : t.decode w = some i ↔ i ∈ is ∧ i.covers w = true := by
  constructor
  · intro hd
    have hmem := mem_of_decode hd
    rw [rows_of_ofList built] at hmem
    exact ⟨(List.mem_filter.1 hmem).1, covers_of_decode hd⟩
  · rintro ⟨hi, hw⟩
    obtain ⟨text, hp⟩ := read i hi
    refine decode_of_mem (isExact_of_ofList built) ?_ hw
    rw [rows_of_ofList built, List.mem_filter]
    exact ⟨hi, beq_iff_eq.2 (Pattern.group_of_covers hp hw)⟩

theorem decode_eq_none_iff (built : ofList is = .ok t) (read : AreRead is) (w : Word) :
    t.decode w = none ↔ ∀ i ∈ is, ¬i.covers w = true := by
  rw [Option.eq_none_iff_forall_ne_some]
  constructor
  · intro h i hi hw
    exact h i ((decode_eq_some_iff built read w i).2 ⟨hi, hw⟩)
  · intro h i hd
    obtain ⟨hi, hw⟩ := (decode_eq_some_iff built read w i).1 hd
    exact h i hi hw

/-! ### Looking through all rows -/

/-- No two of a list have something at once when it is had at one position at most. -/
lemma pairwise_not_both_iff {α : Type} {l : List α} {P : α → Prop} :
    l.Pairwise (fun a b => ¬(P a ∧ P b)) ↔
      ∀ j k (hj : j < l.length) (hk : k < l.length), P l[j] → P l[k] → j = k := by
  rw [List.pairwise_iff_getElem]
  constructor
  · intro h j k hj hk hPj hPk
    rcases lt_trichotomy j k with hlt | heq | hlt
    · exact absurd ⟨hPj, hPk⟩ (h j k hj hk hlt)
    · exact heq
    · exact absurd ⟨hPk, hPj⟩ (h k j hk hj hlt)
  · rintro h j k hj hk hlt ⟨hPj, hPk⟩
    exact absurd (h j k hj hk hPj hPk) (Nat.ne_of_lt hlt)

/-- Rows that match a word stand in its group, and there they do not overlap. -/
lemma pairwise_of_ofList (built : ofList is = .ok t) (read : AreRead is) (w : Word) :
    is.Pairwise fun i j => ¬(i.covers w = true ∧ j.covers w = true) := by
  have hexact := isExact_of_ofList built w.group
  rw [rows_of_ofList built, List.pairwise_filter] at hexact
  refine hexact.imp_of_mem fun {i j} hi hj hno => ?_
  rintro ⟨hiw, hjw⟩
  obtain ⟨_, hpi⟩ := read i hi
  obtain ⟨_, hpj⟩ := read j hj
  have hgi := Pattern.group_of_covers hpi hiw
  have hgj := Pattern.group_of_covers hpj hjw
  have hover := hno (beq_iff_eq.2 hgi) (beq_iff_eq.2 hgj)
  rw [Pattern.overlaps_of_covers hiw hjw] at hover
  cases hover

lemma decode_eq_find? (built : ofList is = .ok t) (read : AreRead is) (w : Word) :
    t.decode w = is.find? (·.covers w) := by
  rw [decode, rows_of_ofList built, List.find?_filter]
  refine List.find?_congr fun i hi => ?_
  obtain ⟨_, hp⟩ := read i hi
  have hgroup : i.covers w = true → i.pattern.group = w.group := Pattern.group_of_covers hp
  simpa using hgroup

/-- **A table finds what a search through all rows finds.** Take any rows whose patterns were read,
and of which a table can be built. For every word, the table finds a row exactly when it is one of
them and matches; it finds none exactly when none of them matches; they match at one position at
most; and the first that matches is the one that is found, although only one group is looked at. -/
theorem decode_searches_all (built : ofList is = .ok t) (read : AreRead is) (w : Word) :
    (∀ i, t.decode w = some i ↔ i ∈ is ∧ i.covers w = true) ∧
      (t.decode w = none ↔ ∀ i ∈ is, ¬i.covers w = true) ∧
      (∀ j k (hj : j < is.length) (hk : k < is.length),
        is[j].covers w = true → is[k].covers w = true → j = k) ∧
      t.decode w = is.find? (·.covers w) := by
  refine ⟨decode_eq_some_iff built read w, decode_eq_none_iff built read w, ?_,
    decode_eq_find? built read w⟩
  exact pairwise_not_both_iff.1 (pairwise_of_ofList built read w)

/-- Two rows, the second with a pattern that is five nibbles long in upper case. -/
theorem decode_searches_all_ligature :
    let is : List Instruction :=
      [⟨⟨"8XY4", 0xF00F, 0x8004⟩, "ADD", .known .addRegister⟩,
        ⟨⟨"0\ufb00NN", 0xFFF00, 0xFF00⟩, "SYS", .missing "op_sys"⟩]
    let t : Table := (empty.insert is[0]).insert is[1]
    let w : Word := ⟨0xFF12, by decide⟩
    ofList is = .ok t ∧ AreRead is ∧
      (∀ i, t.decode w = some i ↔ i ∈ is ∧ i.covers w = true) ∧
      (t.decode w = none ↔ ∀ i ∈ is, ¬i.covers w = true) ∧
      (∀ j k (hj : j < is.length) (hk : k < is.length),
        is[j].covers w = true → is[k].covers w = true → j = k) ∧
      t.decode w = is.find? (·.covers w) := by
  intro is t w
  have built : ofList is = .ok t := by decide +kernel
  have read : AreRead is := by
    rw [AreRead, List.forall_mem_cons, List.forall_mem_singleton]
    exact ⟨⟨"8XY4", by decide +kernel⟩, ⟨"0\ufb00NN", by decide +kernel⟩⟩
  exact ⟨built, read, decode_searches_all built read w⟩

/-! ### Tables from texts -/

lemma exists_of_mem_mapM {α β ε : Type} {f : α → Except ε β} {as : List α} {bs : List β} {b : β}
    (h : as.mapM f = .ok bs) (hb : b ∈ bs) : ∃ a ∈ as, f a = .ok b := by
  induction as generalizing bs with
  | nil =>
    cases h
    cases hb
  | cons a as ih =>
    rw [List.mapM_cons] at h
    rcases ha : f a with e | b' <;> rw [ha] at h
    · cases h
    rcases hr : as.mapM f with e | rest <;> rw [hr] at h <;> cases h
    rcases List.mem_cons.1 hb with rfl | hb
    · exact ⟨a, List.mem_cons_self, ha⟩
    · obtain ⟨a', ha', hf⟩ := ih hr hb
      exact ⟨a', List.mem_cons_of_mem _ ha', hf⟩

/-- A row of a built table was written in one of its lines. -/
lemma exists_line_of_mem {lines : List (Text × Text × Text)} (built : ofTexts lines = .ok t)
    {g : Fin 16} {i : Instruction} (hi : i ∈ t.rows g) :
    ∃ line ∈ lines, Instruction.ofTexts line.1 line.2.1 line.2.2 = .ok i := by
  rw [ofTexts] at built
  rcases hm : lines.mapM (fun (p, m, r) => Instruction.ofTexts p m r) with e | is <;>
    rw [hm] at built
  · cases built
  rw [rows_of_ofList built, List.mem_filter] at hi
  exact exists_of_mem_mapM hm hi.1

lemma routine_of_ofTexts {pattern mnemonic routine : Text} {i : Instruction}
    (h : Instruction.ofTexts pattern mnemonic routine = .ok i) :
    i.routine = Routine.ofName routine := by
  rw [Instruction.ofTexts] at h
  rcases hp : Pattern.parse pattern with e | p <;> rw [hp] at h <;> cases h
  rfl

/-- A line names an operation that the processor has. -/
def NamesOperation (line : Text × Text × Text) : Prop := (Operation.ofName? line.2.2).isSome = true

/-- When every line names an operation, so does every row that is found. -/
lemma exists_known_of_decode {lines : List (Text × Text × Text)} (built : ofTexts lines = .ok t)
    (known : ∀ line ∈ lines, NamesOperation line) {w : Word} {i : Instruction}
    (hd : t.decode w = some i) : ∃ op, i.routine = .known op := by
  obtain ⟨line, hline, hi⟩ := exists_line_of_mem built (mem_of_decode hd)
  obtain ⟨op, hop⟩ := Option.isSome_iff_exists.1 (known line hline)
  exact ⟨op, by rw [routine_of_ofTexts hi, Routine.ofName, hop]⟩

end Chip8.Table
