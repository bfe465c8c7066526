import Chip8.Proofs.Instruction.Table

/-!
When a table can be built.

Rows are compared with the earlier ones of their group only, but rows of different groups match no
number in common, because each fixes its leading nibble. So rows can be built into a table exactly
when they are apart, each two of them (`exists_ofList_iff`), and since that says nothing of their
order, the order does not matter. A row that is refused leaves the table as it was, so this also
holds of what is left of calls that were partly refused (`registered_pairwise`).
-/

namespace Chip8

/-- Two rows match no number in common. -/
def Instruction.Apart (i j : Instruction) : Prop :=
  ∀ n, ¬(i.pattern.covers n = true ∧ j.pattern.covers n = true)

lemma Instruction.Apart.symm {i j : Instruction} (h : i.Apart j) : j.Apart i :=
  fun n hboth => h n hboth.symm

namespace Table

variable {t after : Table} {is calls : List Instruction} {i j : Instruction}

/-- The pattern of a row was read from a text. -/
def IsRead (i : Instruction) : Prop := ∃ text, Pattern.parse text = .ok i.pattern

lemma apart_iff (hi : IsRead i) (hj : IsRead j) :
    i.Apart j ↔ i.pattern.overlaps j.pattern = false := by
  obtain ⟨_, hpi⟩ := hi
  obtain ⟨_, hpj⟩ := hj
  rw [← Bool.not_eq_true, Pattern.overlaps_iff_exists_covers hpi hpj, not_exists]
  rfl

/-- Rows of different groups are apart. -/
lemma apart_of_group_ne (hi : IsRead i) (hj : IsRead j)
    (h : i.pattern.group ≠ j.pattern.group) : i.Apart j := by
  rw [apart_iff hi hj, ← Bool.not_eq_true]
  obtain ⟨_, hpi⟩ := hi
  obtain ⟨_, hpj⟩ := hj
  exact fun hover => h (Pattern.group_eq_of_overlaps hpi hpj hover)

/-! ### Building -/

/-- Rows can be registered when none overlaps one of its group that is there already, nor a later
one of its group. -/
lemma exists_registerAll_iff : (∃ after, t.registerAll is = .ok after) ↔
    (∀ i ∈ is, ∀ j ∈ t.rows i.pattern.group, j.pattern.overlaps i.pattern = false) ∧
      is.Pairwise fun i j =>
        i.pattern.group = j.pattern.group → i.pattern.overlaps j.pattern = false := by
  induction is generalizing t with
  | nil => exact iff_of_true ⟨t, rfl⟩ ⟨nofun, .nil⟩
  | cons i is ih =>
    have hstep : (∃ after, t.registerAll (i :: is) = .ok after) ↔
        (∀ j ∈ t.rows i.pattern.group, j.pattern.overlaps i.pattern = false) ∧
          ∃ after, (t.insert i).registerAll is = .ok after := by
      simp only [registerAll_cons_eq_ok_iff, register_eq_ok_iff]
      constructor
      · rintro ⟨after, _, ⟨hfree, rfl⟩, hrest⟩
        exact ⟨hfree, after, hrest⟩
      · rintro ⟨hfree, after, hrest⟩
        exact ⟨after, _, ⟨hfree, rfl⟩, hrest⟩
    -- the rows of a group after the first call are those before it, and the first row
    have hrows (k : Instruction) :
        (∀ j ∈ (t.insert i).rows k.pattern.group, j.pattern.overlaps k.pattern = false) ↔
          (∀ j ∈ t.rows k.pattern.group, j.pattern.overlaps k.pattern = false) ∧
            (i.pattern.group = k.pattern.group → i.pattern.overlaps k.pattern = false) := by
      rw [rows_insert]
      split
      · rename_i hg
        rw [List.forall_mem_append, List.forall_mem_singleton, imp_iff_right hg]
      · rename_i hg
        rw [and_iff_left (fun h => absurd h hg)]
    rw [hstep, ih, List.forall_mem_cons, List.pairwise_cons]
    simp only [hrows, forall₂_and]
    tauto

/-- **Rows can be built into a table exactly when they are apart.** -/
theorem exists_ofList_iff (read : AreRead is) :
    (∃ t, ofList is = .ok t) ↔ is.Pairwise Instruction.Apart := by
  have hempty : ∀ i ∈ is, ∀ j ∈ empty.rows i.pattern.group,
      j.pattern.overlaps i.pattern = false := by
    intro i _ j hj
    rw [rows_empty] at hj
    cases hj
  rw [ofList, exists_registerAll_iff, and_iff_right hempty]
  refine List.Pairwise.iff_of_mem fun {i j} hi hj => ?_
  constructor
  · intro h
    by_cases hg : i.pattern.group = j.pattern.group
    · exact (apart_iff (read i hi) (read j hj)).2 (h hg)
    · exact apart_of_group_ne (read i hi) (read j hj) hg
  · intro h _
    exact (apart_iff (read i hi) (read j hj)).1 h

lemma areRead_of_perm {is' : List Instruction} (read : AreRead is) (h : is.Perm is') :
    AreRead is' :=
  fun i hi => read i (h.mem_iff.2 hi)

lemma exists_ofList_of_perm {is' : List Instruction} (read : AreRead is) (h : is.Perm is') :
    (∃ t, ofList is = .ok t) ↔ ∃ t, ofList is' = .ok t := by
  rw [exists_ofList_iff read, exists_ofList_iff (areRead_of_perm read h)]
  exact h.pairwise_iff Instruction.Apart.symm

/-- What is found does not depend on the order of the rows. -/
lemma decode_of_perm {is' : List Instruction} {t' : Table} (read : AreRead is) (h : is.Perm is')
    (built : ofList is = .ok t) (built' : ofList is' = .ok t') (w : Word) :
    t.decode w = t'.decode w := by
  ext i
  rw [decode_eq_some_iff built read, decode_eq_some_iff built' (areRead_of_perm read h), h.mem_iff]

/-! ### Calls that may be refused -/

/-- Tries to register a row; a table that refuses it is kept. -/
def attempt (t : Table) (i : Instruction) : Except TableError Unit × Table :=
  match t.register i with
  | .ok after => (.ok (), after)
  | .error e => (.error e, t)

/-- Tries to register rows one after another, whether or not some are refused. -/
def attemptAll (t : Table) (calls : List Instruction) : Table :=
  calls.foldl (fun t i => (t.attempt i).2) t

/-- All rows of a table, group by group. -/
def registered (t : Table) : List Instruction := (List.finRange 16).flatMap t.rows

lemma mem_registered : i ∈ t.registered ↔ ∃ g, i ∈ t.rows g := by
  simp [registered]

lemma attempt_of_register (h : t.register i = .ok after) : t.attempt i = (.ok (), after) := by
  rw [attempt, h]

lemma attempt_of_refused {e : TableError} (h : t.register i = .error e) :
    t.attempt i = (.error e, t) := by
  rw [attempt, h]

/-- The rows of a table stand in their groups, do not overlap there, and come from calls. -/
structure HoldsOf (calls : List Instruction) (t : Table) : Prop where
  exact : t.IsExact
  called : ∀ g, ∀ i ∈ t.rows g, i ∈ calls
  filed : ∀ g, ∀ i ∈ t.rows g, i.pattern.group = g

lemma holdsOf_empty : HoldsOf calls empty := by
  refine ⟨fun g => ?_, fun g i hi => ?_, fun g i hi => ?_⟩
  · rw [rows_empty]
    exact .nil
  · rw [rows_empty] at hi
    cases hi
  · rw [rows_empty] at hi
    cases hi

lemma HoldsOf.attempt (h : HoldsOf calls t) (hi : i ∈ calls) : HoldsOf calls (t.attempt i).2 := by
  rcases hr : t.register i with e | after
  · rw [attempt_of_refused hr]
    exact h
  · rw [attempt_of_register hr]
    have hafter := (register_eq_ok_iff.1 hr).2
    have hrows (g : Fin 16) : ∀ j ∈ after.rows g, j ∈ t.rows g ∨ j = i ∧ i.pattern.group = g := by
      intro j hj
      rw [hafter, rows_insert] at hj
      split at hj
      · rename_i hg
        exact (List.mem_append.1 hj).imp_right fun hj => ⟨List.mem_singleton.1 hj, hg⟩
      · exact .inl hj
    refine ⟨isExact_of_register h.exact hr, fun g j hj => ?_, fun g j hj => ?_⟩
    · rcases hrows g j hj with hj | ⟨rfl, -⟩
      · exact h.called g j hj
      · exact hi
    · rcases hrows g j hj with hj | ⟨rfl, hg⟩
      · exact h.filed g j hj
      · exact hg

lemma HoldsOf.attemptAll {rows : List Instruction} (h : HoldsOf calls t)
    (hrows : ∀ i ∈ rows, i ∈ calls) : HoldsOf calls (t.attemptAll rows) := by
  induction rows generalizing t with
  | nil => exact h
  | cons i rows ih =>
    rw [List.forall_mem_cons] at hrows
    exact ih (h.attempt hrows.1) hrows.2

/-- The rows of a table are apart, also those of different groups. -/
lemma HoldsOf.registered_pairwise (h : HoldsOf calls t) (read : AreRead calls) :
    t.registered.Pairwise Instruction.Apart := by
  have hread (g : Fin 16) (i : Instruction) (hi : i ∈ t.rows g) : IsRead i :=
    read i (h.called g i hi)
  rw [registered, List.pairwise_flatMap]
  constructor
  · intro g _
    refine (h.exact g).imp_of_mem fun {i j} hi hj hno => ?_
    exact (apart_iff (hread g i hi) (hread g j hj)).2 hno
  · refine (List.nodup_finRange 16).imp fun {g g'} hne i hi j hj => ?_
    refine apart_of_group_ne (hread g i hi) (hread g' j hj) ?_
    rw [h.filed g i hi, h.filed g' j hj]
    exact hne

/-- A row is taken when it is apart from all that are there, whatever their group. -/
lemma HoldsOf.attempt_ok_iff (h : HoldsOf calls t) (read : AreRead calls) (hi : IsRead i) :
    (t.attempt i).1 = .ok () ↔ ∀ j ∈ t.registered, j.Apart i := by
  have hread (g : Fin 16) (j : Instruction) (hj : j ∈ t.rows g) : IsRead j :=
    read j (h.called g j hj)
  have hok : (t.attempt i).1 = .ok () ↔ ∃ after, t.register i = .ok after := by
    rcases hr : t.register i with e | after
    · rw [attempt_of_refused hr]
      exact iff_of_false nofun fun ⟨_, h⟩ => nomatch h
    · rw [attempt_of_register hr]
      exact iff_of_true rfl ⟨after, rfl⟩
  rw [hok]
  constructor
  · rintro ⟨after, hr⟩ j hj
    obtain ⟨g, hg⟩ := mem_registered.1 hj
    by_cases hsame : j.pattern.group = i.pattern.group
    · rw [h.filed g j hg] at hsame
      exact (apart_iff (hread g j hg) hi).2 ((register_eq_ok_iff.1 hr).1 j (hsame ▸ hg))
    · exact apart_of_group_ne (hread g j hg) hi hsame
  · intro hapart
    refine ⟨t.insert i, register_eq_ok_iff.2 ⟨fun j hj => ?_, rfl⟩⟩
    exact (apart_iff (hread _ j hj) hi).1 (hapart j (mem_registered.2 ⟨_, hj⟩))

/-! ### Building is exact -/

/-- What building from rows comes to. -/
structure BuildsExactly (is : List Instruction) : Prop where
  /-- Two rows overlap when they match a number in common. -/
  overlaps : ∀ i ∈ is, ∀ j ∈ is, i.pattern.overlaps j.pattern = true ↔
    ∃ n, i.pattern.covers n = true ∧ j.pattern.covers n = true
  /-- A table is built when no number is matched at two positions. -/
  built : (∃ t, ofList is = .ok t) ↔ ∀ n j k (hj : j < is.length) (hk : k < is.length),
    is[j].pattern.covers n = true → is[k].pattern.covers n = true → j = k
  /-- The order of the rows decides nothing. -/
  reordered : ∀ is', is.Perm is' →
    ((∃ t, ofList is = .ok t) ↔ ∃ t', ofList is' = .ok t') ∧
      ∀ t t', ofList is = .ok t → ofList is' = .ok t' → ∀ w, t.decode w = t'.decode w
  /-- A call after others that may have been refused is refused when it shares a number with a row
  that is there, and then it changes nothing. -/
  refused : ∀ calls rest i, is = calls ++ i :: rest →
    let t := empty.attemptAll calls
    ((t.attempt i).1 ≠ .ok () ↔ ∃ j ∈ t.registered, ¬j.Apart i) ∧
      ((t.attempt i).1 ≠ .ok () → (t.attempt i).2 = t)
  /-- What all calls leave are rows apart. -/
  registered : (empty.attemptAll is).registered.Pairwise Instruction.Apart

lemma pairwise_apart_iff : is.Pairwise Instruction.Apart ↔
    ∀ n j k (hj : j < is.length) (hk : k < is.length),
      is[j].pattern.covers n = true → is[k].pattern.covers n = true → j = k := by
  have hall : is.Pairwise Instruction.Apart ↔ ∀ n, is.Pairwise fun i j =>
      ¬(i.pattern.covers n = true ∧ j.pattern.covers n = true) := by
    simp only [List.pairwise_iff_getElem, Instruction.Apart]
    exact ⟨fun h n j k hj hk hlt => h j k hj hk hlt n, fun h j k hj hk hlt n => h n j k hj hk hlt⟩
  rw [hall]
  exact forall_congr' fun n => pairwise_not_both_iff

/-- **Building is exact and does not depend on the order.** Take any rows whose patterns were read.
Two of them overlap exactly when they match a number in common; a table of them can be built exactly
when no number is matched at two positions, although only rows of one group are compared; any other
order does as well and finds the same; and calls that are refused change nothing, so that what is
left is apart too. -/
theorem building_exact (read : AreRead is) : BuildsExactly is where
  overlaps i hi j hj := by
    obtain ⟨_, hpi⟩ := read i hi
    obtain ⟨_, hpj⟩ := read j hj
    exact Pattern.overlaps_iff_exists_covers hpi hpj
  built := (exists_ofList_iff read).trans pairwise_apart_iff
  reordered is' h :=
    ⟨exists_ofList_of_perm read h, fun _ _ built built' => decode_of_perm read h built built'⟩
  refused calls rest i heq := by
    intro t
    have hcalls : ∀ j ∈ calls, j ∈ is := fun j hj => heq ▸ List.mem_append_left _ hj
    have hi : i ∈ is := heq ▸ List.mem_append_right _ List.mem_cons_self
    have hok : (t.attempt i).1 = .ok () ↔ ∀ j ∈ t.registered, j.Apart i :=
      (holdsOf_empty.attemptAll hcalls).attempt_ok_iff read (read i hi)
    refine ⟨?_, fun hne => ?_⟩
    · rw [ne_eq, hok]
      simp only [not_forall, exists_prop]
    · rcases hr : t.register i with e | after
      · rw [attempt_of_refused hr]
      · rw [attempt_of_register hr] at hne
        exact absurd rfl hne
  registered := (holdsOf_empty.attemptAll fun _ hi => hi).registered_pairwise read

/-- Three rows that make no table, because the first and the last match 0x8014; the second has a
pattern that is five nibbles long in upper case. -/
theorem building_exact_overlap :
    let is : List Instruction :=
      [⟨⟨"8XY4", 0xF00F, 0x8004⟩, "ADD", .known .addRegister⟩,
        ⟨⟨"0\ufb00NN", 0xFFF00, 0xFF00⟩, "SYS", .missing "op_sys"⟩,
        ⟨⟨"8XYN", 0xF000, 0x8000⟩, "NOP", .known .nop⟩]
    AreRead is ∧ BuildsExactly is ∧ ¬∃ t, ofList is = .ok t := by
  intro is
  have read : AreRead is := by
    rw [AreRead, List.forall_mem_cons, List.forall_mem_cons, List.forall_mem_singleton]
    exact ⟨⟨"8XY4", by decide +kernel⟩, ⟨"0\ufb00NN", by decide +kernel⟩,
      ⟨"8XYN", by decide +kernel⟩⟩
  have exact := building_exact read
  refine ⟨read, exact, fun built => ?_⟩
  have hpositions := exact.built.1 built 0x8014 0 2 (by decide) (by decide) (by decide) (by decide)
  cases hpositions

end Table

end Chip8
