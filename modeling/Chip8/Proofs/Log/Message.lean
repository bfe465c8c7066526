import Mathlib
import Chip8.Log
import Chip8.Proofs.Log.Modest

/-!
Messages to the log.

A setting switches categories on by name (`Categories.Named`). Under a category that is on, a
message is written with its body (`HasBody`), unless a number that its template cannot take, or that
cannot be listed, gets out as an error instead (`Escapes`); under a category that is off, nothing
happens at all. The two lists are exact and complete (`written_or_escapes`).
-/

namespace Chip8

namespace Categories

/-- A setting names a category: one of the names between its commas is that of the category, or
the name for all, whatever their case and the blanks around them. -/
def Named (setting : Option Text) (category : Text) : Prop :=
  ∃ list, setting = some list ∧ ∃ part ∈ list.splitOn (.char ','),
    Text.lower (Text.trim part) ≠ [] ∧
      (Text.lower (Text.trim part) = "all" ∨ Text.lower (Text.trim part) = Text.lower category)

lemma mem_names_parse {list name : Text} : name ∈ (parse list).names ↔
    ∃ part ∈ list.splitOn (.char ','), Text.lower (Text.trim part) ≠ [] ∧
      Text.lower (Text.trim part) = name := by
  simp only [parse, List.mem_eraseDups, List.mem_mergeSort, List.mem_filter, List.mem_map,
    Bool.not_eq_true', List.isEmpty_eq_false_iff]
  constructor
  · rintro ⟨⟨part, hpart, rfl⟩, hname⟩
    exact ⟨part, hpart, hname, rfl⟩
  · rintro ⟨part, hpart, hname, rfl⟩
    exact ⟨⟨part, hpart, rfl⟩, hname⟩

lemma isOn_ofSetting_iff {setting : Option Text} {category : Text} :
    (ofSetting setting).isOn category = true ↔ Named setting category := by
  rcases setting with _ | list
  · simp [ofSetting, Named]
  rw [isOn, Bool.or_eq_true, List.contains_iff_mem, List.contains_iff_mem, ofSetting,
    mem_names_parse, mem_names_parse, Named]
  constructor
  · rintro (⟨part, hpart, hname, hall⟩ | ⟨part, hpart, hname, hcategory⟩)
    · exact ⟨list, rfl, part, hpart, hname, .inl hall⟩
    · exact ⟨list, rfl, part, hpart, hname, .inr hcategory⟩
  · rintro ⟨_, ⟨⟩, part, hpart, hname, hall | hcategory⟩
    · exact .inl ⟨part, hpart, hname, hall⟩
    · exact .inr ⟨part, hpart, hname, hcategory⟩

end Categories

namespace Log

variable {room : Number.Room} {template category : Text} {args : List Arg} {e : Overflow}
  {s : Text}

/-! ### Bodies -/

/-- The body that a message is written with. -/
inductive HasBody (room : Number.Room) (template : Text) : List Arg → Text → Prop
  /-- Without arguments the template stands for itself. -/
  | bare : HasBody room template [] template
  /-- The template is filled in. -/
  | filled {args : List Arg} {s : Text} (given : args ≠ [])
      (fills : fill room template args = .ok s) : HasBody room template args s
  /-- The template does not fit its arguments, and they are listed behind it. -/
  | listed {args : List Arg} {items : Text} (given : args ≠ [])
      (mismatch : fill room template args = .error .mismatch) (lists : listArgs args = .ok items) :
      HasBody room template args (template ++ " " ++ items)

/-- The numbers that get out of a message as an error. -/
inductive Escapes (room : Number.Room) (template : Text) (args : List Arg) : Overflow → Prop
  /-- A directive of the template is exceeded. -/
  | exceeded {e : Overflow} (given : args ≠ [])
      (overflows : Overflows room (pieces template) args e) :
      Escapes room template args e
  /-- The template does not fit its arguments, and one of them has too many digits to be listed. -/
  | unlisted {n : Int} (mismatch : fill room template args = .error .mismatch)
      (given : .int n ∈ args) (long : Nat.pow 10 Number.maxDigits ≤ n.natAbs) :
      Escapes room template args .unwritable

lemma isWritable_eq_false_iff {a : Arg} : a.isWritable = false ↔
    ∃ n, a = .int n ∧ Nat.pow 10 Number.maxDigits ≤ n.natAbs := by
  cases a <;> simp [Arg.isWritable, Number.isWritable]

lemma listArgs_eq_error_iff : listArgs args = .error e ↔
    .unwritable = e ∧ ∃ n, .int n ∈ args ∧ Nat.pow 10 Number.maxDigits ≤ n.natAbs := by
  rw [listArgs]
  split_ifs with writable
  · refine iff_of_false ?_ ?_
    · split <;> simp
    · rintro ⟨-, n, given, long⟩
      have refused := isWritable_eq_false_iff.2 ⟨n, rfl, long⟩
      exact Bool.noConfusion (refused.symm.trans (List.all_eq_true.1 writable _ given))
  · rw [Bool.not_eq_true, List.all_eq_false] at writable
    obtain ⟨a, given, refused⟩ := writable
    obtain ⟨n, rfl, long⟩ := isWritable_eq_false_iff.1 (Bool.not_eq_true _ ▸ refused)
    simp only [Except.error.injEq]
    exact (and_iff_left ⟨n, given, long⟩).symm

lemma body_of_given (given : args ≠ []) :
    body room template args = match fill room template args with
    | .ok s => .ok s
    | .error .mismatch => listArgs args >>= fun items => pure (template ++ " " ++ items)
    | .error (.overflow e) => .error e := by
  have notEmpty : ¬args.isEmpty = true := by simpa using given
  exact if_neg notEmpty

/-- **A message has a body exactly where one is listed.** -/
theorem body_eq_ok_iff : body room template args = .ok s ↔ HasBody room template args s := by
  constructor
  · intro h
    rcases eq_or_ne args [] with rfl | given
    · cases h
      exact .bare
    rw [body_of_given given] at h
    split at h
    · next fills =>
      cases h
      exact .filled given fills
    · next mismatch =>
      obtain ⟨items, lists, h⟩ := bind_eq_ok_iff.1 h
      cases h
      exact .listed given mismatch lists
    · cases h
  · rintro (_ | ⟨given, fills⟩ | ⟨given, mismatch, lists⟩)
    · rfl
    · rw [body_of_given given, fills]
    · rw [body_of_given given, mismatch, lists]
      rfl

/-- **A message fails exactly where a number escapes.** -/
theorem body_eq_error_iff : body room template args = .error e ↔ Escapes room template args e := by
  constructor
  · intro h
    rcases eq_or_ne args [] with rfl | given
    · cases h
    rw [body_of_given given] at h
    split at h
    · cases h
    · next mismatch =>
      obtain h | ⟨_, -, h⟩ := bind_eq_error_iff.1 h
      · obtain ⟨rfl, n, given, long⟩ := listArgs_eq_error_iff.1 h
        exact .unlisted mismatch given long
      · cases h
    · next overflows =>
      cases h
      exact .exceeded given (fill_eq_overflow_iff.1 overflows)
  · rintro (⟨given, overflows⟩ | ⟨mismatch, given, long⟩)
    · rw [body_of_given given, fill_eq_overflow_iff.2 overflows]
    · rw [body_of_given (List.ne_nil_of_mem given), mismatch,
        listArgs_eq_error_iff.2 ⟨rfl, _, given, long⟩]
      rfl

/-- Modest arguments do not escape from a template of modest directives. -/
lemma not_escapes_of_isModest
    (directives : ∀ d, .directive d ∈ pieces template → Directive.IsModest room d)
    (arguments : ∀ a ∈ args, a.IsModest) : ¬Escapes room template args e := by
  rintro (⟨-, overflows⟩ | @⟨n, -, given, long⟩)
  · exact not_overflows_of_isModest directives arguments overflows
  · obtain ⟨low, high⟩ := arguments _ given
    have small : n.natAbs ≤ Number.max64 := by
      rw [Number.max64]
      omega
    exact absurd long (not_le.2 (Number.lt_pow_ten small (by decide)))

/-! ### Messages -/

variable {log : Log}

lemma message_of_off (off : log.categories.isOn category = false) :
    log.message room category template args = .ok log := by
  rw [message, off]
  rfl

lemma message_of_on (on : log.categories.isOn category = true) :
    log.message room category template args = (body room template args).map fun s =>
      { log with newest := line category s :: log.newest } := by
  rw [message, on]
  rcases body room template args with e | s <;> rfl

lemma text_cons (log : Log) (s : Text) :
    Log.text { log with newest := s :: log.newest } = log.text ++ (s ++ "\n") := by
  simp [text]

/-- What a message does to a log whose categories are those of a setting. -/
structure MessageLaw (room : Number.Room) (setting : Option Text) (log : Log)
    (category template : Text) (args : List Arg) : Prop where
  /-- Under a category that is off the log stays as it is. -/
  off : ¬Categories.Named setting category → log.message room category template args = .ok log
  /-- Under a category that is on one line is added, the name of the program and of the category in
  front of the body. -/
  on : Categories.Named setting category → ∀ s, HasBody room template args s →
    ∃ after, log.message room category template args = .ok after ∧
      after.categories = log.categories ∧
      after.text = log.text ++ ("[CHIP8][" ++ category ++ "] " ++ s ++ "\n")
  /-- A message fails exactly where its category is on and a number escapes from it. -/
  fails : ∀ e, log.message room category template args = .error e ↔
    Categories.Named setting category ∧ Escapes room template args e
  /-- Each message has one body, or one number escapes from it. -/
  body : (∃! s, HasBody room template args s) ∨ ∃! e, Escapes room template args e
  /-- Of modest arguments in a template of modest directives none escapes. -/
  modest : (∀ d, .directive d ∈ pieces template → Directive.IsModest room d) →
    (∀ a ∈ args, a.IsModest) → ∀ e, ¬Escapes room template args e

/-- **A message is written as one line, unless a number escapes from it.** -/
theorem written_or_escapes (room : Number.Room) (setting : Option Text) (newest : List Text)
    (category template : Text) (args : List Arg) :
    MessageLaw room setting ⟨Categories.ofSetting setting, newest⟩ category template args where
  off unnamed := message_of_off (Bool.not_eq_true _ ▸ mt Categories.isOn_ofSetting_iff.1 unnamed)
  on named s hbody := by
    rw [message_of_on (Categories.isOn_ofSetting_iff.2 named), body_eq_ok_iff.2 hbody]
    exact ⟨_, rfl, rfl, text_cons _ _⟩
  fails e := by
    by_cases named : Categories.Named setting category
    · rw [message_of_on (Categories.isOn_ofSetting_iff.2 named), and_iff_right named,
        ← body_eq_error_iff]
      rcases body room template args with e' | s <;> simp [Except.map]
    · have off := Bool.not_eq_true _ ▸ mt Categories.isOn_ofSetting_iff.1 named
      rw [message_of_off off]
      simp [named]
  body := by
    simp only [← body_eq_ok_iff, ← body_eq_error_iff]
    rcases body room template args with e | s <;> simp
  modest directives arguments _ := not_escapes_of_isModest directives arguments

/-- A number that is no code point gets out of the log, and nothing is written. -/
theorem not_written_character :
    let room : Number.Room := .usual
    let log : Log := { categories := Categories.ofSetting (some "cpu") }
    Categories.Named (some "cpu") "cpu" ∧
      log.message room "cpu" "%c" [.int 0x110000] = .error .character ∧
      ¬∃ after, log.message room "cpu" "%c" [.int 0x110000] = .ok after := by
  intro room log
  have named : Categories.Named (some "cpu") "cpu" := by
    refine ⟨_, rfl, "cpu", ?_, ?_, .inr ?_⟩
    all_goals decide +kernel
  have exceeded : Overflows room (pieces "%c") [.int 0x110000] .character := by
    have hpieces : pieces "%c" = [.directive ⟨[], .absent, .absent, some 'c'⟩] := by
      have hdirective : takeDirective [.char 'c'] = (⟨[], .absent, .absent, some 'c'⟩, []) := rfl
      -- cutting recurses on lengths and does not evaluate: its equations take it apart
      change pieces [.char '%', .char 'c'] = _
      simp [pieces, hdirective]
    rw [hpieces]
    exact .here (.argument rfl rfl (.character rfl (by decide)))
  have fails : log.message room "cpu" "%c" [.int 0x110000] = .error .character := by
    rw [message_of_on (Categories.isOn_ofSetting_iff.2 named),
      body_eq_error_iff.2 (.exceeded (by simp) exceeded)]
    rfl
  refine ⟨named, fails, ?_⟩
  rintro ⟨after, written⟩
  cases fails.symm.trans written

end Log

end Chip8
