import Mathlib
import Chip8.Log.Template

/-!
Numbers that a template cannot take.

`Refuses` lists the numbers outside the range of a letter, `Directive.Exceeds` those outside the
range of a directive, its width and its precision included, and `Overflows` says where such a number
stops a whole template: at the first directive that does not print. The lists are exact
(`convert_eq_overflow_iff`, `render_eq_overflow_iff`, `fill_eq_overflow_iff`).
-/

namespace Chip8.Log

section Chains

variable {ε α β : Type} {x : Except ε α} {f : α → Except ε β} {e : ε} {b : β}

lemma bind_eq_error_iff :
    (x >>= f) = .error e ↔ x = .error e ∨ ∃ a, x = .ok a ∧ f a = .error e := by
  cases x <;> simp [bind, Except.bind]

lemma bind_eq_ok_iff : (x >>= f) = .ok b ↔ ∃ a, x = .ok a ∧ f a = .ok b := by
  cases x <;> simp [bind, Except.bind]

end Chains

variable {flags : Text} {precision : Option Nat} {letter : Symbol} {a : Arg} {d : Directive}
  {args left : List Arg} {e : Overflow} {room : Number.Room}

/-! ### Letters -/

/-- A letter that asks for a whole number in decimal; a fraction is dropped. -/
def AsksDecimal (letter : Symbol) : Prop :=
  letter = .char 'd' ∨ letter = .char 'i' ∨ letter = .char 'u'

/-- A letter that asks for a whole number in octal or hexadecimal. -/
def AsksRadix (letter : Symbol) : Prop :=
  letter = .char 'o' ∨ letter = .char 'x' ∨ letter = .char 'X'

/-- A letter that asks for a floating-point number. -/
def AsksReal (letter : Symbol) : Prop :=
  letter = .char 'e' ∨ letter = .char 'E' ∨ letter = .char 'f' ∨ letter = .char 'F' ∨
    letter = .char 'g' ∨ letter = .char 'G'

lemma convert_of_decimal (h : AsksDecimal letter) :
    convert flags precision letter a = a.toInt >>= convertInt flags precision letter := by
  rcases h with rfl | rfl | rfl <;> rfl

lemma convert_of_radix (h : AsksRadix letter) :
    convert flags precision letter a = a.exactInt >>= convertInt flags precision letter := by
  rcases h with rfl | rfl | rfl <;> rfl

lemma convert_of_real (h : AsksReal letter) :
    convert flags precision letter a =
      a.toReal >>= fun x => pure (convertReal flags precision letter x) := by
  rcases h with rfl | rfl | rfl | rfl | rfl | rfl <;> rfl

lemma convert_of_character :
    convert flags precision (.char 'c') a =
      a.toSymbol >>= fun c => pure { body := [c] } := rfl

lemma convertText_ne_overflow (s : Text) :
    convertText precision a s ≠ .error (.overflow e) := by
  rw [convertText]
  split <;> simp

/-- The other letters write any argument or none. -/
lemma convert_ne_overflow (decimal : ¬AsksDecimal letter) (radix : ¬AsksRadix letter)
    (real : ¬AsksReal letter) (character : letter ≠ .char 'c') :
    convert flags precision letter a ≠ .error (.overflow e) := by
  rw [convert]
  split_ifs
  iterate 3 exact convertText_ne_overflow _
  · contradiction
  · contradiction
  · contradiction
  · simp [throw, throwThe, MonadExceptOf.throw]

/-! ### Arguments -/

lemma exactInt_ne_overflow : a.exactInt ≠ .error (.overflow e) := by
  cases a <;> simp [Arg.exactInt]

lemma toInt_eq_overflow_iff : a.toInt = .error (.overflow e) ↔
    .infiniteInteger = e ∧ ∃ x negative, a = .real x ∧ Number.parts x = .infinite negative := by
  cases a with
  | real x => cases h : Number.parts x <;> simp [Arg.toInt, h]
  | _ => simp [Arg.toInt]

lemma toReal_eq_overflow_iff : a.toReal = .error (.overflow e) ↔
    .float = e ∧ ∃ n, a = .int n ∧ Number.fitsFloat n = false := by
  cases a with
  | int n => cases h : Number.fitsFloat n <;> simp [Arg.toReal, h]
  | _ => simp [Arg.toReal]

/-- A check stops the values that do not pass it. -/
lemma check_eq_overflow_iff {α : Type} {p : Prop} [Decidable p] {v : α} {what : Overflow} :
    (if p then pure v else throw (.overflow what) : Except TemplateError α) = .error (.overflow e) ↔
      what = e ∧ ¬p := by
  split_ifs with h
  · exact iff_of_false (fun h => nomatch h) (fun hp => hp.2 h)
  · exact ⟨fun heq => ⟨by cases heq; rfl, h⟩, fun ⟨heq, _⟩ => heq ▸ rfl⟩

/-- A whole number can fail a check, but a truth passes if zero and one do. -/
lemma exactInt_check_eq_overflow_iff {α : Type} {p : Int → Prop} [DecidablePred p] {f : Int → α}
    {what : Overflow} (zero : p 0) (one : p 1) :
    (a.exactInt >>= fun n => if p n then pure (f n) else throw (.overflow what)) =
        .error (.overflow e) ↔
      what = e ∧ ∃ n, a = .int n ∧ ¬p n := by
  cases a with
  | int n => exact check_eq_overflow_iff.trans (by simp)
  | truth b =>
    have pass : p (if b then 1 else 0) := by cases b <;> assumption
    exact check_eq_overflow_iff.trans (by simp [pass])
  | _ => simp [Arg.exactInt, bind, Except.bind]

lemma toSymbol_eq_overflow_iff : a.toSymbol = .error (.overflow e) ↔
    .character = e ∧ ∃ n, a = .int n ∧ ¬(0 ≤ n ∧ n < 0x110000) := by
  cases a with
  | text s => rcases s with _ | ⟨c, _ | ⟨c', s⟩⟩ <;> simp [Arg.toSymbol]
  | _ => exact exactInt_check_eq_overflow_iff (by decide) (by decide)

lemma nextBound_eq_overflow_iff {fits : Int → Bool} {what : Overflow} (zero : fits 0 = true)
    (one : fits 1 = true) : nextBound fits what args = .error (.overflow e) ↔
      what = e ∧ ∃ n rest, args = .int n :: rest ∧ fits n = false := by
  rcases args with _ | ⟨a, rest⟩
  · simp [nextBound]
  refine (exactInt_check_eq_overflow_iff (p := fun n => fits n = true) zero one).trans ?_
  simp only [Bool.not_eq_true, List.cons.injEq]
  exact and_congr_right fun _ =>
    ⟨fun ⟨n, ha, large⟩ => ⟨n, rest, ⟨ha, rfl⟩, large⟩, fun ⟨n, _, ⟨ha, _⟩, large⟩ => ⟨n, ha, large⟩⟩

lemma convertInt_eq_overflow_iff {n : Int} :
    convertInt flags precision letter n = .error (.overflow e) ↔
      .digits = e ∧ ∃ p, precision = some p ∧ Number.max32 - 3 < p := by
  rw [convertInt]
  have many : precision.any (Number.max32 - 3 < ·) = true ↔
      ∃ p, precision = some p ∧ Number.max32 - 3 < p := by
    rcases precision with _ | p <;> simp
  simp only [many]
  split_ifs with h
  · exact ⟨fun heq => ⟨by cases heq; rfl, h⟩, fun ⟨heq, _⟩ => heq ▸ rfl⟩
  · simp [h]
  · simp [h]

/-! ### Numbers outside the range of a letter -/

/-- An argument of which a letter makes a whole number. -/
inductive Counts (letter : Symbol) : Arg → Prop
  | int {n : Int} (asks : AsksDecimal letter ∨ AsksRadix letter) : Counts letter (.int n)
  | truth {b : Bool} (asks : AsksDecimal letter ∨ AsksRadix letter) : Counts letter (.truth b)
  | real {x : Float} {negative : Bool} {size : Number.Dyadic} (asks : AsksDecimal letter)
      (finite : Number.parts x = .finite negative size) : Counts letter (.real x)

/-- A number that is outside the range of a letter. -/
inductive Refuses (precision : Option Nat) (letter : Symbol) : Arg → Overflow → Prop
  /-- A code point that is none. -/
  | character {n : Int} (asks : letter = .char 'c') (outside : ¬(0 ≤ n ∧ n < 0x110000)) :
      Refuses precision letter (.int n) .character
  /-- An infinite number in the place of a whole one. -/
  | infinite {x : Float} {negative : Bool} (asks : AsksDecimal letter)
      (infinite : Number.parts x = .infinite negative) :
      Refuses precision letter (.real x) .infiniteInteger
  /-- A whole number beyond the range of floating point. -/
  | float {n : Int} (asks : AsksReal letter) (beyond : Number.fitsFloat n = false) :
      Refuses precision letter (.int n) .float
  /-- A whole number that is asked for with too many digits. -/
  | digits {a : Arg} {p : Nat} (counts : Counts letter a) (asked : precision = some p)
      (many : Number.max32 - 3 < p) : Refuses precision letter a .digits

lemma counts_of_toInt (asks : AsksDecimal letter) {n : Int} (h : a.toInt = .ok n) :
    Counts letter a := by
  cases a with
  | int => exact .int (.inl asks)
  | truth => exact .truth (.inl asks)
  | real x =>
    cases hparts : Number.parts x with
    | finite => exact .real asks hparts
    | _ =>
      rw [Arg.toInt, hparts] at h
      cases h
  | _ => cases h

lemma counts_of_exactInt (asks : AsksRadix letter) {n : Int} (h : a.exactInt = .ok n) :
    Counts letter a := by
  cases a with
  | int => exact .int (.inr asks)
  | truth => exact .truth (.inr asks)
  | _ => cases h

/-- Where a whole number is made of an argument, it is the number of digits that can be too many. -/
lemma convert_of_counts (h : Counts letter a) :
    ∃ n, convert flags precision letter a = convertInt flags precision letter n := by
  cases h with
  | int asks | truth asks =>
    rcases asks with asks | asks
    · exact ⟨_, convert_of_decimal asks⟩
    · exact ⟨_, convert_of_radix asks⟩
  | real asks finite =>
    rw [convert_of_decimal asks, Arg.toInt, finite]
    exact ⟨_, rfl⟩

lemma refuses_of_convert (h : convert flags precision letter a = .error (.overflow e)) :
    Refuses precision letter a e := by
  -- a whole number may fail to be made, or to be written; the others fail at the first step alone
  by_cases decimal : AsksDecimal letter
  · rw [convert_of_decimal decimal, bind_eq_error_iff] at h
    obtain h | ⟨n, hn, h⟩ := h
    · obtain ⟨rfl, x, negative, rfl, infinite⟩ := toInt_eq_overflow_iff.1 h
      exact .infinite decimal infinite
    · obtain ⟨rfl, p, asked, many⟩ := convertInt_eq_overflow_iff.1 h
      exact .digits (counts_of_toInt decimal hn) asked many
  by_cases radix : AsksRadix letter
  · rw [convert_of_radix radix, bind_eq_error_iff] at h
    obtain h | ⟨n, hn, h⟩ := h
    · exact absurd h exactInt_ne_overflow
    · obtain ⟨rfl, p, asked, many⟩ := convertInt_eq_overflow_iff.1 h
      exact .digits (counts_of_exactInt radix hn) asked many
  by_cases real : AsksReal letter
  · rw [convert_of_real real, bind_eq_error_iff] at h
    obtain h | ⟨x, -, h⟩ := h
    · obtain ⟨rfl, n, rfl, beyond⟩ := toReal_eq_overflow_iff.1 h
      exact .float real beyond
    · cases h
  by_cases character : letter = .char 'c'
  · subst character
    rw [convert_of_character, bind_eq_error_iff] at h
    obtain h | ⟨c, -, h⟩ := h
    · obtain ⟨rfl, n, rfl, outside⟩ := toSymbol_eq_overflow_iff.1 h
      exact .character rfl outside
    · cases h
  exact absurd h (convert_ne_overflow decimal radix real character)

/-- **An argument overflows under a letter exactly where it is listed.** -/
theorem convert_eq_overflow_iff :
    convert flags precision letter a = .error (.overflow e) ↔ Refuses precision letter a e := by
  refine ⟨refuses_of_convert, fun h => ?_⟩
  cases h with
  | character asks outside =>
    subst asks
    rw [convert_of_character, toSymbol_eq_overflow_iff.2 ⟨rfl, _, rfl, outside⟩]
    rfl
  | infinite asks infinite =>
    rw [convert_of_decimal asks, toInt_eq_overflow_iff.2 ⟨rfl, _, _, rfl, infinite⟩]
    rfl
  | float asks beyond =>
    rw [convert_of_real asks, toReal_eq_overflow_iff.2 ⟨rfl, _, rfl, beyond⟩]
    rfl
  | digits counts asked many =>
    obtain ⟨n, hconvert⟩ := convert_of_counts counts
    rw [hconvert, convertInt_eq_overflow_iff]
    exact ⟨rfl, _, asked, many⟩

/-! ### Numbers outside the range of a directive -/

/-- The first arguments are outside the range of a directive. -/
inductive Directive.Exceeds (room : Number.Room) (d : Directive) : List Arg → Overflow → Prop
  /-- The width from the arguments is no machine integer. -/
  | width {n : Int} {rest : List Arg} (asked : d.width = .argument)
      (large : Number.fits64 n = false) : d.Exceeds room (.int n :: rest) .width
  /-- The precision from the arguments is no machine integer. -/
  | precision {args rest : List Arg} {sides : Text × Nat} {n : Int}
      (before : d.sides args = .ok (sides, .int n :: rest)) (asked : d.precision = .argument)
      (large : Number.fits32 n = false) : d.Exceeds room args .precision
  /-- The argument itself is outside the range of the letter. -/
  | argument {args rest : List Arg} {f : Field} {a : Arg} {letter : Symbol} {e : Overflow}
      (before : d.field args = .ok (f, a :: rest)) (named : d.letter = some letter)
      (refuses : Refuses f.precision letter a e) : d.Exceeds room args e
  /-- The field is wider than there is room for. -/
  | field {args rest : List Arg} {f : Field} {a : Arg} {letter : Symbol} {c : Converted}
      (before : d.field args = .ok (f, a :: rest)) (named : d.letter = some letter)
      (converts : convert f.flags f.precision letter a = .ok c)
      (wide : room.bytes < f.width) : d.Exceeds room args .outOfMemory

lemma sides_eq_overflow_iff : d.sides args = .error (.overflow e) ↔
    d.width = .argument ∧ .width = e ∧
      ∃ n rest, args = .int n :: rest ∧ Number.fits64 n = false := by
  rw [Directive.sides]
  cases d.width with
  | argument =>
    rw [← nextBound_eq_overflow_iff (by decide) (by decide), bind_eq_error_iff]
    simp [pure, Except.pure]
  | _ => simp

lemma places_eq_overflow_iff : d.places args = .error (.overflow e) ↔
    d.precision = .argument ∧ .precision = e ∧
      ∃ n rest, args = .int n :: rest ∧ Number.fits32 n = false := by
  rw [Directive.places]
  cases d.precision with
  | argument =>
    rw [← nextBound_eq_overflow_iff (by decide) (by decide), bind_eq_error_iff]
    simp [pure, Except.pure]
  | _ => simp

lemma field_eq_overflow_iff : d.field args = .error (.overflow e) ↔
    d.sides args = .error (.overflow e) ∨
      ∃ sides rest, d.sides args = .ok (sides, rest) ∧ d.places rest = .error (.overflow e) := by
  rw [Directive.field, bind_eq_error_iff]
  refine or_congr_right ⟨?_, ?_⟩
  · rintro ⟨⟨sides, rest⟩, hsides, h⟩
    obtain h | ⟨_, -, h⟩ := bind_eq_error_iff.1 h
    · exact ⟨sides, rest, hsides, h⟩
    · cases h
  · rintro ⟨sides, rest, hsides, h⟩
    exact ⟨_, hsides, bind_eq_error_iff.2 (.inl h)⟩

lemma Field.render_eq_overflow_iff {f : Field} : f.render room letter a = .error (.overflow e) ↔
    Refuses f.precision letter a e ∨
      .outOfMemory = e ∧ room.bytes < f.width ∧
        ∃ c, convert f.flags f.precision letter a = .ok c := by
  rw [Field.render, bind_eq_error_iff, convert_eq_overflow_iff]
  simp only [check_eq_overflow_iff, not_le]
  exact or_congr_right ⟨fun ⟨c, hc, he, wide⟩ => ⟨he, wide, c, hc⟩,
    fun ⟨he, wide, c, hc⟩ => ⟨c, hc, he, wide⟩⟩

lemma render_of_field {f : Field} {rest : List Arg} (before : d.field args = .ok (f, a :: rest))
    (named : d.letter = some letter) :
    d.render room args = f.render room letter a >>= fun s => pure (s, rest) := by
  rw [Directive.render, before, named]
  rfl

/-- A directive fails over its field, or for want of a letter or an argument, or else it is up to its
letter. -/
lemma render_cases (room : Number.Room) (d : Directive) (args : List Arg) :
    (∃ why, d.field args = .error why ∧ d.render room args = .error why) ∨
      d.render room args = .error .mismatch ∨
      ∃ f a rest letter, d.field args = .ok (f, a :: rest) ∧ d.letter = some letter ∧
        d.render room args = f.render room letter a >>= fun s => pure (s, rest) := by
  rcases hfield : d.field args with why | ⟨f, rest⟩
  · refine .inl ⟨why, rfl, ?_⟩
    rw [Directive.render, hfield]
    rfl
  rcases named : d.letter with _ | letter
  · refine .inr (.inl ?_)
    rw [Directive.render, hfield, named]
    rfl
  rcases rest with _ | ⟨a, rest⟩
  · refine .inr (.inl ?_)
    rw [Directive.render, hfield, named]
    rfl
  · exact .inr (.inr ⟨f, a, rest, letter, rfl, rfl, render_of_field hfield named⟩)

lemma exceeds_of_render (h : d.render room args = .error (.overflow e)) :
    d.Exceeds room args e := by
  obtain ⟨why, hfield, hrender⟩ | hrender | ⟨f, a, rest, letter, before, named, hrender⟩ :=
    render_cases room d args <;> rw [hrender] at h
  · obtain rfl := Except.error.inj h
    -- the width is taken before the precision, so either may be the first to fail
    obtain hsides | ⟨sides, rest, before, hplaces⟩ := field_eq_overflow_iff.1 hfield
    · obtain ⟨asked, rfl, n, rest, rfl, large⟩ := sides_eq_overflow_iff.1 hsides
      exact .width asked large
    · obtain ⟨asked, rfl, n, rest, rfl, large⟩ := places_eq_overflow_iff.1 hplaces
      exact .precision before asked large
  · cases h
  · obtain h | ⟨_, -, h⟩ := bind_eq_error_iff.1 h
    · obtain refuses | ⟨rfl, wide, c, converts⟩ := Field.render_eq_overflow_iff.1 h
      · exact .argument before named refuses
      · exact .field before named converts wide
    · cases h

/-- **A directive overflows exactly where its arguments exceed it.** -/
theorem render_eq_overflow_iff :
    d.render room args = .error (.overflow e) ↔ d.Exceeds room args e := by
  refine ⟨exceeds_of_render, fun h => ?_⟩
  cases h with
  | @width n rest asked large =>
    have hsides := sides_eq_overflow_iff.2 ⟨asked, rfl, n, rest, rfl, large⟩
    rw [Directive.render, field_eq_overflow_iff.2 (.inl hsides)]
    rfl
  | @precision _ rest sides n before asked large =>
    have hplaces := places_eq_overflow_iff.2 ⟨asked, rfl, n, rest, rfl, large⟩
    rw [Directive.render, field_eq_overflow_iff.2 (.inr ⟨sides, _, before, hplaces⟩)]
    rfl
  | argument before named refuses =>
    rw [render_of_field before named, Field.render_eq_overflow_iff.2 (.inl refuses)]
    rfl
  | field before named converts wide =>
    rw [render_of_field before named,
      Field.render_eq_overflow_iff.2 (.inr ⟨rfl, wide, _, converts⟩)]
    rfl

/-! ### Numbers that stop a template -/

/-- A directive is exceeded, and what stands before it prints. -/
inductive Overflows (room : Number.Room) : List Piece → List Arg → Overflow → Prop
  | here {d : Directive} {rest : List Piece} {args : List Arg} {e : Overflow}
      (exceeds : d.Exceeds room args e) : Overflows room (.directive d :: rest) args e
  | literal {c : Symbol} {rest : List Piece} {args : List Arg} {e : Overflow}
      (later : Overflows room rest args e) : Overflows room (.literal c :: rest) args e
  | directive {d : Directive} {rest : List Piece} {args left : List Arg} {s : Text} {e : Overflow}
      (prints : d.render room args = .ok (s, left)) (later : Overflows room rest left e) :
      Overflows room (.directive d :: rest) args e

lemma renderPieces_literal {c : Symbol} {rest : List Piece} :
    renderPieces room (.literal c :: rest) args = .error (.overflow e) ↔
      renderPieces room rest args = .error (.overflow e) := by
  rw [renderPieces, bind_eq_error_iff]
  simp [pure, Except.pure]

lemma renderPieces_directive {rest : List Piece} :
    renderPieces room (.directive d :: rest) args = .error (.overflow e) ↔
      d.Exceeds room args e ∨
        ∃ s left, d.render room args = .ok (s, left) ∧
          renderPieces room rest left = .error (.overflow e) := by
  rw [renderPieces, bind_eq_error_iff, render_eq_overflow_iff]
  refine or_congr_right ⟨?_, ?_⟩
  · rintro ⟨⟨s, left⟩, prints, h⟩
    obtain h | ⟨_, -, h⟩ := bind_eq_error_iff.1 h
    · exact ⟨s, left, prints, h⟩
    · cases h
  · rintro ⟨s, left, prints, h⟩
    exact ⟨_, prints, bind_eq_error_iff.2 (.inl h)⟩

lemma renderPieces_eq_overflow_iff {ps : List Piece} :
    renderPieces room ps args = .error (.overflow e) ↔ Overflows room ps args e := by
  -- a directive that prints uses up arguments, so the claim is about any that are left
  induction ps generalizing args with
  | nil => cases args <;> exact iff_of_false (fun h => nomatch h) (fun h => nomatch h)
  | cons p rest ih =>
    cases p with
    | literal c =>
      rw [renderPieces_literal, ih]
      exact ⟨.literal, fun | .literal later => later⟩
    | named => exact iff_of_false (fun h => nomatch h) (fun h => nomatch h)
    | directive d =>
      rw [renderPieces_directive]
      constructor
      · rintro (exceeds | ⟨s, left, prints, h⟩)
        · exact .here exceeds
        · exact .directive prints (ih.1 h)
      · rintro (exceeds | _ | ⟨prints, later⟩)
        · exact .inl exceeds
        · exact .inr ⟨_, _, prints, ih.2 later⟩

/-- **Filling a template overflows exactly at the first directive that is exceeded, if all before it
prints.** -/
theorem fill_eq_overflow_iff {template : Text} :
    fill room template args = .error (.overflow e) ↔ Overflows room (pieces template) args e :=
  renderPieces_eq_overflow_iff

end Chip8.Log
