import Chip8.Number.Literal
import Chip8.Number.Radix
import Chip8.Number.Range
import Chip8.Number.Text

/-!
Message templates. A template is text with directives, each a percent sign, flags, a width, a
precision and a conversion letter, and every directive takes the next argument. The template is
cut into pieces first, so that what a directive says and what its argument is are kept apart.
A directive and an argument that do not fit each other are a mismatch, and so is a whole number of
more digits than are written; a number outside the range of its directive is an overflow, and so is
a field that there is no room for.
-/

namespace Chip8.Log

/-- An argument of a message. -/
inductive Arg where
  | int (n : Int)
  | real (x : Float)
  | text (s : Text)
  | truth (b : Bool)
  | nothing
  deriving Repr

/-- A number that a message cannot take: it is outside the range of its directive, or has too many
digits to be listed. -/
inductive Overflow where
  | character
  | infiniteInteger
  | float
  | width
  | precision
  | digits
  | outOfMemory
  | unwritable
  deriving DecidableEq, Repr

/-- The message of an overflow; running out of memory has none. -/
def Overflow.message : Overflow → String
  | .character => "%c arg not in range(0x110000)"
  | .infiniteInteger => "cannot convert float infinity to integer"
  | .float => "int too large to convert to float"
  | .width => "Python int too large to convert to C ssize_t"
  | .precision => "Python int too large to convert to C int"
  | .digits => "precision too large"
  | .outOfMemory => ""
  | .unwritable => Number.unwritableText

/-- Why a template and its arguments give no text. -/
inductive TemplateError where
  | mismatch
  | overflow (what : Overflow)
  deriving DecidableEq, Repr

/-- A width or precision: left out, taken from the arguments, written out, or out of range. -/
inductive Bound where
  | absent
  | argument
  | number (n : Nat)
  | tooBig
  deriving DecidableEq, Repr

/-- What a directive says. `letter` is missing where the template ends inside the directive. -/
structure Directive where
  flags : Text
  width : Bound
  precision : Bound
  letter : Option Symbol
  deriving DecidableEq, Repr

/-- A part of a template. -/
inductive Piece where
  | literal (c : Symbol)
  | named
  | directive (d : Directive)
  deriving DecidableEq, Repr

/-! ### Cutting a template -/

def isFlag (c : Symbol) : Bool := c == '-' || c == '+' || c == ' ' || c == '#' || c == '0'

/-- The number that ASCII digits write. -/
def digitsValue (ds : Text) : Nat := ds.foldl (fun n c => 10 * n + (c.code - 48)) 0

/-- A width or precision at the start of `s`, and what follows it. -/
def takeBound (limit : Nat) : Text → Bound × Text
  | .char '*' :: rest => (.argument, rest)
  | s =>
    let ds := s.takeWhile Symbol.isAsciiDigit
    let n := digitsValue ds
    (if ds.isEmpty then .absent else if limit < n then .tooBig else .number n,
      s.dropWhile Symbol.isAsciiDigit)

/-- A precision at the start of `s`; a point alone means zero. -/
def takePrecision : Text → Bound × Text
  | .char '.' :: rest =>
    match takeBound Number.max32 rest with
    | (.absent, rest) => (.number 0, rest)
    | other => other
  | s => (.absent, s)

/-- Drops a length letter, which has no meaning. -/
def dropLength : Text → Text
  | c :: rest => if c = 'h' ∨ c = 'l' ∨ c = 'L' then rest else c :: rest
  | [] => []

/-- The directive that follows a percent sign, and what follows it. -/
def takeDirective (s : Text) : Directive × Text :=
  let (width, s₁) := takeBound Number.max64 (s.dropWhile isFlag)
  let (precision, s₂) := takePrecision s₁
  let s₃ := dropLength s₂
  (⟨s.takeWhile isFlag, width, precision, s₃.head?⟩, s₃.tail)

theorem length_dropWhile_le (p : Symbol → Bool) (s : Text) :
    (s.dropWhile p).length ≤ s.length :=
  (List.dropWhile_sublist p).length_le

theorem length_takeBound_le (limit : Nat) (s : Text) :
    (takeBound limit s).2.length ≤ s.length := by
  unfold takeBound
  split
  · simp
  · exact length_dropWhile_le _ _

theorem length_takePrecision_le (s : Text) :
    (takePrecision s).2.length ≤ s.length := by
  unfold takePrecision
  split
  · rename_i rest
    have := length_takeBound_le Number.max32 rest
    split
    · rename_i h
      rw [h] at this
      simp only [List.length_cons] at *
      omega
    · simp only [List.length_cons]
      omega
  · simp

theorem length_dropLength_le (s : Text) : (dropLength s).length ≤ s.length := by
  unfold dropLength
  split
  · split <;> simp
  · simp

theorem length_takeDirective_le (s : Text) : (takeDirective s).2.length ≤ s.length := by
  have h₁ := length_dropWhile_le isFlag s
  have h₂ := length_takeBound_le Number.max64 (s.dropWhile isFlag)
  have h₃ := length_takePrecision_le (takeBound Number.max64 (s.dropWhile isFlag)).2
  have h₄ := length_dropLength_le (takePrecision (takeBound Number.max64 (s.dropWhile isFlag)).2).2
  simp only [takeDirective, List.length_tail]
  omega

/-- Cuts a template into its pieces; a doubled percent sign stands for one. -/
def pieces : Text → List Piece
  | [] => []
  | .char '%' :: .char '%' :: rest => .literal '%' :: pieces rest
  | .char '%' :: .char '(' :: rest => .named :: pieces rest
  | .char '%' :: rest =>
    have : (takeDirective rest).2.length < rest.length + 1 := by
      have := length_takeDirective_le rest
      omega
    .directive (takeDirective rest).1 :: pieces (takeDirective rest).2
  | c :: rest => .literal c :: pieces rest
termination_by s => s.length

/-! ### Arguments as texts -/

/-- An argument as a reader sees it: a text stands for itself. -/
def Arg.shown : Arg → Text
  | .int n => s!"{n}"
  | .real x => .ofChars (Number.shortestText x)
  | .text s => s
  | .truth b => if b then "True" else "False"
  | .nothing => "None"

/-- An argument as it is listed: a text stands in quotes. -/
def Arg.listed (quote : Text → String) : Arg → Text
  | .text s => quote s
  | a => a.shown

/-- Whether an argument can be written: a whole number may have too many digits. -/
def Arg.isWritable : Arg → Bool
  | .int n => Number.isWritable n
  | _ => true

/-- The arguments as a list in parentheses; a single one has a comma behind it. -/
def listArgs (args : List Arg) : Except Overflow Text :=
  if args.all Arg.isWritable then
    match args.map (Arg.listed Text.quote) with
    | [item] => .ok ("(" ++ item ++ ",)")
    | items => .ok ("(" ++ Text.join ", " items ++ ")")
  else .error .unwritable

/-- The argument as a whole number, the fraction dropped. -/
def Arg.toInt : Arg → Except TemplateError Int
  | .int n => .ok n
  | .truth b => .ok (if b then 1 else 0)
  | .real x =>
    match Number.parts x with
    | .finite negative d => .ok (if negative then -(d.floor : Int) else d.floor)
    | .infinite _ => .error (.overflow .infiniteInteger)
    | .notANumber => .error .mismatch
  | _ => .error .mismatch

/-- The argument as a whole number, if it is one. -/
def Arg.exactInt : Arg → Except TemplateError Int
  | .int n => .ok n
  | .truth b => .ok (if b then 1 else 0)
  | _ => .error .mismatch

/-- The argument as a floating-point number. -/
def Arg.toReal : Arg → Except TemplateError Float
  | .real x => .ok x
  | .int n => if Number.fitsFloat n then .ok (Number.toFloat n) else .error (.overflow .float)
  | .truth b => .ok (if b then 1.0 else 0.0)
  | _ => .error .mismatch

/-- The argument as one symbol, given by itself or by its code point. -/
def Arg.toSymbol : Arg → Except TemplateError Symbol
  | .text [c] => .ok c
  | .text _ => .error .mismatch
  | a => do
    let n ← a.exactInt
    if 0 ≤ n ∧ n < 0x110000 then pure (.ofCode n.toNat) else throw (.overflow .character)

/-! ### One directive -/

/-- A converted argument: its sign, a marker such as `0x`, its body, and whether it is a number. -/
structure Converted where
  numeric : Bool := false
  negative : Bool := false
  marker : Text := []
  body : Text
  deriving Repr

/-- A converted argument in its field. Zeros fill a number between its sign and its digits; blanks
stand before all of it, or behind it with the flag `-`. -/
def layOut (flags : Text) (width : Nat) (c : Converted) : Text :=
  let sign : Text :=
    if !c.numeric then []
    else if c.negative then ['-']
    else if flags.contains '+' then ['+']
    else if flags.contains ' ' then [' ']
    else []
  let left := sign ++ c.marker
  let gap := width - left.length - c.body.length
  if flags.contains '-' then left ++ c.body ++ List.replicate gap (.char ' ')
  else if c.numeric && flags.contains '0' then left ++ List.replicate gap (.char '0') ++ c.body
  else List.replicate gap (.char ' ') ++ left ++ c.body

/-- An argument that is written as `s`, cut to its first `precision` symbols. -/
def convertText (precision : Option Nat) (a : Arg) (s : Text) : Except TemplateError Converted :=
  if a.isWritable then .ok { body := (precision.map fun p => s.take p).getD s }
  else .error .mismatch

/-- The base of the digits that a letter asks for. -/
def baseOf (letter : Symbol) : Nat :=
  if letter = 'o' then 8 else if letter = 'x' ∨ letter = 'X' then 16 else 10

/-- A whole number in the base of a letter, with at least `precision` digits. -/
def writeInt (flags : Text) (precision : Nat) (letter : Symbol) (n : Int) : Converted :=
  let ds := Number.digits (baseOf letter) n.natAbs
  let ds := List.replicate (precision - ds.length) '0' ++ ds
  let ds := Number.inCase (letter == 'X') ds
  let marker : Text := if flags.contains '#' && baseOf letter != 10 then ['0', letter] else []
  { numeric := true, negative := n < 0, marker, body := .ofChars ds }

/-- A whole number as a letter asks for it, unless that takes too many digits. -/
def convertInt (flags : Text) (precision : Option Nat) (letter : Symbol) (n : Int) :
    Except TemplateError Converted :=
  if precision.any (Number.max32 - 3 < ·) then .error (.overflow .digits)
  else if baseOf letter = 10 && !Number.isWritable n then .error .mismatch
  else .ok (writeInt flags (precision.getD 0) letter n)

/-- A floating-point number in the style of its letter. -/
def convertReal (flags : Text) (precision : Option Nat) (letter : Symbol) (x : Float) :
    Converted :=
  let style : Number.Style :=
    if letter = 'f' ∨ letter = 'F' then .fixed
    else if letter = 'e' ∨ letter = 'E' then .scientific
    else .general
  let capital := letter == 'F' || letter == 'E' || letter == 'G'
  let s := Number.styledText style capital (flags.contains '#') (precision.getD 6) x
  { numeric := true, negative := s.head? = some '-', body := .ofChars (s.dropWhile (· == '-')) }

/-- Converts an argument as the letter of a directive says. -/
def convert (flags : Text) (precision : Option Nat) (letter : Symbol) (a : Arg) :
    Except TemplateError Converted := do
  if letter = 's' then convertText precision a a.shown
  else if letter = 'r' then convertText precision a (a.listed Text.quote)
  else if letter = 'a' then convertText precision a (a.listed Text.quoteAscii)
  else if letter = 'd' ∨ letter = 'i' ∨ letter = 'u' then
    convertInt flags precision letter (← a.toInt)
  else if letter = 'o' ∨ letter = 'x' ∨ letter = 'X' then
    convertInt flags precision letter (← a.exactInt)
  else if letter = 'e' ∨ letter = 'E' ∨ letter = 'f' ∨ letter = 'F' ∨ letter = 'g' ∨
      letter = 'G' then
    pure (convertReal flags precision letter (← a.toReal))
  else if letter = 'c' then pure { body := [← a.toSymbol] }
  else throw .mismatch

/-- The next argument and the ones after it. -/
def nextArg : List Arg → Except TemplateError (Arg × List Arg)
  | a :: rest => .ok (a, rest)
  | [] => .error .mismatch

/-- A width or precision that the arguments give, and the arguments after it. It has to be a whole
number; a truth counts. -/
def nextBound (fits : Int → Bool) (what : Overflow) :
    List Arg → Except TemplateError (Int × List Arg)
  | [] => .error .mismatch
  | a :: rest => do
    let n ← a.exactInt
    if fits n then pure (n, rest) else throw (.overflow what)

/-- The size of a width that the arguments give; the least one has no opposite and counts as
none. -/
def widthSize (n : Int) : Nat := if n = -Number.max64 - 1 then 0 else n.natAbs

/-- How an argument is laid out. -/
structure Field where
  flags : Text
  width : Nat
  precision : Option Nat
  deriving DecidableEq, Repr

/-- The flags and the width of a directive, and the arguments left. A negative width from the
arguments asks for the left side. -/
def Directive.sides (d : Directive) (args : List Arg) :
    Except TemplateError ((Text × Nat) × List Arg) :=
  match d.width with
  | .absent => .ok ((d.flags, 0), args)
  | .number n => .ok ((d.flags, n), args)
  | .tooBig => .error .mismatch
  | .argument => do
    let (n, rest) ← nextBound Number.fits64 .width args
    pure ((if n < 0 then .char '-' :: d.flags else d.flags, widthSize n), rest)

/-- The precision of a directive, and the arguments left. A negative precision from the arguments
counts as zero. -/
def Directive.places (d : Directive) (args : List Arg) :
    Except TemplateError (Option Nat × List Arg) :=
  match d.precision with
  | .absent => .ok (none, args)
  | .number n => .ok (some n, args)
  | .tooBig => .error .mismatch
  | .argument => do
    let (n, rest) ← nextBound Number.fits32 .precision args
    pure (some n.toNat, rest)

/-- The field of a directive and the arguments left. -/
def Directive.field (d : Directive) (args : List Arg) :
    Except TemplateError (Field × List Arg) := do
  let ((flags, width), args) ← d.sides args
  let (precision, args) ← d.places args
  pure (⟨flags, width, precision⟩, args)

/-- An argument as a letter says, in its field, if there is room for that. -/
def Field.render (room : Number.Room) (f : Field) (letter : Symbol) (a : Arg) :
    Except TemplateError Text := do
  let c ← convert f.flags f.precision letter a
  if f.width ≤ room.bytes then pure (layOut f.flags f.width c)
  else throw (.overflow .outOfMemory)

/-- The text for a directive and the arguments left. -/
def Directive.render (room : Number.Room) (d : Directive) (args : List Arg) :
    Except TemplateError (Text × List Arg) := do
  let (f, args) ← d.field args
  match d.letter with
  | none => throw .mismatch
  | some letter => do
    let (a, rest) ← nextArg args
    pure (← f.render room letter a, rest)

/-! ### The whole template -/

/-- The text for the pieces; all arguments have to be used. -/
def renderPieces (room : Number.Room) : List Piece → List Arg → Except TemplateError Text
  | [], [] => .ok []
  | [], _ :: _ => .error .mismatch
  | .literal c :: rest, args => do pure (c :: (← renderPieces room rest args))
  | .named :: _, _ => .error .mismatch
  | .directive d :: rest, args => do
    let (s, args) ← d.render room args
    pure (s ++ (← renderPieces room rest args))

/-- The text of a template with its arguments. -/
def fill (room : Number.Room) (template : Text) (args : List Arg) : Except TemplateError Text :=
  renderPieces room (pieces template) args

end Chip8.Log
