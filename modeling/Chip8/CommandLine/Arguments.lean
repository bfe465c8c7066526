import Chip8.CommandLine.Options

/-!
Reading the arguments. Every argument is classified by itself first: an option by its spelling or
a unique start of it, possibly with a value attached, or a plain word. Negative numbers and texts
with a blank are words even if they begin with a dash, and so is everything behind two dashes.
Then the options take effect in order, the first word becomes the program image, and what nobody
takes is reported at the end.
-/

namespace Chip8.CommandLine

/-- A classified argument. Text can be attached to an option behind an equals sign, and to a letter
also directly. -/
inductive Token where
  | word (text : Text)
  | option (option : Opt) (spelling : Text) (attached : Option Text)
  | unknown (text : Text)
  | dashes
  deriving DecidableEq, Repr

/-! ### Classifying an argument -/

/-- The parts of a text before and behind the first equals sign, if there is one. -/
def splitEquals (s : Text) : Option (Text × Text) :=
  if .char '=' ∈ s then
    some (s.takeWhile (· ≠ .char '='), (s.dropWhile (· ≠ .char '=')).tail)
  else none

/-- The options that an argument with two dashes can stand for: those that it is the start of. -/
def longCandidates (s : Text) : List (Text × Opt × Option Text) :=
  let (start, attached) := match splitEquals s with
    | some (start, value) => (start, some value)
    | none => (s, none)
  (Opt.spellings.filter fun (spelling, _) => start.isPrefixOf spelling).map
    fun (spelling, o) => (spelling, o, attached)

/-- The options that an argument with one dash can stand for: a letter with text attached, or a
start of a spelling. -/
def shortCandidates (s : Text) : List (Text × Opt × Option Text) :=
  Opt.spellings.filterMap fun (spelling, o) =>
    if spelling = s.take 2 then some (spelling, o, some (s.drop 2))
    else if s.isPrefixOf spelling then some (spelling, o, none)
    else none

/-- Whether a text is a dash and a number, with or without a decimal point; a line end may
follow. -/
def isNegativeNumber (s : Text) : Bool :=
  let isDigit (c : Symbol) := (Text.decimalDigit? c).isSome
  let body := (if s.getLast? = some (.char '\n') then s.dropLast else s).tail
  match body.dropWhile isDigit with
  | [] => !body.isEmpty
  | .char '.' :: places => !places.isEmpty && places.all isDigit
  | _ => false

/-- Classifies an argument that begins with a dash and has more symbols. -/
def classifyDashed (s : Text) : Except UsageError Token :=
  match (splitEquals s).bind fun (start, value) =>
      (Opt.spellings.lookup start).map fun o => Token.option o start (some value) with
  | some token => .ok token
  | none =>
    match if s[1]? = some (.char '-') then longCandidates s else shortCandidates s with
    | [(spelling, o, attached)] => .ok (.option o spelling attached)
    | [] =>
      if isNegativeNumber s || s.contains ' ' then .ok (.word s) else .ok (.unknown s)
    | candidates => .error (.ambiguous s (candidates.map (·.1)))

/-- Classifies an argument. -/
def classify (text : Text) : Except UsageError Token :=
  match Opt.spellings.lookup text with
  | some o => .ok (.option o text none)
  | none =>
    if text.head? = some (.char '-') ∧ text ≠ "-" then classifyDashed text else .ok (.word text)

/-- Classifies all arguments; behind two dashes there are only words. -/
def classifyAll : List Text → Except UsageError (List Token)
  | [] => .ok []
  | text :: rest =>
    if text = "--" then .ok (.dashes :: rest.map .word)
    else do
      let token ← classify text
      pure (token :: (← classifyAll rest))

/-! ### Taking the arguments in -/

/-- What is known so far: the word for the program image, the options, and what nobody took, the
last of it first. -/
structure Progress where
  rom : Option Text := none
  options : Options := { rom := Path.ofText "" }
  extras : List Text := []
  deriving DecidableEq, Repr

/-- An option with its value takes effect. Two dashes as the value leave the option empty. -/
def applyValue (o : Opt) (value : Text) (p : Progress) : Except Stop Progress :=
  let number (use : Option Int → Options) : Except Stop Progress :=
    if value = "--" then .ok { p with options := use none }
    else
      match Number.readInt value with
      | .ok n => .ok { p with options := use (some n) }
      | .error _ => .error (.usage (.invalidInt o value))
  match o with
  | .scale => number fun scale => { p.options with scale }
  | .speed => number fun speed => { p.options with speed }
  | .palette =>
    if value = "--" then .ok { p with options := { p.options with palette := none } }
    else if (palettes.lookup value).isSome then
      .ok { p with options := { p.options with palette := some value } }
    else .error (.usage (.invalidChoice o value))
  | _ => .error (.usage (.ignoredValue o value))

/-- An option without a value takes effect. -/
def applyAction (o : Opt) (p : Progress) : Except Stop Progress :=
  match o with
  | .help => .error .help
  | .fullscreen => .ok { p with options := { p.options with fullscreen := true } }
  | .mute => .ok { p with options := { p.options with mute := true } }
  | _ => .error (.usage (.missingValue o))

/-- Why text attached to `-h` stops the reading: letters `h` ask for help once more, and anything
else is a value, which help does not take. -/
def helpCluster (text : Text) : Stop :=
  match text.dropWhile (· = .char 'h') with
  | [] => if text = [] then .usage (.ignoredValue .help []) else .help
  | rest => .usage (.ignoredValue .help rest)

/-- An option with text attached takes effect. -/
def applyAttached (o : Opt) (spelling text : Text) (p : Progress) : Except Stop Progress :=
  if o.takesValue then applyValue o text p
  else if spelling = "-h" then .error (helpCluster text)
  else .error (.usage (.ignoredValue o text))

/-- Takes the classified arguments in. -/
def takeIn (p : Progress) : List Token → Except Stop Progress
  | [] => .ok p
  | .unknown text :: rest => takeIn { p with extras := text :: p.extras } rest
  | .option o spelling (some text) :: rest => do takeIn (← applyAttached o spelling text p) rest
  | .option o _ none :: .word value :: rest => do
    if o.takesValue then takeIn (← applyValue o value p) rest
    else takeIn (← applyAction o p) (.word value :: rest)
  | .option o _ none :: rest => do takeIn (← applyAction o p) rest
  | .word text :: .dashes :: rest =>
    if p.rom.isNone then takeIn { p with rom := some text } rest
    else takeIn { p with extras := text :: p.extras } (.dashes :: rest)
  | .dashes :: .word text :: rest =>
    if p.rom.isNone then takeIn { p with rom := some text } rest
    else takeIn { p with extras := "--" :: p.extras } (.word text :: rest)
  | .word text :: rest =>
    if p.rom.isNone then takeIn { p with rom := some text } rest
    else takeIn { p with extras := text :: p.extras } rest
  | .dashes :: rest => takeIn { p with extras := "--" :: p.extras } rest
termination_by tokens => tokens.length

/-- Reads a command line. -/
def parse (argv : List Text) : Except Stop Options := do
  let tokens ← (classifyAll argv).mapError Stop.usage
  let p ← takeIn {} tokens
  match p.rom with
  | none => throw (.usage .missingRom)
  | some text =>
    if p.extras ≠ [] then throw (.usage (.unrecognized p.extras.reverse))
    pure { p.options with rom := Path.ofText text }

end Chip8.CommandLine
