import Chip8.Number.Range
import Chip8.Number.Shortest

/-!
Texts of floating-point numbers: with a fixed number of places, in scientific notation, in the
shorter of the two, and as the shortest decimal that reads back. All are exact: the digits are
those of the number itself, rounded once. A number has only so many digits, so a text that asks
for more gets zeros behind them.
-/

namespace Chip8.Number

/-- The texts of a number are written with capitals or without. -/
def inCase (capital : Bool) (s : List Char) : List Char :=
  if capital then s.map Char.toUpper else s

/-- Behind this many places after the point a number has only zeros. -/
def mostPlaces : Nat := 1074

/-- Behind this many digits, counted from the first that is not zero, a number has only zeros. -/
def mostDigits : Nat := 767

/-- `places` digits after the point; without any, the point itself stays if `keepPoint`. -/
def fixedDigits (keepPoint : Bool) (d : Dyadic) (places : Nat) : List Char :=
  let held := min places mostPlaces
  let (num, den) := d.scaled held
  let ds := Nat.toDigits 10 (divRound num den)
  let ds := List.replicate (held + 1 - ds.length) '0' ++ ds
  let whole := ds.take (ds.length - held)
  if places = 0 then whole ++ (if keepPoint then ['.'] else [])
  else whole ++ '.' :: ds.drop (ds.length - held) ++ List.replicate (places - held) '0'

/-- An exponent: the letter, a sign and at least two digits. -/
def exponentText (e : Int) : List Char :=
  let ds := Nat.toDigits 10 e.natAbs
  'e' :: (if e < 0 then '-' else '+') :: (List.replicate (2 - ds.length) '0' ++ ds)

/-- The decimal for a number with `count` digits; zero has only zeros. -/
def decimalOf (d : Dyadic) (count : Nat) : Decimal :=
  if d.mantissa = 0 then ⟨0, count, 1⟩
  else
    let (num, den) := d.scaled 0
    roundDigits num den count

/-- The first `count` digits of a number, rounded, and its point: it is `0.d₁d₂… * 10 ^ point`. -/
def digitsOf (d : Dyadic) (count : Nat) : List Char × Int :=
  let held := decimalOf d (min count mostDigits)
  (held.digits ++ List.replicate (count - mostDigits) '0', held.point)

/-- One digit, a point, the other digits and the exponent. -/
def scientificText (keepPoint : Bool) (ds : List Char) (point : Int) : List Char :=
  let tail := ds.drop 1
  ds.take 1 ++ (if tail.isEmpty && !keepPoint then [] else '.' :: tail) ++ exponentText (point - 1)

/-- The digits with the point where it belongs. -/
def positionalText (keepPoint : Bool) (ds : List Char) (point : Int) : List Char :=
  if point ≤ 0 then '0' :: '.' :: (List.replicate (-point).toNat '0' ++ ds)
  else
    let whole := ds.take point.toNat ++ List.replicate (point.toNat - ds.length) '0'
    let tail := ds.drop point.toNat
    whole ++ (if tail.isEmpty && !keepPoint then [] else '.' :: tail)

/-- A decimal without the zeros at the end of its digits; one digit always stays. -/
def Decimal.trimmed (d : Decimal) : Decimal :=
  let rec go : Nat → Nat → Nat → Nat × Nat
    | 0, value, count => (value, count)
    | fuel + 1, value, count =>
      if 1 < count && value % 10 == 0 then go fuel (value / 10) (count - 1) else (value, count)
  let (value, count) := go d.count d.value d.count
  ⟨value, count, d.point⟩

/-- `precision` digits, positional for exponents from -4 up to the precision, and without zeros
at the end unless `keepPoint`. -/
def generalText (keepPoint : Bool) (d : Dyadic) (precision : Nat) : List Char :=
  let precision := max 1 precision
  let (ds, point) :=
    if keepPoint then digitsOf d precision
    else
      let shown := (decimalOf d (min precision mostDigits)).trimmed
      (shown.digits, shown.point)
  if -4 ≤ point - 1 && point - 1 < precision then positionalText keepPoint ds point
  else scientificText keepPoint ds point

/-- The number of digits in scientific notation: one before the point and `precision` after it. The
greatest precision leaves no count for both, and then there is the one digit only. -/
def scientificCount (precision : Nat) : Nat :=
  if precision < max32 then precision + 1 else 1

/-- The style of a text with a given precision. -/
inductive Style where
  | fixed
  | scientific
  | general
  deriving DecidableEq, Repr

/-- The text of a number in a style, sign first. -/
def styledText (style : Style) (capital keepPoint : Bool) (precision : Nat) (x : Float) :
    List Char :=
  match parts x with
  | .notANumber => inCase capital ['n', 'a', 'n']
  | .infinite negative => inCase capital ((if negative then ['-'] else []) ++ ['i', 'n', 'f'])
  | .finite negative d =>
    (if negative then ['-'] else []) ++ inCase capital (match style with
      | .fixed => fixedDigits keepPoint d precision
      | .scientific =>
        let (ds, point) := digitsOf d (scientificCount precision)
        scientificText keepPoint ds point
      | .general => generalText keepPoint d precision)

/-- The shortest text that reads back, positional from 0.0001 up to 10^16 and always with a point
or an exponent. -/
def shortestText (x : Float) : List Char :=
  match parts x with
  | .notANumber => ['n', 'a', 'n']
  | .infinite negative => (if negative then ['-'] else []) ++ ['i', 'n', 'f']
  | .finite negative d =>
    (if negative then ['-'] else []) ++
      (if d.mantissa = 0 then ['0', '.', '0']
      else
        let s := shortest d
        if -4 < s.point && s.point ≤ 16 then
          positionalText true s.digits s.point ++ (if s.point ≥ s.count then ['0'] else [])
        else scientificText false s.digits s.point)

/-- A number with `places` digits after the point. -/
def fixedText (places : Nat) (x : Float) : String :=
  String.ofList (styledText .fixed false false places x)

end Chip8.Number
