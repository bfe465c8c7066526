import Chip8.Number.Binary64

/-!
The shortest decimal that reads back: of the decimals inside the interval of reals that round to
a floating-point number, those with the fewest digits, and of them the nearest. On each decimal
grid only the two neighbours of the number need a test, because if any point of the grid is in
the interval then one of the neighbours is.
-/

namespace Chip8.Number

/-- A decimal `0.d₁d₂… * 10 ^ point`, given by its digits as a whole number and their count. -/
structure Decimal where
  value : Nat
  count : Nat
  point : Int
  deriving DecidableEq, Repr

/-- The digits, first digit first. -/
def Decimal.digits (d : Decimal) : List Char :=
  let ds := Nat.toDigits 10 d.value
  List.replicate (d.count - ds.length) '0' ++ ds

/-- The exponent `p` with `10 ^ (p - 1) ≤ num / den < 10 ^ p`, for a positive fraction. -/
def decimalPoint (num den : Nat) : Int :=
  -- A digit is between three and four bits: start below and climb.
  let bits := (num.log2 : Int) - den.log2 - 1
  let start := bits * 30103 / 100000 - 1
  let below (p : Int) := num * power 10 (-p) < den * power 10 p
  let rec climb : Nat → Int → Int
    | 0, p => p
    | fuel + 1, p => if below p then p else climb fuel (p + 1)
  climb 8 start

/-- The decimal of digits that were rounded; rounding up may have given one digit more. -/
def ofRounded (value count : Nat) (point : Int) : Decimal :=
  if value = Nat.pow 10 count then ⟨Nat.pow 10 (count - 1), count, point + 1⟩
  else ⟨value, count, point⟩

/-- The decimal with `count` digits nearest to a positive fraction; a half goes to the even
digit. -/
def roundDigits (num den count : Nat) : Decimal :=
  let p := decimalPoint num den
  let shift := (count : Int) - p
  let v := divRound (num * power 10 shift) (den * power 10 (-shift))
  ofRounded v count p

/-- The interval of reals that round to a dyadic number, as numerators over one denominator:
lower end, number, upper end. -/
def Dyadic.interval (d : Dyadic) : Nat × Nat × Nat × Nat :=
  -- Below a power of two the neighbours are twice as near, except at the bottom of the range.
  let narrow := d.mantissa == leastMantissa && -1074 < d.exponent
  let m := 4 * d.mantissa
  let scale := power 2 d.exponent
  ((if narrow then m - 1 else m - 2) * scale, m * scale, (m + 2) * scale,
    4 * power 2 (-d.exponent))

/-- The candidate on the grid of `count` digits: the nearest neighbour that reads back. -/
def candidate? (d : Dyadic) (count : Nat) : Option Decimal :=
  let (low, mid, high, den) := d.interval
  let p := decimalPoint mid den
  let shift := (count : Int) - p
  let up := power 10 shift
  let down := den * power 10 (-shift)
  let inside (v : Nat) :=
    if d.mantissa % 2 = 0 then low * up ≤ v * down && v * down ≤ high * up
    else low * up < v * down && v * down < high * up
  let v := mid * up / down
  let twice := 2 * (mid * up % down)
  let order :=
    if twice < down || (twice == down && v % 2 == 0) then [v, v + 1] else [v + 1, v]
  (order.find? fun v => 0 < v && inside v).map fun v => ofRounded v count p

/-- The shortest decimal for a positive number. -/
def shortest (d : Dyadic) : Decimal :=
  let (_, mid, _, den) := d.interval
  ((List.range 17).findSome? fun k => candidate? d (k + 1)).getD (roundDigits mid den 17)

end Chip8.Number
