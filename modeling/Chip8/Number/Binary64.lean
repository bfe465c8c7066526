/-!
Floating-point numbers as exact fractions: a finite number is a whole number times a power of
two. Everything that has to be exact, rounding to whole numbers, quotients of whole numbers and
decimal texts, is done on this form in whole-number arithmetic.
-/

namespace Chip8.Number

/-- The number `mantissa * 2 ^ exponent`. -/
structure Dyadic where
  mantissa : Nat
  exponent : Int
  deriving DecidableEq, Repr

/-- What a floating-point number stands for. -/
inductive Parts where
  | finite (negative : Bool) (magnitude : Dyadic)
  | infinite (negative : Bool)
  | notANumber
  deriving DecidableEq, Repr

/-- The least mantissa of 53 bits. -/
def leastMantissa : Nat := 0x10000000000000

/-- Takes a floating-point number apart. -/
def parts (x : Float) : Parts :=
  let bits : Nat := x.toBits.toNat
  let negative := bits / 0x8000000000000000 == 1
  let field : Nat := bits / leastMantissa % 2048
  let fraction : Nat := bits % leastMantissa
  if field = 2047 then
    if fraction = 0 then .infinite negative else .notANumber
  else if field = 0 then .finite negative ⟨fraction, -1074⟩
  else .finite negative ⟨leastMantissa + fraction, Int.ofNat field - 1075⟩

/-- The whole number nearest to `num / den`; a half goes to the even neighbour. -/
def divRound (num den : Nat) : Nat :=
  let q := num / den
  let twice := 2 * (num % den)
  if twice < den then q
  else if den < twice then q + 1
  else q + q % 2

/-- A power; a negative exponent counts as zero. -/
def power (b : Nat) (e : Int) : Nat := Nat.pow b e.toNat

/-- The whole number nearest to a dyadic number; a half goes to the even neighbour. -/
def Dyadic.round (d : Dyadic) : Nat :=
  if 0 ≤ d.exponent then d.mantissa * power 2 d.exponent
  else divRound d.mantissa (power 2 (-d.exponent))

/-- The whole part of a dyadic number. -/
def Dyadic.floor (d : Dyadic) : Nat :=
  if 0 ≤ d.exponent then d.mantissa * power 2 d.exponent
  else d.mantissa / power 2 (-d.exponent)

/-- A dyadic number times a power of ten, as a fraction. -/
def Dyadic.scaled (d : Dyadic) (places : Int) : Nat × Nat :=
  (d.mantissa * power 2 d.exponent * power 10 places,
    power 2 (-d.exponent) * power 10 (-places))

/-- The power of two that gives `num / den` a 53-bit mantissa, or the least one there is. -/
def ratioExponent (num den : Nat) : Int :=
  let guess := (num.log2 : Int) - den.log2 - 53
  -- The logarithms pin the quotient down to a factor of two on either side.
  let fits (e : Int) := num * power 2 (-e) < 2 * leastMantissa * (den * power 2 e)
  max (-1074) (if fits guess then guess else if fits (guess + 1) then guess + 1 else guess + 2)

/-- The floating-point number nearest to `num / den`, or `none` if that is beyond the range. -/
def nearest? (num den : Nat) : Option Dyadic :=
  let e := ratioExponent num den
  let m := divRound (num * power 2 (-e)) (den * power 2 e)
  if m * power 2 (e + 1074) < power 2 (1024 + 1074) then some ⟨m, e⟩ else none

/-- Whether a whole number is within the range of floating-point numbers. -/
def fitsFloat (n : Int) : Bool := (nearest? n.natAbs 1).isSome

/-- The floating-point number nearest to a whole number; infinite beyond the range. -/
def toFloat (n : Int) : Float :=
  let magnitude := Float.ofScientific n.natAbs false 0
  if n < 0 then -magnitude else magnitude

/-- A number as a user gives it: whole, or in floating point. -/
inductive Numeric where
  | int (n : Int)
  | real (x : Float)
  deriving Repr

/-- Whether a number is not positive. -/
def Numeric.nonPositive : Numeric → Bool
  | .int n => n ≤ 0
  | .real x => x ≤ 0.0

theorem divRound_one (n : Nat) : divRound n 1 = n := by
  simp [divRound, Nat.mod_one]

end Chip8.Number
