import Chip8.Checksum
import Chip8.Number.Binary64
import Chip8.Number.Range

/-!
One period of a square wave: samples at a positive level and then as many, or one more, at the
opposite level. The period is the quotient of sample rate and frequency, first rounded as a
floating-point number and then to the nearest whole number of samples, but never below two.
-/

namespace Chip8

/-- Why there is no wave. -/
inductive WaveError where
  | frequency
  | rateTooLarge
  | quotientTooLarge
  | periodNotANumber
  | periodInfinite
  /-- A period too long to count. -/
  | periodTooLong
  /-- A period too long to hold. -/
  | outOfMemory
  | sampleTooGreat
  | sampleTooSmall
  | sampleTooWide
  deriving DecidableEq, Repr

/-- The message of a wave error; running out of memory has none. -/
def WaveError.message : WaveError → String
  | .frequency => "frequency must be positive"
  | .rateTooLarge => "int too large to convert to float"
  | .quotientTooLarge => "integer division result too large for a float"
  | .periodNotANumber => "cannot convert float NaN to integer"
  | .periodInfinite => "cannot convert float infinity to integer"
  | .periodTooLong => "cannot fit 'int' into an index-sized integer"
  | .outOfMemory => ""
  | .sampleTooGreat => "signed short integer is greater than maximum"
  | .sampleTooSmall => "signed short integer is less than minimum"
  | .sampleTooWide => "Python int too large to convert to C long"

/-- One period of a square wave: `high` samples at `amplitude` and `low` samples at its
opposite. -/
structure Wave where
  amplitude : Int
  high : Nat
  low : Nat
  deriving DecidableEq, Repr

namespace Wave

/-- The samples in order. -/
def samples (w : Wave) : List Int :=
  List.replicate w.high w.amplitude ++ List.replicate w.low (-w.amplitude)

/-- A sample as two bytes, low byte first. -/
def sampleBytes (s : Int) : List UInt8 := [UInt8.ofInt s, UInt8.ofInt (s / 256)]

/-- The samples as bytes. -/
def bytes (w : Wave) : List UInt8 := w.samples.flatMap sampleBytes

/-- The checksum of the bytes, from those of the two levels. -/
def checksum (w : Wave) : Checksum :=
  ((Checksum.ofBytes (sampleBytes w.amplitude)).copies w.high).append
    ((Checksum.ofBytes (sampleBytes (-w.amplitude))).copies w.low)

/-- The nearest whole number to a magnitude with a sign. -/
def rounded (negative : Bool) (d : Number.Dyadic) : Int :=
  if negative then -(d.round : Int) else d.round

/-- The rounded quotient of a sample rate and a positive frequency. -/
def quotient (rate : Int) : Number.Numeric → Except WaveError Int
  | .int f =>
    match Number.nearest? rate.natAbs f.natAbs with
    | some d => .ok (rounded (rate < 0) d)
    | none => .error .quotientTooLarge
  | .real f =>
    if !Number.fitsFloat rate then .error .rateTooLarge
    else
      match Number.parts (Number.toFloat rate / f) with
      | .finite negative d => .ok (rounded negative d)
      | .infinite _ => .error .periodInfinite
      | .notANumber => .error .periodNotANumber

/-- A sample has to fit into sixteen bits. -/
def checkSample (s : Int) : Except WaveError Unit :=
  if !Number.fits64 s then .error .sampleTooWide
  else if s < -32768 then .error .sampleTooSmall
  else if 32767 < s then .error .sampleTooGreat
  else .ok ()

/-- The number of bytes that a sample takes while the wave is made. -/
def bytesOfSample : Nat := 8

/-- The level of the beeper. -/
def standardAmplitude : Int := 12000

/-- One period of a square wave, if there is room for it. -/
def square (room : Number.Room) (rate : Int) (frequency : Number.Numeric) (amplitude : Int) :
    Except WaveError Wave := do
  if frequency.nonPositive then throw .frequency
  let period := (max 2 (← quotient rate frequency)).toNat
  let high := period / 2
  if Number.max64 < high then throw .periodTooLong
  if room.bytes < bytesOfSample * high then throw .outOfMemory
  checkSample amplitude
  checkSample (-amplitude)
  pure ⟨amplitude, high, period - high⟩

theorem checksum_eq (w : Wave) : w.checksum = Checksum.ofBytes w.bytes := by
  rw [checksum, bytes, samples, List.flatMap_append, List.flatMap_replicate, List.flatMap_replicate,
    Checksum.ofBytes_append, Checksum.ofBytes_copies, Checksum.ofBytes_copies]

theorem length_samples (w : Wave) : w.samples.length = w.high + w.low := by
  simp [samples]

end Wave

end Chip8
