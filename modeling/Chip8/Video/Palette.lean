import Chip8.Memory
import Chip8.Number.Binary64
import Chip8.Number.Literal

/-!
Colours and palettes. A palette is a background and a foreground. Users give the channels of a
colour as numbers of any kind or as text; a channel is the whole part of that number, modulo 256.
-/

namespace Chip8

/-- A colour. -/
structure Colour where
  red : UInt8
  green : UInt8
  blue : UInt8
  deriving DecidableEq, Repr

/-- The colour of pixels that are off, and of those that are lit. -/
structure Palette where
  background : Colour
  foreground : Colour
  deriving DecidableEq, Repr

namespace Palette

/-- Black and white. -/
def monochrome : Palette := ⟨⟨0, 0, 0⟩, ⟨0xFF, 0xFF, 0xFF⟩⟩

/-- The green of an old monitor. -/
def phosphor : Palette := ⟨⟨0x10, 0x18, 0x10⟩, ⟨0x33, 0xFF, 0x66⟩⟩

/-- A channel as users give it. -/
inductive Channel where
  | number (n : Number.Numeric)
  | truth (b : Bool)
  | text (s : Text)
  deriving Repr

end Palette

/-- Why a palette is rejected. -/
inductive PaletteError where
  | colourCount
  | channelCount
  | literal (error : Number.LiteralError)
  | infinite
  | notANumber
  deriving DecidableEq, Repr

/-- The message of a palette error. -/
def PaletteError.message : PaletteError → String
  | .colourCount => "palette must contain exactly two colours (background and foreground)"
  | .channelCount => "palette entries must be RGB tuples"
  | .literal e => e.message
  | .infinite => "cannot convert float infinity to integer"
  | .notANumber => "cannot convert float NaN to integer"

namespace Palette

/-- The whole part of a channel. -/
def Channel.toInt : Channel → Except PaletteError Int
  | number (.int n) => .ok n
  | number (.real x) =>
    match Number.parts x with
    | .finite negative d => .ok (if negative then -(d.floor : Int) else d.floor)
    | .infinite _ => .error .infinite
    | .notANumber => .error .notANumber
  | truth b => .ok (if b then 1 else 0)
  | text s => (Number.readInt s).mapError PaletteError.literal

/-- A colour from three channels. -/
def colour : List Channel → Except PaletteError Colour
  | [r, g, b] => do pure ⟨byteOf (← r.toInt), byteOf (← g.toInt), byteOf (← b.toInt)⟩
  | _ => .error .channelCount

/-- A palette from two colours of three channels each. The counts are checked before any channel
is read. -/
def ofChannels : List (List Channel) → Except PaletteError Palette
  | [background, foreground] =>
    if background.length ≠ 3 ∨ foreground.length ≠ 3 then .error .channelCount
    else do pure ⟨← colour background, ← colour foreground⟩
  | _ => .error .colourCount

end Palette

end Chip8
