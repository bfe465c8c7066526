import Chip8.Checksum
import Chip8.Number.Range
import Chip8.Video.Palette

/-!
Images of the screen. Every pixel of the display becomes a square of `scale` by `scale` pixels in
the foreground or the background colour. Rows are stretched first, each to a row of the image, and
then shown as often as the scale says; a scale at which a row or the image grows beyond the room
that there is for it is refused. Main statements: the number of bytes (`length_bytes`) and their
checksum (`checksum_eq`) follow from the rows.
-/

namespace Chip8

/-- An image by its rows, each of which is kept once and shown `scale` times. Width and height are
what the caller asked for times the scale; they may be negative, and then there are no rows. -/
structure Image where
  width : Int
  height : Int
  scale : Nat
  rows : Array (Array Colour)
  deriving DecidableEq

/-- Why an image cannot be made or looked at. -/
inductive ImageError where
  | scale
  | displaySize (expected : Int) (given : Nat)
  /-- A scale that cannot be a number of copies. -/
  | hugeScale
  /-- Copies with more bytes than can be counted. -/
  | tooLong
  /-- A row or an image with more bytes than can be held. -/
  | outOfMemory
  | outside (x y : Int) (width height : Int)
  /-- A place outside whose message would take too many digits. -/
  | unwritable
  deriving DecidableEq, Repr

/-- The message of an image error; running out of memory has none. -/
def ImageError.message : ImageError → String
  | .scale => "scale must be positive"
  | .displaySize expected given =>
    Number.showing [expected] s!"display must contain {expected} pixels, got {given}"
  | .hugeScale => "cannot fit 'int' into an index-sized integer"
  | .tooLong => "repeated bytes are too long"
  | .outOfMemory => ""
  | .outside x y width height => s!"pixel ({x}, {y}) outside {width}x{height} frame"
  | .unwritable => Number.unwritableText

namespace Image

/-- The error for a place outside an image, which names the place and the size if all four numbers
can be written. -/
def misplaced (im : Image) (x y : Int) : ImageError :=
  if [x, y, im.width, im.height].all Number.isWritable then .outside x y im.width im.height
  else .unwritable

/-- The colour of a pixel. -/
def pixel (im : Image) (x y : Int) : Except ImageError Colour :=
  if 0 ≤ x ∧ x < im.width ∧ 0 ≤ y ∧ y < im.height then
    let row := im.rows[y.toNat / im.scale]?.getD #[]
    .ok (row[x.toNat]?.getD ⟨0, 0, 0⟩)
  else .error (im.misplaced x y)

/-- The bytes of a row: three for each pixel. -/
def rowBytes (row : Array Colour) : List UInt8 :=
  row.toList.flatMap fun c => [c.red, c.green, c.blue]

/-- The bytes of a row as often as it is shown. -/
def bandBytes (im : Image) (row : Array Colour) : List UInt8 :=
  (List.replicate im.scale (rowBytes row)).flatten

/-- The bytes of an image, row after row. -/
def bytes (im : Image) : List UInt8 := im.rows.toList.flatMap im.bandBytes

/-- The number of bytes. -/
def size (im : Image) : Nat :=
  im.rows.toList.foldr (fun row n => im.scale * (3 * row.size) + n) 0

/-- The checksum of the bytes. -/
def checksum (im : Image) : Checksum :=
  im.rows.foldl (fun c row => c.append ((Checksum.ofBytes (rowBytes row)).copies im.scale)) {}

theorem length_rowBytes (row : Array Colour) : (rowBytes row).length = 3 * row.size := by
  simp [rowBytes, List.length_flatMap, List.map_const', Nat.mul_comm]

theorem length_bandBytes (im : Image) (row : Array Colour) :
    (im.bandBytes row).length = im.scale * (3 * row.size) := by
  simp [bandBytes, length_rowBytes]

theorem length_bytes (im : Image) : im.bytes.length = im.size := by
  unfold bytes size
  induction im.rows.toList with
  | nil => rfl
  | cons row rest ih => rw [List.flatMap_cons, List.length_append, length_bandBytes, ih]; rfl

theorem checksum_eq (im : Image) : im.checksum = Checksum.ofBytes im.bytes := by
  rw [checksum, bytes, ← Array.foldl_toList]
  suffices h : ∀ (rows : List (Array Colour)) (done : List UInt8),
      rows.foldl (fun c row => c.append ((Checksum.ofBytes (rowBytes row)).copies im.scale))
        (Checksum.ofBytes done) = Checksum.ofBytes (done ++ rows.flatMap im.bandBytes) from
    h im.rows.toList []
  intro rows
  induction rows with
  | nil => simp
  | cons row rest ih =>
    intro done
    rw [List.foldl_cons, ← Checksum.ofBytes_copies, ← Checksum.ofBytes_append, ih,
      List.flatMap_cons, List.append_assoc, bandBytes]

end Image

/-- What turns displays of one size into images: a palette, a width and a height. -/
structure Renderer where
  palette : Palette := Palette.monochrome
  width : Int := 64
  height : Int := 32
  deriving DecidableEq, Repr

namespace Renderer

/-- The colour of a pixel of the display. -/
def colour (r : Renderer) (lit : Bool) : Colour :=
  if lit then r.palette.foreground else r.palette.background

/-- A row of the display, stretched. -/
def stretchedRow (r : Renderer) (row : Array Bool) (scale : Nat) : Array Colour :=
  row.flatMap fun lit => Array.replicate scale (r.colour lit)

/-- The rows of the image of a display of `width` by `height` pixels. -/
def stretched (r : Renderer) (display : Array Bool) (width height scale : Nat) :
    Array (Array Colour) :=
  (Array.range height).map fun y =>
    r.stretchedRow (display.extract (y * width) (y * width + width)) scale

/-- What is too large about the image of a display of `width` by `height` pixels, with so much room
for it. The copies of a pixel come first, then the row that they make, its copies, and all rows. -/
def excess? (room : Number.Room) (width height scale : Nat) : Option ImageError :=
  let row := 3 * width * scale
  if height = 0 then none
  else if Number.max64 < scale then some .hugeScale
  else if 0 < width ∧ Number.max64 < 3 * scale then some .tooLong
  else if room.bytes < row then some .outOfMemory
  else if Number.max64 < row * scale then some .tooLong
  else if room.bytes < row * scale * height then some .outOfMemory
  else none

/-- The image of a display, if there is room for it. -/
def render (r : Renderer) (room : Number.Room) (display : Array Bool) (scale : Int) :
    Except ImageError Image :=
  if scale ≤ 0 then .error .scale
  else if (display.size : Int) ≠ r.width * r.height then
    .error (.displaySize (r.width * r.height) display.size)
  else
    match excess? room r.width.toNat r.height.toNat scale.toNat with
    | some e => .error e
    | none =>
      .ok {
        width := r.width * scale
        height := r.height * scale
        scale := scale.toNat
        rows := r.stretched display r.width.toNat r.height.toNat scale.toNat }

end Renderer

end Chip8
