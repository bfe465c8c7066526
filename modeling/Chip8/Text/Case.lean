import Chip8.Text.CaseContext
import Chip8.Text.CaseTable

/-!
Upper and lower case of whole texts. A text can grow: `ß` has the upper case `SS`, and `İ` the
lower case `i` with a dot above. Lower case looks at the neighbours of a capital sigma only.
-/

namespace Chip8.Text

/-- The upper case of one symbol. -/
def upperSymbol (c : Symbol) : Text :=
  match upperExpansions.lookup c.code with
  | some letters => letters.map Symbol.ofCode
  | none => [Symbol.ofCode (mapByRuns upperRuns c.code)]

/-- The upper case of a text. -/
def upper (s : Text) : Text := s.flatMap upperSymbol

/-- The lower case of one symbol away from its neighbours. -/
def lowerSymbol (c : Symbol) : Text :=
  if c.code = 0x130 then ['i', Symbol.ofCode 0x307]
  else [Symbol.ofCode (mapByRuns lowerRuns c.code)]

/-- The lower case of the text `s` that follows the reversed text `before`. A capital sigma is
final after a cased letter, unless another one follows. -/
def lowerAfter (before : Text) : Text → Text
  | [] => []
  | c :: rest =>
    (if c.code = 0x3A3 then
      [Symbol.ofCode (if reachesCased before && !reachesCased rest then 0x3C2 else 0x3C3)]
    else lowerSymbol c) ++ lowerAfter (c :: before) rest

/-- The lower case of a text. -/
def lower (s : Text) : Text := lowerAfter [] s

theorem upper_append (s t : Text) : upper (s ++ t) = upper s ++ upper t := by
  simp [upper]

end Chip8.Text
