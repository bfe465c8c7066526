import Chip8.Text.Bytes

/-!
The setting of the log. The environment keeps it as bytes, so not every text can be one: each
symbol needs bytes, and none of them may be zero. What is kept reads as the text again, except that
halves which together make the bytes of a character come back as that character.
-/

namespace Chip8.Log

/-- Why a text cannot be a setting. -/
inductive SettingError where
  | unwritable (what : Text.Unwritable)
  | zeroByte
  deriving DecidableEq, Repr

/-- The message of a setting error. -/
def SettingError.message : SettingError → String
  | .unwritable u => u.message
  | .zeroByte => "embedded null byte"

/-- The setting that is kept for a text. -/
def keepSetting (text : Text) : Except SettingError Text :=
  match text.unwritable? with
  | some u => .error (.unwritable u)
  | none => if text.bytes.contains 0 then .error .zeroByte else .ok (Text.decode text.bytes)

end Chip8.Log
