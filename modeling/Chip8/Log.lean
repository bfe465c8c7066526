import Chip8.Log.Template
import Chip8.Text.Blank
import Chip8.Text.Case

/-!
The debug log. Categories are switched on by name in a comma-separated list, whatever the case of
the names and the blanks around them; the name `all` switches on everything. What is written under
a category that is off leaves no trace.
-/

namespace Chip8

/-- The names of the categories that are on, in order and without repetition. -/
structure Categories where
  names : List Text
  deriving DecidableEq, Repr

namespace Categories

/-- No category is on. -/
def none : Categories := ⟨[]⟩

/-- The categories that a comma-separated list names. -/
def parse (list : Text) : Categories :=
  let names := (list.splitOn (.char ',')).map fun part => Text.lower (Text.trim part)
  let names := names.filter (!·.isEmpty)
  ⟨(names.mergeSort Text.sortsBefore).eraseDups⟩

/-- The categories of a setting that may be absent. -/
def ofSetting : Option Text → Categories
  | some list => parse list
  | Option.none => none

/-- Whether anything at all is on. -/
def anyOn (c : Categories) : Bool := !c.names.isEmpty

/-- Whether a category is on. -/
def isOn (c : Categories) (category : Text) : Bool :=
  c.names.contains "all" || c.names.contains (Text.lower category)

@[simp] theorem isOn_none (category : Text) : none.isOn category = false := rfl

end Categories

/-- The log: what is switched on, and the lines written so far, the newest first. -/
structure Log where
  categories : Categories := Categories.none
  newest : List Text := []
  deriving DecidableEq, Repr

namespace Log

/-- The text of the log, a line end after every line. -/
def text (log : Log) : Text :=
  log.newest.reverse.flatMap fun line => line ++ "\n"

/-- The log without its lines. -/
def cleared (log : Log) : Log := { log with newest := [] }

/-- A line of the log begins with the name of the program and the category. -/
def line (category body : Text) : Text := "[CHIP8][" ++ category ++ "] " ++ body

/-- Writes a line if its category is on; the body is made only then. -/
def write (log : Log) (category : Text) (body : Unit → Text) : Log :=
  if log.categories.isOn category then { log with newest := line category (body ()) :: log.newest }
  else log

/-- The body of a message: the template filled in, or, where that fails for a mismatch, followed
by the list of its arguments, if they can be listed. Without arguments a template stands for
itself. -/
def body (room : Number.Room) (template : Text) (args : List Arg) : Except Overflow Text :=
  if args.isEmpty then .ok template
  else
    match fill room template args with
    | .ok s => .ok s
    | .error .mismatch => do pure (template ++ " " ++ (← listArgs args))
    | .error (.overflow what) => .error what

/-- Writes a message; only an overflow in a category that is on can fail. The log takes every text:
where its lines are shown under a strict encoding, a lone half of a surrogate pair could be refused,
and that is assumed not to happen. -/
def message (room : Number.Room) (log : Log) (category template : Text) (args : List Arg) :
    Except Overflow Log :=
  if log.categories.isOn category then do
    let s ← body room template args
    pure { log with newest := line category s :: log.newest }
  else pure log

@[simp] theorem categories_write (log : Log) (category : Text) (body : Unit → Text) :
    (log.write category body).categories = log.categories := by
  unfold write
  split <;> rfl

end Log

/-- A computation that may write to the log. -/
abbrev Logging := StateM Log

/-- Writes a line under a category. -/
def say (category : Text) (body : Unit → Text) : Logging Unit :=
  modify fun log => log.write category body

end Chip8
