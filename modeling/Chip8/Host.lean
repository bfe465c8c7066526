import Chip8.Audio.Wave
import Chip8.Video.Image

/-!
The host: the window, the mixer, the clock, the event queue and the random bytes that a front end
asks for. What the host will answer is fixed in advance, and every call that reaches it is recorded
in order, so a run of the front end is a function of the answers.
-/

namespace Chip8

/-- Answers given one after another; the last one repeats, and without any there is a default. -/
structure Answers (α : Type) where
  queue : List α
  default : α
  deriving DecidableEq, Repr

namespace Answers

/-- The next answer, and the answers after it. -/
def next : Answers α → α × Answers α
  | ⟨[], d⟩ => (d, ⟨[], d⟩)
  | ⟨[a], d⟩ => (a, ⟨[a], d⟩)
  | ⟨a :: rest, d⟩ => (a, ⟨rest, d⟩)

end Answers

/-- What the event queue holds. -/
inductive Event where
  | quit
  | keyDown (name : Text)
  | keyUp (name : Text)
  | other
  deriving DecidableEq, Repr

/-- A sample format: samples per second, bits (negative for signed samples) and channels. -/
structure AudioFormat where
  rate : Int := 44100
  bits : Int := -16
  channels : Int := 1
  deriving DecidableEq, Repr

/-- A call that reaches the host. -/
inductive HostCall where
  | configureMixer (format : AudioFormat) (buffer : Nat)
  | start
  | setTitle (title : Text)
  | openMixer (format : AudioFormat)
  | makeSound (wave : Wave)
  | openWindow (width height : Int) (fullscreen : Bool)
  | findChannel (found : Bool)
  | play (loops : Int)
  | setVolume (volume : Float)
  | fadeOut (milliseconds : Int)
  | stop
  | readClock (milliseconds : Int)
  | draw (image : Image)
  | present
  | pace (framesPerSecond : Nat)
  | shutDown

/-- The answers of a host, and the calls so far, the newest first. -/
structure Host where
  /-- Whether there is a host at all. -/
  available : Bool := true
  /-- The numbers of the mixer's format, sample rate first, if it is open. -/
  mixer : Option (List Int) := some [44100, -16, 1]
  /-- Why the mixer cannot be opened, if so. -/
  mixerFailure : Option Text := none
  /-- The numbers of the mixer's format once it is opened. -/
  mixerOpened : Option (List Int) := none
  channels : Answers Bool := ⟨[], true⟩
  clock : Answers Int := ⟨[], 0⟩
  stopwatch : Answers Float := ⟨[], 0.0⟩
  events : List (List Event) := []
  /-- How much can be held of what is made. -/
  room : Number.Room := .usual
  /-- The k-th random number below 256. -/
  random : Nat → UInt8 := fun _ => 0
  newest : List HostCall := []

/-- A computation that talks to the host. -/
abbrev HostM := StateM Host

namespace Host

/-- The calls in order. -/
def calls (h : Host) : List HostCall := h.newest.reverse

/-- The host without its recorded calls. -/
def cleared (h : Host) : Host := { h with newest := [] }

/-- Records a call. -/
def record (call : HostCall) : HostM Unit :=
  modify fun h => { h with newest := call :: h.newest }

@[simp] theorem calls_cleared (h : Host) : h.cleared.calls = [] := rfl

theorem calls_record (call : HostCall) (h : Host) :
    ((record call).run h).2.calls = h.calls ++ [call] := by
  exact List.reverse_cons

/-- Asks for a channel of the mixer. -/
def findChannel : HostM Bool := do
  let found ← modifyGet fun h => let (a, rest) := h.channels.next; (a, { h with channels := rest })
  record (.findChannel found)
  pure found

/-- Reads the clock, in milliseconds. -/
def readClock : HostM Int := do
  let now ← modifyGet fun h => let (a, rest) := h.clock.next; (a, { h with clock := rest })
  record (.readClock now)
  pure now

/-- Reads the stopwatch, in seconds, which leaves no record. -/
def readStopwatch : HostM Float :=
  modifyGet fun h => let (a, rest) := h.stopwatch.next; (a, { h with stopwatch := rest })

/-- Opens the mixer; the answer is why that fails, if it does. -/
def openMixer : HostM (Option Text) := do
  record (.openMixer {})
  let h ← get
  match h.mixerFailure with
  | some reason => pure (some reason)
  | none =>
    set { h with mixer := h.mixerOpened }
    pure none

end Host

end Chip8
