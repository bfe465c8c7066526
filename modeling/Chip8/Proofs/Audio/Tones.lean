import Mathlib
import Chip8.Audio.Beeper

/-!
Tones and their channel.

A request to a beeper does one of a few things, each with its calls on a channel of the mixer
(`Does`). Whatever the beeper is switched to, a tone that was ever played was played on the channel
that it still has (`Holds.plays`), so the beeper can end it when it is shut down (`run_shutDown`).
Its calls have nothing to do with the frames that are shown.
-/

namespace Chip8

namespace HostCall

/-- The calls that show a frame and wait for the next one. -/
def isFrame : HostCall → Bool
  | draw _ | present | pace _ => true
  | _ => false

/-- The calls that end a tone. -/
def isHalt : HostCall → Bool
  | fadeOut _ | stop => true
  | _ => false

/-- The calls that play one. -/
def isPlay : HostCall → Bool
  | play _ => true
  | _ => false

variable {c : HostCall}

lemma isPlay_iff : c.isPlay = true ↔ ∃ loops, c = play loops := by
  cases c <;> simp [isPlay]

lemma not_isFrame_of_isHalt (hc : c.isHalt = true) : c.isFrame = false := by
  cases c <;> first | rfl | cases hc

lemma not_isPlay_of_isHalt (hc : c.isHalt = true) : c.isPlay = false := by
  cases c <;> first | rfl | cases hc

end HostCall

namespace Host

/-- The calls for frames, in order. -/
def shown (h : Host) : List HostCall := h.calls.filter (·.isFrame)

/-- A tone was played. -/
def Plays (h : Host) : Prop := ∃ loops, .play loops ∈ h.newest

instance (h : Host) : Decidable h.Plays :=
  decidable_of_iff (h.newest.any (·.isPlay)) <| by
    simp only [List.any_eq_true, HostCall.isPlay_iff, Plays]
    exact ⟨fun ⟨_, hc, loops, hloops⟩ => ⟨loops, hloops ▸ hc⟩, fun ⟨loops, hc⟩ => ⟨_, hc, loops, rfl⟩⟩

variable {h : Host}

lemma calls_of_newest {later : Host} {added : List HostCall}
    (recorded : later.newest = added.reverse ++ h.newest) : later.calls = h.calls ++ added := by
  rw [calls, calls, recorded, List.reverse_append, List.reverse_reverse]

lemma newest_findChannel {found : Bool} (answer : h.channels.next.1 = found) :
    (findChannel.run h).2.newest = .findChannel found :: h.newest := by
  rw [← answer]
  rfl

lemma shown_of_newest {later : Host} (added : List HostCall)
    (calls : later.newest = added ++ h.newest) :
    later.shown = h.shown ++ added.reverse.filter (·.isFrame) := by
  rw [shown, shown, Host.calls, Host.calls, calls, List.reverse_append, List.filter_append]

end Host

namespace Beeper

variable {b : Beeper} {h : Host}

/-- How a tone is ended at a time: at once if it has lasted long enough, else with a fade. -/
def halt (b : Beeper) (now : Int) : HostCall :=
  let remaining := b.leastMilliseconds - (now - b.startedAt)
  if 0 < remaining then .fadeOut (max leastFade remaining) else .stop

lemma isHalt_halt (b : Beeper) (now : Int) : (b.halt now).isHalt = true := by
  unfold halt
  dsimp only
  split <;> rfl

/-- A beeper is made for a host with an open mixer and a tone. -/
lemma run_create (config : BeeperConfig) (h : Host) : (create config).run h =
    if h.available = false then (.error .noHost, h)
    else if h.mixer.isNone then (.error .mixerClosed, h)
    else match Wave.square h.room (max 1 config.rate) config.frequency Wave.standardAmplitude with
      | .error e => (.error (.wave e), h)
      | .ok wave =>
        (.ok { volume := clampVolume config.volume
               leastMilliseconds := max 0 config.leastMilliseconds },
          { h with newest := .makeSound wave :: h.newest }) := by
  rcases h with ⟨_ | _, _ | _, _, _, _, _, _, _, _, _, _⟩ <;> try rfl
  change StateT.run (match Wave.square _ _ _ _ with | .error e => _ | .ok wave => _) _ = _
  rcases Wave.square _ _ _ _ with e | wave <;> rfl

lemma square_of_run_create {config : BeeperConfig} {e : WaveError}
    (failed : ((create config).run h).1 = .error (.wave e)) :
    Wave.square h.room (max 1 config.rate) config.frequency Wave.standardAmplitude = .error e := by
  rw [run_create] at failed
  split_ifs at failed with hnone hclosed
  · cases failed
  · cases failed
  · rcases hwave : Wave.square h.room (max 1 config.rate) config.frequency Wave.standardAmplitude
      with e' | wave <;> rw [hwave] at failed <;> cases failed
    rfl

/-- A tone is ended on the channel, after a look at the clock. -/
lemma run_stop (b : Beeper) (h : Host) : b.stop.run h = ({ b with playing := false },
    if b.hasChannel then
      { h with clock := h.clock.next.2
               newest := b.halt h.clock.next.1 :: .readClock h.clock.next.1 :: h.newest }
    else h) := by
  rcases b with ⟨volume, least, _ | _, playing, startedAt⟩ <;> rfl

/-- A beeper that is shut down ends its tone if it has a channel, and gives the channel back. -/
lemma run_shutDown (b : Beeper) (h : Host) : b.shutDown.run h =
    ({ b with playing := false, hasChannel := false }, (b.stop.run h).2) := by
  rw [shutDown, StateT.run_bind, run_stop]
  rfl

/-- It is switched only if that changes something, and on only with a channel. -/
lemma run_setActive (b : Beeper) (active : Bool) (h : Host) : (b.setActive active).run h =
    if active = b.playing then (b, h)
    else if active = false then b.stop.run h
    else if b.hasChannel then b.start.run h
    else if h.channels.next.1 then
      ({ b with hasChannel := true }).start.run (Host.findChannel.run h).2
    else (b, (Host.findChannel.run h).2) := by
  rcases b with ⟨volume, least, _ | _, _ | _, startedAt⟩ <;> cases active <;> try rfl
  -- what is left is a silent beeper without a channel that is switched on, so it looks for one
  change StateT.run (Host.findChannel >>= fun found => if found = true then _ else _) h = _
  rw [StateT.run_bind]
  change StateT.run (if h.channels.next.1 = true then _ else _) _ = _
  split <;> rfl

/-- To switch takes no room. -/
lemma room_setActive (b : Beeper) (active : Bool) (h : Host) :
    ((b.setActive active).run h).2.room = h.room := by
  rw [run_setActive]
  split_ifs
  · rfl
  · rw [run_stop]
    split <;> rfl
  all_goals rfl

lemma setActive_of_same {active : Bool} (same : active = b.playing) :
    (b.setActive active).run h = (b, h) := by
  rw [run_setActive, if_pos same]

lemma newest_start (b : Beeper) (h : Host) : (b.start.run h).2.newest =
    [.readClock h.clock.next.1, .setVolume b.volume, .play (-1)] ++ h.newest := rfl

/-! ### Requests -/

/-- What a beeper is asked for. -/
inductive Request where
  | setActive (active : Bool)
  | shutDown
  deriving DecidableEq

/-- Performs a request. -/
def Request.perform : Request → Beeper → HostM Beeper
  | .setActive active, b => b.setActive active
  | .shutDown, b => b.shutDown

/-- Whether the beeper keeps its channel. -/
def Request.keepsChannel : Request → Bool
  | .setActive _ => true
  | .shutDown => false

/-- What a request does: the calls that it makes and the beeper that it leaves. -/
inductive Does (b : Beeper) : Request → List HostCall → Beeper → Prop
  | nothing : Does b (.setActive b.playing) [] b
  | hushes (r : Request) (without : b.hasChannel = false) : Does b r [] { b with playing := false }
  | ends (r : Request) (held : b.hasChannel = true) (now : Int) :
    Does b r [.readClock now, b.halt now]
      { b with playing := false, hasChannel := r.keepsChannel }
  | plays (silent : b.playing = false) (start : Int) :
    Does b (.setActive true) ((if b.hasChannel then [] else [.findChannel true]) ++
        [.play (-1), .setVolume b.volume, .readClock start])
      { b with hasChannel := true, playing := true, startedAt := start }
  | refused (silent : b.playing = false) (without : b.hasChannel = false) :
    Does b (.setActive true) [.findChannel false] b

lemma does_stop (b : Beeper) (h : Host) (active : Bool) : ∃ added,
    Does b (.setActive active) added (b.stop.run h).1 ∧
    (b.stop.run h).2.newest = added.reverse ++ h.newest := by
  rw [run_stop]
  rcases b with ⟨volume, least, _ | _, playing, startedAt⟩
  · exact ⟨[], .hushes _ rfl, rfl⟩
  · exact ⟨_, .ends _ rfl h.clock.next.1, rfl⟩

lemma does_shutDown (b : Beeper) (h : Host) : ∃ added,
    Does b .shutDown added (b.shutDown.run h).1 ∧
    (b.shutDown.run h).2.newest = added.reverse ++ h.newest := by
  rw [run_shutDown, run_stop]
  rcases b with ⟨volume, least, _ | _, playing, startedAt⟩
  · exact ⟨[], .hushes _ rfl, rfl⟩
  · exact ⟨_, .ends _ rfl h.clock.next.1, rfl⟩

lemma does_setActive (b : Beeper) (active : Bool) (h : Host) : ∃ added,
    Does b (.setActive active) added ((b.setActive active).run h).1 ∧
    ((b.setActive active).run h).2.newest = added.reverse ++ h.newest := by
  rw [run_setActive]
  split_ifs with hsame hoff hchannel hfound
  · exact ⟨[], hsame ▸ .nothing, rfl⟩
  · exact does_stop b h active
  -- what is left is a silent beeper that is switched on
  all_goals
    obtain rfl : active = true := Bool.eq_true_of_not_eq_false hoff
    have silent : b.playing = false := Bool.eq_false_iff.2 (Ne.symm hsame)
    rcases b with ⟨volume, least, _ | _, playing, startedAt⟩
  · cases hchannel
  · exact ⟨_, .plays silent h.clock.next.1, rfl⟩
  · refine ⟨_, .plays silent h.clock.next.1, ?_⟩
    rw [newest_start, Host.newest_findChannel hfound]
    rfl
  · exact absurd rfl hchannel
  · exact ⟨_, .refused silent rfl, Host.newest_findChannel (Bool.eq_false_iff.2 hfound)⟩
  · exact absurd rfl hchannel

lemma does_perform (r : Request) (b : Beeper) (h : Host) : ∃ added,
    Does b r added ((r.perform b).run h).1 ∧
    ((r.perform b).run h).2.newest = added.reverse ++ h.newest := by
  cases r with
  | setActive active => exact does_setActive b active h
  | shutDown => exact does_shutDown b h

namespace Does

variable {r : Request} {active : Bool} {added : List HostCall} {next : Beeper}

lemma noFrame (does : Does b r added next) : ∀ c ∈ added, c.isFrame = false := by
  cases does with
  | nothing | hushes => exact List.forall_mem_nil _
  | ends _ held now =>
    rw [List.forall_mem_cons, List.forall_mem_singleton]
    exact ⟨rfl, HostCall.not_isFrame_of_isHalt (b.isHalt_halt now)⟩
  | plays silent start =>
    rw [List.forall_mem_append]
    constructor
    · split
      · exact List.forall_mem_nil _
      · exact List.forall_mem_singleton.2 rfl
    · simp [HostCall.isFrame]
  | refused => exact List.forall_mem_singleton.2 rfl

/-- Switching leaves the beeper with its channel, and with one if it plays a tone. -/
lemma held (does : Does b (.setActive active) added next)
    (played : b.hasChannel = true ∨ ∃ loops, .play loops ∈ added) : next.hasChannel = true := by
  cases does with
  | nothing | hushes =>
    obtain hb | ⟨_, hmem⟩ := played
    · exact hb
    · cases hmem
  | ends | plays => rfl
  | refused =>
    obtain hb | ⟨_, hmem⟩ := played
    · exact hb
    · cases List.mem_singleton.1 hmem

end Does

/-! ### What a beeper holds -/

/-- What a beeper leaves: its calls are for no frame, and if it has played a tone it has a channel,
as it has if it had one. -/
structure Holds (b : Beeper) (h : Host) (added : List HostCall) (r : Beeper × Host) : Prop where
  calls : r.2.newest = added ++ h.newest
  noFrame : ∀ c ∈ added, c.isFrame = false
  held : b.hasChannel = true ∨ (∃ loops, .play loops ∈ added) → r.1.hasChannel = true

lemma holds_setActive (b : Beeper) (active : Bool) (h : Host) :
    ∃ added, Holds b h added ((b.setActive active).run h) := by
  obtain ⟨added, does, recorded⟩ := does_setActive b active h
  refine ⟨added.reverse, recorded, fun c hc => does.noFrame c (List.mem_reverse.1 hc), ?_⟩
  simp only [List.mem_reverse]
  exact does.held

namespace Holds

variable {added : List HostCall} {r : Beeper × Host}

lemma shown (holds : Holds b h added r) : r.2.shown = h.shown := by
  have hnone : added.reverse.filter (·.isFrame) = [] := by
    rw [List.filter_eq_nil_iff]
    intro c hc
    rw [holds.noFrame c (List.mem_reverse.1 hc)]
    exact Bool.false_ne_true
  rw [Host.shown_of_newest added holds.calls, hnone, List.append_nil]

/-- Once a tone was played the beeper has a channel. -/
lemma plays (holds : Holds b h added r) (held : h.Plays → b.hasChannel = true) (hp : r.2.Plays) :
    r.1.hasChannel = true := by
  obtain ⟨loops, hmem⟩ := hp
  rw [holds.calls, List.mem_append] at hmem
  obtain hmem | hmem := hmem
  · exact holds.held (.inr ⟨loops, hmem⟩)
  · exact holds.held (.inl (held ⟨loops, hmem⟩))

end Holds

end Beeper

end Chip8
