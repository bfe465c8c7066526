import Chip8.Proofs.Audio.Tones

/-!
The protocol of a beeper.

What a beeper may call is said of each call, given the calls before it (`Due`): a tone is played
only if none sounds, and it is ended after a look at the clock, in the way that is left by the time
since it began. A request does one of a few things (`Does`), and each of them keeps what ties the
state of the beeper to its calls (`Follows`), so a whole session does (`protocol_of_session`).
-/

namespace Chip8

namespace HostCall

/-- The calls that play a tone and those that end one. -/
def isTone (c : HostCall) : Bool := c.isPlay || c.isHalt

/-- How long a tone still sounds after a call that ends it. -/
def fade : HostCall → Int
  | fadeOut milliseconds => milliseconds
  | _ => 0

end HostCall

namespace Host

/-- The latest call that played a tone or ended one. -/
def latestTone (calls : List HostCall) : Option HostCall :=
  (calls.filter (·.isTone)).getLast?

/-- The latest call that was about a tone played one. -/
def Sounding (calls : List HostCall) : Prop := ∃ loops, latestTone calls = some (.play loops)

/-- The clock showed this when a tone was played for the last time. -/
def BeganAt (calls : List HostCall) (start : Int) : Prop :=
  ∃ before loops volume after,
    calls = before ++ .play loops :: .setVolume volume :: .readClock start :: after ∧
    ∀ c ∈ after, c.isPlay = false

variable {calls added : List HostCall} {c : HostCall} {start : Int}

lemma latestTone_append (quiet : ∀ c ∈ added, c.isTone = false) :
    latestTone (calls ++ added) = latestTone calls := by
  have hnone : added.filter (·.isTone) = [] := by
    rw [List.filter_eq_nil_iff]
    exact fun c hc => by rw [quiet c hc]; exact Bool.false_ne_true
  rw [latestTone, latestTone, List.filter_append, hnone, List.append_nil]

lemma latestTone_concat (hc : c.isTone = true) : latestTone (calls ++ [c]) = some c := by
  rw [latestTone, List.filter_append, List.filter_singleton, hc, cond_true, List.getLast?_concat]

lemma sounding_append (quiet : ∀ c ∈ added, c.isTone = false) :
    Sounding (calls ++ added) ↔ Sounding calls := by
  rw [Sounding, Sounding, latestTone_append quiet]

lemma sounding_concat (hc : c.isTone = true) : Sounding (calls ++ [c]) ↔ c.isPlay = true := by
  rw [Sounding, latestTone_concat hc, HostCall.isPlay_iff]
  exact exists_congr fun _ => Option.some_inj

/-- A tone that is played sounds until it is ended. -/
lemma sounding_of_play {loops : Int} (unended : ∀ c ∈ added, c.isHalt = false) :
    Sounding (calls ++ .play loops :: added) := by
  induction added using List.reverseRecOn with
  | nil => exact (sounding_concat rfl).2 rfl
  | append_singleton added c ih =>
    rw [List.forall_mem_append, List.forall_mem_singleton] at unended
    rw [← List.cons_append, ← List.append_assoc]
    by_cases hplay : c.isPlay = true
    · exact (sounding_concat (by rw [HostCall.isTone, hplay, Bool.true_or])).2 hplay
    · refine (sounding_append (List.forall_mem_singleton.2 ?_)).2 (ih unended.1)
      rw [HostCall.isTone, unended.2, Bool.or_false]
      exact Bool.eq_false_iff.2 hplay

lemma BeganAt.append (began : BeganAt calls start) (unplayed : ∀ c ∈ added, c.isPlay = false) :
    BeganAt (calls ++ added) start := by
  obtain ⟨before, loops, volume, after, rfl, quiet⟩ := began
  refine ⟨before, loops, volume, after ++ added, ?_, List.forall_mem_append.2 ⟨quiet, unplayed⟩⟩
  rw [List.append_assoc]
  rfl

/-- What a call of a beeper owes to the calls before it: a tone is played only if none sounds, and
it is ended at the time just read, with a fade if it has sounded for less than the least time. -/
structure Due (least : Int) (before : List HostCall) (c : HostCall) : Prop where
  fresh : c.isPlay = true → ¬Sounding before
  timed : c.isHalt = true → ∃ earlier now start, before = earlier ++ [.readClock now] ∧
    BeganAt earlier start ∧
    c = if least ≤ now - start then .stop else .fadeOut (max 10 (least - (now - start)))

/-- Each call is due. -/
def InOrder (least : Int) (calls : List HostCall) : Prop :=
  ∀ before c after, calls = before ++ c :: after → Due least before c

variable {least : Int}

lemma due_of_quiet (hc : c.isTone = false) : Due least calls c := by
  obtain ⟨hplay, hhalt⟩ := Bool.or_eq_false_iff.1 hc
  exact ⟨fun h => absurd h (Bool.eq_false_iff.1 hplay),
    fun h => absurd h (Bool.eq_false_iff.1 hhalt)⟩

namespace InOrder

lemma concat (order : InOrder least calls) (due : Due least calls c) :
    InOrder least (calls ++ [c]) := by
  intro before d after split
  rcases List.eq_nil_or_concat after with rfl | ⟨after, last, rfl⟩
  · obtain ⟨rfl, hcd⟩ := List.append_inj' split rfl
    obtain rfl := List.singleton_injective hcd
    exact due
  · rw [List.concat_eq_append, ← List.cons_append, ← List.append_assoc] at split
    exact order before d after (List.append_inj' split rfl).1

lemma append (order : InOrder least calls) (quiet : ∀ c ∈ added, c.isTone = false) :
    InOrder least (calls ++ added) := by
  induction added using List.reverseRecOn with
  | nil => exact (List.append_nil calls).symm ▸ order
  | append_singleton added c ih =>
    rw [List.forall_mem_append, List.forall_mem_singleton] at quiet
    rw [← List.append_assoc]
    exact (ih quiet.1).concat (due_of_quiet quiet.2)

/-- Between two tones the first one is ended. -/
lemma exists_halt_between (order : InOrder least calls) {before between after : List HostCall}
    {first second : Int}
    (split : calls = before ++ .play first :: (between ++ .play second :: after)) :
    ∃ c ∈ between, c.isHalt = true := by
  by_contra unended
  refine (order (before ++ .play first :: between) (.play second) after ?_).fresh rfl
    (sounding_of_play fun c hc => Bool.eq_false_iff.2 fun hhalt => unended ⟨c, hc, hhalt⟩)
  rw [split, List.append_assoc, List.cons_append]

end InOrder

end Host

namespace Beeper

/-! ### Sessions -/

/-- A beeper and its host after requests. -/
def session (b : Beeper) (h : Host) (requests : List Request) : Beeper × Host :=
  requests.foldl (fun r request => (request.perform r.1).run r.2) (b, h)

variable {b next : Beeper} {r : Request} {h : Host} {added calls : List HostCall} {least : Int}

/-- What ties a beeper to its calls. -/
structure Follows (least : Int) (b : Beeper) (calls : List HostCall) : Prop where
  least_eq : b.leastMilliseconds = least
  held : b.playing = true → b.hasChannel = true
  sounds : b.playing = true ↔ Host.Sounding calls
  began : b.hasChannel = true → Host.BeganAt calls b.startedAt
  order : Host.InOrder least calls

lemma halt_eq (b : Beeper) (now : Int) : b.halt now =
    if b.leastMilliseconds ≤ now - b.startedAt then .stop
    else .fadeOut (max 10 (b.leastMilliseconds - (now - b.startedAt))) := by
  rw [halt]
  split_ifs
  · omega
  · rfl
  · rfl
  · omega

lemma isPlay_halt (b : Beeper) (now : Int) : (b.halt now).isPlay = false :=
  HostCall.not_isPlay_of_isHalt (b.isHalt_halt now)

lemma isTone_halt (b : Beeper) (now : Int) : (b.halt now).isTone = true := by
  rw [HostCall.isTone, isHalt_halt, Bool.or_true]

namespace Follows

/-- To end a tone at the time just read is due. -/
lemma due_halt (follows : Follows least b calls) (held : b.hasChannel = true) (now : Int) :
    Host.Due least (calls ++ [.readClock now]) (b.halt now) where
  fresh hplay := absurd hplay (Bool.eq_false_iff.1 (b.isPlay_halt now))
  timed _ := by
    refine ⟨calls, now, b.startedAt, rfl, follows.began held, ?_⟩
    rw [← follows.least_eq]
    exact b.halt_eq now

lemma append (follows : Follows least b calls) (quiet : ∀ c ∈ added, c.isTone = false) :
    Follows least b (calls ++ added) where
  least_eq := follows.least_eq
  held := follows.held
  sounds := follows.sounds.trans (Host.sounding_append quiet).symm
  began held := (follows.began held).append fun c hc => (Bool.or_eq_false_iff.1 (quiet c hc)).1
  order := follows.order.append quiet

lemma ends (follows : Follows least b calls) (held : b.hasChannel = true) (now : Int)
    (kept : Bool) : Follows least { b with playing := false, hasChannel := kept }
      (calls ++ [.readClock now, b.halt now]) := by
  have looked : Follows least b (calls ++ [.readClock now]) :=
    follows.append (List.forall_mem_singleton.2 rfl)
  rw [List.append_cons]
  exact {
    least_eq := follows.least_eq
    held := fun hplaying => absurd hplaying Bool.false_ne_true
    sounds := by rw [Host.sounding_concat (b.isTone_halt now), isPlay_halt]
    began := fun _ => (looked.began held).append (List.forall_mem_singleton.2 (b.isPlay_halt now))
    order := looked.order.concat (follows.due_halt held now) }

/-- A silent beeper may play, for then no tone sounds. -/
lemma plays (follows : Follows least b calls) (silent : b.playing = false) (start : Int) :
    Follows least { b with hasChannel := true, playing := true, startedAt := start }
      (calls ++ [.play (-1), .setVolume b.volume, .readClock start]) := by
  have due : Host.Due least calls (.play (-1)) := by
    refine ⟨fun _ sounding => ?_, fun hhalt => absurd hhalt Bool.false_ne_true⟩
    exact Bool.eq_false_iff.1 silent (follows.sounds.2 sounding)
  have quiet : ∀ c ∈ [HostCall.setVolume b.volume, .readClock start], c.isTone = false := by
    rw [List.forall_mem_cons, List.forall_mem_singleton]
    exact ⟨rfl, rfl⟩
  rw [List.append_cons]
  exact {
    least_eq := follows.least_eq
    held := fun _ => rfl
    sounds := by rw [Host.sounding_append quiet, Host.sounding_concat rfl]; rfl
    began := fun _ => ⟨calls, -1, b.volume, [], by rw [← List.append_cons], List.forall_mem_nil _⟩
    order := (follows.order.concat due).append quiet }

/-- A request keeps what ties the beeper to its calls. -/
lemma does (follows : Follows least b calls) (does : Does b r added next) :
    Follows least next (calls ++ added) := by
  cases does with
  | nothing => exact follows.append (List.forall_mem_nil _)
  | hushes r without =>
    have silent : b.playing = false :=
      Bool.eq_false_iff.2 fun h => Bool.eq_false_iff.1 without (follows.held h)
    have hsame : { b with playing := false } = b := by rw [← silent]
    rw [hsame]
    exact follows.append (List.forall_mem_nil _)
  | ends r held now => exact follows.ends held now r.keepsChannel
  | plays silent start =>
    have quiet : ∀ c ∈ if b.hasChannel then [] else [HostCall.findChannel true],
        c.isTone = false := by
      split
      · exact List.forall_mem_nil _
      · exact List.forall_mem_singleton.2 rfl
    rw [← List.append_assoc]
    exact (follows.append quiet).plays silent start
  | refused silent without => exact follows.append (List.forall_mem_singleton.2 rfl)

lemma session (follows : Follows least b h.calls) (requests : List Request) :
    Follows least (b.session h requests).1 (b.session h requests).2.calls := by
  induction requests generalizing b h with
  | nil => exact follows
  | cons r requests ih =>
    obtain ⟨added, does, recorded⟩ := does_perform r b h
    exact ih (Host.calls_of_newest recorded ▸ follows.does does)

end Follows

/-- A new beeper is silent and has no channel, so nothing is due to it. -/
lemma follows_of_create {config : BeeperConfig} {host : Host}
    (made : (create config).run host.cleared = (.ok b, h)) :
    Follows (max 0 config.leastMilliseconds) b h.calls := by
  have fresh : Follows (max 0 config.leastMilliseconds)
      { volume := clampVolume config.volume
        leastMilliseconds := max 0 config.leastMilliseconds } [] := by
    refine ⟨rfl, fun hplaying => absurd hplaying Bool.false_ne_true, ?_,
      fun held => absurd held Bool.false_ne_true, ?_⟩
    · exact iff_of_false Bool.false_ne_true fun ⟨_, hlatest⟩ => Option.some_ne_none _ hlatest.symm
    · exact fun before c after split => absurd split.symm (List.append_ne_nil_of_right_ne_nil _
        (List.cons_ne_nil _ _))
  rw [run_create] at made
  split_ifs at made
  · cases made
  · cases made
  · rcases hwave : Wave.square host.cleared.room (max 1 config.rate) config.frequency
      Wave.standardAmplitude with e | wave <;> rw [hwave] at made
    · cases made
    · cases made
      exact fresh.append (List.forall_mem_singleton.2 (rfl : (HostCall.makeSound wave).isTone = _))

/-- What holds of a beeper that has made no other calls on its host, `least` being the least time
of its tones. -/
structure KeepsProtocol (least : Int) (b : Beeper) (h : Host) : Prop where
  /-- A tone is on a channel. -/
  held : b.playing = true → b.hasChannel = true
  /-- It sounds if the latest call about a tone played one. -/
  sounds : b.playing = true ↔ ∃ loops, Host.latestTone h.calls = some (.play loops)
  /-- A tone is ended before the next one. -/
  between : ∀ before first between second after,
    h.calls = before ++ .play first :: (between ++ .play second :: after) →
      ∃ c ∈ between, c.isHalt = true
  /-- How it is ended is left by the time that it has lasted; with the fade it lasts long enough. -/
  ended : ∀ before c after, h.calls = before ++ c :: after → c.isHalt = true →
    ∃ earlier now start, before = earlier ++ [.readClock now] ∧ Host.BeganAt earlier start ∧
      c = (if least ≤ now - start then .stop else .fadeOut (max 10 (least - (now - start)))) ∧
      least ≤ now - start + c.fade
  /-- To switch to the present state is no call. -/
  idle : (b.setActive b.playing).run h = (b, h)
  /-- Only without a channel is one asked for, and a refusal is all that happens. -/
  asks : ∀ r : Request, ∃ added, ((r.perform b).run h).2.calls = h.calls ++ added ∧
    (∀ found, .findChannel found ∈ added → b.hasChannel = false) ∧
    (.findChannel false ∈ added →
      added = [.findChannel false] ∧ b.playing = false ∧ ((r.perform b).run h).1 = b)

lemma le_add_fade (least lasted : Int) :
    least ≤ lasted + (if least ≤ lasted then HostCall.stop
      else .fadeOut (max 10 (least - lasted))).fade := by
  split_ifs with hlong
  · exact (add_zero lasted).symm ▸ hlong
  · rw [HostCall.fade]
    omega

lemma Does.of_asked (does : Does b r added next) {found : Bool}
    (asked : .findChannel found ∈ added) : b.hasChannel = false ∧
      (found = false → added = [.findChannel false] ∧ b.playing = false ∧ next = b) := by
  cases does with
  | nothing | hushes => cases asked
  | ends r held now =>
    have hhalt := b.isHalt_halt now
    rw [List.mem_cons, List.mem_singleton] at asked
    obtain hclock | hended := asked
    · cases hclock
    · rw [← hended] at hhalt
      cases hhalt
  | plays silent start =>
    obtain hfirst | hrest := List.mem_append.1 asked
    · split at hfirst
      · cases hfirst
      · rename_i without
        obtain rfl := HostCall.findChannel.inj (List.mem_singleton.1 hfirst)
        exact ⟨Bool.eq_false_iff.2 without, fun h => absurd h.symm Bool.false_ne_true⟩
    · simp at hrest
  | refused silent without => exact ⟨without, fun _ => ⟨rfl, silent, rfl⟩⟩

namespace Follows

lemma keepsProtocol (follows : Follows least b h.calls) : KeepsProtocol least b h where
  held := follows.held
  sounds := follows.sounds
  between _ _ _ _ _ split := follows.order.exists_halt_between split
  ended before c after split hhalt := by
    obtain ⟨earlier, now, start, hbefore, began, hc⟩ :=
      (follows.order before c after split).timed hhalt
    exact ⟨earlier, now, start, hbefore, began, hc, hc ▸ le_add_fade least (now - start)⟩
  idle := setActive_of_same rfl
  asks r := by
    obtain ⟨added, does, recorded⟩ := does_perform r b h
    exact ⟨added, Host.calls_of_newest recorded, fun _ asked => (does.of_asked asked).1,
      fun asked => (does.of_asked asked).2 rfl⟩

end Follows

/-- **A beeper keeps its protocol**, whatever it is asked for and whatever its host answers. -/
theorem protocol_of_session {config : BeeperConfig} {host : Host}
    (made : (create config).run host.cleared = (.ok b, h)) (requests : List Request) :
    KeepsProtocol (max 0 config.leastMilliseconds) (b.session h requests).1
      (b.session h requests).2 :=
  ((follows_of_create made).session requests).keepsProtocol

/-- A channel is refused at first, the clock goes back before the first tone fades, and the second
tone is stopped by the shut-down, after which a channel is asked for again. -/
theorem protocol_of_session_refused :
    let config : BeeperConfig := { frequency := .int 440, volume := .int 1 }
    let host : Host := {
      channels := ⟨[false, true], true⟩, clock := ⟨[1000, 990, 1100, 1150, 1160], 0⟩ }
    let requests : List Request := [.setActive true, .setActive true, .setActive false,
      .setActive true, .shutDown, .setActive true]
    ∃ b h, (create config).run host.cleared = (.ok b, h) ∧
      (b.session h requests).2.calls.drop 1 = [.findChannel false,
        .findChannel true, .play (-1), .setVolume 1.0, .readClock 1000, .readClock 990, .fadeOut 45,
        .play (-1), .setVolume 1.0, .readClock 1100, .readClock 1150, .stop,
        .findChannel true, .play (-1), .setVolume 1.0, .readClock 1160] ∧
      KeepsProtocol 35 (b.session h requests).1 (b.session h requests).2 := by
  intro config host requests
  have hwave : Wave.square host.cleared.room (max 1 config.rate) config.frequency
      Wave.standardAmplitude = .ok ⟨12000, 50, 50⟩ := by decide +kernel
  have hvolume : clampVolume config.volume = 1.0 := by
    change (if (1 : Int) < 1 then (0.0 : Float) else 1.0) = 1.0
    exact if_neg (by decide)
  have made : (create config).run host.cleared =
      (.ok { volume := 1.0, leastMilliseconds := 35 },
        { host.cleared with newest := [.makeSound ⟨12000, 50, 50⟩] }) := by
    rw [run_create, hwave, hvolume]
    rfl
  exact ⟨_, _, made, rfl, protocol_of_session made requests⟩

end Beeper

end Chip8
