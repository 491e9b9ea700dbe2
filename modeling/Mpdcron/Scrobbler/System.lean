import Mpdcron.Player.Calls
import Mpdcron.Scrobbler.Complete

/-! The scrobbler module as a whole: what it makes of the player events goes to the scrobblers of
`as_init`. -/

namespace Mpdcron.AudioScrobbler

open CString Triple Player

/-- `as_songchange` takes the time of the call, and `as_now_playing` leaves `source` as the stack
has it. -/
def callEvent (timestamp : Bytes) (source : Option Bytes) : AsCall → DaemonEvent
  | .nowPlaying artist track album number mbid length =>
      .nowPlaying artist track album number mbid length source
  | .songchange file artist track album number mbid length =>
      .songchange file artist track album number mbid length none timestamp

structure System where
  player : Player.World
  daemon : Daemon

/-- What the main loop does next: a player event, or what a scrobbler gets from elsewhere. -/
inductive SystemEvent where
  | player (event : PlayerEvent) (timestamp : Bytes) (source : Option Bytes)
  | timer (scrobbler : Nat) (id : Nat) (timestr : Bytes) (results : List HttpResult)
  | http (scrobbler : Nat) (request : Nat) (result : HttpResult) (results : List HttpResult)
  | otherSources (count : Nat)
  | timerSaveJournal

/-- The assertion that ended the process. -/
inductive Abort where
  | player
  | scrobbler (reason : Assertion)
  deriving DecidableEq, Repr

variable (checksum : Bytes → Bytes)

def daemonSteps (daemon : Daemon) (events : List DaemonEvent) : Except Abort Daemon :=
  (events.foldlM (daemonStep checksum) daemon).mapError Abort.scrobbler

/-- The calls that an event has added. -/
def callsSince (before after : Player.World) : List Call :=
  after.globals.calls.drop before.globals.calls.length

def playerCalls (before after : Player.World) : List AsCall :=
  scrobbler.effects (callsSince before after)

def systemStep (system : System) : SystemEvent → Except Abort System
  | .player event timestamp source => do
      let player ← (playerStep scrobbler system.player event).mapError fun _ => Abort.player
      let daemon ← daemonSteps checksum system.daemon
        ((playerCalls system.player player).map (callEvent timestamp source))
      return ⟨player, daemon⟩
  | .timer scrobbler id timestr results => do
      return ⟨system.player,
        ← daemonSteps checksum system.daemon [.timer scrobbler id timestr results]⟩
  | .http scrobbler request result results => do
      return ⟨system.player,
        ← daemonSteps checksum system.daemon [.http scrobbler request result results]⟩
  | .otherSources count => do
      return ⟨system.player, ← daemonSteps checksum system.daemon [.otherSources count]⟩
  | .timerSaveJournal => do
      return ⟨system.player, ← daemonSteps checksum system.daemon [.save]⟩

/-- `init` of the module -/
def systemInit (iso8601 : Bytes → Option Int) (configs : List ScrobblerConfig) (files : Files)
    (clock : Int) : Except Abort System := do
  let daemon ← (asInit iso8601 configs files).mapError Abort.scrobbler
  return ⟨playerInit clock, daemon⟩

def systemRun (iso8601 : Bytes → Option Int) (configs : List ScrobblerConfig) (files : Files)
    (clock : Int) (events : List SystemEvent) : Except Abort System := do
  let system ← systemInit iso8601 configs files clock
  events.foldlM (systemStep checksum) system

/-! ### Whole songs -/

/-- A song with an artist has a title. -/
def Titled (song : Song) : Prop := song.artist.isSome → song.title.isSome

/-- `song_check_tags` lets an artist without a title pass. -/
theorem songCheckTags_titled (song : Song) :
    (∀ artist title, songCheckTags song = some (artist, title) → title.isSome) ↔ Titled song := by
  rw [songCheckTags, Titled]
  cases song.artist with
  | some artist => cases song.title <;> simp
  | none =>
      cases song.title with
      | none => simp
      | some title =>
          simp only [splitRadioTitle, Option.isSome_none, Bool.false_eq_true, false_implies, iff_true]
          intro artist rest split
          split_ifs at split <;> cases split <;> rfl

/-- The record that the call stores in `now_playing` is whole. -/
def Whole : AsCall → Prop
  | .nowPlaying artist track _ _ _ _ => artist.isSome ∧ track.isSome
  | .songchange _ _ _ _ _ _ _ => True

theorem callEvent_whole (timestamp : Bytes) (source : Option Bytes) (call : AsCall)
    (whole : Whole call) : (callEvent timestamp source call).Whole := by
  cases call with
  | nowPlaying => exact whole
  | songchange => trivial

theorem songStarted_whole (song : Song) (titled : Titled song) :
    ∀ call ∈ scrobbler.songStarted song, Whole call := by
  intro call member
  have tags := (songCheckTags_titled song).mpr titled
  cases checked : songCheckTags song with
  | none => simp [scrobbler, scrobblerSongChanged, checked] at member
  | some pair =>
      rcases pair with ⟨artist, title⟩
      have only : call = .nowPlaying (some artist) title song.album song.track
          song.musicbrainzTrackid (toInt song.duration) := by
        simpa [scrobbler, scrobblerSongChanged, checked] using member
      rw [only]
      exact ⟨rfl, tags artist title checked⟩

theorem songEnded_whole (song : Song) (elapsed : Int) :
    ∀ call ∈ scrobbler.songEnded song elapsed, Whole call := by
  intro call member
  simp only [scrobbler, scrobblerSongEnded] at member
  cases checked : songCheckTags song with
  | none =>
      rw [checked] at member
      cases member
  | some pair =>
      rw [checked] at member
      dsimp only at member
      by_cases long : playedLongEnough (seconds elapsed) (toInt song.duration)
      · rw [if_pos long] at member
        rw [List.mem_singleton.mp member]
        trivial
      · rw [if_neg long] at member
        cases member

/-! ### Runs -/

/-- The PLAY songs of the event have a title where they have an artist. -/
def SystemEvent.Titled : SystemEvent → Prop
  | .player event _ _ => ∀ song ∈ event.song, AudioScrobbler.Titled song
  | _ => True

/-- Whole records only: asked for by the player so far, and in `now_playing`. -/
structure System.Whole (system : System) : Prop where
  calls : ∀ call ∈ scrobbler.effects system.player.globals.calls, AudioScrobbler.Whole call
  slots : ∀ each ∈ system.daemon.scrobblers, WholeOrNone each.world.scrobbler.nowPlaying

structure System.Sound (system : System) : Prop where
  calls : ∀ call ∈ scrobbler.effects system.player.globals.calls, AudioScrobbler.Whole call
  daemon : system.daemon.Sound

theorem System.Sound.whole {system : System} (sound : system.Sound) : system.Whole :=
  ⟨sound.calls, fun each member => (sound.daemon each member).slot⟩

theorem daemonSteps_sound (events : List DaemonEvent) (daemon : Daemon) (sound : daemon.Sound)
    (whole : ∀ event ∈ events, event.Whole) :
    Holds (fun _ => False) Daemon.Sound (daemonSteps checksum daemon events) := by
  have steps : Holds (fun _ => False) Daemon.Sound (events.foldlM (daemonStep checksum) daemon) := by
    apply Holds.foldlM_of_mem
    · intro daemon event member sound
      exact daemonStep_sound checksum daemon event sound (whole event member)
    · exact sound
  rw [daemonSteps]
  cases result : events.foldlM (daemonStep checksum) daemon with
  | error reason =>
      rw [result] at steps
      exact steps.elim
  | ok next =>
      rw [result] at steps
      exact steps

theorem effects_append (first second : List Call) :
    scrobbler.effects (first ++ second) = scrobbler.effects first ++ scrobbler.effects second :=
  List.flatMap_append

/-- The calls of an event whose song has a title where it has an artist. -/
theorem effects_whole (calls : List Call)
    (titled : ∀ event song, Call.songStarted event song ∈ calls → Titled song) :
    ∀ call ∈ scrobbler.effects calls, Whole call := by
  intro call member
  rcases List.mem_flatMap.mp member with ⟨made, present, asked⟩
  cases made with
  | songStarted event song => exact songStarted_whole song (titled event song present) call asked
  | songEnded event song elapsed => exact songEnded_whole song elapsed call asked

theorem systemStep_sound (system : System) (event : SystemEvent) (sound : system.Sound)
    (titled : event.Titled) :
    Holds (fun _ => False) System.Sound (systemStep checksum system event) := by
  have quiet (event : DaemonEvent) (whole : event.Whole) :
      Holds (fun _ => False) (fun daemon => System.Sound ⟨system.player, daemon⟩)
        (daemonSteps checksum system.daemon [event]) := by
    apply (daemonSteps_sound checksum [event] system.daemon sound.daemon ?_).mono
    · intro daemon next
      exact ⟨sound.calls, next⟩
    · intro other member
      rw [List.mem_singleton.mp member]
      exact whole
  cases event with
  | timer scrobbler id timestr results =>
      exact (quiet (.timer scrobbler id timestr results) trivial).bind fun _ next => next
  | http scrobbler request result results =>
      exact (quiet (.http scrobbler request result results) trivial).bind fun _ next => next
  | otherSources count => exact (quiet (.otherSources count) trivial).bind fun _ next => next
  | timerSaveJournal => exact (quiet .save trivial).bind fun _ next => next
  | player event timestamp source =>
      have adds := playerStep_adds scrobbler system.player event
      rw [systemStep]
      cases played : playerStep scrobbler system.player event with
      | error reason =>
          rw [played] at adds
          exact adds.elim
      | ok player =>
          rw [played, holds_ok] at adds
          rcases adds with ⟨more, calls, starts⟩
          have since : callsSince system.player player = more := by
            rw [callsSince, calls, List.drop_left]
          have whole : ∀ call ∈ scrobbler.effects more, Whole call :=
            effects_whole more fun number song member => titled song (starts number song member)
          have asked : playerCalls system.player player = scrobbler.effects more := by
            rw [playerCalls, since]
          change Holds (fun _ => False) System.Sound (daemonSteps checksum system.daemon
            ((playerCalls system.player player).map (callEvent timestamp source)) >>=
              fun daemon => pure (⟨player, daemon⟩ : System))
          rw [asked]
          apply (daemonSteps_sound checksum ((scrobbler.effects more).map
            (callEvent timestamp source)) system.daemon sound.daemon ?_).bind
          · intro daemon next
            refine (⟨?_, next⟩ : System.Sound ⟨player, daemon⟩)
            rw [calls, effects_append]
            intro call member
            rcases List.mem_append.mp member with old | new
            · exact sound.calls call old
            · exact whole call new
          · intro other member
            rcases List.mem_map.mp member with ⟨call, asked, rfl⟩
            exact callEvent_whole timestamp source call (whole call asked)

theorem systemInit_sound (iso8601 : Bytes → Option Int) (configs : List ScrobblerConfig)
    (files : Files) (clock : Int) :
    Holds (fun _ => False) System.Sound (systemInit iso8601 configs files clock) := by
  have started := asInit_sound iso8601 configs files
  rw [systemInit]
  cases result : asInit iso8601 configs files with
  | error reason =>
      rw [result] at started
      exact started.elim
  | ok daemon =>
      rw [result] at started
      exact (⟨fun call member => (List.not_mem_nil member).elim, started⟩ :
        System.Sound ⟨playerInit clock, daemon⟩)

/-- An artist without a title is the only thing that gets a half record through
`song_check_tags`, and without it no run of the module ends in an assertion. -/
theorem records_whole (iso8601 : Bytes → Option Int) (configs : List ScrobblerConfig)
    (files : Files) (clock : Int) :
    (∀ song, (∀ artist title, songCheckTags song = some (artist, title) → title.isSome) ↔
      Titled song) ∧
    ∀ events, (∀ event ∈ events, event.Titled) →
      Holds (fun _ => False) System.Whole
        (systemRun checksum iso8601 configs files clock events) := by
  refine ⟨songCheckTags_titled, ?_⟩
  intro events titled
  apply (systemInit_sound iso8601 configs files clock).bind
  intro system started
  have ran : Holds (fun _ => False) System.Sound (events.foldlM (systemStep checksum) system) := by
    apply Holds.foldlM_of_mem
    · intro system event member sound
      exact systemStep_sound checksum system event sound (titled event member)
    · exact started
  exact ran.mono fun _ => System.Sound.whole

/-! ### A song without a title -/

/-- An artist and no title. -/
def halfSong (title : Option Bytes) : Song where
  uri := lit "can/untitled.ogg"
  id := 1
  duration := 300
  artist := some (lit "Can")
  title := title
  album := none
  track := none
  musicbrainzTrackid := none

/-- The song is played once the handshake is over. -/
def halfEvents (title : Option Bytes) : List SystemEvent :=
  [ .timer 0 1 [] [],
    .http 0 0 (.response (lit "OK\nsession\nnow\nsubmit\n")) [],
    .player ⟨0, .play (halfSong title) 0 (show (1 : UInt32) ≠ noId by decide)⟩ [] none ]

def halfRun (title : Option Bytes) : Except Abort System :=
  systemRun (fun _ => []) (fun _ => none) [⟨[], [], [], none⟩] (fun _ => none) 0 (halfEvents title)

theorem records_whole_titled :
    Holds (fun _ => False) System.Whole (halfRun (some (lit "Halleluwah"))) := by
  apply (records_whole (fun _ => []) (fun _ => none) [⟨[], [], [], none⟩] (fun _ => none) 0).2
  intro event member
  simp only [halfEvents, List.mem_cons, List.not_mem_nil, or_false] at member
  rcases member with rfl | rfl | rfl
  · trivial
  · trivial
  · intro song played
    cases played
    exact fun _ => rfl

def abortOf {σ : Type} : Except Abort σ → Option Abort
  | .error abort => some abort
  | .ok _ => none

/-- The song passes `song_check_tags`, and the assertion in `scrobbler_schedule_submit` ends the
process. -/
theorem half_song_aborts :
    songCheckTags (halfSong none) = some (lit "Can", none) ∧
      ¬Holds (fun _ => False) System.Whole (halfRun none) := by
  refine ⟨rfl, ?_⟩
  have computed : abortOf (halfRun none) = some (.scrobbler .recordIsDefined) := by
    decide +kernel
  intro whole
  cases outcome : halfRun none with
  | ok system =>
      rw [outcome] at computed
      cases computed
  | error abort =>
      rw [outcome] at whole
      exact whole

end Mpdcron.AudioScrobbler
