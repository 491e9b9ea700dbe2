import Mpdcron.Lib.Timer
import Mpdcron.Player.Song

/-! `event_player` of the stats and the scrobbler module. The two differ in an assertion,
in the test for a repeated song and in what they do with a song. -/

namespace Mpdcron.Player

open CString Timer

inductive MpdState where
  | unknown
  | stop
  | play
  | pause
  deriving DecidableEq, Repr

/-- What a module does of its own; `ε` is what it asks of the rest of the program. -/
structure PlayerModule (ε : Type) where
  assertsSong : Bool
  songRepeated : Song → UInt32 → Int → Bool
  songStarted : Song → List ε
  songEnded : Song → Int → List ε

/-- A call of `song_started` or `song_ended`: the number of the event it happens in, the
song, and the timer in microseconds. -/
inductive Call where
  | songStarted (event : Nat) (song : Song)
  | songEnded (event : Nat) (song : Song) (elapsed : Int)
  deriving DecidableEq, Repr

/-- The globals of a module, and its calls so far. -/
structure Globals where
  lastId : UInt32
  wasPaused : Bool
  isRemote : Bool
  prev : Option Song
  timer : GTimer
  calls : List Call
  deriving DecidableEq, Repr

/-- `(unsigned) -1` -/
def noId : UInt32 := 0xFFFFFFFF

/-- The event being handled: its number and the clock. -/
structure Moment where
  event : Nat
  now : Int
  deriving DecidableEq, Repr

/-- `g_timer_elapsed` in whole seconds. -/
def seconds (elapsed : Int) : Int := elapsed / 1000000

def songStarted (moment : Moment) (song : Song) (globals : Globals) : Globals :=
  { globals with
    timer := globals.timer.restart moment.now
    isRemote := isRemoteUri song.uri
    calls := globals.calls ++ [.songStarted moment.event song] }

def songEnded (moment : Moment) (song : Song) (globals : Globals) : Globals :=
  { globals with
    calls := globals.calls ++
      [.songEnded moment.event song (globals.timer.elapsed moment.now)] }

section

variable {ε : Type} (module : PlayerModule ε)

def songPlaying (moment : Moment) (song : Song) (elapsed : UInt32) (globals : Globals) :
    Globals :=
  let prevElapsed := seconds (globals.timer.elapsed moment.now)
  if module.songRepeated song elapsed prevElapsed then
    songStarted moment song (songEnded moment song globals)
  else globals

def songContinued (moment : Moment) (globals : Globals) : Globals :=
  { globals with timer := globals.timer.continue moment.now }

def songPaused (moment : Moment) (globals : Globals) : Globals :=
  { globals with
    timer := if globals.wasPaused then globals.timer else globals.timer.stop moment.now
    wasPaused := true }

def songStopped (globals : Globals) : Globals :=
  { globals with lastId := noId, wasPaused := false }

/-- `mpd_song_get_tag(song, ..) != mpd_song_get_tag(prev, ..)` compares pointers, and `prev`
is a copy with strings of its own. -/
def titlesDiffer (song prev : Song) : Bool := song.title.isSome || prev.title.isSome

/-- The block under `if (was_paused)`. -/
def leavePause (moment : Moment) (song : Option Song) (globals : Globals) : Globals :=
  if globals.wasPaused then
    match song with
    | none => { globals with wasPaused := false }
    | some song =>
        let globals :=
          if song.id = globals.lastId then songContinued moment globals else globals
        { globals with wasPaused := false }
  else globals

/-- The block that submits the previous song. -/
def endPrevious (moment : Moment) (song : Option Song) (globals : Globals) : Globals :=
  match globals.prev, song with
  | none, _ => globals
  | some prev, none => songEnded moment prev globals
  | some prev, some song =>
      if prev.id ≠ song.id ∨ (globals.isRemote ∧ titlesDiffer song prev) then
        songEnded moment prev globals
      else globals

/-- The block under `if (song != NULL)`. -/
def beginSong (moment : Moment) (song : Song) (elapsed : UInt32) (globals : Globals) :
    Globals :=
  if song.id ≠ globals.lastId ∨
      (globals.isRemote ∧ globals.prev.any fun prev => titlesDiffer song prev) then
    { songStarted moment song globals with lastId := song.id }
  else songPlaying module moment song elapsed globals

/-- `mpd_song_dup` succeeds. -/
def eventPlayer (moment : Moment) (state : MpdState) (song : Option Song) (elapsed : UInt32)
    (globals : Globals) : Except Unit Globals :=
  if module.assertsSong ∧ song = none ∧ state = .play then .error ()
  else if state = .pause then .ok (songPaused moment globals)
  else
    let globals := if state ≠ .play then songStopped globals else globals
    let globals := leavePause moment song globals
    let globals := endPrevious moment song globals
    let globals := match song with
      | none => globals
      | some song => beginSong module moment song elapsed globals
    .ok { globals with prev := song }

end

/-! ### The two modules -/

/-- A call of `db_process`. -/
structure DbProcess where
  song : Song
  increment : Bool
  percentPlayed : Int
  deriving DecidableEq, Repr

def statsSongEnded (song : Song) (elapsed : Int) : List DbProcess :=
  let elapsed := seconds elapsed
  let songDuration := toInt song.duration
  [{ song := song
     increment := playedLongEnough elapsed songDuration
     percentPlayed := if songDuration > 0 then (elapsed * 100).tdiv songDuration else 100 }]

def stats : PlayerModule DbProcess where
  assertsSong := false
  songRepeated _ elapsed prevElapsed := prevElapsed > elapsed.toNat
  songStarted _ := []
  songEnded := statsSongEnded

/-- The calls of `as_now_playing` and `as_songchange`. -/
inductive AsCall where
  | nowPlaying (artist track album number mbid : Option Bytes) (length : Int)
  | songchange (file : Bytes) (artist track album number mbid : Option Bytes) (length : Int)
  deriving DecidableEq, Repr

def scrobblerSongChanged (song : Song) : List AsCall :=
  match songCheckTags song with
  | none => []
  | some (artist, title) =>
      [.nowPlaying (some artist) title song.album song.track song.musicbrainzTrackid
        (toInt song.duration)]

def scrobblerSongEnded (song : Song) (elapsed : Int) : List AsCall :=
  match songCheckTags song with
  | none => []
  | some (artist, title) =>
      if playedLongEnough (seconds elapsed) (toInt song.duration) then
        [.songchange song.uri (some artist) title song.album song.track song.musicbrainzTrackid
          (if song.duration > 0 then toInt song.duration else seconds elapsed)]
      else []

def scrobbler : PlayerModule AsCall where
  assertsSong := true
  songRepeated song elapsed prevElapsed :=
    toInt elapsed < 60 ∧ prevElapsed > toInt elapsed ∧
      playedLongEnough (prevElapsed - toInt elapsed) (toInt song.duration)
  songStarted := scrobblerSongChanged
  songEnded := scrobblerSongEnded

/-- What the calls of a module ask of the rest of the program. -/
def PlayerModule.effects {ε : Type} (module : PlayerModule ε) (calls : List Call) : List ε :=
  calls.flatMap fun call =>
    match call with
    | .songStarted _ song => module.songStarted song
    | .songEnded _ song elapsed => module.songEnded song elapsed

/-! ### Runs -/

/-- The player events as `cron-event.c` delivers them: a song comes with PLAY and PAUSE. -/
inductive Status where
  | play (song : Song) (elapsed : UInt32) (known : song.id ≠ noId)
  | pause (song : Song)
  | stop
  | unknown
  deriving DecidableEq, Repr

/-- An event and the microseconds since the one before. -/
structure PlayerEvent where
  wait : Nat
  status : Status
  deriving DecidableEq, Repr

structure World where
  events : Nat
  clock : Int
  globals : Globals
  deriving DecidableEq, Repr

def deliver {ε : Type} (module : PlayerModule ε) (moment : Moment) (status : Status)
    (globals : Globals) : Except Unit Globals :=
  match status with
  | .play song elapsed _ => eventPlayer module moment .play (some song) elapsed globals
  | .pause song => eventPlayer module moment .pause (some song) 0 globals
  | .stop => eventPlayer module moment .stop none 0 globals
  | .unknown => eventPlayer module moment .unknown none 0 globals

def playerStep {ε : Type} (module : PlayerModule ε) (world : World) (event : PlayerEvent) :
    Except Unit World := do
  let moment : Moment := ⟨world.events, world.clock + event.wait⟩
  let globals ← deliver module moment event.status world.globals
  return ⟨world.events + 1, moment.now, globals⟩

/-- The globals after `init` at some time of the clock. -/
def playerInit (clock : Int) : World :=
  { events := 0
    clock := clock
    globals :=
      { lastId := noId, wasPaused := false, isRemote := false, prev := none
        timer := new clock, calls := [] } }

def playerRun {ε : Type} (module : PlayerModule ε) (clock : Int) (events : List PlayerEvent) :
    Except Unit World :=
  events.foldlM (playerStep module) (playerInit clock)

end Mpdcron.Player
