import Mpdcron.Cron.Loop
import Mpdcron.Cron.Env
import Mpdcron.Notification.File

/-! `notification-module.c`, `notification-spawn.c` and what they use: the handlers of the five
events, and which of them call `notify_send`. -/

namespace Mpdcron.Notification

open CString Timer
open Mpdcron.Cron (MpdStatus MpdSong MpdStats MpdTag)
open Mpdcron.Player (toInt noId seconds)
open Mpdcron.Utils (buildFilename)

/-! ### Notifications -/

/-- `%02d` -/
def twoDigits (number : Nat) : Bytes :=
  if number < 10 then 48 :: decimalNat number else decimalNat number

def dhms (t : Nat) : Bytes :=
  decimal (wrapInt (t / 86400)) ++ lit " days, " ++ decimalNat (t % 86400 / 3600) ++ lit ":"
    ++ twoDigits (t % 86400 % 3600 / 60) ++ lit ":" ++ twoDigits (t % 86400 % 3600 % 60)

/-- What `printf` prints for a string that may be NULL. -/
def printed (text : Option Bytes) : Bytes := text.getD (lit "(null)")

/-- The cover, if there is a file with its name. -/
def coverFind (gFileTest : Bytes → Bool) (config : Config) (artist album : Option Bytes) :
    Option Bytes := do
  let directory ← config.coverPath
  let cfile := printed artist ++ lit "-" ++ printed album ++ lit "." ++ config.coverSuffix
  let cpath := buildFilename directory cfile
  if gFileTest cpath then some cpath else none

/-- The arguments of the program that `notify_send` spawns. -/
def notifySendArgv (config : Config) (icon : Option Bytes) (summary body : Bytes) : List Bytes :=
  [lit "notify-send"]
    ++ (config.urgency.map fun urgency => lit "--urgency=" ++ urgency).toList
    ++ (config.timeout.map fun timeout => lit "--expire-time=" ++ timeout).toList
    ++ (config.type.map fun type => lit "--category=" ++ type).toList
    ++ (icon.map fun icon => lit "--icon=" ++ icon).toList
    ++ [summary, body]
    ++ (config.hints.getD []).map fun hint => lit "--hint=" ++ hint

/-- A call of `notify_send`, and the event that was being handled. -/
structure Sent where
  event : Handled
  argv : List Bytes
  deriving DecidableEq, Repr

/-- The globals of the module, and its calls of `notify_send` so far. -/
structure Globals where
  wasPaused : Bool
  lastId : UInt32
  timer : GTimer
  sent : List Sent
  deriving DecidableEq, Repr

def notifySend (config : Config) (event : Handled) (icon : Option Bytes) (summary body : Bytes)
    (globals : Globals) : Globals :=
  { globals with sent := globals.sent ++ [⟨event, notifySendArgv config icon summary body⟩] }

/-! ### The player -/

def songPaused (now : Int) (globals : Globals) : Globals :=
  { globals with
    timer := if globals.wasPaused then globals.timer else globals.timer.stop now
    wasPaused := true }

def songStopped (globals : Globals) : Globals :=
  { globals with lastId := noId, wasPaused := false }

def songContinued (now : Int) (globals : Globals) : Globals :=
  { globals with timer := globals.timer.continue now }

section Handlers

-- the text that `ctime` makes of a time, and `g_file_test` with `G_FILE_TEST_EXISTS`
variable (ctime : Int → Bytes) (gFileTest : Bytes → Bool) (config : Config)

def songChanged (now : Int) (song : MpdSong) (globals : Globals) : Globals :=
  let globals := { globals with timer := globals.timer.restart now }
  let cpath := coverFind gFileTest config (song.tag .artist) (song.tag .album)
  let summary := (song.tag .title).getD song.uri
  let body := lit "by " ++ (song.tag .artist).getD (lit "Unknown") ++ lit " - "
    ++ (song.tag .album).getD (lit "Unknown")
  notifySend config .player cpath summary body globals

def songStarted (now : Int) (song : MpdSong) (globals : Globals) : Globals :=
  songChanged gFileTest config now song globals

/-- The timer is ahead of Mpd: the song was started again. -/
def repeated (now : Int) (elapsed : UInt32) (globals : Globals) : Bool :=
  (elapsed.toNat : Int) < seconds (globals.timer.elapsed now)

def songPlaying (now : Int) (song : MpdSong) (elapsed : UInt32) (globals : Globals) : Globals :=
  if repeated now elapsed globals then songStarted gFileTest config now song globals else globals

/-- The block under `if (was_paused)` -/
def leavePause (now : Int) (song : Option MpdSong) (globals : Globals) : Globals :=
  if globals.wasPaused then
    let globals :=
      if song.any (·.id = globals.lastId) then songContinued now globals else globals
    { globals with wasPaused := false }
  else globals

/-- The block under the last `if (song != NULL)` -/
def beginSong (now : Int) (song : MpdSong) (elapsed : UInt32) (globals : Globals) : Globals :=
  if song.id ≠ globals.lastId then
    { songStarted gFileTest config now song globals with lastId := song.id }
  else songPlaying gFileTest config now song elapsed globals

/-! ### The handlers -/

/-- The handlers' test, `(file_config.events | MPD_IDLE_..) == 0`. -/
def Config.skips (event : Handled) : Bool := (config.events ||| event.mpdIdle) = 0

def eventDatabase (stats : MpdStats) (globals : Globals) : Globals :=
  if config.skips .database then globals
  else
    let body := lit "Artists: " ++ decimalNat stats.numberOfArtists.toNat ++ lit "\n"
      ++ lit "Albums: " ++ decimalNat stats.numberOfAlbums.toNat ++ lit "\n"
      ++ lit "Songs: " ++ decimalNat stats.numberOfSongs.toNat ++ lit "\n"
      ++ lit "\n"
      ++ lit "Play Time: " ++ dhms stats.playTime ++ lit "\n"
      ++ lit "Uptime: " ++ dhms stats.uptime ++ lit "\n"
      ++ lit "DB Updated: " ++ ctime stats.dbUpdateTime
      ++ lit "DB Play Time: " ++ dhms stats.dbPlayTime
    notifySend config .database none (lit "Mpd Database has been updated") body globals

/-- None where the assertion fails that Mpd plays a song. -/
def eventPlayer (now : Int) (song : Option MpdSong) (status : MpdStatus) (globals : Globals) :
    Option Globals :=
  if config.skips .player then some globals
  else if song.isNone ∧ status.state = .play then none
  else if status.state = .pause then some (songPaused now globals)
  else if status.state ≠ .play then some (songStopped globals)
  else
    let globals := leavePause now song globals
    match song with
    | none => some globals
    | some song => some (beginSong gFileTest config now song status.elapsedTime globals)

def eventMixer (status : MpdStatus) (globals : Globals) : Globals :=
  if config.skips .mixer then globals
  else
    let summary := lit "Mpd Volume: " ++ decimal status.volume ++ lit "%"
    notifySend config .mixer none summary [] globals

def onOff (value : Bool) : Bytes := if value then lit "on" else lit "off"

def eventOptions (status : MpdStatus) (globals : Globals) : Globals :=
  if config.skips .options then globals
  else
    let body := lit "Repeat: " ++ onOff status.repeating ++ lit "\n"
      ++ lit "Random: " ++ onOff status.random ++ lit "\n"
      ++ lit "Single: " ++ onOff status.single ++ lit "\n"
      ++ lit "Consume: " ++ onOff status.consume ++ lit "\n"
      ++ lit "Crossfade: " ++ decimalNat status.crossfade.toNat
    notifySend config .options none (lit "Mpd Options have changed!") body globals

def eventUpdate (status : MpdStatus) (globals : Globals) : Globals :=
  if config.skips .update then globals
  else
    let summary := lit "Mpd Update ID: " ++ decimalNat status.updateId.toNat
    notifySend config .update none summary [] globals

/-! ### Runs -/

/-- What Mpd answered for the event. -/
inductive Answer where
  | database (stats : MpdStats)
  | player (song : Option MpdSong) (status : MpdStatus)
  | mixer (status : MpdStatus)
  | options (status : MpdStatus)
  | update (status : MpdStatus)

def Answer.event : Answer → Handled
  | .database _ => .database
  | .player _ _ => .player
  | .mixer _ => .mixer
  | .options _ => .options
  | .update _ => .update

/-- An event and the microseconds since the one before. -/
structure Delivery where
  wait : Nat
  answer : Answer

structure World where
  clock : Int
  globals : Globals
  deriving DecidableEq, Repr

def handle (now : Int) (answer : Answer) (globals : Globals) : Option Globals :=
  match answer with
  | .database stats => some (eventDatabase ctime config stats globals)
  | .player song status => eventPlayer gFileTest config now song status globals
  | .mixer status => some (eventMixer config status globals)
  | .options status => some (eventOptions config status globals)
  | .update status => some (eventUpdate config status globals)

/-- The globals after `init`. -/
def initWorld (clock : Int) : World :=
  ⟨clock, { wasPaused := false, lastId := noId, timer := new clock, sent := [] }⟩

/-- One event after the other; an assertion that fails ends the program. -/
def deliver : List Delivery → World → World
  | [], world => world
  | delivery :: deliveries, world =>
      let now := world.clock + delivery.wait
      match handle ctime gFileTest config now delivery.answer world.globals with
      | none => world
      | some globals => deliver deliveries ⟨now, globals⟩

/-! ### What is announced -/

/-- The answer is about a song that starts: Mpd plays it, and played another one before or has
started it again. The other events have no such condition. -/
def announces (now : Int) (globals : Globals) : Answer → Bool
  | .player song status => status.state = .play ∧ song.any fun song =>
      song.id ≠ globals.lastId ∨ repeated now status.elapsedTime globals
  | _ => true

/-- No event is skipped, whatever is configured: the test is for no bit at all, and its own is
always there. -/
theorem skips_eq_false (event : Handled) : config.skips event = false := by
  have own : event.mpdIdle ≠ 0 := by cases event <;> decide
  simp only [Config.skips, UInt32.or_eq_zero_iff, own, and_false, decide_false]

/-- Leaving the pause moves neither the song nor the time that it has played. -/
theorem leavePause_keeps (now : Int) (song : Option MpdSong) (globals : Globals) :
    (leavePause now song globals).sent = globals.sent ∧
      (leavePause now song globals).lastId = globals.lastId ∧
      ∀ elapsed, repeated now elapsed (leavePause now song globals) = repeated now elapsed globals := by
  rw [leavePause]
  split_ifs with paused same
  · refine ⟨rfl, rfl, ?_⟩
    intro elapsed
    simp only [repeated, songContinued, elapsed_continue]
  · exact ⟨rfl, rfl, fun _ => rfl⟩
  · exact ⟨rfl, rfl, fun _ => rfl⟩

theorem beginSong_sent (now : Int) (song : MpdSong) (elapsed : UInt32) (globals : Globals) :
    if song.id ≠ globals.lastId ∨ repeated now elapsed globals then
      ∃ argv, (beginSong gFileTest config now song elapsed globals).sent
        = globals.sent ++ [⟨.player, argv⟩]
    else (beginSong gFileTest config now song elapsed globals).sent = globals.sent := by
  rw [beginSong]
  by_cases other : song.id ≠ globals.lastId
  · rw [if_pos (Or.inl other), if_pos other]
    exact ⟨_, rfl⟩
  · rw [if_neg other, songPlaying]
    by_cases again : repeated now elapsed globals = true
    · rw [if_pos (Or.inr again), if_pos again]
      exact ⟨_, rfl⟩
    · rw [if_neg (not_or.mpr ⟨other, again⟩), if_neg again]

theorem eventPlayer_sent (now : Int) (song : Option MpdSong) (status : MpdStatus)
    (globals : Globals) :
    match eventPlayer gFileTest config now song status globals with
    | none => announces now globals (.player song status) = false
    | some next =>
        if announces now globals (.player song status) then
          ∃ argv, next.sent = globals.sent ++ [⟨.player, argv⟩]
        else next.sent = globals.sent := by
  rw [eventPlayer, skips_eq_false, if_neg Bool.false_ne_true]
  by_cases playing : status.state = .play
  · cases song with
    | none => simp [playing, announces]
    | some song =>
        rcases leavePause_keeps now (some song) globals with ⟨sent, lastId, again⟩
        have begun := beginSong_sent gFileTest config now song status.elapsedTime
          (leavePause now (some song) globals)
        rw [sent, lastId, again] at begun
        simpa [playing, announces] using begun
  · by_cases paused : status.state = .pause
    · simp [paused, announces, songPaused]
    · simp [playing, paused, announces, songStopped]

/-- A handler sends one notification if its event is announced, and else none; only an event that
is not announced can fail the assertion. -/
theorem handle_sent (now : Int) (answer : Answer) (globals : Globals) :
    match handle ctime gFileTest config now answer globals with
    | none => announces now globals answer = false
    | some next =>
        if announces now globals answer then
          ∃ argv, next.sent = globals.sent ++ [⟨answer.event, argv⟩]
        else next.sent = globals.sent := by
  cases answer with
  | player song status => exact eventPlayer_sent gFileTest config now song status globals
  | database stats =>
      simp only [handle, eventDatabase, skips_eq_false, announces, if_true]
      exact ⟨_, rfl⟩
  | mixer status =>
      simp only [handle, eventMixer, skips_eq_false, announces, if_true]
      exact ⟨_, rfl⟩
  | options status =>
      simp only [handle, eventOptions, skips_eq_false, announces, if_true]
      exact ⟨_, rfl⟩
  | update status =>
      simp only [handle, eventUpdate, skips_eq_false, announces, if_true]
      exact ⟨_, rfl⟩

/-! ### Which runs respect the configuration -/

/-- Each event of the run is allowed or is not announced, in the state that it is delivered in. -/
def EachAllowed (allowed : Handled → Prop) : List Delivery → World → Prop
  | [], _ => True
  | delivery :: deliveries, world =>
      let now := world.clock + delivery.wait
      (allowed delivery.answer.event ∨ announces now world.globals delivery.answer = false) ∧
        match handle ctime gFileTest config now delivery.answer world.globals with
        | none => True
        | some globals => EachAllowed allowed deliveries ⟨now, globals⟩

theorem deliver_allowed_iff (allowed : Handled → Prop) (deliveries : List Delivery) :
    ∀ world : World,
      (∀ sent ∈ (deliver ctime gFileTest config deliveries world).globals.sent, allowed sent.event) ↔
        (∀ sent ∈ world.globals.sent, allowed sent.event) ∧
          EachAllowed ctime gFileTest config allowed deliveries world := by
  induction deliveries with
  | nil =>
      intro world
      simp only [deliver, EachAllowed, and_true]
  | cons delivery deliveries ih =>
      intro world
      have step := handle_sent ctime gFileTest config (world.clock + delivery.wait) delivery.answer
        world.globals
      rw [deliver, EachAllowed]
      cases handled : handle ctime gFileTest config (world.clock + delivery.wait) delivery.answer
          world.globals with
      | none =>
          rw [handled] at step
          simp only [step, or_true, and_true]
      | some globals =>
          rw [handled] at step
          dsimp only at step ⊢
          rw [ih]
          by_cases announced :
              announces (world.clock + delivery.wait) world.globals delivery.answer = true
          · rw [if_pos announced] at step
            rcases step with ⟨argv, sent⟩
            rw [sent, List.forall_mem_append, List.forall_mem_singleton, announced]
            simp only [Bool.true_eq_false, or_false, and_assoc]
          · rw [if_neg announced] at step
            rw [step, Bool.eq_false_iff.mpr announced]
            simp only [or_true, true_and]

/-- An answer that is announced whatever was played before. -/
def loudAnswer : Handled → Answer
  | .database => .database ⟨0, 0, 0, 0, 0, 0, 0⟩
  | .player => .player (some ⟨[], 0, 0, 0, 0, fun _ => none⟩)
      ⟨0, false, false, false, false, 0, 0, 0, 0, 0, 0, 0, 0, 0, 0, .play, none⟩
  | .mixer => .mixer ⟨0, false, false, false, false, 0, 0, 0, 0, 0, 0, 0, 0, 0, 0, .stop, none⟩
  | .options => .options ⟨0, false, false, false, false, 0, 0, 0, 0, 0, 0, 0, 0, 0, 0, .stop, none⟩
  | .update => .update ⟨0, false, false, false, false, 0, 0, 0, 0, 0, 0, 0, 0, 0, 0, .stop, none⟩

/-- Every run respects the configuration if and only if all five events are configured, so that
there is nothing to filter. -/
theorem deliver_always_configured_iff :
    (∀ (clock : Int) (deliveries : List Delivery),
      ∀ sent ∈ (deliver ctime gFileTest config deliveries (initWorld clock)).globals.sent,
        config.Configured sent.event) ↔ ∀ event, config.Configured event := by
  constructor
  · intro all event
    have each := (deliver_allowed_iff ctime gFileTest config config.Configured
      [⟨0, loudAnswer event⟩] (initWorld 0)).mp (all 0 [⟨0, loudAnswer event⟩])
    have loud : (loudAnswer event).event = event ∧
        announces (0 + (0 : Nat)) (initWorld 0).globals (loudAnswer event) = true := by
      cases event <;> decide
    rcases each.2.1 with configured | silent
    · exact loud.1 ▸ configured
    · exact absurd loud.2 (Bool.eq_false_iff.mp silent)
  · intro all clock deliveries sent _
    exact all sent.event

/-- A run notifies about nothing but what is configured if and only if each event is enabled, or
is about a player that starts no song. -/
theorem notifications_enabled_iff (mpdIdleNameParse : Bytes → UInt32) (home : Option Bytes)
    (fd : Utils.KeyFile) (config : Config)
    (loaded : fileLoad mpdIdleNameParse home fd = .ok config) (clock : Int)
    (deliveries : List Delivery) :
    (∀ sent ∈ (deliver ctime gFileTest config deliveries (initWorld clock)).globals.sent,
        config.Configured sent.event) ↔
      EachAllowed ctime gFileTest config
        (Enables mpdIdleNameParse ((fd.list (lit "events")).getD [])) deliveries
        (initWorld clock) := by
  have enabled : config.Configured = Enables mpdIdleNameParse ((fd.list (lit "events")).getD []) := by
    funext event
    exact propext (fileLoad_configured mpdIdleNameParse home fd config loaded event)
  rw [← enabled, deliver_allowed_iff]
  apply and_iff_right
  intro sent member
  exact absurd member List.not_mem_nil

end Handlers

/-! ### A list with one event -/

/-- A configuration that names the mixer only. -/
def mixerFile : Utils.KeyFile where
  getString _ := .error ⟨.keyNotFound, []⟩
  getInteger _ := .error ⟨.keyNotFound, []⟩
  getStringList name :=
    if name = lit "events" then .ok [lit "mixer"] else .error ⟨.keyNotFound, []⟩

def idleNames (name : Bytes) : UInt32 :=
  if name = lit "database" then 0x1
  else if name = lit "mixer" then 0x10
  else 0

def mixerConfig : Config :=
  { events := 0x10, coverPath := none, coverSuffix := lit "jpg", timeout := none, type := none
    urgency := none, hints := none, warnings := [] }

/-- The volume may change. -/
theorem notifications_enabled_iff_mixer :
    (∀ sent ∈ (deliver (fun _ => []) (fun _ => false) mixerConfig [⟨0, loudAnswer .mixer⟩]
        (initWorld 0)).globals.sent, mixerConfig.Configured sent.event) ↔
      EachAllowed (fun _ => []) (fun _ => false) mixerConfig
        (Enables idleNames ((mixerFile.list (lit "events")).getD [])) [⟨0, loudAnswer .mixer⟩]
        (initWorld 0) :=
  notifications_enabled_iff (fun _ => []) (fun _ => false) idleNames none mixerFile mixerConfig
    (by decide) 0 [⟨0, loudAnswer .mixer⟩]

/-- An update of the database is announced all the same. -/
theorem database_notified_unconfigured :
    fileLoad idleNames none mixerFile = .ok mixerConfig ∧
      ¬ mixerConfig.Configured .database ∧
      ∃ sent ∈ (deliver (fun _ => []) (fun _ => false) mixerConfig [⟨0, loudAnswer .database⟩]
        (initWorld 0)).globals.sent, sent.event = .database := by
  refine ⟨by decide, by decide, _, List.mem_cons_self, rfl⟩

end Mpdcron.Notification
