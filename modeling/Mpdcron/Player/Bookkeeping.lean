import Mpdcron.Lib.Triple
import Mpdcron.Player.Event

/-! The plays that a module makes of a sequence of player events: each is started and
ended once, and timed by the events alone. -/

namespace Mpdcron.Player

open Timer Triple

/-! ### What the events say -/

def Status.isPlay : Status → Bool
  | .play _ _ _ => true
  | _ => false

def Status.isPause : Status → Bool
  | .pause _ => true
  | _ => false

/-- The time, from the first event to the last, during which the event seen last was PLAY. -/
def playTime : List PlayerEvent → Nat
  | first :: second :: rest =>
      (if first.status.isPlay then second.wait else 0) + playTime (second :: rest)
  | _ => 0

def lastIs (kind : Status → Bool) (events : List PlayerEvent) : Bool :=
  events.getLast?.any fun event => kind event.status

/-- The song that is on: that of the last PLAY with no stop behind it. -/
def playing (events : List PlayerEvent) : Option UInt32 :=
  events.foldl
    (fun id event =>
      match event.status with
      | .play song _ _ => some song.id
      | .pause _ => id
      | .stop => none
      | .unknown => none)
    none

theorem lastIs_concat (kind : Status → Bool) (events : List PlayerEvent) (event : PlayerEvent) :
    lastIs kind (events ++ [event]) = kind event.status := by
  simp [lastIs]

theorem playTime_concat (events : List PlayerEvent) (event : PlayerEvent) :
    playTime (events ++ [event]) =
      playTime events + if lastIs Status.isPlay events then event.wait else 0 := by
  induction events with
  | nil => simp [playTime, lastIs]
  | cons first rest ih =>
      cases rest with
      | nil => exact Nat.add_comm _ 0
      | cons second rest =>
          have last : lastIs Status.isPlay (first :: second :: rest) =
              lastIs Status.isPlay (second :: rest) := by
            simp [lastIs, List.getLast?_cons_cons]
          rw [last]
          simp only [List.cons_append, playTime] at ih ⊢
          rw [ih, Nat.add_assoc]

/-! ### Plays -/

/-- A song from its start to its end. -/
structure Play where
  song : Song
  startedAt : Nat
  ended : Song
  endedAt : Nat
  elapsed : Int

def Play.calls (play : Play) : List Call :=
  [.songStarted play.startedAt play.song, .songEnded play.endedAt play.ended play.elapsed]

def Call.event : Call → Nat
  | .songStarted event _ => event
  | .songEnded event _ _ => event

/-- The song that ends is the one that was started, and its timer shows what was played of
it between the two events. -/
structure Play.Sound (events : List PlayerEvent) (play : Play) : Prop where
  sameSong : play.ended.id = play.song.id
  later : play.startedAt < play.endedAt
  seen : play.endedAt < events.length
  elapsed : play.elapsed =
    playTime ((events.drop play.startedAt).take (play.endedAt - play.startedAt + 1))

/-- The calls are those of whole plays, one after the other, and the start of the song that
is on. -/
structure Bookkept (events : List PlayerEvent) (calls : List Call) (plays : List Play)
    (current : Option (Nat × Song)) : Prop where
  listed : calls = plays.flatMap Play.calls ++
    (current.map fun started => Call.songStarted started.1 started.2).toList
  sound : ∀ play ∈ plays, play.Sound events
  ordered : (calls.map Call.event).Pairwise (· ≤ ·)
  seen : ∀ call ∈ calls, call.event < events.length
  playing : current.map (fun started => started.2.id) = playing events

theorem Play.Sound.more {events : List PlayerEvent} {play : Play} (sound : play.Sound events)
    (event : PlayerEvent) : play.Sound (events ++ [event]) := by
  refine ⟨sound.sameSong, sound.later, ?_, ?_⟩
  · rw [List.length_append]
    exact Nat.lt_add_right _ sound.seen
  · have started : play.startedAt ≤ events.length :=
      Nat.le_of_lt (Nat.lt_trans sound.later sound.seen)
    have enough : play.endedAt - play.startedAt + 1 ≤ (events.drop play.startedAt).length := by
      have := sound.seen
      have := sound.later
      rw [List.length_drop]
      omega
    rw [List.drop_append_of_le_length started, List.take_append_of_le_length enough]
    exact sound.elapsed

/-! ### While an event is handled -/

/-- `events` ends with the event of `moment`. -/
structure Running (events : List PlayerEvent) (moment : Moment) (globals : Globals)
    (plays : List Play) (current : Option (Nat × Song)) : Prop where
  calls : globals.calls = plays.flatMap Play.calls ++
    (current.map fun started => Call.songStarted started.1 started.2).toList
  sound : ∀ play ∈ plays, play.Sound events
  ordered : (globals.calls.map Call.event).Pairwise (· ≤ ·)
  seen : ∀ call ∈ globals.calls, call.event ≤ moment.event
  event : events.length = moment.event + 1
  elapsed : ∀ startedAt song, current = some (startedAt, song) →
    globals.timer.elapsed moment.now = playTime (events.drop startedAt)

section

variable {events : List PlayerEvent} {moment : Moment} {globals : Globals} {plays : List Play}

theorem ordered_concat {calls : List Call} {call : Call}
    (ordered : (calls.map Call.event).Pairwise (· ≤ ·))
    (seen : ∀ earlier ∈ calls, earlier.event ≤ call.event) :
    ((calls ++ [call]).map Call.event).Pairwise (· ≤ ·) := by
  rw [List.map_append, List.pairwise_append]
  refine ⟨ordered, List.pairwise_singleton _ _, ?_⟩
  intro early member late last
  rcases List.mem_map.mp member with ⟨earlier, present, rfl⟩
  rw [List.mem_singleton.mp last]
  exact seen earlier present

theorem seen_concat {calls : List Call} {call : Call} {event : Nat}
    (seen : ∀ earlier ∈ calls, earlier.event ≤ event) (same : call.event = event) :
    ∀ earlier ∈ calls ++ [call], earlier.event ≤ event := by
  intro earlier member
  rcases List.mem_append.mp member with old | new
  · exact seen earlier old
  · rw [List.mem_singleton.mp new, same]

theorem songEnded_running {startedAt : Nat} {started : Song} (song : Song)
    (running : Running events moment globals plays (some (startedAt, started)))
    (earlier : startedAt < moment.event) (same : song.id = started.id) :
    Running events moment (songEnded moment song globals)
      (plays ++ [⟨started, startedAt, song, moment.event,
        globals.timer.elapsed moment.now⟩]) none := by
  refine ⟨?_, ?_, ?_, ?_, running.event, fun _ _ none => by cases none⟩
  · rw [songEnded, running.calls]
    simp [Play.calls]
  · intro play member
    rcases List.mem_append.mp member with old | new
    · exact running.sound play old
    · rw [List.mem_singleton.mp new]
      refine ⟨same, earlier, ?_, ?_⟩
      · rw [running.event]
        exact Nat.lt_succ_self _
      · have all : (events.drop startedAt).length ≤ moment.event - startedAt + 1 := by
          rw [List.length_drop, running.event]
          omega
        rw [List.take_of_length_le all]
        exact running.elapsed startedAt started rfl
  · exact ordered_concat running.ordered running.seen
  · exact seen_concat running.seen rfl

theorem songStarted_running (song : Song) (running : Running events moment globals plays none) :
    Running events moment (songStarted moment song globals) plays
      (some (moment.event, song)) := by
  refine ⟨?_, running.sound, ?_, ?_, running.event, ?_⟩
  · rw [songStarted, running.calls]
    simp
  · exact ordered_concat running.ordered running.seen
  · exact seen_concat running.seen rfl
  · intro startedAt started now
    cases now
    have last : (events.drop moment.event).length = 1 := by
      rw [List.length_drop, running.event]
      omega
    rcases List.length_eq_one_iff.mp last with ⟨event, only⟩
    rw [only]
    exact elapsed_restart globals.timer _

/-- A song that is ended and started again in one event. -/
theorem songRestarted_running {startedAt : Nat} {started : Song} (ended song : Song)
    (running : Running events moment globals plays (some (startedAt, started)))
    (earlier : startedAt < moment.event) (same : ended.id = started.id) :
    ∃ plays, Running events moment (songStarted moment song (songEnded moment ended globals))
      plays (some (moment.event, song)) :=
  ⟨_, songStarted_running song (songEnded_running ended running earlier same)⟩

theorem Running.withTimer {current : Option (Nat × Song)}
    (running : Running events moment globals plays current) (next : Globals)
    (calls : next.calls = globals.calls)
    (timer : current.isSome → next.timer.elapsed moment.now = globals.timer.elapsed moment.now) :
    Running events moment next plays current := by
  refine ⟨calls ▸ running.calls, running.sound, calls ▸ running.ordered, calls ▸ running.seen,
    running.event, ?_⟩
  intro startedAt song now
  rw [timer (by rw [now]; rfl)]
  exact running.elapsed startedAt song now

end

/-! ### Between two events -/

structure Tracks (past : List PlayerEvent) (world : World) (plays : List Play)
    (current : Option (Nat × Song)) : Prop where
  bookkept : Bookkept past world.globals.calls plays current
  events : world.events = past.length
  paused : world.globals.wasPaused = lastIs Status.isPause past
  prev : world.globals.prev.map Song.id = current.map fun started => started.2.id
  lastId : world.globals.lastId = (world.globals.prev.map Song.id).getD noId
  active : current.isSome → world.globals.timer.active = !world.globals.wasPaused ∧
    lastIs Status.isPlay past = !world.globals.wasPaused
  elapsed : ∀ startedAt song, current = some (startedAt, song) →
    world.globals.timer.elapsed world.clock = playTime (past.drop startedAt)

section

variable {past : List PlayerEvent} {world : World} {plays : List Play}
  {current : Option (Nat × Song)}

theorem Tracks.earlier (tracks : Tracks past world plays current) (startedAt : Nat)
    (song : Song) (now : current = some (startedAt, song)) : startedAt < world.events := by
  have listed : Call.songStarted startedAt song ∈ world.globals.calls := by
    rw [tracks.bookkept.listed, now]
    exact List.mem_append_right _ (List.mem_singleton_self _)
  rw [tracks.events]
  exact tracks.bookkept.seen _ listed

theorem Tracks.arrive (tracks : Tracks past world plays current) (event : PlayerEvent) :
    Running (past ++ [event]) ⟨world.events, world.clock + event.wait⟩ world.globals plays
      current := by
  refine ⟨tracks.bookkept.listed, fun play member => (tracks.bookkept.sound play member).more event,
    tracks.bookkept.ordered, ?_, ?_, ?_⟩
  · intro call member
    rw [tracks.events]
    exact Nat.le_of_lt (tracks.bookkept.seen call member)
  · rw [tracks.events, List.length_append]
    rfl
  · intro startedAt song now
    have on : current.isSome := by rw [now]; rfl
    have bound : startedAt < past.length := tracks.events ▸ tracks.earlier startedAt song now
    have unchanged : lastIs Status.isPlay (past.drop startedAt) = lastIs Status.isPlay past := by
      rw [lastIs, lastIs, List.getLast?_drop, if_neg (by omega)]
    rw [elapsed_later, tracks.elapsed startedAt song now, (tracks.active on).1,
      List.drop_append_of_le_length (Nat.le_of_lt bound), playTime_concat, unchanged,
      (tracks.active on).2]
    split_ifs <;> simp

/-- The next state from the handled event. -/
theorem Running.tracks {event : PlayerEvent} {globals : Globals}
    (running : Running (past ++ [event]) ⟨world.events, world.clock + event.wait⟩ globals plays
      current)
    (paused : globals.wasPaused = event.status.isPause)
    (prev : globals.prev.map Song.id = current.map fun started => started.2.id)
    (lastId : globals.lastId = (globals.prev.map Song.id).getD noId)
    (active : current.isSome → globals.timer.active = !globals.wasPaused ∧
      event.status.isPlay = !globals.wasPaused)
    (on : current.map (fun started => started.2.id) = playing (past ++ [event])) :
    Tracks (past ++ [event]) ⟨world.events + 1, world.clock + event.wait, globals⟩ plays
      current := by
  refine ⟨⟨running.calls, running.sound, running.ordered, ?_, on⟩, running.event.symm, ?_, prev,
    lastId, ?_, running.elapsed⟩
  · intro call member
    rw [running.event]
    exact Nat.lt_succ_of_le (running.seen call member)
  · rw [lastIs_concat]
    exact paused
  · rw [lastIs_concat]
    exact active

/-! ### The events -/

theorem playing_concat (past : List PlayerEvent) (event : PlayerEvent) :
    playing (past ++ [event]) =
      match event.status with
      | .play song _ _ => some song.id
      | .pause _ => playing past
      | .stop => none
      | .unknown => none := by
  rw [playing, List.foldl_append]
  rfl

/-- `Tracks` for some plays. -/
def Kept (past : List PlayerEvent) (world : World) : Prop :=
  ∃ plays current, Tracks past world plays current

variable {ε : Type} (module : PlayerModule ε)

theorem pause_kept (tracks : Tracks past world plays current) (wait : Nat) (song : Song) :
    Kept (past ++ [⟨wait, .pause song⟩])
      ⟨world.events + 1, world.clock + wait,
        songPaused ⟨world.events, world.clock + wait⟩ world.globals⟩ := by
  have arrived := tracks.arrive ⟨wait, .pause song⟩
  refine ⟨plays, current, Running.tracks (arrived.withTimer _ rfl ?_) rfl tracks.prev
    tracks.lastId ?_ ?_⟩
  · intro on
    rw [songPaused]
    split_ifs with paused
    · rfl
    · exact elapsed_stop _ _ ((tracks.active on).1.trans (by simp [paused]))
  · intro on
    rw [songPaused]
    refine ⟨?_, rfl⟩
    split_ifs with paused
    · rw [(tracks.active on).1, paused]
    · rfl
  · rw [playing_concat]
    exact tracks.bookkept.playing

theorem endPrevious_none (moment : Moment) (song : Option Song) (globals : Globals)
    (prev : globals.prev = none) : endPrevious moment song globals = globals := by
  simp [endPrevious, prev]

theorem endPrevious_off (moment : Moment) (globals : Globals) (last : Song)
    (prev : globals.prev = some last) :
    endPrevious moment none globals = songEnded moment last globals := by
  simp [endPrevious, prev]

theorem endPrevious_play (moment : Moment) (song : Song) (globals : Globals) (last : Song)
    (prev : globals.prev = some last) :
    endPrevious moment (some song) globals =
      if last.id ≠ song.id ∨ (globals.isRemote ∧ titlesDiffer song last) then
        songEnded moment last globals
      else globals := by
  simp [endPrevious, prev]

/-- `event_player` without a song ends what is on. -/
theorem off_kept (tracks : Tracks past world plays current) (wait : Nat) (status : Status)
    (off : status = .stop ∨ status = .unknown) :
    Kept (past ++ [⟨wait, status⟩])
      ⟨world.events + 1, world.clock + wait,
        { endPrevious ⟨world.events, world.clock + wait⟩ none (songStopped world.globals) with
          prev := none }⟩ := by
  have arrived := tracks.arrive ⟨wait, status⟩
  have silent : playing (past ++ [⟨wait, status⟩]) = none := by
    rw [playing_concat]
    rcases off with rfl | rfl <;> rfl
  have unpaused : status.isPause = false := by
    rcases off with rfl | rfl <;> rfl
  have stopped := arrived.withTimer (songStopped world.globals) rfl fun _ => rfl
  have same := tracks.prev
  cases prev : world.globals.prev with
  | none =>
      rw [prev] at same
      have quiet : current = none := by simpa using same.symm
      subst quiet
      rw [endPrevious_none _ _ (songStopped world.globals) prev]
      exact ⟨plays, none, Running.tracks (stopped.withTimer _ rfl fun _ => rfl) unpaused.symm rfl
        rfl (fun on => by cases on) silent.symm⟩
  | some last =>
      rw [prev] at same
      rcases Option.map_eq_some_iff.mp same.symm with ⟨⟨startedAt, started⟩, now, id⟩
      subst now
      rw [endPrevious_off _ (songStopped world.globals) last prev]
      have finished := songEnded_running last stopped
        (tracks.earlier startedAt started rfl) id.symm
      exact ⟨_, none, Running.tracks (finished.withTimer _ rfl fun _ => rfl) unpaused.symm rfl
        rfl (fun on => by cases on) silent.symm⟩

/-- Leaving a pause lets the timer go on if the song that is on continues. -/
structure Left (past : List PlayerEvent) (moment : Moment) (song : Song)
    (plays : List Play) (current : Option (Nat × Song)) (before after : Globals) : Prop where
  running : Running past moment after plays current
  paused : after.wasPaused = false
  prev : after.prev = before.prev
  lastId : after.lastId = before.lastId
  active : current.isSome → song.id = before.lastId → after.timer.active = true

theorem leavePause_left (tracks : Tracks past world plays current) (wait : Nat) (song : Song)
    (elapsed : UInt32) (known : song.id ≠ noId) :
    Left (past ++ [⟨wait, .play song elapsed known⟩]) ⟨world.events, world.clock + wait⟩ song
      plays current world.globals
      (leavePause ⟨world.events, world.clock + wait⟩ (some song) world.globals) := by
  have arrived := tracks.arrive ⟨wait, .play song elapsed known⟩
  rw [leavePause]
  cases paused : world.globals.wasPaused with
  | false =>
      simp only [Bool.false_eq_true, if_false]
      refine ⟨arrived, paused, rfl, rfl, ?_⟩
      intro on _
      rw [(tracks.active on).1, paused]
      rfl
  | true =>
      simp only [if_true]
      by_cases same : song.id = world.globals.lastId
      · rw [if_pos same]
        refine ⟨arrived.withTimer _ rfl fun _ => elapsed_continue _ _, rfl, rfl, rfl, ?_⟩
        intro _ _
        exact continue_active _ _
      · rw [if_neg same]
        exact ⟨arrived.withTimer _ rfl fun _ => rfl, rfl, rfl, rfl, fun _ equal =>
          (same equal).elim⟩

/-- The song of the event has been started. -/
theorem started_kept (wait : Nat) (song : Song) (elapsed : UInt32) (known : song.id ≠ noId)
    {plays : List Play} {globals : Globals} (next : Globals)
    (started : Running (past ++ [⟨wait, .play song elapsed known⟩])
      ⟨world.events, world.clock + wait⟩
      (songStarted ⟨world.events, world.clock + wait⟩ song globals) plays
      (some (world.events, song)))
    (calls : next.calls = (songStarted ⟨world.events, world.clock + wait⟩ song globals).calls)
    (timer : next.timer = globals.timer.restart (world.clock + wait))
    (paused : next.wasPaused = false) (prev : next.prev = some song)
    (lastId : next.lastId = song.id) :
    Kept (past ++ [⟨wait, .play song elapsed known⟩])
      ⟨world.events + 1, world.clock + wait, next⟩ := by
  have on : some song.id = playing (past ++ [⟨wait, .play song elapsed known⟩]) := by
    rw [playing_concat]
  have running := started.withTimer next calls fun _ => by rw [timer]; rfl
  refine ⟨plays, some (world.events, song), running.tracks paused ?_ ?_ ?_ on⟩
  · rw [prev]
    rfl
  · rw [prev]
    exact lastId
  · intro _
    rw [timer, paused]
    exact ⟨rfl, rfl⟩

/-- The song of the event is another one than the last. -/
theorem play_another {globals : Globals} {startedAt : Nat} {started last : Song} (wait : Nat)
    (song : Song) (elapsed : UInt32) (known : song.id ≠ noId)
    (left : Left (past ++ [⟨wait, .play song elapsed known⟩]) ⟨world.events, world.clock + wait⟩
      song plays (some (startedAt, started)) world.globals globals)
    (earlier : startedAt < world.events) (id : started.id = last.id)
    (mine : globals.prev = some last) (lastSong : globals.lastId = last.id)
    (changed : last.id ≠ song.id ∨ (globals.isRemote ∧ titlesDiffer song last)) :
    Kept (past ++ [⟨wait, .play song elapsed known⟩])
      ⟨world.events + 1, world.clock + wait,
        { beginSong module ⟨world.events, world.clock + wait⟩ song elapsed
            (songEnded ⟨world.events, world.clock + wait⟩ last globals) with
          prev := some song }⟩ := by
  have changedToo : song.id ≠
        (songEnded ⟨world.events, world.clock + wait⟩ last globals).lastId ∨
      ((songEnded ⟨world.events, world.clock + wait⟩ last globals).isRemote ∧
        (songEnded ⟨world.events, world.clock + wait⟩ last globals).prev.any fun prev =>
          titlesDiffer song prev) := by
    simp only [songEnded, lastSong, mine, Option.any_some]
    exact changed.imp Ne.symm fun both => both
  rw [beginSong, if_pos changedToo]
  rcases songRestarted_running last song left.running earlier id.symm with ⟨after, restarted⟩
  exact started_kept wait song elapsed known _ restarted rfl rfl left.paused rfl rfl

/-- The song of the event is on already, and is started again where it repeats. -/
theorem play_again {globals : Globals} {startedAt : Nat} {started last : Song} (wait : Nat)
    (song : Song) (elapsed : UInt32) (known : song.id ≠ noId)
    (left : Left (past ++ [⟨wait, .play song elapsed known⟩]) ⟨world.events, world.clock + wait⟩
      song plays (some (startedAt, started)) world.globals globals)
    (earlier : startedAt < world.events) (id : started.id = last.id)
    (mine : globals.prev = some last) (lastSong : globals.lastId = last.id)
    (same : last.id = song.id) (unchanged : ¬(globals.isRemote ∧ titlesDiffer song last)) :
    Kept (past ++ [⟨wait, .play song elapsed known⟩])
      ⟨world.events + 1, world.clock + wait,
        { beginSong module ⟨world.events, world.clock + wait⟩ song elapsed globals with
          prev := some song }⟩ := by
  have on : some song.id = playing (past ++ [⟨wait, .play song elapsed known⟩]) := by
    rw [playing_concat]
  have still : song.id = world.globals.lastId := by
    calc
      song.id = last.id := same.symm
      _ = globals.lastId := lastSong.symm
      _ = world.globals.lastId := left.lastId
  have unchangedToo : ¬(song.id ≠ globals.lastId ∨
      (globals.isRemote ∧ globals.prev.any fun prev => titlesDiffer song prev)) := by
    rw [lastSong, mine]
    rintro (different | remote)
    · exact different same.symm
    · exact unchanged remote
  rw [beginSong, if_neg unchangedToo, songPlaying]
  simp only
  split_ifs
  · rcases songRestarted_running song song left.running earlier (id.trans same).symm with
      ⟨after, restarted⟩
    exact started_kept wait song elapsed known _ restarted rfl rfl left.paused rfl
      (lastSong.trans same)
  · refine ⟨plays, _, Running.tracks (left.running.withTimer _ rfl fun _ => rfl)
      left.paused ?_ (lastSong.trans same) ?_ ?_⟩
    · exact congrArg some (id.trans same).symm
    · intro on
      exact ⟨by simp [left.active on still, left.paused],
        by simp [left.paused, Status.isPlay]⟩
    · rw [← on]
      exact congrArg some (id.trans same)

theorem play_kept (tracks : Tracks past world plays current) (wait : Nat) (song : Song)
    (elapsed : UInt32) (known : song.id ≠ noId) :
    Kept (past ++ [⟨wait, .play song elapsed known⟩])
      ⟨world.events + 1, world.clock + wait,
        { beginSong module ⟨world.events, world.clock + wait⟩ song elapsed
            (endPrevious ⟨world.events, world.clock + wait⟩ (some song)
              (leavePause ⟨world.events, world.clock + wait⟩ (some song) world.globals)) with
          prev := some song }⟩ := by
  have left := leavePause_left tracks wait song elapsed known
  generalize leavePause ⟨world.events, world.clock + wait⟩ (some song) world.globals = globals
    at left
  have lastId := left.lastId.trans tracks.lastId
  have same := tracks.prev
  cases prev : world.globals.prev with
  | none =>
      rw [prev] at same lastId
      have quiet : current = none := by simpa using same.symm
      subst quiet
      have fresh : song.id ≠ globals.lastId := by
        rw [lastId]
        exact known
      rw [endPrevious_none _ _ globals (left.prev.trans prev), beginSong, if_pos (.inl fresh)]
      exact started_kept wait song elapsed known _ (songStarted_running song left.running) rfl rfl
        left.paused rfl rfl
  | some last =>
      rw [prev] at same lastId
      rcases Option.map_eq_some_iff.mp same.symm with ⟨⟨startedAt, started⟩, now, id⟩
      subst now
      have earlier := tracks.earlier startedAt started rfl
      have mine : globals.prev = some last := left.prev.trans prev
      -- both conditions of the source ask whether the song changed
      by_cases changed : last.id ≠ song.id ∨ (globals.isRemote ∧ titlesDiffer song last)
      · rw [endPrevious_play _ _ globals last mine, if_pos changed]
        exact play_another module wait song elapsed known left earlier id mine lastId changed
      · rw [endPrevious_play _ _ globals last mine, if_neg changed]
        rw [not_or, not_not] at changed
        exact play_again module wait song elapsed known left earlier id mine lastId changed.1
          changed.2

end

theorem playerStep_kept {ε : Type} (module : PlayerModule ε) (past : List PlayerEvent)
    (world : World) (event : PlayerEvent) (kept : Kept past world) :
    Holds (fun _ => False) (Kept (past ++ [event])) (playerStep module world event) := by
  rcases kept with ⟨plays, current, tracks⟩
  rcases event with ⟨wait, status⟩
  cases status with
  | play song elapsed known =>
      have delivered := play_kept module tracks wait song elapsed known
      simpa [playerStep, deliver, eventPlayer] using delivered
  | pause song =>
      have delivered := pause_kept tracks wait song
      simpa [playerStep, deliver, eventPlayer] using delivered
  | stop =>
      have delivered := off_kept tracks wait .stop (.inl rfl)
      simpa [playerStep, deliver, eventPlayer, leavePause, songStopped] using delivered
  | unknown =>
      have delivered := off_kept tracks wait .unknown (.inr rfl)
      simpa [playerStep, deliver, eventPlayer, leavePause, songStopped] using delivered

theorem playerRun_kept {ε : Type} (module : PlayerModule ε) (clock : Int)
    (events : List PlayerEvent) :
    Holds (fun _ => False) (Kept events) (playerRun module clock events) := by
  have initial : Kept [] (playerInit clock) := by
    refine ⟨[], none, ⟨rfl, ?_, List.Pairwise.nil, ?_, rfl⟩, rfl, rfl, rfl, rfl, ?_, ?_⟩
    · intro play member
      exact (List.not_mem_nil member).elim
    · intro call member
      exact (List.not_mem_nil member).elim
    · intro on
      cases on
    · intro startedAt song now
      cases now
  exact Holds.foldlM Kept (playerStep_kept module) events [] _ initial

/-- In both modules the calls of `song_started` and `song_ended` are those of whole plays
and the start of the song that is on, and each play is timed as the events say. -/
theorem event_player_bookkept (clock : Int) (events : List PlayerEvent) :
    Holds (fun _ => False)
      (fun world => ∃ plays current, Bookkept events world.globals.calls plays current)
      (playerRun stats clock events) ∧
    Holds (fun _ => False)
      (fun world => ∃ plays current, Bookkept events world.globals.calls plays current)
      (playerRun scrobbler clock events) := by
  have weaken (world : World) (kept : Kept events world) :
      ∃ plays current, Bookkept events world.globals.calls plays current := by
    rcases kept with ⟨plays, current, tracks⟩
    exact ⟨plays, current, tracks.bookkept⟩
  constructor
  · exact (playerRun_kept stats clock events).mono weaken
  · exact (playerRun_kept scrobbler clock events).mono weaken

end Mpdcron.Player
