import Mpdcron.Player.Bookkeeping

/-! PLAY events of the song that is on: what a module makes of them for files and for streams. -/

namespace Mpdcron.Player

open CString Timer Triple

/-! ### The song that is on -/

/-- The song of the last PLAY event, with no stop behind it. -/
def lastPlayed (events : List PlayerEvent) : Option Song :=
  events.foldl
    (fun last event =>
      match event.status with
      | .play song _ _ => some song
      | .pause _ => last
      | .stop => none
      | .unknown => none)
    none

theorem lastPlayed_concat (past : List PlayerEvent) (event : PlayerEvent) :
    lastPlayed (past ++ [event]) =
      match event.status with
      | .play song _ _ => some song
      | .pause _ => lastPlayed past
      | .stop => none
      | .unknown => none := by
  rw [lastPlayed, List.foldl_append]
  rfl

section Module

variable {ε : Type} (module : PlayerModule ε)

/-- `prev` is a copy of it. -/
theorem playerStep_prev (past : List PlayerEvent) (world : World) (event : PlayerEvent)
    (prev : world.globals.prev = lastPlayed past) :
    Holds (fun _ => False) (fun next => next.globals.prev = lastPlayed (past ++ [event]))
      (playerStep module world event) := by
  rcases event with ⟨wait, status⟩
  rw [lastPlayed_concat]
  cases status with
  | play song elapsed known => simp [playerStep, deliver, eventPlayer]
  | pause song => simpa [playerStep, deliver, eventPlayer, songPaused] using prev
  | stop => simp [playerStep, deliver, eventPlayer]
  | unknown => simp [playerStep, deliver, eventPlayer]

theorem playerRun_prev (clock : Int) (events : List PlayerEvent) :
    Holds (fun _ => False) (fun world => world.globals.prev = lastPlayed events)
      (playerRun module clock events) :=
  Holds.foldlM (fun past world => world.globals.prev = lastPlayed past) (playerStep_prev module)
    events [] (playerInit clock) rfl

/-- What is known in a state that a run has reached. -/
theorem reached_last {clock : Int} {events : List PlayerEvent} {world : World} {last : Song}
    (run : playerRun module clock events = .ok world) (on : lastPlayed events = some last) :
    world.globals.prev = some last ∧ world.globals.lastId = last.id := by
  have prev := playerRun_prev module clock events
  have kept := playerRun_kept module clock events
  rw [run, holds_ok] at prev kept
  rcases kept with ⟨plays, current, tracks⟩
  have same := prev.trans on
  refine ⟨same, ?_⟩
  rw [tracks.lastId, same]
  rfl

/-! ### One more PLAY event -/

/-- The reading of the timer when the event arrives. -/
def timerAt (world : World) (wait : Nat) : Int := world.globals.timer.elapsed (world.clock + wait)

/-- The calls of an event for the song that is on: two comparisons of titles decide them, and the
test for a repeated song where these find no change. -/
def sameSongCalls (world : World) (last song : Song) (wait : Nat) (elapsed : UInt32) : List Call :=
  if world.globals.isRemote ∧ titlesDiffer song last then
    [.songEnded world.events last (timerAt world wait), .songStarted world.events song]
  else if module.songRepeated song elapsed (seconds (timerAt world wait)) then
    [.songEnded world.events song (timerAt world wait), .songStarted world.events song]
  else []

/-- Leaving a pause of the same song moves the timer on, and nothing else is seen of it. -/
theorem leavePause_same (moment : Moment) (song : Song) (globals : Globals)
    (same : song.id = globals.lastId) :
    ∃ timer, leavePause moment (some song) globals
        = { globals with timer := timer, wasPaused := false } ∧
      timer.elapsed moment.now = globals.timer.elapsed moment.now := by
  rw [leavePause]
  cases paused : globals.wasPaused with
  | false =>
      refine ⟨globals.timer, ?_, rfl⟩
      rw [if_neg Bool.false_ne_true, ← paused]
  | true =>
      refine ⟨globals.timer.continue moment.now, ?_, elapsed_continue _ _⟩
      rw [if_pos rfl]
      dsimp only
      rw [if_pos same, songContinued]

theorem play_calls (world : World) (last song : Song) (wait : Nat) (elapsed : UInt32)
    (known : song.id ≠ noId) (prev : world.globals.prev = some last)
    (lastId : world.globals.lastId = last.id) (same : song.id = last.id) :
    ∃ next, playerStep module world ⟨wait, .play song elapsed known⟩ = .ok next ∧
      next.globals.calls
        = world.globals.calls ++ sameSongCalls module world last song wait elapsed := by
  rcases leavePause_same ⟨world.events, world.clock + wait⟩ song world.globals
    (same.trans lastId.symm) with ⟨timer, left, reading⟩
  refine ⟨_, by simp [playerStep, deliver, eventPlayer]; rfl, ?_⟩
  dsimp only
  rw [left, endPrevious_play _ song { world.globals with timer := timer, wasPaused := false } last prev,
    sameSongCalls]
  by_cases changed : world.globals.isRemote ∧ titlesDiffer song last
  · rw [if_pos changed, if_pos (Or.inr changed), beginSong, if_pos]
    · simp only [songStarted, songEnded, reading, timerAt, List.append_assoc, List.cons_append,
        List.nil_append]
    · simp only [songEnded, prev, Option.any_some]
      exact Or.inr changed
  · have still : ¬(last.id ≠ song.id ∨ (world.globals.isRemote ∧ titlesDiffer song last)) :=
      not_or.mpr ⟨not_not.mpr same.symm, changed⟩
    rw [if_neg changed, if_neg still, beginSong, if_neg, songPlaying]
    · simp only [reading, timerAt]
      split_ifs with repeated <;> simp [songStarted, songEnded, reading, repeated]
    · simp only [lastId, prev, Option.any_some]
      exact not_or.mpr ⟨not_not.mpr same, changed⟩

/-! ### Streams -/

/-- An unchanged song is left alone, and a stream with another title is another play. -/
def FollowsTitle (world : World) (last song : Song) (wait : Nat) (elapsed : UInt32)
    (known : song.id ≠ noId) : Prop :=
  ∃ next, playerStep module world ⟨wait, .play song elapsed known⟩ = .ok next ∧
    (song.title = last.title → seconds (timerAt world wait) ≤ elapsed.toNat →
      next.globals.calls = world.globals.calls) ∧
    (song.title ≠ last.title → isRemoteUri song.uri →
      next.globals.calls = world.globals.calls ++
        [.songEnded world.events last (timerAt world wait), .songStarted world.events song])

/-- When the module does: a title that stays must not be compared at all, nor the song count as a
repeated one, and a title that changes must be compared. -/
def ComparesTitle (world : World) (last song : Song) (wait : Nat) (elapsed : UInt32) : Prop :=
  (song.title = last.title → seconds (timerAt world wait) ≤ elapsed.toNat →
    ¬(world.globals.isRemote ∧ song.title.isSome) ∧
      module.songRepeated song elapsed (seconds (timerAt world wait)) = false) ∧
  (song.title ≠ last.title → isRemoteUri song.uri → world.globals.isRemote = true)

/-- Two copies of one title have different addresses. -/
theorem titlesDiffer_same {song last : Song} (same : song.title = last.title) :
    titlesDiffer song last = song.title.isSome := by
  rw [titlesDiffer, ← same, Bool.or_self]

theorem titlesDiffer_changed {song last : Song} (changed : song.title ≠ last.title) :
    titlesDiffer song last = true := by
  rw [titlesDiffer]
  cases one : song.title with
  | some title => rfl
  | none =>
      cases other : last.title with
      | some title => rfl
      | none => exact absurd (one.trans other.symm) changed

section Calls

variable {world : World} {last song : Song} (wait : Nat) (elapsed : UInt32)

theorem calls_unchanged (same : song.title = last.title) :
    sameSongCalls module world last song wait elapsed = [] ↔
      ¬(world.globals.isRemote ∧ song.title.isSome) ∧
        module.songRepeated song elapsed (seconds (timerAt world wait)) = false := by
  rw [sameSongCalls, titlesDiffer_same same]
  split_ifs with compared repeated
  · simp [compared]
  · simp [repeated]
  · simp [compared, repeated]

theorem calls_changed (changed : song.title ≠ last.title) :
    sameSongCalls module world last song wait elapsed
        = [.songEnded world.events last (timerAt world wait), .songStarted world.events song] ↔
      world.globals.isRemote = true := by
  have other : song ≠ last := fun same => changed (congrArg Song.title same)
  rw [sameSongCalls, titlesDiffer_changed changed]
  split_ifs with remote repeated
  · simp [remote.1]
  · simpa [other] using remote
  · simpa using remote

end Calls

theorem followsTitle_iff {clock : Int} {events : List PlayerEvent} {world : World} {last : Song}
    (run : playerRun module clock events = .ok world) (on : lastPlayed events = some last)
    (song : Song) (wait : Nat) (elapsed : UInt32) (known : song.id ≠ noId)
    (same : song.id = last.id) :
    FollowsTitle module world last song wait elapsed known ↔
      ComparesTitle module world last song wait elapsed := by
  rcases reached_last module run on with ⟨prev, lastId⟩
  rcases play_calls module world last song wait elapsed known prev lastId same with
    ⟨next, stepped, calls⟩
  have unchanged : next.globals.calls = world.globals.calls ↔
      sameSongCalls module world last song wait elapsed = [] := by
    rw [calls, List.append_right_eq_self]
  have restarted (more : List Call) : next.globals.calls = world.globals.calls ++ more ↔
      sameSongCalls module world last song wait elapsed = more := by
    rw [calls, List.append_cancel_left_eq]
  have only : FollowsTitle module world last song wait elapsed known ↔
      (song.title = last.title → seconds (timerAt world wait) ≤ elapsed.toNat →
        next.globals.calls = world.globals.calls) ∧
      (song.title ≠ last.title → isRemoteUri song.uri →
        next.globals.calls = world.globals.calls ++
          [.songEnded world.events last (timerAt world wait),
            .songStarted world.events song]) := by
    rw [FollowsTitle, stepped]
    constructor
    · intro follows
      rcases follows with ⟨other, first, both⟩
      cases first
      exact both
    · exact fun both => ⟨next, rfl, both⟩
  rw [only, ComparesTitle]
  refine and_congr ?_ ?_
  · refine forall_congr' fun titles => forall_congr' fun _ => ?_
    rw [unchanged, calls_unchanged module wait elapsed titles]
  · refine forall_congr' fun titles => forall_congr' fun _ => ?_
    rw [restarted, calls_changed module wait elapsed titles]

end Module

/-- For the stats module a song whose timer is not ahead is never a repeated one. -/
theorem stats_not_repeated (song : Song) (elapsed : UInt32) (prevElapsed : Int)
    (behind : prevElapsed ≤ elapsed.toNat) : stats.songRepeated song elapsed prevElapsed = false := by
  rw [stats, decide_eq_false_iff_not]
  omega

/-- In both modules an unchanged song is left alone if and only if it is no stream with a title
(nor, for the scrobbler, an elapsed time that is no `int` makes it a repeated one), and a stream
with another title is another play if and only if the play before came from a stream. -/
theorem unchanged_stream_iff {clock : Int} {events : List PlayerEvent} {last song : Song}
    (on : lastPlayed events = some last) (wait : Nat) (elapsed : UInt32) (known : song.id ≠ noId)
    (same : song.id = last.id) :
    (∀ world, playerRun stats clock events = .ok world →
      (FollowsTitle stats world last song wait elapsed known ↔
        (song.title = last.title → seconds (timerAt world wait) ≤ elapsed.toNat →
          ¬(world.globals.isRemote ∧ song.title.isSome)) ∧
        (song.title ≠ last.title → isRemoteUri song.uri → world.globals.isRemote = true))) ∧
    ∀ world, playerRun scrobbler clock events = .ok world →
      (FollowsTitle scrobbler world last song wait elapsed known ↔
        ComparesTitle scrobbler world last song wait elapsed) := by
  constructor
  · intro world run
    rw [followsTitle_iff stats run on song wait elapsed known same, ComparesTitle]
    refine and_congr_left fun _ => ?_
    refine forall_congr' fun _ => forall_congr' fun behind => ?_
    rw [and_iff_left (stats_not_repeated song elapsed _ behind)]
  · intro world run
    exact followsTitle_iff scrobbler run on song wait elapsed known same

/-! ### A stream that goes on -/

def stream : Song where
  uri := lit "http://localhost:8000/radio.ogg"
  id := 7
  duration := 0
  artist := some (lit "Can")
  title := some (lit "Vitamin C")
  album := none
  track := none
  musicbrainzTrackid := none

def streamPlays : List PlayerEvent := [⟨0, .play stream 0 (by decide)⟩]

/-- The same song as a file. -/
def filed : Song := { stream with uri := lit "can/vitamin-c.ogg" }

def filedPlays : List PlayerEvent := [⟨0, .play filed 0 (by decide)⟩]

theorem filed_left_alone :
    ∃ world, playerRun stats 0 filedPlays = .ok world ∧
      FollowsTitle stats world filed filed 10000000 10 (by decide) := by
  refine ⟨_, rfl, ?_⟩
  have follows := @unchanged_stream_iff 0 filedPlays filed filed rfl 10000000 10 (by decide) rfl
  refine (follows.1 _ rfl).mpr ⟨?_, ?_⟩
  · intro _ _ streams
    exact absurd streams.1 (by decide +kernel)
  · intro changed
    exact absurd rfl changed

/-- Ten seconds later the stream is reported once more, with the title it had, and both modules
submit it. -/
theorem stream_submitted_again :
    ∃ world other, playerRun stats 0 streamPlays = .ok world ∧
      playerRun scrobbler 0 streamPlays = .ok other ∧
      lastPlayed streamPlays = some stream ∧
      ¬FollowsTitle stats world stream stream 10000000 10 (by decide) ∧
      ¬FollowsTitle scrobbler other stream stream 10000000 10 (by decide) := by
  refine ⟨_, _, rfl, rfl, rfl, ?_, ?_⟩
  · intro follows
    have compares := (@followsTitle_iff _ stats 0 streamPlays _ stream rfl rfl stream 10000000 10
      (by decide) rfl).mp follows
    exact (compares.1 rfl (by decide +kernel)).1 (by decide +kernel)
  · intro follows
    have compares := (@followsTitle_iff _ scrobbler 0 streamPlays _ stream rfl rfl stream 10000000 10
      (by decide) rfl).mp follows
    exact (compares.1 rfl (by decide +kernel)).1 (by decide +kernel)

end Mpdcron.Player
