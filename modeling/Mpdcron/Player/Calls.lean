import Mpdcron.Lib.Triple
import Mpdcron.Player.Event

/-! The calls that one player event adds. -/

namespace Mpdcron.Player

open Triple

/-- The calls between two states of the globals; songs that were started are the event's. -/
def Adds (song : Option Song) (before after : Globals) : Prop :=
  ∃ more, after.calls = before.calls ++ more ∧
    ∀ event started, Call.songStarted event started ∈ more → song = some started

section Calls

variable {song : Option Song} {before middle after : Globals}

theorem Adds.same (calls : after.calls = before.calls) : Adds song before after :=
  ⟨[], by rw [calls, List.append_nil], fun _ _ member => (List.not_mem_nil member).elim⟩

theorem Adds.trans (first : Adds song before middle) (second : Adds song middle after) :
    Adds song before after := by
  rcases first with ⟨more, calls, starts⟩
  rcases second with ⟨others, later, othersStart⟩
  refine ⟨more ++ others, by rw [later, calls, List.append_assoc], ?_⟩
  intro event started member
  rcases List.mem_append.mp member with early | late
  · exact starts event started early
  · exact othersStart event started late

theorem songEnded_adds (moment : Moment) (ended : Song) (globals : Globals) :
    Adds song globals (songEnded moment ended globals) :=
  ⟨[.songEnded moment.event ended (globals.timer.elapsed moment.now)], rfl, by simp⟩

theorem songStarted_adds (moment : Moment) (started : Song) (globals : Globals) :
    Adds (some started) globals (songStarted moment started globals) := by
  refine ⟨[.songStarted moment.event started], rfl, ?_⟩
  intro event other member
  cases List.mem_singleton.mp member
  rfl

theorem leavePause_adds (moment : Moment) (globals : Globals) :
    Adds song globals (leavePause moment song globals) := by
  apply Adds.same
  unfold leavePause
  cases song with
  | none => split_ifs <;> rfl
  | some song =>
      dsimp only [songContinued]
      split_ifs <;> rfl

theorem endPrevious_adds (moment : Moment) (globals : Globals) :
    Adds song globals (endPrevious moment song globals) := by
  unfold endPrevious
  split
  · exact .same rfl
  · exact songEnded_adds moment _ globals
  · split_ifs
    · exact songEnded_adds moment _ globals
    · exact .same rfl

theorem beginSong_adds {ε : Type} (module : PlayerModule ε) (moment : Moment) (started : Song)
    (elapsed : UInt32) (globals : Globals) :
    Adds (some started) globals (beginSong module moment started elapsed globals) := by
  rw [beginSong]
  split_ifs
  · exact (songStarted_adds moment started globals).trans (.same rfl)
  · unfold songPlaying
    simp only
    split_ifs
    · exact (songEnded_adds moment started globals).trans (songStarted_adds moment started _)
    · exact .same rfl

/-- What `event_player` does with the globals when it is no pause. -/
theorem handled_adds {ε : Type} (module : PlayerModule ε) (moment : Moment) (elapsed : UInt32)
    (globals : Globals) :
    Adds song globals
      { (match song with
          | none => endPrevious moment song (leavePause moment song globals)
          | some started => beginSong module moment started elapsed
              (endPrevious moment song (leavePause moment song globals))) with
        prev := song } := by
  have left : Adds song globals (endPrevious moment song (leavePause moment song globals)) :=
    (leavePause_adds moment globals).trans (endPrevious_adds moment _)
  cases song with
  | none => exact left.trans (.same rfl)
  | some started =>
      exact (left.trans (beginSong_adds module moment started elapsed _)).trans (.same rfl)

theorem eventPlayer_adds {ε : Type} (module : PlayerModule ε) (moment : Moment) (state : MpdState)
    (song : Option Song) (elapsed : UInt32) (globals : Globals) :
    Holds (fun _ => True) (Adds song globals)
      (eventPlayer module moment state song elapsed globals) := by
  unfold eventPlayer
  split_ifs
  · trivial
  · exact Adds.same rfl
  · exact Adds.trans (.same rfl) (handled_adds module moment elapsed (songStopped globals))
  · exact handled_adds module moment elapsed globals

end Calls

/-- The song of a PLAY event. -/
def PlayerEvent.song (event : PlayerEvent) : Option Song :=
  match event.status with
  | .play song _ _ => some song
  | _ => none

theorem playerStep_adds {ε : Type} (module : PlayerModule ε) (world : World)
    (event : PlayerEvent) :
    Holds (fun _ => False) (fun next => Adds event.song world.globals next.globals)
      (playerStep module world event) := by
  have never : ∀ moment globals state song elapsed, (song = none → state ≠ .play) →
      Holds (fun _ => False) (Adds song globals)
        (eventPlayer module moment state song elapsed globals) := by
    intro moment globals state song elapsed played
    have adds := eventPlayer_adds module moment state song elapsed globals
    rw [eventPlayer, if_neg fun failed => played failed.2.1 failed.2.2] at adds ⊢
    split_ifs at adds ⊢ <;> exact adds
  rcases event with ⟨wait, status⟩
  have delivered : Holds (fun _ => False) (Adds (PlayerEvent.song ⟨wait, status⟩) world.globals)
      (deliver module ⟨world.events, world.clock + wait⟩ status world.globals) := by
    cases status with
    | play song elapsed known => exact never _ _ .play (some song) elapsed fun none => by cases none
    | pause song =>
        have paused : Adds none world.globals
            (songPaused ⟨world.events, world.clock + wait⟩ world.globals) := .same rfl
        simpa [deliver, eventPlayer, PlayerEvent.song] using paused
    | stop => exact never _ _ .stop none 0 fun _ => by decide
    | unknown => exact never _ _ .unknown none 0 fun _ => by decide
  exact delivered.bind fun globals adds => adds

end Mpdcron.Player
