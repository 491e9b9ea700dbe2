import Mpdcron.Scrobbler.Lives
import Mpdcron.Scrobbler.System

/-! A run of the module that never ends as one of its scrobblers sees it. -/

namespace Mpdcron.AudioScrobbler

open CString Triple Filter Player

variable {checksum : Bytes → Bytes}

/-! ### What a step of the module is to one scrobbler -/

/-- What the step brings to the scrobblers. -/
def SystemEvent.brings (before after : Player.World) : SystemEvent → List DaemonEvent
  | .player _ timestamp source => (playerCalls before after).map (callEvent timestamp source)
  | .timer scrobbler id timestr results => [.timer scrobbler id timestr results]
  | .http scrobbler request result results => [.http scrobbler request result results]
  | .otherSources count => [.otherSources count]
  | .timerSaveJournal => [.save]

/-- Each scrobbler of the one list receives what is for it and becomes the one of the other. -/
def Moved (checksum : Bytes → Bytes) (received : Nat → List Event) (before after : List Instance) :
    Prop :=
  after.length = before.length ∧ ∀ index each, before[index]? = some each →
    ∃ next, after[index]? = some next ∧
      (received index).foldlM (step checksum) each.world = .ok next.world

theorem receive_eq (each : Instance) (received : Option Event) :
    each.receive checksum received = received.toList.foldlM (step checksum) each.world := by
  cases received with
  | none => rfl
  | some event => simp [Instance.receive]

theorem stepEach_moved (event : DaemonEvent) (scrobblers : List Instance) :
    ∀ start after, stepEach checksum event start scrobblers = .ok after →
      Moved checksum (fun index => (event.received (start + index)).toList) scrobblers after := by
  induction scrobblers with
  | nil =>
      intro start after stepped
      cases stepped
      exact ⟨rfl, fun index each present => by simp at present⟩
  | cons first scrobblers ih =>
      intro start after stepped
      obtain ⟨world, moved, others⟩ := bind_ok stepped
      obtain ⟨rest, continued, same⟩ := bind_ok others
      cases same
      obtain ⟨length, later⟩ := ih (start + 1) rest continued
      refine ⟨congrArg (· + 1) length, ?_⟩
      intro index each present
      cases index with
      | zero =>
          cases present
          refine ⟨_, rfl, ?_⟩
          rw [receive_eq] at moved
          exact moved
      | succ index =>
          obtain ⟨next, found, reached⟩ := later index each present
          refine ⟨next, found, ?_⟩
          have place : start + (index + 1) = start + 1 + index := by omega
          dsimp only
          rw [place]
          exact reached

theorem daemonStep_moved {daemon next : Daemon} {event : DaemonEvent}
    (stepped : daemonStep checksum daemon event = .ok next) :
    Moved checksum (fun index => (event.received index).toList) daemon.scrobblers
      next.scrobblers := by
  have received (stepped : (do
      let scrobblers ← stepEach checksum event 0 daemon.scrobblers
      return { daemon with scrobblers := scrobblers }) = .ok next) :
      Moved checksum (fun index => (event.received index).toList) daemon.scrobblers
        next.scrobblers := by
    obtain ⟨scrobblers, moved, same⟩ := bind_ok stepped
    cases same
    simpa using stepEach_moved event daemon.scrobblers 0 scrobblers moved
  cases event with
  | save =>
      obtain ⟨files, saved, same⟩ := bind_ok stepped
      cases same
      refine ⟨List.length_map _, fun index each present => ?_⟩
      refine ⟨{ each with saved := each.saved ++ [each.world.scrobbler.queue] }, ?_, rfl⟩
      rw [List.getElem?_map, present]
      rfl
  | _ => exact received stepped

section Each

variable (run : EndlessRun (systemStep checksum)) (index : Nat)

/-- What the step brings to the scrobbler. -/
def brought (n : Nat) : List Event :=
  ((run.input n).brings (run.state n).player (run.state (n + 1)).player).filterMap
    fun event => event.received index

variable (bound : index < (run.state 0).daemon.scrobblers.length)

variable {run index bound}

end Each

end Mpdcron.AudioScrobbler
