import Mpdcron.Scrobbler.AtOnce

/-! `now_playing` across one callback: what a request carries of it, and what the answer to a
request leaves in it. -/

namespace Mpdcron.AudioScrobbler

open CString Triple

/-! ### What a request carries -/

def Record.nowPlayingData (song : Record) (session : Option Bytes) : Bytes :=
  AudioScrobbler.nowPlayingData session song.artist song.track song.album song.number song.mbid
    song.length

def HttpRequest.Carries (request : HttpRequest) (song : Record) : Prop :=
  request.caller = .scrobblerSendNowPlaying ∧
    ∃ session, request.postData = some (song.nowPlayingData session)

/-- The answer that `scrobbler_submit_response` takes for `AS_SUBMIT_OK`. -/
def HttpResult.isOk : HttpResult → Bool
  | .response body => scrobblerParseSubmitResponse (body.takeWhile (· ≠ newline)) = .ok
  | .error => false

/-! ### What a callback leaves in the slot -/

/-- A now-playing request in flight that was just sent carries the slot. -/
def Fresh (world : World) : Prop :=
  ∀ request ∈ world.requests, request.caller = .scrobblerSendNowPlaying →
    world.scrobbler.nowPlaying.isDefined ∧ request.Carries world.scrobbler.nowPlaying

structure Leaves (song : Record) (world : World) : Prop where
  slot : world.scrobbler.nowPlaying = song
  fresh : Fresh world

theorem leaves_quiet {song : Record} (world : World) (slot : world.scrobbler.nowPlaying = song)
    (quiet : world.requests = []) : Leaves song world := by
  refine ⟨slot, ?_⟩
  intro request inFlight
  rw [quiet] at inFlight
  cases inFlight

theorem leaves_sent {allowed : Assertion → Prop} {song : Record} (request : HttpRequest)
    (world : World) (slot : world.scrobbler.nowPlaying = song) (quiet : world.requests = [])
    (carries : request.caller = .scrobblerSendNowPlaying →
      song.isDefined ∧ request.Carries song) :
    Holds allowed (Leaves song) (httpClientRequest [] request world) := by
  refine (⟨slot, ?_⟩ : Leaves song (world.send request))
  intro other inFlight
  have same : other = request := by simpa [World.send, quiet] using inFlight
  rw [same]
  exact slot.symm ▸ carries

/-- No callback but one that schedules a submission of nothing fails for want of a record. -/
def Others (reason : Assertion) : Prop := reason ≠ .recordIsDefined

variable {song : Record}

theorem scrobblerScheduleHandshake_leaves (world : World)
    (slot : world.scrobbler.nowPlaying = song) (quiet : world.requests = []) :
    Holds Others (Leaves song) (scrobblerScheduleHandshake world) := by
  apply assert_holds _ fun _ => by simp [Others]
  intro _
  apply assert_holds _ fun _ => by simp [Others]
  intro _
  exact leaves_quiet _ slot quiet

theorem scrobblerScheduleSubmit_leaves (world : World)
    (slot : world.scrobbler.nowPlaying = song) (quiet : world.requests = []) :
    Holds (fun reason => reason = .recordIsDefined → world.scrobbler.queue = [] ∧
      song.isDefined = false) (Leaves song) (scrobblerScheduleSubmit world) := by
  apply assert_holds _ fun _ => by simp
  intro _
  apply assert_holds
  · intro undefined _
    rw [slot] at undefined
    simpa using undefined
  · intro _
    exact leaves_quiet _ slot quiet

theorem scrobblerSubmit_leaves (world : World)
    (slot : world.scrobbler.nowPlaying = song) (quiet : world.requests = []) :
    Holds Others (Leaves song) (scrobblerSubmit (httpClientRequest []) world) := by
  apply assert_holds _ fun _ => by simp [Others]
  intro _
  apply assert_holds _ fun _ => by simp [Others]
  intro _
  by_cases empty : world.scrobbler.queue = []
  · simp only [if_pos empty]
    by_cases defined : world.scrobbler.nowPlaying.isDefined
    · simp only [if_pos defined]
      apply assert_holds _ fun _ => by simp [Others]
      intro _
      apply assert_holds _ fun _ => by simp [Others]
      intro _
      apply leaves_sent
      · exact slot
      · exact quiet
      · intro _
        rw [← slot]
        exact ⟨defined, rfl, _, rfl⟩
    · simp only [if_neg defined]
      exact leaves_quiet _ slot quiet
  · simp only [if_neg empty]
    apply leaves_sent
    · exact slot
    · exact quiet
    · intro submission
      cases submission

theorem scrobblerHandshakeResponse_leaves (response : Bytes) (world : World)
    (slot : world.scrobbler.nowPlaying = song) (quiet : world.requests = []) :
    Holds Others (Leaves song)
      (scrobblerHandshakeResponse (httpClientRequest []) response world) := by
  apply assert_holds _ fun _ => by simp [Others]
  intro _
  simp only
  split_ifs
  · exact scrobblerScheduleHandshake_leaves _ slot quiet
  · exact scrobblerSubmit_leaves _ slot quiet
  · exact scrobblerScheduleHandshake_leaves _ slot quiet

theorem scrobblerHandshakeError_leaves (world : World)
    (slot : world.scrobbler.nowPlaying = song) (quiet : world.requests = []) :
    Holds Others (Leaves song) (scrobblerHandshakeError world) := by
  apply assert_holds _ fun _ => by simp [Others]
  intro _
  exact scrobblerScheduleHandshake_leaves _ slot quiet

theorem removeOldest_leaves (count : Nat) (world : World)
    (slot : world.scrobbler.nowPlaying = song) (quiet : world.requests = []) :
    Holds Others (fun next => next.scrobbler.nowPlaying = song ∧ next.requests = [])
      (removeOldest count world) := by
  induction count generalizing world with
  | zero => exact ⟨slot, quiet⟩
  | succ count ih =>
      rw [removeOldest]
      cases world.scrobbler.queue with
      | nil => exact (by simp [Others] : Others .emptyQueue)
      | cons oldest queue => exact ih _ slot quiet

theorem scrobblerQueueRemoveOldest_leaves (count : Nat) (world : World)
    (slot : world.scrobbler.nowPlaying = song) (quiet : world.requests = []) :
    Holds Others (fun next => next.scrobbler.nowPlaying = song ∧ next.requests = [])
      (scrobblerQueueRemoveOldest count world) := by
  apply assert_holds _ fun _ => by simp [Others]
  intro _
  exact removeOldest_leaves count world slot quiet

/-- What is pending is in the queue, so a submission that failed is scheduled again. -/
theorem scrobblerSubmitResponse_submission (response : Bytes) (world : World)
    (slot : world.scrobbler.nowPlaying = song) (quiet : world.requests = [])
    (pending : 0 < world.scrobbler.pending) (queued : world.scrobbler.queue ≠ []) :
    Holds Others (Leaves song)
      (scrobblerSubmitResponse (httpClientRequest []) response world) := by
  apply assert_holds _ fun _ => by simp [Others]
  intro _
  simp only
  split
  · rw [if_pos (by exact pending)]
    apply Holds.bind
    · apply scrobblerQueueRemoveOldest_leaves
      · exact slot
      · exact quiet
    · intro next kept
      exact scrobblerSubmit_leaves _ kept.1 kept.2
  · apply Holds.allow
    · apply scrobblerScheduleSubmit_leaves
      · exact slot
      · exact quiet
    · intro reason allowed undefined
      exact queued (allowed undefined).1
  · exact scrobblerScheduleHandshake_leaves _ slot quiet

def afterNowPlaying (result : HttpResult) (song : Record) : Record :=
  if result.isOk then recordZero else song

/-- OK clears the slot, whatever it holds by then. -/
theorem scrobblerSubmitResponse_nowPlaying (response : Bytes) (world : World)
    (slot : world.scrobbler.nowPlaying = song) (quiet : world.requests = [])
    (nonePending : world.scrobbler.pending = 0) :
    Holds (fun reason => reason = .recordIsDefined → song.isDefined = false)
      (Leaves (afterNowPlaying (.response response) song))
      (scrobblerSubmitResponse (httpClientRequest []) response world) := by
  apply assert_holds _ fun _ => by simp
  intro _
  simp only
  split
  · rename_i accepted
    rw [if_neg (by simpa [World.update] using nonePending)]
    have cleared : afterNowPlaying (.response response) song = recordZero :=
      if_pos (by simpa [HttpResult.isOk] using accepted)
    rw [cleared]
    apply assert_holds
    · intro undefined _
      have slotUndefined : ¬world.scrobbler.nowPlaying.isDefined := undefined
      rw [slot] at slotUndefined
      simpa using slotUndefined
    · intro _
      apply Holds.allow
      · apply scrobblerSubmit_leaves
        · rfl
        · exact quiet
      · intro reason other undefined
        exact (other undefined).elim
  · rename_i failed
    have kept : afterNowPlaying (.response response) song = song :=
      if_neg (by rw [HttpResult.isOk, failed]; decide)
    rw [kept]
    apply Holds.allow
    · apply scrobblerScheduleSubmit_leaves
      · exact slot
      · exact quiet
    · intro reason allowed undefined
      exact (allowed undefined).2
  · rename_i badSession
    have kept : afterNowPlaying (.response response) song = song :=
      if_neg (by rw [HttpResult.isOk, badSession]; decide)
    rw [kept]
    apply Holds.allow
    · apply scrobblerScheduleHandshake_leaves
      · exact slot
      · exact quiet
    · intro reason other undefined
      exact (other undefined).elim

theorem scrobblerSubmitError_leaves (world : World)
    (slot : world.scrobbler.nowPlaying = song) (quiet : world.requests = []) :
    Holds (fun reason => reason = .recordIsDefined → world.scrobbler.queue = [] ∧
      song.isDefined = false) (Leaves song) (scrobblerSubmitError world) := by
  apply assert_holds _ fun _ => by simp
  intro _
  exact scrobblerScheduleSubmit_leaves _ slot quiet

theorem dispatchTimer_leaves (checksum : Bytes → Bytes) (timestr : Bytes) (source : Source)
    (world : World) (slot : world.scrobbler.nowPlaying = song) (quiet : world.requests = []) :
    Holds Others (Leaves song)
      (dispatchTimer checksum (httpClientRequest []) timestr source world) := by
  rcases source with ⟨id, interval, callback⟩
  cases callback with
  | scrobblerHandshakeTimer =>
      apply assert_holds _ fun _ => by simp [Others]
      intro _
      apply leaves_sent
      · exact slot
      · exact quiet
      · intro handshake
        cases handshake
  | scrobblerSubmitTimer =>
      apply assert_holds _ fun _ => by simp [Others]
      intro _
      exact scrobblerSubmit_leaves _ slot quiet

theorem scheduleIfReady_slot (world : World) (slot : world.scrobbler.nowPlaying = song) :
    Holds (fun _ => True) (fun next => next.scrobbler.nowPlaying = song)
      (scheduleIfReady world) := by
  rw [scheduleIfReady]
  split
  · apply assert_holds _ fun _ => trivial
    intro _
    apply assert_holds _ fun _ => trivial
    intro _
    exact slot
  · exact slot

variable {config : ScrobblerConfig} {log : List Record}

def afterAnswer (request : HttpRequest) (result : HttpResult) (song : Record) : Record :=
  if request.caller = .scrobblerSendNowPlaying then afterNowPlaying result song else song

/-- Only OK for a now-playing song changes the slot, and only that can find it undefined. -/
theorem callHandler_leaves (request : HttpRequest) (result : HttpResult) (world : World)
    (sent : Invariant config log (world.send request))
    (slot : world.scrobbler.nowPlaying = song) :
    Holds (fun reason => reason = .recordIsDefined →
        request.caller = .scrobblerSendNowPlaying ∧ song.isDefined = false)
      (Leaves (afterAnswer request result song))
      (callHandler (httpClientRequest []) request.handler result world) := by
  rcases sent with ⟨phase, books⟩
  cases phase with
  | handshakeArmed _ _ _ _ quiet => simp [World.send] at quiet
  | submitArmed _ _ _ _ quiet => simp [World.send] at quiet
  | resting _ _ quiet => simp [World.send] at quiet
  | handshakeInFlight state unarmed other inFlight handler caller =>
      rcases only_request _ _ _ inFlight with ⟨quiet, rfl⟩
      have answered : Holds Others (Leaves song)
          (callHandler (httpClientRequest []) .scrobblerHandshakeHandler result world) := by
        cases result with
        | response body => exact scrobblerHandshakeResponse_leaves body world slot quiet
        | error => exact scrobblerHandshakeError_leaves world slot quiet
      rw [handler, afterAnswer, if_neg (by simp [caller])]
      exact answered.allow fun reason others undefined => (others undefined).elim
  | submissionInFlight state unarmed other inFlight handler caller pending =>
      rcases only_request _ _ _ inFlight with ⟨quiet, rfl⟩
      have queued : world.scrobbler.queue ≠ [] := by
        have bound : world.scrobbler.pending ≤ world.scrobbler.queue.length := books.pending
        have positive : 0 < world.scrobbler.pending := pending
        exact List.length_pos_iff.mp (by omega)
      rw [handler, afterAnswer, if_neg (by simp [caller])]
      cases result with
      | response body =>
          apply (scrobblerSubmitResponse_submission body world slot quiet pending queued).allow
          intro reason others undefined
          exact (others undefined).elim
      | error =>
          apply (scrobblerSubmitError_leaves world slot quiet).allow
          intro reason allowed undefined
          exact (queued (allowed undefined).1).elim
  | nowPlayingInFlight state unarmed other inFlight handler caller nonePending =>
      rcases only_request _ _ _ inFlight with ⟨quiet, rfl⟩
      rw [handler, afterAnswer, if_pos caller]
      cases result with
      | response body =>
          apply (scrobblerSubmitResponse_nowPlaying body world slot quiet nonePending).allow
          intro reason allowed undefined
          exact ⟨caller, allowed undefined⟩
      | error =>
          apply (scrobblerSubmitError_leaves world slot quiet).allow
          intro reason allowed undefined
          exact ⟨caller, (allowed undefined).2⟩

end Mpdcron.AudioScrobbler
