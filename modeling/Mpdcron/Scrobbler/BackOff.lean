import Mpdcron.Scrobbler.Handshake

/-! How long a scrobbler waits before it tries again: the interval as a function of the failures
since the last success. -/

namespace Mpdcron.AudioScrobbler

open CString Triple

/-! ### The interval and the failures -/

/-- What an answer is to the interval: BADSESSION is neither a success nor a failure. -/
inductive Verdict where
  | success
  | failure
  | neither
  deriving DecidableEq, Repr

def verdict : HttpClientHandler → HttpResult → Verdict
  | .scrobblerHandshakeHandler, .response body =>
      if (handshakeLines body).isSome then .success else .failure
  | .scrobblerSubmitHandler, .response body =>
      match scrobblerParseSubmitResponse (body.takeWhile (· ≠ newline)) with
      | .ok => .success
      | .failed => .failure
      | .handshake => .neither
  | _, .error => .failure

/-- The failures since the last success, after one more answer. -/
def Verdict.failures : Verdict → Nat → Nat
  | .success, _ => 0
  | .failure, failures => failures + 1
  | .neither, failures => failures

/-- The seconds to wait after so many failures. -/
def delay (failures : Nat) : Nat :=
  if failures = 0 then 1 else min 7200 (60 * 2 ^ (failures - 1))

theorem delay_le (failures : Nat) : delay failures ≤ 7200 := by
  rw [delay]
  split
  · decide
  · exact Nat.min_le_left _ _

/-- One more failure doubles the delay, up to two hours. -/
theorem scrobblerIncreaseInterval_delay (scrobbler : Scrobbler) (failures : Nat)
    (interval : scrobbler.interval = delay failures) :
    (scrobblerIncreaseInterval scrobbler).interval = delay (failures + 1) := by
  cases failures with
  | zero =>
      rw [scrobblerIncreaseInterval, interval]
      rfl
  | succ failures =>
      have doubled : 60 * 2 ^ (failures + 1) = 60 * 2 ^ failures * 2 := by
        rw [Nat.pow_succ, Nat.mul_assoc]
      have least : 60 ≤ 60 * 2 ^ failures := Nat.le_mul_of_pos_right 60 (Nat.two_pow_pos failures)
      have before : delay (failures + 1) = min 7200 (60 * 2 ^ failures) := by
        simp [delay]
      have after : delay (failures + 1 + 1) = min 7200 (60 * 2 ^ failures * 2) := by
        rw [← doubled]
        simp [delay]
      rw [scrobblerIncreaseInterval, interval, before, after]
      generalize 60 * 2 ^ failures = seconds at least
      dsimp only
      split_ifs <;> omega

/-! ### What the callbacks do with the interval -/

/-- The interval afterwards. -/
abbrev Waits (interval : Nat) (outcome : Outcome) : Prop :=
  Holds (fun _ => True) (fun next => next.scrobbler.interval = interval) outcome

theorem assert_waits {condition : Prop} [Decidable condition] {interval : Nat}
    (reason : Assertion) (world : World) (rest : World → Outcome)
    (continued : Waits interval (rest world)) :
    Waits interval (assert condition reason world >>= rest) :=
  assert_holds world (fun _ => trivial) fun _ => continued

theorem scrobblerScheduleHandshake_waits (world : World) :
    Waits world.scrobbler.interval (scrobblerScheduleHandshake world) := by
  apply assert_waits
  apply assert_waits
  exact rfl

theorem scrobblerScheduleSubmit_waits (world : World) :
    Waits world.scrobbler.interval (scrobblerScheduleSubmit world) := by
  apply assert_waits
  apply assert_waits
  exact rfl

theorem scrobblerSubmit_waits (world : World) :
    Waits world.scrobbler.interval (scrobblerSubmit (httpClientRequest []) world) := by
  apply assert_waits
  apply assert_waits
  split
  · dsimp only
    split
    · apply assert_waits
      apply assert_waits
      exact rfl
    · exact rfl
  · exact rfl

/-- An answer makes the interval what its verdict says. -/
def Verdict.interval (scrobbler : Scrobbler) : Verdict → Nat
  | .success => 1
  | .failure => (scrobblerIncreaseInterval scrobbler).interval
  | .neither => scrobbler.interval

theorem Verdict.interval_delay (scrobbler : Scrobbler) (failures : Nat)
    (interval : scrobbler.interval = delay failures) (verdict : Verdict) :
    verdict.interval scrobbler = delay (verdict.failures failures) := by
  cases verdict with
  | success => rfl
  | failure => exact scrobblerIncreaseInterval_delay scrobbler failures interval
  | neither => exact interval

theorem scrobblerHandshakeResponse_waits (response : Bytes) (world : World) :
    Waits ((verdict .scrobblerHandshakeHandler (.response response)).interval world.scrobbler)
      (scrobblerHandshakeResponse (httpClientRequest []) response world) := by
  by_cases state : world.scrobbler.state = .handshake
  · rw [scrobblerHandshakeResponse_eq _ response world state, verdict]
    cases handshakeLines response with
    | some session => exact scrobblerSubmit_waits _
    | none =>
        have same : (scrobblerIncreaseInterval (failedHandshake response
            { world.scrobbler with state := .nothing })).interval
              = (scrobblerIncreaseInterval world.scrobbler).interval := by
          rw [failedHandshake]
          split <;> rfl
        change Waits (scrobblerIncreaseInterval world.scrobbler).interval
          (scrobblerScheduleHandshake _)
        rw [← same]
        exact scrobblerScheduleHandshake_waits _
  · rw [scrobblerHandshakeResponse, assert, if_neg state]
    exact trivial

theorem scrobblerSubmitResponse_waits (response : Bytes) (world : World) :
    Waits ((verdict .scrobblerSubmitHandler (.response response)).interval world.scrobbler)
      (scrobblerSubmitResponse (httpClientRequest []) response world) := by
  apply assert_waits
  rw [verdict]
  dsimp only
  cases scrobblerParseSubmitResponse (response.takeWhile (· ≠ newline)) with
  | ok =>
      dsimp only
      split
      · apply Holds.bind (scrobblerQueueRemoveOldest_shortened _ _)
        intro next shorter
        rcases shorter with ⟨queue, removed, rfl⟩
        exact scrobblerSubmit_waits _
      · apply assert_waits
        exact scrobblerSubmit_waits _
  | failed => exact scrobblerScheduleSubmit_waits _
  | handshake => exact scrobblerScheduleHandshake_waits _

theorem callHandler_waits (handler : HttpClientHandler) (result : HttpResult) (world : World) :
    Waits ((verdict handler result).interval world.scrobbler)
      (callHandler (httpClientRequest []) handler result world) := by
  cases handler with
  | scrobblerHandshakeHandler =>
      cases result with
      | response body => exact scrobblerHandshakeResponse_waits body world
      | error =>
          apply assert_waits
          exact scrobblerScheduleHandshake_waits _
  | scrobblerSubmitHandler =>
      cases result with
      | response body => exact scrobblerSubmitResponse_waits body world
      | error =>
          apply assert_waits
          exact scrobblerScheduleSubmit_waits _

theorem dispatchTimer_waits (checksum : Bytes → Bytes) (timestr : Bytes) (source : Source)
    (world : World) : Waits world.scrobbler.interval
      (dispatchTimer checksum (httpClientRequest []) timestr source world) := by
  rcases source with ⟨id, interval, callback⟩
  cases callback with
  | scrobblerHandshakeTimer =>
      apply assert_waits
      exact rfl
  | scrobblerSubmitTimer =>
      apply assert_waits
      exact scrobblerSubmit_waits _

theorem scheduleIfReady_waits (world : World) :
    Waits world.scrobbler.interval (scheduleIfReady world) := by
  rw [scheduleIfReady]
  split
  · exact scrobblerScheduleSubmit_waits world
  · exact rfl

/-! ### A run -/

/-- The failures since the last success, and the timers that were armed, each with what those
were then. -/
structure RetryNotes where
  failures : Nat
  armed : List (Source × Nat)

def World.verdictOf (world : World) : Event → Verdict
  | .http request result _ =>
      match world.requests[request]? with
      | none => .neither
      | some pending => verdict pending.handler result
  | _ => .neither

def noteRetry (world : World) (event : Event) (next : World) (notes : RetryNotes) : RetryNotes :=
  let failures := (world.verdictOf event).failures notes.failures
  ⟨failures, notes.armed ++ next.sources.map (·, failures)⟩

structure RetryNotes.Sound (world : World) (notes : RetryNotes) : Prop where
  interval : world.scrobbler.interval = delay notes.failures
  armed : ∀ armed ∈ notes.armed, armed.1.interval = delay armed.2

variable {config : ScrobblerConfig}

/-- A timer that is armed waits for the interval, which does not change until it fires. -/
theorem Invariant.timer_interval {log : List Record} {world : World}
    (invariant : Invariant config log world) :
    ∀ source ∈ world.sources, source.interval = world.scrobbler.interval := by
  cases invariant.phase with
  | handshakeArmed _ _ timer => simp [timer]
  | submitArmed _ _ timer => simp [timer]
  | handshakeInFlight _ unarmed => simp [unarmed.sources]
  | resting _ unarmed => simp [unarmed.sources]
  | submissionInFlight _ unarmed => simp [unarmed.sources]
  | nowPlayingInFlight _ unarmed => simp [unarmed.sources]

theorem step_waits (checksum : Bytes → Bytes) (world : World) (event : Event)
    (unanswered : event.Unanswered) :
    Waits ((world.verdictOf event).interval world.scrobbler) (step checksum world event) := by
  cases event with
  | timer id timestr results =>
      cases unanswered
      rw [step]
      split
      · exact rfl
      · exact dispatchTimer_waits checksum timestr _ world
  | http index result results =>
      cases unanswered
      rw [step, World.verdictOf]
      cases world.requests[index]? with
      | none => exact rfl
      | some request => exact callHandler_waits request.handler result _
  | songchange file artist track album number mbid length time2 timestamp =>
      rw [step, asSongchange]
      split
      · exact rfl
      · exact scheduleIfReady_waits _
  | nowPlaying artist track album number mbid length source => exact scheduleIfReady_waits _
  | otherSources count => exact rfl

theorem step_noteRetry (checksum : Bytes → Bytes) (log : List Record) (world : World)
    (notes : RetryNotes) (event : Event) (invariant : Invariant config log world)
    (sound : notes.Sound world) (unanswered : event.Unanswered) :
    Holds (fun _ => True) (fun next => (noteRetry world event next notes).Sound next)
      (step checksum world event) := by
  have waits := step_waits checksum world event unanswered
  have after := step_holds checksum log world event invariant
  apply ((waits.and after).allow fun _ _ => trivial).mono
  intro next both
  have interval : next.scrobbler.interval
      = delay ((world.verdictOf event).failures notes.failures) :=
    both.1.trans (Verdict.interval_delay world.scrobbler notes.failures sound.interval _)
  refine ⟨interval, ?_⟩
  intro armed member
  rcases List.mem_append.mp member with before | now
  · exact sound.armed armed before
  · rcases List.mem_map.mp now with ⟨source, attached, rfl⟩
    exact (both.2.timer_interval source attached).trans interval

/-- A run, with the failures and the timers of it. -/
def retryRun (checksum : Bytes → Bytes) (config : ScrobblerConfig) (journal : List Record)
    (sourceIds : Nat) (events : List Event) : Except Assertion (Noted RetryNotes) :=
  notedRun noteRetry checksum (fun world => ⟨0, world.sources.map (·, 0)⟩) config journal sourceIds
    events

/-- In every run each timer is armed with the delay that the failures since the last success ask
for, and doubling the interval never wraps. -/
theorem backOff_exact (checksum : Bytes → Bytes) (config : ScrobblerConfig)
    (journal : List Record) (sourceIds : Nat) (events : List Event) :
    Holds (fun reason => reason = .recordIsDefined)
        (fun state => (∀ armed ∈ state.notes.armed, armed.1.interval = delay armed.2) ∧
          state.world.scrobbler.interval = delay state.notes.failures ∧
          state.world.scrobbler.interval * 2 < 2 ^ 32)
        (retryRun checksum config journal sourceIds events) ∧
      (retryRun checksum config journal sourceIds events).map Noted.world
        = run checksum config journal sourceIds events := by
  refine ⟨?_, notedRun_world ..⟩
  have sound : Holds Allowed (Noted.Sound config fun world notes => notes.Sound world)
      (retryRun checksum config journal sourceIds events) := by
    apply notedRun_sound
    · exact step_noteRetry checksum
    · constructor
      · rfl
      · intro armed member
        rcases List.mem_map.mp member with ⟨source, attached, rfl⟩
        have timer := List.mem_singleton.mp attached
        rw [timer]
        rfl
  apply sound.mono
  intro state sound
  have small := delay_le state.notes.failures
  have interval := sound.good.interval
  exact ⟨sound.good.armed, interval, by omega⟩

end Mpdcron.AudioScrobbler
