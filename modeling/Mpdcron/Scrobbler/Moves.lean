import Mpdcron.Lib.EndlessRun
import Mpdcron.Scrobbler.BackOff
import Mpdcron.Scrobbler.Coherence

/-! A scrobbler with songs never comes to rest: where each phase leads, and the submissions that
succeed again and again in a run that never ends. -/

namespace Mpdcron.AudioScrobbler

open CString Triple Filter

variable {config : ScrobblerConfig} {log : List Record}

/-! ### A callback while there are songs in the queue -/

def World.Submits (world : World) : Prop :=
  world.scrobbler.state = .submitting ∧ 0 < world.scrobbler.pending

/-- The event is about a timer or a request that there is. -/
def World.takes (world : World) : Event → Bool
  | .timer id _ _ => (world.sources.find? (·.id = id)).isSome
  | .http request _ _ => (world.requests[request]?).isSome
  | _ => false

/-- Whose request the event answers, and how. -/
def World.answered (world : World) : Event → Option (Caller × Verdict)
  | .http request result _ =>
      (world.requests[request]?).map fun pending =>
        (pending.caller, verdict pending.handler result)
  | _ => none

structure Still (world next : World) : Prop where
  state : next.scrobbler.state = world.scrobbler.state
  pending : next.scrobbler.pending = world.scrobbler.pending
  sources : next.sources = world.sources
  requests : next.requests = world.requests

theorem Still.refl (world : World) : Still world world := ⟨rfl, rfl, rfl, rfl⟩

/-- A scrobbler with songs does not rest. -/
theorem Invariant.busy {world : World} (invariant : Invariant config log world)
    (waiting : world.scrobbler.queue ≠ []) :
    ¬(world.scrobbler.state = .ready ∧ world.scrobbler.submitSourceId = 0) := by
  rintro ⟨ready, unarmed⟩
  cases invariant.phase with
  | submitArmed _ armed => omega
  | resting _ _ _ empty => exact waiting empty
  | handshakeArmed state => simp [ready] at state
  | handshakeInFlight state => simp [ready] at state
  | submissionInFlight state => simp [ready] at state
  | nowPlayingInFlight state => simp [ready] at state

theorem scheduleIfReady_still {world : World} (invariant : Invariant config log world)
    (waiting : world.scrobbler.queue ≠ []) (queue : List Record) (nowPlaying : Record) :
    Holds (fun _ => True) (Still world) (scheduleIfReady (world.update
      { world.scrobbler with queue := queue, nowPlaying := nowPlaying })) := by
  rw [scheduleIfReady, if_neg (by exact invariant.busy waiting), holds_ok]
  exact ⟨rfl, rfl, rfl, rfl⟩

/-- An event that concerns no timer and no request leaves the phase as it is. -/
theorem step_still (checksum : Bytes → Bytes) {world : World}
    (invariant : Invariant config log world) (waiting : world.scrobbler.queue ≠ [])
    (event : Event) (idle : world.takes event = false) :
    Holds (fun _ => True) (Still world) (step checksum world event) := by
  cases event with
  | timer id timestr results =>
      have absent : world.sources.find? (·.id = id) = none := by
        simpa [World.takes] using idle
      rw [step, absent]
      exact Still.refl world
  | http index result results =>
      have absent : world.requests[index]? = none := by
        simpa [World.takes] using idle
      rw [step, absent]
      exact Still.refl world
  | songchange file artist track album number mbid length time2 timestamp =>
      rw [step, asSongchange]
      split
      · exact Still.refl world
      · exact scheduleIfReady_still invariant waiting _ world.scrobbler.nowPlaying
  | nowPlaying artist track album number mbid length source =>
      exact scheduleIfReady_still invariant waiting world.scrobbler.queue _
  | otherSources count =>
      rw [step, holds_ok]
      exact ⟨rfl, rfl, rfl, rfl⟩

theorem scrobblerSubmit_submits (world : World) (waiting : world.scrobbler.queue ≠ []) :
    Holds (fun _ => True) World.Submits (scrobblerSubmit (httpClientRequest []) world) := by
  have positive : 0 < world.scrobbler.queue.length := List.length_pos_iff.mpr waiting
  apply assert_holds _ fun _ => trivial
  intro _
  apply assert_holds _ fun _ => trivial
  intro _
  rw [if_neg waiting]
  simp only [World.update, addSongs_batch]
  have pending : 0 < min maxSubmitCount world.scrobbler.queue.length :=
    Nat.lt_min.mpr ⟨by decide, positive⟩
  exact (holds_ok _).mpr ⟨rfl, pending⟩

theorem scrobblerScheduleHandshake_state (world : World) :
    Holds (fun _ => True) (fun next => next.scrobbler.state = .nothing)
      (scrobblerScheduleHandshake world) := by
  apply assert_holds _ fun _ => trivial
  intro state
  apply assert_holds _ fun _ => trivial
  intro _
  exact state

theorem scrobblerScheduleSubmit_state (world : World) :
    Holds (fun _ => True) (fun next => next.scrobbler.state = world.scrobbler.state)
      (scrobblerScheduleSubmit world) := by
  apply assert_holds _ fun _ => trivial
  intro _
  apply assert_holds _ fun _ => trivial
  intro _
  exact rfl

/-- Where an event that is about a timer or a request takes a scrobbler with songs. -/
structure Moves (world : World) (answered : Option (Caller × Verdict)) (next : World) : Prop where
  nothing : world.scrobbler.state = .nothing → next.scrobbler.state = .handshake
  handshake : world.scrobbler.state = .handshake →
    ∃ verdict, answered = some (.scrobblerHandshake, verdict) ∧
      (verdict = .success → next.Submits)
  ready : world.scrobbler.state = .ready → next.Submits
  nowPlaying : world.scrobbler.state = .submitting → world.scrobbler.pending = 0 →
    next.Submits ∨ next.scrobbler.state = .ready ∨ next.scrobbler.state = .nothing
  submits : world.Submits →
    ∃ verdict, answered = some (.scrobblerSubmit, verdict) ∧
      (verdict = .success → world.removed.length < next.removed.length)

theorem scrobblerHandshakeTimer_moves (checksum : Bytes → Bytes) (timestr : Bytes)
    (world before : World) (state : before.scrobbler.state = .nothing)
    (answered : Option (Caller × Verdict)) :
    Holds (fun _ => True) (Moves before answered)
      (scrobblerHandshakeTimer checksum (httpClientRequest []) timestr world) := by
  apply assert_holds _ fun _ => trivial
  intro _
  apply (holds_ok _).mpr
  exact ⟨fun _ => rfl, by simp [state], by simp [state], by simp [state],
    by simp [World.Submits, state]⟩

theorem scrobblerSubmitTimer_moves (world before : World)
    (state : before.scrobbler.state = .ready) (waiting : world.scrobbler.queue ≠ [])
    (answered : Option (Caller × Verdict)) :
    Holds (fun _ => True) (Moves before answered)
      (scrobblerSubmitTimer (httpClientRequest []) world) := by
  apply assert_holds _ fun _ => trivial
  intro _
  have submits := scrobblerSubmit_submits (world.update
    { world.scrobbler with submitSourceId := 0 }) waiting
  apply submits.mono
  intro next submits
  exact ⟨by simp [state], by simp [state], fun _ => submits, by simp [state],
    by simp [World.Submits, state]⟩

theorem handshakeAnswer_moves (result : HttpResult) (world before : World)
    (state : before.scrobbler.state = .handshake) (same : world.scrobbler = before.scrobbler)
    (waiting : world.scrobbler.queue ≠ []) :
    Holds (fun _ => True)
      (Moves before (some (.scrobblerHandshake, verdict .scrobblerHandshakeHandler result)))
      (callHandler (httpClientRequest []) .scrobblerHandshakeHandler result world) := by
  have moves (next : World)
      (good : verdict .scrobblerHandshakeHandler result = .success → next.Submits) :
      Moves before (some (.scrobblerHandshake, verdict .scrobblerHandshakeHandler result)) next :=
    ⟨by simp [state], fun _ => ⟨_, rfl, good⟩, by simp [state], by simp [state],
      by simp [World.Submits, state]⟩
  cases result with
  | error =>
      apply assert_holds _ fun _ => trivial
      intro _
      apply (scrobblerScheduleHandshake_state _).mono
      intro next _
      exact moves next (by simp [verdict])
  | response body =>
      rw [callHandler, scrobblerHandshakeResponse_eq _ body world (same ▸ state)]
      cases lines : handshakeLines body with
      | none =>
          apply (scrobblerScheduleHandshake_state _).mono
          intro next _
          exact moves next (by simp [verdict, lines])
      | some session =>
          have submits := scrobblerSubmit_submits
            (world.update (acceptedHandshake session world.scrobbler)) waiting
          apply submits.mono
          intro next submits
          exact moves next fun _ => submits

/-- An answer to a submission or to a now-playing request. -/
theorem submitAnswer_moves (result : HttpResult) (world before : World) (caller : Caller)
    (state : before.scrobbler.state = .submitting) (same : world.scrobbler = before.scrobbler)
    (removed : world.removed = before.removed) (waiting : world.scrobbler.queue ≠ [])
    (bound : world.scrobbler.pending ≤ world.scrobbler.queue.length)
    (submission : 0 < before.scrobbler.pending → caller = .scrobblerSubmit) :
    Holds (fun _ => True)
      (Moves before (some (caller, verdict .scrobblerSubmitHandler result)))
      (callHandler (httpClientRequest []) .scrobblerSubmitHandler result world) := by
  have moves (next : World)
      (nowPlaying : before.scrobbler.pending = 0 →
        next.Submits ∨ next.scrobbler.state = .ready ∨ next.scrobbler.state = .nothing)
      (good : 0 < before.scrobbler.pending → verdict .scrobblerSubmitHandler result = .success →
        before.removed.length < next.removed.length) :
      Moves before (some (caller, verdict .scrobblerSubmitHandler result)) next := by
    refine ⟨by simp [state], by simp [state], by simp [state], fun _ => nowPlaying, ?_⟩
    intro submits
    have called := submission submits.2
    subst called
    exact ⟨_, rfl, good submits.2⟩
  cases result with
  | error =>
      apply assert_holds _ fun _ => trivial
      intro _
      apply (scrobblerScheduleSubmit_state _).mono
      intro next ready
      exact moves next (fun _ => .inr (.inl ready)) (by simp [verdict])
  | response body =>
      apply assert_holds _ fun _ => trivial
      intro _
      dsimp only
      cases answer : scrobblerParseSubmitResponse (body.takeWhile (· ≠ newline)) with
      | failed =>
          apply (scrobblerScheduleSubmit_state _).mono
          intro next ready
          exact moves next (fun _ => .inr (.inl ready)) (by rw [verdict, answer]; simp)
      | handshake =>
          apply (scrobblerScheduleHandshake_state _).mono
          intro next nothing
          exact moves next (fun _ => .inr (.inr nothing)) (by rw [verdict, answer]; simp)
      | ok =>
          dsimp only
          split_ifs with positive
          · have counted : before.scrobbler.pending ≠ 0 := same ▸ Nat.ne_of_gt positive
            rw [scrobblerQueueRemoveOldest_bind _ _ _ positive (by exact bound)]
            apply (scrobblerSubmit_keeps _).mono
            intro next kept
            refine moves next (fun none => absurd none counted) ?_
            intro _ _
            have taken : next.removed
                = world.removed ++ world.scrobbler.queue.take world.scrobbler.pending := kept.2
            have some : 0 < world.scrobbler.pending := positive
            rw [taken, ← removed, List.length_append, List.length_take]
            omega
          · have counted : ¬0 < before.scrobbler.pending := same ▸ positive
            apply assert_holds _ fun _ => trivial
            intro _
            refine (scrobblerSubmit_submits _ (by exact waiting)).mono ?_
            intro next submits
            exact moves next (fun _ => .inl submits) fun pending => absurd pending counted

theorem step_moves (checksum : Bytes → Bytes) {world : World}
    (invariant : Invariant config log world) (waiting : world.scrobbler.queue ≠ [])
    (event : Event) (single : event.Unanswered) (taken : world.takes event = true) :
    Holds (fun _ => True) (Moves world (world.answered event)) (step checksum world event) := by
  cases event with
  | timer id timestr results =>
      cases single
      cases found : world.sources.find? (·.id = id) with
      | none => simp [World.takes, found] at taken
      | some source =>
          have attached := List.mem_of_find?_eq_some found
          rw [step, found]
          cases invariant.phase with
          | handshakeArmed state _ timer =>
              cases List.mem_singleton.mp (timer ▸ attached)
              exact scrobblerHandshakeTimer_moves checksum timestr _ world state _
          | submitArmed state _ timer =>
              cases List.mem_singleton.mp (timer ▸ attached)
              exact scrobblerSubmitTimer_moves _ world state (by exact waiting) _
          | handshakeInFlight _ unarmed => simp [unarmed.sources] at attached
          | resting _ unarmed => simp [unarmed.sources] at attached
          | submissionInFlight _ unarmed => simp [unarmed.sources] at attached
          | nowPlayingInFlight _ unarmed => simp [unarmed.sources] at attached
  | http index result results =>
      cases single
      cases found : world.requests[index]? with
      | none => simp [World.takes, found] at taken
      | some request =>
          have member := List.mem_of_getElem? found
          have bound := invariant.books.pending
          rw [step, World.answered, found, Option.map_some]
          dsimp only
          cases invariant.phase with
          | handshakeInFlight state _ other inFlight handler caller =>
              rw [inFlight, List.mem_singleton] at member
              rw [member, handler, caller]
              exact handshakeAnswer_moves result _ world state rfl waiting
          | submissionInFlight state _ other inFlight handler caller =>
              rw [inFlight, List.mem_singleton] at member
              rw [member, handler]
              exact submitAnswer_moves result _ world _ state rfl rfl waiting bound fun _ => caller
          | nowPlayingInFlight state _ other inFlight handler caller nonePending =>
              rw [inFlight, List.mem_singleton] at member
              rw [member, handler]
              exact submitAnswer_moves result _ world _ state rfl rfl waiting bound fun some => by
                omega
          | handshakeArmed _ _ _ _ quiet => simp [quiet] at member
          | submitArmed _ _ _ _ quiet => simp [quiet] at member
          | resting _ _ quiet => simp [quiet] at member
  | songchange => simp [World.takes] at taken
  | nowPlaying => simp [World.takes] at taken
  | otherSources => simp [World.takes] at taken

/-- Whose request an event answers tells the phase. -/
theorem Invariant.answered_phase {world : World} (invariant : Invariant config log world)
    {event : Event} {caller : Caller} {verdict : Verdict}
    (answered : world.answered event = some (caller, verdict)) :
    world.takes event = true ∧
      (caller = .scrobblerHandshake → world.scrobbler.state = .handshake) ∧
      (caller = .scrobblerSubmit → world.Submits) := by
  cases event with
  | http index result results =>
      cases found : world.requests[index]? with
      | none => simp [World.answered, found] at answered
      | some request =>
          have member := List.mem_of_getElem? found
          rw [World.answered, found, Option.map_some] at answered
          cases answered
          refine ⟨by simp [World.takes, found], ?_⟩
          cases invariant.phase with
          | handshakeInFlight state _ other inFlight handler caller =>
              rw [inFlight, List.mem_singleton] at member
              simp [member, caller, state]
          | submissionInFlight state _ other inFlight handler caller positive =>
              rw [inFlight, List.mem_singleton] at member
              simp [member, caller, World.Submits, state, positive]
          | nowPlayingInFlight state _ other inFlight handler caller =>
              rw [inFlight, List.mem_singleton] at member
              simp [member, caller]
          | handshakeArmed _ _ _ _ quiet => simp [quiet] at member
          | submitArmed _ _ _ _ quiet => simp [quiet] at member
          | resting _ _ quiet => simp [quiet] at member
  | timer => simp [World.answered] at answered
  | songchange => simp [World.answered] at answered
  | nowPlaying => simp [World.answered] at answered
  | otherSources => simp [World.answered] at answered

/-! ### What was removed stays removed -/

abbrev Grows (world : World) (outcome : Outcome) : Prop :=
  Holds (fun _ => True) (fun next => world.removed <+: next.removed) outcome

theorem Keeps.grows {before world : World} {outcome : Outcome} (keeps : Keeps world outcome)
    (same : before.removed <+: world.removed) : Grows before outcome := by
  apply keeps.mono
  intro next songs
  rw [songs.2]
  exact same

theorem removeOldest_grows (count : Nat) (world : World) :
    Grows world (removeOldest count world) := by
  induction count generalizing world with
  | zero => exact List.prefix_refl _
  | succ count ih =>
      rw [removeOldest]
      cases world.scrobbler.queue with
      | nil => exact trivial
      | cons oldest queue =>
          apply (ih _).mono
          intro next longer
          exact (List.prefix_append _ _).trans longer

theorem scrobblerQueueRemoveOldest_grows (count : Nat) (world : World) :
    Grows world (scrobblerQueueRemoveOldest count world) := by
  apply assert_holds _ fun _ => trivial
  intro _
  exact removeOldest_grows count world

theorem callHandler_grows (handler : HttpClientHandler) (result : HttpResult) (world : World) :
    Grows world (callHandler (httpClientRequest []) handler result world) := by
  cases handler with
  | scrobblerHandshakeHandler =>
      cases result with
      | error =>
          apply assert_holds _ fun _ => trivial
          intro _
          exact (scrobblerScheduleHandshake_keeps _).grows (List.prefix_refl _)
      | response body =>
          apply assert_holds _ fun _ => trivial
          intro _
          dsimp only
          split_ifs
          · exact (scrobblerScheduleHandshake_keeps _).grows (List.prefix_refl _)
          · exact (scrobblerSubmit_keeps _).grows (List.prefix_refl _)
          · exact (scrobblerScheduleHandshake_keeps _).grows (List.prefix_refl _)
  | scrobblerSubmitHandler =>
      cases result with
      | error =>
          apply assert_holds _ fun _ => trivial
          intro _
          exact (scrobblerScheduleSubmit_keeps _).grows (List.prefix_refl _)
      | response body =>
          apply assert_holds _ fun _ => trivial
          intro _
          dsimp only
          split
          · split_ifs
            · apply Holds.bind (scrobblerQueueRemoveOldest_grows _ _)
              intro next taken
              exact (scrobblerSubmit_keeps _).grows taken
            · apply assert_holds _ fun _ => trivial
              intro _
              exact (scrobblerSubmit_keeps _).grows (List.prefix_refl _)
          · exact (scrobblerScheduleSubmit_keeps _).grows (List.prefix_refl _)
          · exact (scrobblerScheduleHandshake_keeps _).grows (List.prefix_refl _)

theorem scheduleIfReady_grows (world : World) : Grows world (scheduleIfReady world) := by
  rw [scheduleIfReady]
  split_ifs
  · exact (scrobblerScheduleSubmit_keeps world).grows (List.prefix_refl _)
  · exact List.prefix_refl _

theorem step_grows (checksum : Bytes → Bytes) (world : World) (event : Event)
    (single : event.Unanswered) : Grows world (step checksum world event) := by
  cases event with
  | timer id timestr results =>
      cases single
      rw [step]
      split
      · exact List.prefix_refl _
      · rename_i source found
        rw [dispatchTimer]
        split
        · apply assert_holds _ fun _ => trivial
          intro _
          exact List.prefix_refl _
        · apply assert_holds _ fun _ => trivial
          intro _
          exact (scrobblerSubmit_keeps _).grows (List.prefix_refl _)
  | http index result results =>
      cases single
      rw [step]
      split
      · exact List.prefix_refl _
      · exact callHandler_grows _ result _
  | songchange file artist track album number mbid length time2 timestamp =>
      rw [step, asSongchange]
      split
      · exact List.prefix_refl _
      · exact scheduleIfReady_grows _
  | nowPlaying artist track album number mbid length source => exact scheduleIfReady_grows _
  | otherSources count => exact List.prefix_refl _

/-! ### A run without answers at once -/

/-- A scrobbler with songs waits for a timer or an answer. -/
theorem Invariant.active {world : World} (invariant : Invariant config log world)
    (waiting : world.scrobbler.queue ≠ []) : world.sources ≠ [] ∨ world.requests ≠ [] := by
  cases invariant.phase with
  | handshakeArmed _ _ timer => simp [timer]
  | submitArmed _ _ timer => simp [timer]
  | handshakeInFlight _ _ _ inFlight => simp [inFlight]
  | submissionInFlight _ _ _ inFlight => simp [inFlight]
  | nowPlayingInFlight _ _ _ inFlight => simp [inFlight]
  | resting _ _ _ empty => exact absurd empty waiting

variable {checksum : Bytes → Bytes}

/-- There are songs for ever, what is waited for comes, and neither handshakes nor submissions
fail for ever. -/
structure Served (config : ScrobblerConfig) (run : EndlessRun (step checksum)) : Prop where
  single : ∀ n, (run.input n).Unanswered
  invariant : ∀ n, ∃ log, Invariant config log (run.state n)
  waiting : ∀ᶠ n in atTop, (run.state n).scrobbler.queue ≠ []
  taken : ∀ᶠ n in atTop, (run.state n).sources ≠ [] ∨ (run.state n).requests ≠ [] →
    ∃ m, n ≤ m ∧ (run.state m).takes (run.input m) = true
  heard : ∀ caller, caller ≠ .scrobblerSendNowPlaying →
    (∃ᶠ n in atTop, ∃ verdict,
      (run.state n).answered (run.input n) = some (caller, verdict)) →
    ∃ᶠ n in atTop, (run.state n).answered (run.input n) = some (caller, .success)

namespace Served

variable {run : EndlessRun (step checksum)} (served : Served config run)

include served

theorem moves : ∀ᶠ n in atTop, (run.state n).takes (run.input n) = true →
    Moves (run.state n) ((run.state n).answered (run.input n)) (run.state (n + 1)) := by
  apply served.waiting.mono
  intro n waiting taken
  rcases served.invariant n with ⟨log, invariant⟩
  have moved := step_moves checksum invariant waiting (run.input n) (served.single n) taken
  rw [run.steps n] at moved
  exact moved

/-- What the phase decides comes to an event about a timer or a request. -/
theorem again (phase : World → Prop)
    (still : ∀ world next, Still world next → phase world → phase next)
    (often : ∃ᶠ n in atTop, phase (run.state n)) :
    ∃ᶠ n in atTop, phase (run.state n) ∧ (run.state n).takes (run.input n) = true := by
  apply frequently_acts often
  · apply served.waiting.mono
    intro n waiting holds idle
    rcases served.invariant n with ⟨log, invariant⟩
    have stays := step_still checksum invariant waiting (run.input n) (by simpa using idle)
    rw [run.steps n] at stays
    exact still _ _ stays holds
  · apply (served.waiting.and served.taken).mono
    intro n both _
    rcases served.invariant n with ⟨log, invariant⟩
    exact both.2 (invariant.active both.1)

theorem handshake_of_nothing
    (often : ∃ᶠ n in atTop, (run.state n).scrobbler.state = .nothing) :
    ∃ᶠ n in atTop, (run.state n).scrobbler.state = .handshake := by
  have taken := served.again (fun world => world.scrobbler.state = .nothing)
    (fun _ _ stays holds => stays.state.trans holds) often
  apply frequently_succ taken
  apply served.moves.mono
  intro n moves both
  exact (moves both.2).nothing both.1

theorem submits_of_ready (often : ∃ᶠ n in atTop, (run.state n).scrobbler.state = .ready) :
    ∃ᶠ n in atTop, (run.state n).Submits := by
  have taken := served.again (fun world => world.scrobbler.state = .ready)
    (fun _ _ stays holds => stays.state.trans holds) often
  apply frequently_succ taken
  apply served.moves.mono
  intro n moves both
  exact (moves both.2).ready both.1

theorem submits_of_handshake
    (often : ∃ᶠ n in atTop, (run.state n).scrobbler.state = .handshake) :
    ∃ᶠ n in atTop, (run.state n).Submits := by
  have taken := served.again (fun world => world.scrobbler.state = .handshake)
    (fun _ _ stays holds => stays.state.trans holds) often
  have answers : ∃ᶠ n in atTop, ∃ verdict,
      (run.state n).answered (run.input n) = some (.scrobblerHandshake, verdict) := by
    apply taken.mp
    apply served.moves.mono
    intro n moves both
    rcases (moves both.2).handshake both.1 with ⟨verdict, answered, -⟩
    exact ⟨verdict, answered⟩
  apply frequently_succ (served.heard .scrobblerHandshake (by decide) answers)
  apply served.moves.mono
  intro n moves success
  rcases served.invariant n with ⟨log, invariant⟩
  have phase := invariant.answered_phase success
  rcases (moves phase.1).handshake (phase.2.1 rfl) with ⟨verdict, answered, good⟩
  apply good
  rw [success] at answered
  exact (Prod.mk.inj (Option.some.inj answered)).2.symm

theorem grows_of_submits (often : ∃ᶠ n in atTop, (run.state n).Submits) :
    ∃ᶠ n in atTop, (run.state n).removed.length < (run.state (n + 1)).removed.length := by
  have taken := served.again World.Submits
    (fun _ _ stays holds => ⟨stays.state.trans holds.1, stays.pending ▸ holds.2⟩) often
  have answers : ∃ᶠ n in atTop, ∃ verdict,
      (run.state n).answered (run.input n) = some (.scrobblerSubmit, verdict) := by
    apply taken.mp
    apply served.moves.mono
    intro n moves both
    rcases (moves both.2).submits both.1 with ⟨verdict, answered, -⟩
    exact ⟨verdict, answered⟩
  apply (served.heard .scrobblerSubmit (by decide) answers).mp
  apply served.moves.mono
  intro n moves success
  rcases served.invariant n with ⟨log, invariant⟩
  have phase := invariant.answered_phase success
  rcases (moves phase.1).submits (phase.2.2 rfl) with ⟨verdict, answered, good⟩
  apply good
  rw [success] at answered
  exact (Prod.mk.inj (Option.some.inj answered)).2.symm

theorem other_of_nowPlaying (often : ∃ᶠ n in atTop,
      (run.state n).scrobbler.state = .submitting ∧ (run.state n).scrobbler.pending = 0) :
    ∃ᶠ n in atTop, (run.state n).Submits ∨ (run.state n).scrobbler.state = .ready ∨
      (run.state n).scrobbler.state = .nothing := by
  have taken := served.again
    (fun world => world.scrobbler.state = .submitting ∧ world.scrobbler.pending = 0)
    (fun _ _ stays holds => ⟨stays.state.trans holds.1, stays.pending.trans holds.2⟩) often
  apply frequently_succ taken
  apply served.moves.mono
  intro n moves both
  exact (moves both.2).nowPlaying both.1.1 both.1.2

/-- Each phase leads to a submission. -/
theorem submits : ∃ᶠ n in atTop, (run.state n).Submits := by
  have nothing (often : ∃ᶠ n in atTop, (run.state n).scrobbler.state = .nothing) :
      ∃ᶠ n in atTop, (run.state n).Submits :=
    served.submits_of_handshake (served.handshake_of_nothing often)
  by_contra never
  have phases : ∃ᶠ n in atTop,
      (run.state n).scrobbler.state = .submitting ∧ (run.state n).scrobbler.pending = 0 := by
    have rarely : ∀ᶠ n in atTop, ¬(run.state n).Submits := not_frequently.mp never
    have awake : ∀ᶠ n in atTop, ¬(run.state n).scrobbler.state = .nothing :=
      not_frequently.mp fun often => never (nothing often)
    have settled : ∀ᶠ n in atTop, ¬(run.state n).scrobbler.state = .handshake :=
      not_frequently.mp fun often => never (served.submits_of_handshake often)
    have busy : ∀ᶠ n in atTop, ¬(run.state n).scrobbler.state = .ready :=
      not_frequently.mp fun often => never (served.submits_of_ready often)
    apply Eventually.frequently
    filter_upwards [rarely, awake, settled, busy] with n rarely awake settled busy
    cases state : (run.state n).scrobbler.state with
    | nothing => exact absurd state awake
    | handshake => exact absurd state settled
    | ready => exact absurd state busy
    | submitting =>
        refine ⟨rfl, ?_⟩
        by_contra some
        exact rarely ⟨state, Nat.pos_of_ne_zero some⟩
  rcases frequently_or_distrib.mp (served.other_of_nowPlaying phases) with submits | others
  · exact never submits
  · rcases frequently_or_distrib.mp others with ready | idle
    · exact never (served.submits_of_ready ready)
    · exact never (nothing idle)

/-- However long the list of removed records has to become, it does. -/
theorem unbounded (bound : Nat) : ∃ n, bound < (run.state n).removed.length := by
  apply exists_lt_of_frequently fun n => (run.state n).removed.length
  · intro n
    have grows := step_grows checksum (run.state n) (run.input n) (served.single n)
    rw [run.steps n] at grows
    exact List.IsPrefix.length_le grows
  · exact served.grows_of_submits served.submits

end Served

end Mpdcron.AudioScrobbler
