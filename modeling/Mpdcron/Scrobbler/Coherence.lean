import Mpdcron.Scrobbler.Invariant

/-! What the invariant says to the outside: a scrobbler never stalls, and it neither
loses a record nor acknowledges one twice. -/

namespace Mpdcron.AudioScrobbler

open CString Triple

def World.armed (world : World) (callback : TimerCallback) : Prop :=
  ∃ source ∈ world.sources, source.callback = callback

/-- The source id a timer callback is remembered by. -/
def Scrobbler.remembered (scrobbler : Scrobbler) : TimerCallback → Nat
  | .scrobblerHandshakeTimer => scrobbler.handshakeSourceId
  | .scrobblerSubmitTimer => scrobbler.submitSourceId

structure Coherent (world : World) : Prop where
  handshakeTimer : world.armed .scrobblerHandshakeTimer ↔ world.scrobbler.state = .nothing
  submitTimer : world.armed .scrobblerSubmitTimer → world.scrobbler.state = .ready
  remembered : ∀ callback, world.scrobbler.remembered callback ≠ 0 ↔ world.armed callback
  sources : ∀ source ∈ world.sources, source.id = world.scrobbler.remembered source.callback
  oneTimer : world.sources.length ≤ 1
  outstanding : world.requests ≠ [] ↔
    world.scrobbler.state = .handshake ∨ world.scrobbler.state = .submitting
  oneRequest : world.requests.length ≤ 1
  noStall : world.scrobbler.state = .ready →
    world.scrobbler.queue ≠ [] ∨ world.scrobbler.nowPlaying.isDefined →
    world.armed .scrobblerSubmitTimer
  scheduled : world.scrobbler.queue ≠ [] → world.sources ≠ [] ∨ world.requests ≠ []

theorem not_armed_of_no_sources (world : World) (sources : world.sources = [])
    (callback : TimerCallback) : ¬world.armed callback := by
  intro armed
  rcases armed with ⟨source, attached, -⟩
  rw [sources] at attached
  exact List.not_mem_nil attached

theorem armed_of_single (world : World) (source : Source) (single : world.sources = [source])
    (callback : TimerCallback) : world.armed callback ↔ source.callback = callback := by
  simp [World.armed, single]

theorem Unarmed.forgets {world : World} (unarmed : Unarmed world.scrobbler world.sources)
    (callback : TimerCallback) :
    world.scrobbler.remembered callback ≠ 0 ↔ world.armed callback := by
  have none := not_armed_of_no_sources world unarmed.sources callback
  cases callback with
  | scrobblerHandshakeTimer => simp [Scrobbler.remembered, unarmed.handshake, none]
  | scrobblerSubmitTimer => simp [Scrobbler.remembered, unarmed.submit, none]

/-- In a state with a request in flight no timer is armed. -/
theorem coherent_of_inFlight (world : World) (request : HttpRequest)
    (state : world.scrobbler.state = .handshake ∨ world.scrobbler.state = .submitting)
    (unarmed : Unarmed world.scrobbler world.sources) (inFlight : world.requests = [request]) :
    Coherent world := by
  have none := not_armed_of_no_sources world unarmed.sources
  have awaiting : world.scrobbler.state ≠ .nothing ∧ world.scrobbler.state ≠ .ready := by
    rcases state with state | state <;> rw [state] <;> decide
  constructor
  · exact ⟨fun armed => (none _ armed).elim, fun state => (awaiting.1 state).elim⟩
  · exact fun armed => (none _ armed).elim
  · exact unarmed.forgets
  · simp [unarmed.sources]
  · simp [unarmed.sources]
  · simp [inFlight, state]
  · simp [inFlight]
  · exact fun ready => (awaiting.2 ready).elim
  · simp [inFlight]

theorem Invariant.coherent {config : ScrobblerConfig} {log : List Record} {world : World}
    (invariant : Invariant config log world) : Coherent world := by
  rcases invariant with ⟨phase, -⟩
  cases phase with
  | handshakeInFlight state unarmed request inFlight =>
      exact coherent_of_inFlight world request (.inl state) unarmed inFlight
  | submissionInFlight state unarmed request inFlight =>
      exact coherent_of_inFlight world request (.inr state) unarmed inFlight
  | nowPlayingInFlight state unarmed request inFlight =>
      exact coherent_of_inFlight world request (.inr state) unarmed inFlight
  | handshakeArmed state armed timer unarmed quiet =>
      have exactly := armed_of_single world _ timer
      constructor
      · simp [exactly, state]
      · simp [exactly]
      · intro callback
        cases callback with
        | scrobblerHandshakeTimer => simpa [Scrobbler.remembered, exactly] using Nat.ne_of_gt armed
        | scrobblerSubmitTimer => simp [Scrobbler.remembered, exactly, unarmed]
      · simp [timer, Scrobbler.remembered]
      · simp [timer]
      · simp [quiet, state]
      · simp [quiet]
      · simp [state]
      · simp [timer]
  | submitArmed state armed timer unarmed quiet =>
      have exactly := armed_of_single world _ timer
      constructor
      · simp [exactly, state]
      · simp [state]
      · intro callback
        cases callback with
        | scrobblerHandshakeTimer => simp [Scrobbler.remembered, exactly, unarmed]
        | scrobblerSubmitTimer => simpa [Scrobbler.remembered, exactly] using Nat.ne_of_gt armed
      · simp [timer, Scrobbler.remembered]
      · simp [timer]
      · simp [quiet, state]
      · simp [quiet]
      · simp [exactly]
      · simp [timer]
  | resting state unarmed quiet empty undefined =>
      have none := not_armed_of_no_sources world unarmed.sources
      constructor
      · simp [none, state]
      · simp [none]
      · exact unarmed.forgets
      · simp [unarmed.sources]
      · simp [unarmed.sources]
      · simp [quiet, state]
      · simp [quiet]
      · simp [empty, undefined]
      · simp [empty]

/-- Between two callbacks of any run the scrobbler is coherent, and only an undefined
now-playing record can end the run. -/
theorem run_coherent (checksum : Bytes → Bytes) (config : ScrobblerConfig)
    (journal : List Record) (sourceIds : Nat) (events : List Event) :
    Holds (fun reason => reason = .recordIsDefined) Coherent
      (run checksum config journal sourceIds events) :=
  (run_holds checksum config journal sourceIds events).mono fun _ => Invariant.coherent

/-! ### The account of the records -/

/-- The queue and the removed records stay as they are. -/
def SameSongs (world next : World) : Prop :=
  next.scrobbler.queue = world.scrobbler.queue ∧ next.removed = world.removed

abbrev Keeps (world : World) (outcome : Outcome) : Prop :=
  Holds (fun _ => True) (SameSongs world) outcome

theorem assert_keeps {condition : Prop} [Decidable condition] (reason : Assertion)
    (before world : World) (rest : World → Outcome) (continued : Keeps before (rest world)) :
    Keeps before (assert condition reason world >>= rest) :=
  assert_holds world (fun _ => trivial) fun _ => continued

theorem scrobblerScheduleHandshake_keeps (world : World) :
    Keeps world (scrobblerScheduleHandshake world) := by
  apply assert_keeps
  apply assert_keeps
  exact (⟨rfl, rfl⟩ : SameSongs world _)

theorem scrobblerScheduleSubmit_keeps (world : World) :
    Keeps world (scrobblerScheduleSubmit world) := by
  apply assert_keeps
  apply assert_keeps
  exact (⟨rfl, rfl⟩ : SameSongs world _)

/-- A request that gets no answer at once leaves the songs alone. -/
theorem scrobblerSubmit_keeps (world : World) :
    Keeps world (scrobblerSubmit (httpClientRequest []) world) := by
  apply assert_keeps
  apply assert_keeps
  split
  · simp only
    split
    · apply assert_keeps
      apply assert_keeps
      exact (⟨rfl, rfl⟩ : SameSongs world _)
    · exact (⟨rfl, rfl⟩ : SameSongs world world)
  · exact (⟨rfl, rfl⟩ : SameSongs world _)

end Mpdcron.AudioScrobbler
