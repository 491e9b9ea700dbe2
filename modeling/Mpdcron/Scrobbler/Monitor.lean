import Mpdcron.Scrobbler.AtOnce

/-! A run of which notes are taken: one after every callback, also after those that answers at
once cause. -/

namespace Mpdcron.AudioScrobbler

open CString Triple

/-- A state of a run, and what was noted of the run before it. -/
structure Noted (Notes : Type) where
  world : World
  notes : Notes

section

variable {Notes : Type} (note : World → Event → World → Notes → Notes) (checksum : Bytes → Bytes)

def noteStep (state : Noted Notes) (event : Event) : Except Assertion (Noted Notes) :=
  (step checksum state.world event).map fun world =>
    ⟨world, note state.world event world state.notes⟩

def noteEvent (state : Noted Notes) (event : Event) : Except Assertion (Noted Notes) :=
  (oneByOne state.world event).foldlM (noteStep note checksum) state

def notedRun (start : World → Notes) (config : ScrobblerConfig) (journal : List Record)
    (sourceIds : Nat) (events : List Event) : Except Assertion (Noted Notes) := do
  let world ← scrobblerNewCallback config journal sourceIds
  events.foldlM (noteEvent note checksum) ⟨world, start world⟩

/-- No request of the callback is answered at once. -/
def Event.Unanswered : Event → Prop
  | .timer _ _ results => results = []
  | .http _ _ results => results = []
  | _ => True

theorem oneByOne_unanswered (world : World) (event : Event) :
    ∀ single ∈ oneByOne world event, single.Unanswered := by
  have answers (results : List HttpResult) :
      ∀ single ∈ results.map (Event.http 0 · []), single.Unanswered := by
    intro single member
    rcases List.mem_map.mp member with ⟨result, -, rfl⟩
    exact rfl
  cases event with
  | timer id timestr results =>
      rw [oneByOne]
      split
      · exact List.forall_mem_cons.mpr ⟨rfl, answers results⟩
      · exact fun single absent => absurd absent List.not_mem_nil
  | http request result results =>
      rw [oneByOne]
      split
      · exact List.forall_mem_cons.mpr ⟨rfl, answers results⟩
      · exact fun single absent => absurd absent List.not_mem_nil
  | songchange file artist track album number mbid length time2 timestamp =>
      exact List.forall_mem_singleton.mpr trivial
  | nowPlaying artist track album number mbid length source =>
      exact List.forall_mem_singleton.mpr trivial
  | otherSources count => exact List.forall_mem_singleton.mpr trivial

/-! ### A run with notes is a run -/

theorem noteSteps_world (events : List Event) (state : Noted Notes) :
    (events.foldlM (noteStep note checksum) state).map Noted.world
      = events.foldlM (step checksum) state.world := by
  induction events generalizing state with
  | nil => rfl
  | cons event events ih =>
      rw [List.foldlM_cons, List.foldlM_cons, noteStep]
      cases step checksum state.world event with
      | error reason => rfl
      | ok world => exact ih ⟨world, _⟩

variable {config : ScrobblerConfig}

theorem noteEvent_world {log : List Record} (state : Noted Notes) (event : Event)
    (invariant : Invariant config log state.world) :
    (noteEvent note checksum state event).map Noted.world = step checksum state.world event := by
  rw [noteEvent, noteSteps_world, ← step_oneByOne checksum state.world event invariant]

theorem noteEvents_world (events : List Event) : ∀ (state : Noted Notes) (log : List Record),
    Invariant config log state.world →
    (events.foldlM (noteEvent note checksum) state).map Noted.world
      = events.foldlM (step checksum) state.world := by
  induction events with
  | nil => exact fun _ _ _ => rfl
  | cons event events ih =>
      intro state log invariant
      have moved := noteEvent_world note checksum state event invariant
      have after := step_holds checksum log state.world event invariant
      rw [List.foldlM_cons, List.foldlM_cons, ← moved]
      rw [← moved] at after
      cases moves : noteEvent note checksum state event with
      | error reason => rfl
      | ok next =>
          rw [moves] at after
          exact ih next _ after

/-- Taking notes changes nothing. -/
theorem notedRun_world (start : World → Notes) (config : ScrobblerConfig) (journal : List Record)
    (sourceIds : Nat) (events : List Event) :
    (notedRun note checksum start config journal sourceIds events).map Noted.world
      = run checksum config journal sourceIds events := by
  have started := scrobblerNewCallback_holds config journal sourceIds
  rw [notedRun, run]
  cases begun : scrobblerNewCallback config journal sourceIds with
  | error reason => rfl
  | ok world =>
      rw [begun] at started
      exact noteEvents_world note checksum events ⟨world, start world⟩ journal started

/-! ### What every callback preserves -/

/-- A state of a run with the invariant of its notes. -/
structure Noted.Sound (config : ScrobblerConfig) (good : World → Notes → Prop)
    (state : Noted Notes) : Prop where
  invariant : ∃ log, Invariant config log state.world
  good : good state.world state.notes

variable {good : World → Notes → Prop}

theorem noteStep_sound
    (kept : ∀ log world notes event, Invariant config log world → good world notes →
      event.Unanswered → Holds (fun _ => True) (fun next => good next (note world event next notes))
        (step checksum world event))
    (state : Noted Notes) (event : Event) (single : event.Unanswered) (sound : state.Sound config good) :
    Holds Allowed (Noted.Sound config good) (noteStep note checksum state event) := by
  rcases sound with ⟨⟨log, invariant⟩, before⟩
  have after := step_holds checksum log state.world event invariant
  have noted := kept log state.world state.notes event invariant before single
  apply Holds.map
  apply ((after.and noted).allow fun _ allowed => allowed.1).mono
  intro world reached
  exact ⟨⟨_, reached.1⟩, reached.2⟩

/-- What every callback preserves holds in every state of a run. -/
theorem notedRun_sound (start : World → Notes)
    (kept : ∀ log world notes event, Invariant config log world → good world notes →
      event.Unanswered → Holds (fun _ => True) (fun next => good next (note world event next notes))
        (step checksum world event))
    (journal : List Record) (sourceIds : Nat) (events : List Event)
    (initial : Holds (fun _ => True) (fun world => good world (start world))
      (scrobblerNewCallback config journal sourceIds)) :
    Holds Allowed (Noted.Sound config good)
      (notedRun note checksum start config journal sourceIds events) := by
  have begun := ((scrobblerNewCallback_holds config journal sourceIds).and initial).allow
    fun _ allowed => allowed.1
  apply begun.bind
  intro world reached
  apply Holds.foldlM_of_mem
  · intro state event _ sound
    apply Holds.foldlM_of_mem
    · intro state' single member sound'
      exact noteStep_sound note checksum kept state' single
        (oneByOne_unanswered state.world event single member) sound'
    · exact sound
  · exact ⟨⟨journal, reached.1⟩, reached.2⟩

end

/-! ### What a callback leaves alone -/

/-- Songs that leave the queue leave everything else as it is. -/
def Shortened (world next : World) : Prop :=
  ∃ queue removed, next =
    { world with scrobbler := { world.scrobbler with queue := queue }, removed := removed }

theorem removeOldest_shortened (count : Nat) (world : World) :
    Holds (fun _ => True) (Shortened world) (removeOldest count world) := by
  induction count generalizing world with
  | zero => exact ⟨world.scrobbler.queue, world.removed, rfl⟩
  | succ count ih =>
      rw [removeOldest]
      cases world.scrobbler.queue with
      | nil => exact trivial
      | cons oldest queue =>
          apply (ih _).mono
          intro next shorter
          rcases shorter with ⟨left, removed, rfl⟩
          exact ⟨left, removed, rfl⟩

theorem scrobblerQueueRemoveOldest_shortened (count : Nat) (world : World) :
    Holds (fun _ => True) (Shortened world) (scrobblerQueueRemoveOldest count world) := by
  apply assert_holds _ fun _ => trivial
  intro _
  exact removeOldest_shortened count world

end Mpdcron.AudioScrobbler
