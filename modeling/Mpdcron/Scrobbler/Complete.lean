import Mpdcron.Scrobbler.NowPlaying
import Mpdcron.Scrobbler.Saved

/-! A scrobbler that is only told of now-playing songs with artist and track never fails an
assertion. -/

namespace Mpdcron.AudioScrobbler

open CString Triple

/-- `now_playing` holds a whole record or none. -/
def WholeOrNone (song : Record) : Prop :=
  song.isDefined ∨ song = recordClear ∨ song = recordZero

/-- The event stores no half record in `now_playing`. -/
def Event.Whole : Event → Prop
  | .nowPlaying artist track _ _ _ _ _ => artist.isSome ∧ track.isSome
  | _ => True

/-- The invariant, and a whole record in `now_playing` while a now-playing request is in flight. -/
structure Backed (config : ScrobblerConfig) (log : List Record) (world : World) : Prop where
  invariant : Invariant config log world
  slot : WholeOrNone world.scrobbler.nowPlaying
  sent : ∀ request ∈ world.requests, request.caller = .scrobblerSendNowPlaying →
    world.scrobbler.nowPlaying.isDefined

variable {config : ScrobblerConfig} {log : List Record}

theorem Leaves.backed {song : Record} {world : World} (leaves : Leaves song world)
    (invariant : Invariant config log world) (whole : WholeOrNone song) :
    Backed config log world := by
  refine ⟨invariant, leaves.slot.symm ▸ whole, ?_⟩
  intro request inFlight caller
  exact (leaves.fresh request inFlight caller).1

theorem afterAnswer_whole (request : HttpRequest) (result : HttpResult) (song : Record)
    (whole : WholeOrNone song) : WholeOrNone (afterAnswer request result song) := by
  rw [afterAnswer, afterNowPlaying]
  split_ifs
  · exact .inr (.inr rfl)
  · exact whole
  · exact whole

/-- The two ways in which a callback can fail exclude each other. -/
theorem Holds.never {allowed : Assertion → Prop} {post also : World → Prop} {outcome : Outcome}
    (first : Holds Allowed post outcome) (second : Holds allowed also outcome)
    (apart : ¬allowed .recordIsDefined) :
    Holds (fun _ => False) (fun world => post world ∧ also world) outcome := by
  apply (first.and second).allow
  intro reason both
  rcases both with ⟨undefined, other⟩
  cases undefined
  exact apart other

/-! ### One callback -/

theorem timer_backed (checksum : Bytes → Bytes) (id : Nat) (timestr : Bytes) (world : World)
    (backed : Backed config log world) :
    Holds (fun _ => False) (Backed config log) (step checksum world (.timer id timestr [])) := by
  have after := step_holds checksum log world (.timer id timestr []) backed.invariant
  simp only [pushed, List.append_nil] at after
  cases found : world.sources.find? (·.id = id) with
  | none =>
      simp only [step, found]
      exact backed
  | some source =>
      have quiet := backed.invariant.quiet_of_timer (List.mem_of_find?_eq_some found)
      have leaves : Holds Others (Leaves world.scrobbler.nowPlaying)
          (step checksum world (.timer id timestr [])) := by
        simp only [step, found]
        exact dispatchTimer_leaves checksum timestr source world rfl quiet
      apply (Holds.never after leaves (by simp [Others])).mono
      intro next both
      exact both.2.backed both.1 backed.slot

theorem http_backed (checksum : Bytes → Bytes) (index : Nat) (result : HttpResult) (world : World)
    (backed : Backed config log world) :
    Holds (fun _ => False) (Backed config log) (step checksum world (.http index result [])) := by
  have after := step_holds checksum log world (.http index result []) backed.invariant
  simp only [pushed, List.append_nil] at after
  cases outstanding : world.requests[index]? with
  | none =>
      simp only [step, outstanding]
      exact backed
  | some request =>
      have sent := sent_of_outstanding world index request
        backed.invariant.phase.single_request outstanding
      have leaves := callHandler_leaves request result
        { world with requests := world.requests.eraseIdx index }
        (by rw [sent]; exact backed.invariant) rfl
      have stepped : step checksum world (.http index result [])
          = callHandler (httpClientRequest []) request.handler result
            { world with requests := world.requests.eraseIdx index } := by
        simp only [step, outstanding]
      rw [← stepped] at leaves
      apply (Holds.never after leaves ?_).mono
      · intro next both
        exact both.2.backed both.1 (afterAnswer_whole request result _ backed.slot)
      · intro undefined
        rcases undefined rfl with ⟨caller, missing⟩
        have defined := backed.sent request (List.mem_of_getElem? outstanding) caller
        rw [defined] at missing
        cases missing

/-- There is something to submit. -/
theorem scheduleIfReady_other (world : World)
    (some : world.scrobbler.queue ≠ [] ∨ world.scrobbler.nowPlaying.isDefined) :
    Holds Others (fun next => next.scrobbler.nowPlaying = world.scrobbler.nowPlaying ∧
      next.requests = world.requests) (scheduleIfReady world) := by
  rw [scheduleIfReady]
  split_ifs
  · apply assert_holds _ fun _ => by simp [Others]
    intro _
    rw [assert_bind some]
    exact ⟨rfl, rfl⟩
  · exact ⟨rfl, rfl⟩

theorem nowPlaying_backed (checksum : Bytes → Bytes) (artist track album number mbid : Option Bytes)
    (length : Int) (source : Option Bytes) (world : World) (backed : Backed config log world)
    (whole : artist.isSome ∧ track.isSome) :
    Holds (fun _ => False) (Backed config log)
      (step checksum world (.nowPlaying artist track album number mbid length source)) := by
  have after := step_holds checksum log world
    (.nowPlaying artist track album number mbid length source) backed.invariant
  simp only [pushed, List.append_nil] at after
  have defined : Record.isDefined ⟨artist, track, album, number, mbid, none, length, source⟩ := by
    simp [Record.isDefined, whole]
  apply (Holds.never after (scheduleIfReady_other _ (.inr defined)) (by simp [Others])).mono
  intro next both
  rcases both with ⟨invariant, slot, _⟩
  have held : next.scrobbler.nowPlaying.isDefined := slot.symm ▸ defined
  exact ⟨invariant, .inl held, fun _ _ _ => held⟩

theorem songchange_backed (checksum : Bytes → Bytes) (file : Bytes)
    (artist track album number mbid : Option Bytes) (length : Int) (time2 : Option Bytes)
    (timestamp : Bytes) (world : World) (backed : Backed config log world) :
    Holds (fun _ => False)
      (Backed config (log ++
        (songchangeRecord file artist track album number mbid length time2 timestamp).toList))
      (step checksum world
        (.songchange file artist track album number mbid length time2 timestamp)) := by
  have after := step_holds checksum log world
    (.songchange file artist track album number mbid length time2 timestamp) backed.invariant
  have kept : Holds Others (fun next =>
      next.scrobbler.nowPlaying = world.scrobbler.nowPlaying ∧ next.requests = world.requests)
      (step checksum world
        (.songchange file artist track album number mbid length time2 timestamp)) := by
    simp only [step, asSongchange]
    cases songchangeRecord file artist track album number mbid length time2 timestamp with
    | none => exact (⟨rfl, rfl⟩ : world.scrobbler.nowPlaying = _ ∧ world.requests = _)
    | some record => exact scheduleIfReady_other _ (.inl (by simp [World.update]))
  apply (Holds.never after kept (by simp [Others])).mono
  intro next both
  rcases both with ⟨invariant, slot, requests⟩
  refine ⟨invariant, slot.symm ▸ backed.slot, ?_⟩
  rw [slot, requests]
  exact backed.sent

/-- A callback whose requests are not answered at once. -/
def Event.Single (event : Event) : Prop :=
  (∃ id timestr, event = .timer id timestr []) ∨ ∃ index result, event = .http index result []

theorem answers_single (first : Event) (results : List HttpResult) (single : first.Single) :
    ∀ event ∈ first :: results.map (Event.http 0 · []), event.Single := by
  intro event member
  rcases List.mem_cons.mp member with rfl | answer
  · exact single
  · rcases List.mem_map.mp answer with ⟨result, _, rfl⟩
    exact .inr ⟨0, result, rfl⟩

theorem singles_backed (checksum : Bytes → Bytes) (events : List Event) (world : World)
    (backed : Backed config log world) (single : ∀ event ∈ events, event.Single) :
    Holds (fun _ => False) (Backed config log) (events.foldlM (step checksum) world) := by
  apply Holds.foldlM_of_mem
  · intro world event member backed
    rcases single event member with ⟨id, timestr, rfl⟩ | ⟨index, result, rfl⟩
    · exact timer_backed checksum id timestr world backed
    · exact http_backed checksum index result world backed
  · exact backed

theorem step_backed (checksum : Bytes → Bytes) (event : Event) (world : World)
    (backed : Backed config log world) (whole : event.Whole) :
    Holds (fun _ => False) (Backed config (log ++ pushed event)) (step checksum world event) := by
  cases event with
  | timer id timestr results =>
      simp only [pushed, List.append_nil]
      rw [step_oneByOne checksum world _ backed.invariant]
      apply singles_backed checksum _ world backed
      rw [oneByOne]
      split_ifs
      · exact answers_single _ results (.inl ⟨id, timestr, rfl⟩)
      · exact fun other member => (List.not_mem_nil member).elim
  | http index result results =>
      simp only [pushed, List.append_nil]
      rw [step_oneByOne checksum world _ backed.invariant]
      apply singles_backed checksum _ world backed
      rw [oneByOne]
      split_ifs
      · exact answers_single _ results (.inr ⟨index, result, rfl⟩)
      · exact fun other member => (List.not_mem_nil member).elim
  | nowPlaying artist track album number mbid length source =>
      simp only [pushed, List.append_nil]
      exact nowPlaying_backed checksum artist track album number mbid length source world backed
        whole
  | songchange file artist track album number mbid length time2 timestamp =>
      exact songchange_backed checksum file artist track album number mbid length time2 timestamp
        world backed
  | otherSources count =>
      have after := step_holds checksum log world (.otherSources count) backed.invariant
      exact ⟨after, backed.slot, backed.sent⟩

/-! ### All scrobblers -/

/-- A scrobbler that is backed, every record of it with a source. -/
def Instance.Sound (each : Instance) : Prop :=
  ∃ config log, Backed config log each.world ∧ AllSourced log

def Daemon.Sound (daemon : Daemon) : Prop := ∀ each ∈ daemon.scrobblers, each.Sound

theorem Instance.Sound.sourced {each : Instance} (sound : each.Sound) : AllSourced each.queue := by
  rcases sound with ⟨config, log, backed, sourced⟩
  exact Healthy.sourced ⟨config, log, backed.invariant, sourced⟩

theorem Instance.Sound.slot {each : Instance} (sound : each.Sound) :
    WholeOrNone each.world.scrobbler.nowPlaying := by
  rcases sound with ⟨config, log, backed, _⟩
  exact backed.slot

def DaemonEvent.Whole : DaemonEvent → Prop
  | .nowPlaying artist track _ _ _ _ _ => artist.isSome ∧ track.isSome
  | _ => True

theorem DaemonEvent.Whole.received {event : DaemonEvent} (whole : event.Whole) (index : Nat) :
    ∀ received ∈ event.received index, Event.Whole received := by
  intro received isEvent
  cases event with
  | nowPlaying =>
      cases isEvent
      exact whole
  | songchange =>
      cases isEvent
      trivial
  | otherSources =>
      cases isEvent
      trivial
  | timer =>
      rw [DaemonEvent.received] at isEvent
      split_ifs at isEvent
      · cases isEvent
        trivial
      · cases isEvent
  | http =>
      rw [DaemonEvent.received] at isEvent
      split_ifs at isEvent
      · cases isEvent
        trivial
      · cases isEvent
  | save => cases isEvent

theorem receive_sound (checksum : Bytes → Bytes) (received : Option Event) (each : Instance)
    (sound : each.Sound) (whole : ∀ event ∈ received, Event.Whole event) :
    Holds (fun _ => False) (fun world => Instance.Sound { each with world := world })
      (each.receive checksum received) := by
  cases received with
  | none => exact sound
  | some event =>
      rcases sound with ⟨config, log, backed, sourced⟩
      apply (step_backed checksum event each.world backed (whole event rfl)).mono
      intro world next
      exact ⟨config, _, next, sourced.append (pushed_sourced event)⟩

theorem stepEach_sound (checksum : Bytes → Bytes) (event : DaemonEvent) (whole : event.Whole)
    (scrobblers : List Instance) (sound : ∀ each ∈ scrobblers, each.Sound) (index : Nat) :
    Holds (fun _ => False) (fun after => ∀ each ∈ after, each.Sound)
      (stepEach checksum event index scrobblers) := by
  induction scrobblers generalizing index with
  | nil => exact fun each member => (List.not_mem_nil member).elim
  | cons each scrobblers ih =>
      apply (receive_sound checksum (event.received index) each (sound each List.mem_cons_self)
        (whole.received index)).bind
      intro world first
      apply (ih (fun other later => sound other (List.mem_cons_of_mem _ later)) (index + 1)).bind
      intro rest others next member
      rcases List.mem_cons.mp member with rfl | later
      · exact first
      · exact others next later

theorem scrobblerSaveCallback_saves (journalFileEmpty : Bool) (files : Files) (each : Instance)
    (sourced : AllSourced each.queue) :
    Holds (fun _ => False) (fun _ => True)
      (scrobblerSaveCallback journalFileEmpty files each.world.scrobbler) := by
  rcases journalText_sourced each.queue sourced with ⟨text, written, _⟩
  have text : journalText each.world.scrobbler.queue = .ok text := written
  unfold scrobblerSaveCallback journalWrite
  rw [text]
  split
  · trivial
  · split_ifs <;> trivial

theorem asSaveCache_sound (daemon : Daemon) (sound : daemon.Sound) :
    Holds (fun _ => False) Daemon.Sound (asSaveCache daemon) := by
  have saved : Holds (fun _ => False) (fun _ => True) (daemon.scrobblers.foldlM
      (fun files each =>
        scrobblerSaveCallback daemon.journalFileEmpty files each.world.scrobbler)
      daemon.files) := by
    apply Holds.foldlM_of_mem
    · intro files each member _
      exact scrobblerSaveCallback_saves daemon.journalFileEmpty files each (sound each member).sourced
    · trivial
  apply saved.bind
  intro files _ each member
  rcases List.mem_map.mp member with ⟨old, present, rfl⟩
  exact sound old present

theorem daemonStep_sound (checksum : Bytes → Bytes) (daemon : Daemon) (event : DaemonEvent)
    (sound : daemon.Sound) (whole : event.Whole) :
    Holds (fun _ => False) Daemon.Sound (daemonStep checksum daemon event) := by
  have each := stepEach_sound checksum event whole daemon.scrobblers sound 0
  cases event with
  | save => exact asSaveCache_sound daemon sound
  | songchange => exact each.bind fun _ next => next
  | nowPlaying => exact each.bind fun _ next => next
  | timer => exact each.bind fun _ next => next
  | http => exact each.bind fun _ next => next
  | otherSources => exact each.bind fun _ next => next

theorem scrobblerNewCallback_backed (config : ScrobblerConfig) (journal : List Record)
    (sourceIds : Nat) :
    Holds (fun _ => False) (Backed config journal)
      (scrobblerNewCallback config journal sourceIds) := by
  have after := scrobblerNewCallback_holds config journal sourceIds
  have leaves : Holds Others (Leaves recordClear)
      (scrobblerNewCallback config journal sourceIds) :=
    scrobblerScheduleHandshake_leaves _ rfl rfl
  apply (Holds.never after leaves (by simp [Others])).mono
  intro world both
  exact both.2.backed both.1 (.inr (.inl rfl))

theorem asInit_sound (iso8601 : Bytes → Option Int) (configs : List ScrobblerConfig)
    (files : Files) : Holds (fun _ => False) Daemon.Sound (asInit iso8601 configs files) := by
  apply Holds.foldlM_of_mem
  · intro daemon config _ sound
    have added (queue : List Record) (journalFileEmpty : Bool) (sourced : AllSourced queue) :
        Holds (fun _ => False) Daemon.Sound (do
          let world ← scrobblerNewCallback config queue daemon.scrobblers.length
          return { daemon with
            scrobblers := ⟨world, []⟩ :: daemon.scrobblers
            journalFileEmpty := journalFileEmpty }) := by
      apply (scrobblerNewCallback_backed config queue daemon.scrobblers.length).bind
      intro world backed each member
      rcases List.mem_cons.mp member with rfl | old
      · exact ⟨config, queue, backed, sourced⟩
      · exact sound each old
    rw [Daemon.scrobblerNewCallback]
    cases config.journal with
    | none => exact added [] _ fun record member => (List.not_mem_nil member).elim
    | some path => exact added _ _ (journalRead_sourced iso8601 (daemon.files path))
  · intro each member
    cases member

end Mpdcron.AudioScrobbler
