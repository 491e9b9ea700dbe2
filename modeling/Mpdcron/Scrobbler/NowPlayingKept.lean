import Mpdcron.Scrobbler.NowPlaying

/-! The now-playing song that `as_now_playing` stored last: it stays in `now_playing` until a
request that carried it is answered OK, unless OK comes for an older song. -/

namespace Mpdcron.AudioScrobbler

open CString Triple

/-! ### A run that is watched -/

/-- The run so far: the song that `as_now_playing` stored last, and the requests answered since
then. -/
structure Watched where
  world : World
  stored : Record
  answers : List (HttpRequest × HttpResult)

def Watched.after (watched : Watched) (world : World) : Event → Watched
  | .nowPlaying artist track album number mbid length source =>
      ⟨world, ⟨artist, track, album, number, mbid, none, length, source⟩, []⟩
  | .http request result _ =>
      ⟨world, watched.stored,
        watched.answers ++ (watched.world.requests[request]?.map (·, result)).toList⟩
  | _ => { watched with world := world }

def watchStep (checksum : Bytes → Bytes) (watched : Watched) (event : Event) :
    Except Assertion Watched :=
  (step checksum watched.world event).map fun world => watched.after world event

/-- An event whose requests are answered at once is watched answer by answer. -/
def watchEvent (checksum : Bytes → Bytes) (watched : Watched) (event : Event) :
    Except Assertion Watched :=
  (oneByOne watched.world event).foldlM (watchStep checksum) watched

def watchStart (config : ScrobblerConfig) (journal : List Record) (sourceIds : Nat) :
    Except Assertion Watched :=
  (scrobblerNewCallback config journal sourceIds).map fun world => ⟨world, recordClear, []⟩

def watch (checksum : Bytes → Bytes) (config : ScrobblerConfig) (journal : List Record)
    (sourceIds : Nat) (events : List Event) : Except Assertion Watched := do
  let watched ← watchStart config journal sourceIds
  events.foldlM (watchEvent checksum) watched

/-- A request with the stored song was answered OK. -/
def Watched.Accepted (watched : Watched) : Prop :=
  ∃ answer ∈ watched.answers, answer.1.Carries watched.stored ∧ answer.2.isOk

structure Watched.Survives (watched : Watched) : Prop where
  held : watched.stored.isDefined →
    watched.world.scrobbler.nowPlaying = watched.stored ∨
      (∃ request ∈ watched.world.requests, request.Carries watched.stored) ∨ watched.Accepted
  cleared : watched.stored.isDefined →
    watched.world.scrobbler.nowPlaying ≠ watched.stored → watched.Accepted

/-- The event does not bring OK for one song while another one is in `now_playing`. -/
def Timely (world : World) : Event → Prop
  | .http index result _ =>
      ∀ request, world.requests[index]? = some request →
        request.caller = .scrobblerSendNowPlaying → result.isOk →
        world.scrobbler.nowPlaying.isDefined → request.Carries world.scrobbler.nowPlaying
  | _ => True

/-! ### A watched run is a run -/

variable {config : ScrobblerConfig} {log : List Record} (checksum : Bytes → Bytes)

theorem Watched.after_world (watched : Watched) (world : World) (event : Event) :
    (watched.after world event).world = world := by
  cases event <;> rfl

theorem watchSteps_world (events : List Event) (watched : Watched) :
    (events.foldlM (watchStep checksum) watched).map Watched.world
      = events.foldlM (step checksum) watched.world := by
  induction events generalizing watched with
  | nil => rfl
  | cons event events ih =>
      rw [List.foldlM_cons, List.foldlM_cons, watchStep]
      cases step checksum watched.world event with
      | error reason => rfl
      | ok world =>
          calc
            (events.foldlM (watchStep checksum) (watched.after world event)).map Watched.world
                = events.foldlM (step checksum) (watched.after world event).world := ih _
            _ = events.foldlM (step checksum) world := by rw [watched.after_world]

theorem watchEvent_world (watched : Watched) (event : Event)
    (invariant : Invariant config log watched.world) :
    (watchEvent checksum watched event).map Watched.world
      = step checksum watched.world event := by
  rw [watchEvent, watchSteps_world checksum, ← step_oneByOne checksum watched.world event invariant]

/-- Watching changes nothing. -/
theorem watch_world (config : ScrobblerConfig) (journal : List Record) (sourceIds : Nat)
    (events : List Event) :
    (watch checksum config journal sourceIds events).map Watched.world
      = run checksum config journal sourceIds events := by
  have started := scrobblerNewCallback_holds config journal sourceIds
  rw [watch, watchStart, run]
  cases begun : scrobblerNewCallback config journal sourceIds with
  | error reason => rfl
  | ok world =>
      rw [begun] at started
      change (events.foldlM (watchEvent checksum) ⟨world, recordClear, []⟩).map Watched.world
        = events.foldlM (step checksum) world
      have follows (watched : Watched) (log : List Record)
          (invariant : Invariant config log watched.world) :
          (events.foldlM (watchEvent checksum) watched).map Watched.world
            = events.foldlM (step checksum) watched.world := by
        induction events generalizing watched log with
        | nil => rfl
        | cons event events ih =>
            have moved := watchEvent_world checksum watched event invariant
            have after := step_holds checksum log watched.world event invariant
            rw [List.foldlM_cons, List.foldlM_cons, ← moved]
            rw [← moved] at after
            cases moves : watchEvent checksum watched event with
            | error reason => rfl
            | ok next =>
                rw [moves] at after
                exact ih next _ after
      exact follows _ journal started

/-! ### One answer -/

/-- The slot holds the stored song until it is accepted, and nothing from then on. -/
structure Watched.Kept (watched : Watched) : Prop where
  stored : watched.stored.isDefined →
    watched.world.scrobbler.nowPlaying = watched.stored ∧ ¬watched.Accepted ∨
      watched.world.scrobbler.nowPlaying = recordZero ∧ watched.Accepted
  undefined : watched.stored.isDefined = false →
    watched.world.scrobbler.nowPlaying.isDefined = false

structure Watched.Lost (watched : Watched) : Prop where
  stored : watched.stored.isDefined
  slot : watched.world.scrobbler.nowPlaying = recordZero
  unaccepted : ¬watched.Accepted

theorem Watched.Kept.survives {watched : Watched} (kept : watched.Kept) : watched.Survives := by
  constructor
  · intro defined
    rcases kept.stored defined with ⟨slot, -⟩ | ⟨-, accepted⟩
    · exact .inl slot
    · exact .inr (.inr accepted)
  · intro defined different
    rcases kept.stored defined with ⟨slot, -⟩ | ⟨-, accepted⟩
    · exact (different slot).elim
    · exact accepted

theorem Watched.Lost.not_survives {watched : Watched} (lost : watched.Lost) :
    ¬watched.Survives := by
  intro survives
  apply lost.unaccepted
  apply survives.cleared lost.stored
  intro same
  have defined := lost.stored
  rw [← same, lost.slot] at defined
  cases defined

/-- What is known after the answer to a request. -/
structure Answered (watched : Watched) (request : HttpRequest) (result : HttpResult)
    (next : Watched) : Prop where
  stored : next.stored = watched.stored
  answers : next.answers = watched.answers ++ [(request, result)]
  leaves : Leaves (afterAnswer request result watched.world.scrobbler.nowPlaying) next.world

theorem Answered.accepted_iff {watched next : Watched} {request : HttpRequest}
    {result : HttpResult} (answered : Answered watched request result next) :
    next.Accepted ↔ watched.Accepted ∨ request.Carries watched.stored ∧ result.isOk := by
  simp [Watched.Accepted, answered.stored, answered.answers, or_and_right, exists_or]

theorem watchStep_answer (watched : Watched)
    (invariant : Invariant config log watched.world) (index : Nat) (request : HttpRequest)
    (result : HttpResult) (outstanding : watched.world.requests[index]? = some request) :
    Holds (fun reason => Allowed reason ∧ request.caller = .scrobblerSendNowPlaying ∧
        watched.world.scrobbler.nowPlaying.isDefined = false)
      (fun next => Invariant config log next.world ∧ Answered watched request result next)
      (watchStep checksum watched (.http index result [])) := by
  have after := step_holds checksum log watched.world (.http index result []) invariant
  simp only [pushed, List.append_nil] at after
  have sent := sent_of_outstanding watched.world index request invariant.phase.single_request
    outstanding
  have leaves := callHandler_leaves request result
    { watched.world with requests := watched.world.requests.eraseIdx index }
    (by rw [sent]; exact invariant) rfl
  have stepped : step checksum watched.world (.http index result [])
      = callHandler (httpClientRequest []) request.handler result
        { watched.world with requests := watched.world.requests.eraseIdx index } := by
    simp only [step, outstanding]
  rw [← stepped] at leaves
  apply Holds.map
  apply ((after.and leaves).allow ?_).mono
  · intro world reached
    refine ⟨reached.1, rfl, ?_, reached.2⟩
    simp [Watched.after, outstanding]
  · intro reason allowed
    exact ⟨allowed.1, allowed.2 allowed.1⟩

/-- Only OK changes the slot. -/
theorem afterAnswer_kept (request : HttpRequest) (result : HttpResult) (song : Record)
    (other : ¬(request.caller = .scrobblerSendNowPlaying ∧ result.isOk)) :
    afterAnswer request result song = song := by
  rw [afterAnswer]
  split
  · rename_i caller
    exact if_neg fun accepted => other ⟨caller, accepted⟩
  · rfl

theorem afterAnswer_cleared (request : HttpRequest) (result : HttpResult) (song : Record)
    (caller : request.caller = .scrobblerSendNowPlaying) (accepted : result.isOk) :
    afterAnswer request result song = recordZero := by
  rw [afterAnswer, if_pos caller, afterNowPlaying, if_pos accepted]

theorem Watched.Kept.answered {watched next : Watched} (kept : watched.Kept)
    {request : HttpRequest} {result : HttpResult}
    (answered : Answered watched request result next)
    (timely : request.caller = .scrobblerSendNowPlaying → result.isOk →
      watched.world.scrobbler.nowPlaying.isDefined →
      request.Carries watched.world.scrobbler.nowPlaying) : next.Kept := by
  have slot := answered.leaves.slot
  by_cases clears : request.caller = .scrobblerSendNowPlaying ∧ result.isOk
  · rw [afterAnswer_cleared _ _ _ clears.1 clears.2] at slot
    constructor
    · intro defined
      rw [answered.stored] at defined
      refine .inr ⟨slot, answered.accepted_iff.mpr ?_⟩
      rcases kept.stored defined with ⟨holds, -⟩ | ⟨-, accepted⟩
      · rw [holds] at timely
        exact .inr ⟨timely clears.1 clears.2 defined, clears.2⟩
      · exact .inl accepted
    · intro _
      rw [slot]
      rfl
  · rw [afterAnswer_kept _ _ _ clears] at slot
    have same : next.Accepted ↔ watched.Accepted := by
      rw [answered.accepted_iff]
      constructor
      · rintro (accepted | ⟨carries, accepted⟩)
        · exact accepted
        · exact (clears ⟨carries.1, accepted⟩).elim
      · exact .inl
    constructor
    · rw [answered.stored, slot, same]
      exact kept.stored
    · rw [answered.stored, slot]
      exact kept.undefined

/-- OK for another song loses the stored one. -/
theorem Watched.Kept.loses {watched next : Watched} (kept : watched.Kept)
    {request : HttpRequest} {result : HttpResult}
    (answered : Answered watched request result next)
    (caller : request.caller = .scrobblerSendNowPlaying) (accepted : result.isOk)
    (defined : watched.world.scrobbler.nowPlaying.isDefined)
    (other : ¬request.Carries watched.world.scrobbler.nowPlaying) : next.Lost := by
  have stored : watched.stored.isDefined := by
    by_contra undefined
    have empty := kept.undefined (by simpa using undefined)
    rw [empty] at defined
    cases defined
  rcases kept.stored stored with ⟨slot, unaccepted⟩ | ⟨slot, -⟩
  · constructor
    · rw [answered.stored]
      exact stored
    · rw [answered.leaves.slot, afterAnswer_cleared _ _ _ caller accepted]
    · rw [answered.accepted_iff]
      rintro (before | ⟨carries, -⟩)
      · exact unaccepted before
      · rw [slot] at other
        exact other carries
  · rw [slot] at defined
    cases defined

theorem Watched.Lost.answered {watched next : Watched} (lost : watched.Lost)
    {request : HttpRequest} {result : HttpResult}
    (answered : Answered watched request result next)
    (caller : request.caller ≠ .scrobblerSendNowPlaying) : next.Lost := by
  have kept := afterAnswer_kept request result watched.world.scrobbler.nowPlaying
    fun clears => caller clears.1
  constructor
  · rw [answered.stored]
    exact lost.stored
  · rw [answered.leaves.slot, kept, lost.slot]
  · rw [answered.accepted_iff]
    rintro (before | ⟨carries, -⟩)
    · exact lost.unaccepted before
    · exact caller carries.1

/-! ### One event -/

theorem watchStep_nothing (watched : Watched) (index : Nat) (result : HttpResult)
    (none : watched.world.requests[index]? = none) :
    watchStep checksum watched (.http index result []) = .ok watched := by
  simp [watchStep, step, none, Watched.after, Except.map]

theorem Fresh.timely {world : World} (fresh : Fresh world) {index : Nat} {request : HttpRequest}
    (outstanding : world.requests[index]? = some request)
    (caller : request.caller = .scrobblerSendNowPlaying) :
    world.scrobbler.nowPlaying.isDefined ∧ request.Carries world.scrobbler.nowPlaying :=
  fresh request (List.mem_of_getElem? outstanding) caller

/-- The answers that come at once are to requests that carry the slot. -/
theorem answers_keep (results : List HttpResult) (watched : Watched)
    (invariant : Invariant config log watched.world) (fresh : Fresh watched.world)
    (kept : watched.Kept) :
    Holds Allowed (fun next => Invariant config log next.world ∧ Fresh next.world ∧ next.Kept)
      ((results.map (Event.http 0 · [])).foldlM (watchStep checksum) watched) := by
  apply Holds.foldlM_of_mem
  · rintro watched event answer ⟨invariant, fresh, kept⟩
    rcases List.mem_map.mp answer with ⟨result, -, rfl⟩
    cases outstanding : watched.world.requests[0]? with
    | none =>
        rw [watchStep_nothing checksum watched 0 result outstanding]
        exact ⟨invariant, fresh, kept⟩
    | some request =>
        apply ((watchStep_answer checksum watched invariant 0 request result
          outstanding).allow fun _ allowed => allowed.1).mono
        rintro next ⟨after, answered⟩
        refine ⟨after, answered.leaves.fresh, kept.answered answered ?_⟩
        intro caller _ _
        exact (fresh.timely outstanding caller).2
  · exact ⟨invariant, fresh, kept⟩

/-- Once the song is lost no other answer that comes at once brings it back. -/
theorem answers_lose (results : List HttpResult) (watched : Watched)
    (invariant : Invariant config log watched.world) (fresh : Fresh watched.world)
    (lost : watched.Lost) :
    Holds (fun _ => False)
      (fun next => Invariant config log next.world ∧ Fresh next.world ∧ next.Lost)
      ((results.map (Event.http 0 · [])).foldlM (watchStep checksum) watched) := by
  apply Holds.foldlM_of_mem
  · rintro watched event answer ⟨invariant, fresh, lost⟩
    rcases List.mem_map.mp answer with ⟨result, -, rfl⟩
    cases outstanding : watched.world.requests[0]? with
    | none =>
        rw [watchStep_nothing checksum watched 0 result outstanding]
        exact ⟨invariant, fresh, lost⟩
    | some request =>
        have caller : request.caller ≠ .scrobblerSendNowPlaying := by
          intro caller
          have defined := (fresh.timely outstanding caller).1
          rw [lost.slot] at defined
          cases defined
        apply ((watchStep_answer checksum watched invariant 0 request result
          outstanding).allow fun _ allowed => caller allowed.2.1).mono
        rintro next ⟨after, answered⟩
        exact ⟨after, answered.leaves.fresh, lost.answered answered caller⟩
  · exact ⟨invariant, fresh, lost⟩

/-- A watched state of a run. -/
structure Watched.Sound (config : ScrobblerConfig) (watched : Watched) : Prop where
  invariant : ∃ log, Invariant config log watched.world
  kept : watched.Kept

theorem Watched.Kept.unanswered {watched : Watched} (kept : watched.Kept) (world : World)
    (slot : world.scrobbler.nowPlaying = watched.world.scrobbler.nowPlaying) :
    ({ watched with world := world } : Watched).Kept := by
  constructor
  · intro defined
    rw [slot]
    exact kept.stored defined
  · intro undefined
    rw [slot]
    exact kept.undefined undefined

theorem kept_stored (world : World) (song : Record) (slot : world.scrobbler.nowPlaying = song) :
    (⟨world, song, []⟩ : Watched).Kept := by
  constructor
  · intro _
    refine .inl ⟨slot, ?_⟩
    rintro ⟨answer, none, -⟩
    cases none
  · intro undefined
    rw [slot]
    exact undefined

theorem watchEvent_single (watched : Watched) (event : Event)
    (single : oneByOne watched.world event = [event]) :
    watchEvent checksum watched event = watchStep checksum watched event := by
  rw [watchEvent, single]
  simp

/-- A callback that is watched as one step. -/
theorem watchEvent_single_keeps (watched : Watched) (event : Event)
    (single : oneByOne watched.world event = [event])
    (invariant : Invariant config log watched.world) {post : World → Prop}
    (slot : Holds (fun _ => True) post (step checksum watched.world event))
    (kept : ∀ world, post world → (watched.after world event).Kept) :
    Holds Allowed (Watched.Sound config) (watchEvent checksum watched event) := by
  have after := step_holds checksum log watched.world event invariant
  rw [watchEvent_single checksum watched event single]
  apply Holds.map
  apply ((after.and slot).allow fun _ allowed => allowed.1).mono
  intro world reached
  have still := reached.1
  rw [← watched.after_world world event] at still
  exact ⟨⟨_, still⟩, kept world reached.2⟩

theorem watchStep_timer (watched : Watched) (invariant : Invariant config log watched.world)
    (kept : watched.Kept) (id : Nat) (timestr : Bytes) (source : Source)
    (found : watched.world.sources.find? (·.id = id) = some source) :
    Holds Allowed (fun next => Invariant config log next.world ∧ Fresh next.world ∧ next.Kept)
      (watchStep checksum watched (.timer id timestr [])) := by
  have quiet := invariant.quiet_of_timer (List.mem_of_find?_eq_some found)
  have after := step_holds checksum log watched.world (.timer id timestr []) invariant
  simp only [pushed, List.append_nil] at after
  have leaves := dispatchTimer_leaves checksum timestr source watched.world rfl quiet
  have stepped : step checksum watched.world (.timer id timestr [])
      = dispatchTimer checksum (httpClientRequest []) timestr source watched.world := by
    simp only [step, found]
  rw [← stepped] at leaves
  apply Holds.map
  apply ((after.and leaves).allow fun _ allowed => allowed.1).mono
  intro world reached
  exact ⟨reached.1, reached.2.fresh, kept.unanswered world reached.2.slot⟩

theorem watchEvent_timer_keeps (watched : Watched) (sound : watched.Sound config) (id : Nat)
    (timestr : Bytes) (results : List HttpResult) :
    Holds Allowed (Watched.Sound config) (watchEvent checksum watched (.timer id timestr results)) := by
  rcases sound with ⟨⟨log, invariant⟩, kept⟩
  cases found : watched.world.sources.find? (·.id = id) with
  | none =>
      simp only [watchEvent, oneByOne, found]
      exact ⟨⟨log, invariant⟩, kept⟩
  | some source =>
      rw [watchEvent, oneByOne, if_pos (by simp [found]), List.foldlM_cons]
      apply Holds.bind (watchStep_timer checksum watched invariant kept id timestr source found)
      rintro next ⟨reached, fresh, still⟩
      exact (answers_keep checksum results next reached fresh still).mono
        fun next reached => ⟨⟨log, reached.1⟩, reached.2.2⟩

theorem watchEvent_http_keeps (watched : Watched) (sound : watched.Sound config) (index : Nat)
    (result : HttpResult) (results : List HttpResult)
    (timely : Timely watched.world (.http index result results)) :
    Holds Allowed (Watched.Sound config)
      (watchEvent checksum watched (.http index result results)) := by
  rcases sound with ⟨⟨log, invariant⟩, kept⟩
  cases outstanding : watched.world.requests[index]? with
  | none =>
      simp only [watchEvent, oneByOne, outstanding]
      exact ⟨⟨log, invariant⟩, kept⟩
  | some request =>
      rw [watchEvent, oneByOne, if_pos (by simp [outstanding]), List.foldlM_cons]
      apply Holds.bind ((watchStep_answer checksum watched invariant index request result
        outstanding).allow fun _ allowed => allowed.1)
      rintro next ⟨reached, answered⟩
      have still := kept.answered answered (timely request outstanding)
      exact (answers_keep checksum results next reached answered.leaves.fresh still).mono
        fun next reached => ⟨⟨log, reached.1⟩, reached.2.2⟩

theorem watchEvent_keeps (watched : Watched) (event : Event) (sound : watched.Sound config)
    (timely : Timely watched.world event) :
    Holds Allowed (Watched.Sound config) (watchEvent checksum watched event) := by
  cases event with
  | timer id timestr results =>
      exact watchEvent_timer_keeps checksum watched sound id timestr results
  | http index result results =>
      exact watchEvent_http_keeps checksum watched sound index result results timely
  | songchange file artist track album number mbid length time2 timestamp =>
      rcases sound with ⟨⟨log, invariant⟩, kept⟩
      have slot : Holds (fun _ => True)
          (fun next => next.scrobbler.nowPlaying = watched.world.scrobbler.nowPlaying)
          (step checksum watched.world
            (.songchange file artist track album number mbid length time2 timestamp)) := by
        simp only [step, asSongchange]
        split
        · exact (rfl : watched.world.scrobbler.nowPlaying = _)
        · exact scheduleIfReady_slot _ rfl
      exact watchEvent_single_keeps checksum watched _ rfl invariant slot kept.unanswered
  | nowPlaying artist track album number mbid length source =>
      rcases sound with ⟨⟨log, invariant⟩, kept⟩
      have slot : Holds (fun _ => True) (fun next => next.scrobbler.nowPlaying
            = ⟨artist, track, album, number, mbid, none, length, source⟩)
          (step checksum watched.world
            (.nowPlaying artist track album number mbid length source)) :=
        scheduleIfReady_slot _ rfl
      exact watchEvent_single_keeps checksum watched _ rfl invariant slot fun world stored =>
        kept_stored world _ stored
  | otherSources count =>
      rcases sound with ⟨⟨log, invariant⟩, kept⟩
      have slot : Holds (fun _ => True)
          (fun next => next.scrobbler.nowPlaying = watched.world.scrobbler.nowPlaying)
          (step checksum watched.world (.otherSources count)) := rfl
      exact watchEvent_single_keeps checksum watched _ rfl invariant slot kept.unanswered

theorem watchEvent_loses (watched : Watched) (event : Event) (sound : watched.Sound config)
    (untimely : ¬Timely watched.world event) :
    ¬Holds Allowed Watched.Survives (watchEvent checksum watched event) := by
  rcases sound with ⟨⟨log, invariant⟩, kept⟩
  cases event with
  | http index result results =>
      simp only [Timely, not_forall] at untimely
      rcases untimely with ⟨request, outstanding, caller, accepted, defined, other⟩
      have lost : Holds (fun _ => False)
          (fun next => Invariant config log next.world ∧ Fresh next.world ∧ next.Lost)
          (watchEvent checksum watched (.http index result results)) := by
        rw [watchEvent, oneByOne, if_pos (by simp [outstanding]), List.foldlM_cons]
        apply Holds.bind ((watchStep_answer checksum watched invariant index request result
          outstanding).allow fun _ allowed => by simp [defined] at allowed)
        rintro next ⟨reached, answered⟩
        exact answers_lose checksum results next reached answered.leaves.fresh
          (kept.loses answered caller accepted defined other)
      intro survives
      cases ended : watchEvent checksum watched (.http index result results) with
      | error reason =>
          rw [ended] at lost
          exact lost
      | ok next =>
          rw [ended] at lost survives
          exact lost.2.2.not_survives survives
  | timer id timestr results => exact (untimely trivial).elim
  | songchange file artist track album number mbid length time2 timestamp =>
      exact (untimely trivial).elim
  | nowPlaying artist track album number mbid length source => exact (untimely trivial).elim
  | otherSources count => exact (untimely trivial).elim

theorem watchStart_sound (config : ScrobblerConfig) (journal : List Record) (sourceIds : Nat) :
    Holds Allowed (Watched.Sound config) (watchStart config journal sourceIds) := by
  have started := scrobblerNewCallback_holds config journal sourceIds
  have slot : Holds (fun _ => True) (fun world => world.scrobbler.nowPlaying = recordClear)
      (scrobblerNewCallback config journal sourceIds) := rfl
  apply Holds.map
  apply ((started.and slot).allow fun _ allowed => allowed.1).mono
  intro world reached
  exact ⟨⟨journal, reached.1⟩, kept_stored world recordClear reached.2⟩

/-- In every run the song stored last survives from state to state exactly as long as no OK for
one song comes while another one is in `now_playing`. -/
theorem nowPlaying_survives_iff (checksum : Bytes → Bytes) (config : ScrobblerConfig)
    (journal : List Record) (sourceIds : Nat) (events : List Event) :
    (∀ past, past <+: events →
      Holds (fun reason => reason = .recordIsDefined) Watched.Survives
        (watch checksum config journal sourceIds past)) ↔
    ∀ past event watched, past ++ [event] <+: events →
      watch checksum config journal sourceIds past = .ok watched →
      Timely watched.world event :=
  Holds.run_iff (fun _ sound => sound.kept.survives) (watchStart_sound config journal sourceIds)
    (watchEvent_keeps checksum) (watchEvent_loses checksum) events

/-! ### A song that is overtaken -/

/-- The variables of a now-playing request after the session. -/
def Record.details (song : Record) : Bytes :=
  let postData := addVar [] (lit "a") song.artist
  let postData := addVar postData (lit "t") song.track
  let postData := addVar postData (lit "b") song.album
  let postData := addVar postData (lit "l") (some (decimal song.length))
  let postData := addVar postData (lit "n") song.number
  addVar postData (lit "m") song.mbid

theorem nowPlayingData_details (song : Record) (session : Option Bytes) :
    song.nowPlayingData session = addVar [] (lit "s") session ++ song.details := by
  simp [Record.nowPlayingData, nowPlayingData, Record.details, addVar, addVarInternal]

/-- A request that carries two songs of one size does not tell them apart. -/
theorem HttpRequest.Carries.details_eq {request : HttpRequest} {song other : Record}
    (first : request.Carries song) (second : request.Carries other)
    (size : song.details.length = other.details.length) : song.details = other.details := by
  rcases first with ⟨-, session, sent⟩
  rcases second with ⟨-, otherSession, same⟩
  rw [sent, nowPlayingData_details, nowPlayingData_details] at same
  exact List.append_inj_right' (Option.some.inj same) size

def titled (track : Bytes) : Record :=
  { recordZero with artist := some (lit "A"), track := some track }

def announce (song : Record) : Event :=
  .nowPlaying song.artist song.track song.album song.number song.mbid song.length song.source

/-- The first song is sent; the second comes before the answer. -/
def overtaken : List Event :=
  [ .timer 1 [] [],
    .http 0 (.response (lit "OK\nsession\nnow\nsubmit\n")) [],
    announce (titled (lit "1")),
    .timer 2 [] [],
    announce (titled (lit "2")),
    .http 0 (.response (lit "OK\n")) [] ]

def overtakenRun : Except Assertion Watched :=
  watch (fun _ => []) ⟨[], [], [], none⟩ [] 0 overtaken

def firstRequest : HttpRequest :=
  ⟨some (lit "now"), some ((titled (lit "1")).nowPlayingData (some (lit "session"))),
    .scrobblerSubmitHandler, .scrobblerSendNowPlaying⟩

theorem overtakenRun_eq :
    overtakenRun.toOption.map (fun watched => (watched.world.scrobbler.nowPlaying,
        watched.world.requests, watched.stored, watched.answers)) =
      some (recordZero, [], titled (lit "2"),
        [(firstRequest, .response (lit "OK\n"))]) := by
  decide +kernel

/-- OK for the first song clears the second, which no request ever carried. -/
theorem nowPlaying_overtaken :
    ¬Holds (fun reason => reason = .recordIsDefined) Watched.Survives overtakenRun := by
  have computed := overtakenRun_eq
  intro survives
  cases outcome : overtakenRun with
  | error reason =>
      rw [outcome] at computed
      cases computed
  | ok watched =>
      rw [outcome] at computed survives
      have parts := Option.some.inj computed
      simp only [Prod.mk.injEq] at parts
      rcases parts with ⟨slot, -, stored, answers⟩
      have different : watched.world.scrobbler.nowPlaying ≠ watched.stored := by
        rw [slot, stored]
        decide
      rcases survives.cleared (by rw [stored]; rfl) different with ⟨answer, answered, carries, -⟩
      rw [answers] at answered
      rw [stored, List.mem_singleton.mp answered] at carries
      have sent : firstRequest.Carries (titled (lit "1")) := ⟨rfl, _, rfl⟩
      have same := sent.details_eq carries (by decide +kernel)
      revert same
      decide +kernel

end Mpdcron.AudioScrobbler
