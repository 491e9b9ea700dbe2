import Mpdcron.Scrobbler.Invariant

/-! An answer that the HTTP client gives at once is the one that it would give next. -/

namespace Mpdcron.AudioScrobbler

open CString Triple

/-- The events that a run without answers at once goes through instead. -/
def oneByOne (world : World) : Event → List Event
  | .timer id timestr results =>
      if (world.sources.find? (·.id = id)).isSome then
        .timer id timestr [] :: results.map (.http 0 · [])
      else []
  | .http request result results =>
      if (world.requests[request]?).isSome then
        .http request result [] :: results.map (.http 0 · [])
      else []
  | event => [event]

/-- The outstanding request is made once more, of an HTTP client that may answer it. -/
def askAgain (http : HttpRequest → World → Outcome) (world : World) : Outcome :=
  match world.requests with
  | [] => .ok world
  | request :: requests => http request { world with requests := requests }

variable {http : HttpRequest → World → Outcome}

theorem askAgain_quiet (world : World) (quiet : world.requests = []) :
    askAgain http world = .ok world := by
  rw [askAgain, quiet]

theorem askAgain_send (request : HttpRequest) (world : World) (quiet : world.requests = []) :
    (httpClientRequest [] request world >>= askAgain http) = http request world := by
  rcases world with ⟨scrobbler, sources, nextId, requests, removed⟩
  cases quiet
  rfl

theorem assert_asks {condition : Prop} [Decidable condition] (reason : Assertion) (world : World)
    {rest later : World → Outcome}
    (continued : condition → (rest world >>= askAgain http) = later world) :
    ((assert condition reason world >>= rest) >>= askAgain http)
      = (assert condition reason world >>= later) := by
  by_cases holds : condition
  · rw [assert_bind holds, assert_bind holds]
    exact continued holds
  · rw [assert, if_neg holds]
    rfl

/-! ### The functions of the scrobbler -/

theorem scrobblerScheduleHandshake_asks (world : World) (quiet : world.requests = []) :
    (scrobblerScheduleHandshake world >>= askAgain http) = scrobblerScheduleHandshake world := by
  apply assert_asks
  intro _
  apply assert_asks
  intro _
  exact askAgain_quiet _ quiet

theorem scrobblerScheduleSubmit_asks (world : World) (quiet : world.requests = []) :
    (scrobblerScheduleSubmit world >>= askAgain http) = scrobblerScheduleSubmit world := by
  apply assert_asks
  intro _
  apply assert_asks
  intro _
  exact askAgain_quiet _ quiet

theorem scrobblerSendNowPlaying_asks (artist track album number mbid : Option Bytes)
    (length : Int) (world : World) (quiet : world.requests = []) :
    (scrobblerSendNowPlaying (httpClientRequest []) artist track album number mbid length world
        >>= askAgain http)
      = scrobblerSendNowPlaying http artist track album number mbid length world := by
  apply assert_asks
  intro _
  apply assert_asks
  intro _
  exact askAgain_send _ _ quiet

theorem scrobblerSubmit_asks (world : World) (quiet : world.requests = []) :
    (scrobblerSubmit (httpClientRequest []) world >>= askAgain http)
      = scrobblerSubmit http world := by
  apply assert_asks
  intro _
  apply assert_asks
  intro _
  by_cases empty : world.scrobbler.queue = []
  · simp only [if_pos empty]
    by_cases defined : world.scrobbler.nowPlaying.isDefined
    · simp only [if_pos defined]
      exact scrobblerSendNowPlaying_asks _ _ _ _ _ _ world quiet
    · simp only [if_neg defined]
      exact askAgain_quiet world quiet
  · simp only [if_neg empty]
    exact askAgain_send _ _ quiet

theorem scrobblerHandshakeResponse_asks (response : Bytes) (world : World)
    (quiet : world.requests = []) :
    (scrobblerHandshakeResponse (httpClientRequest []) response world >>= askAgain http)
      = scrobblerHandshakeResponse http response world := by
  apply assert_asks
  intro _
  simp only
  split_ifs
  · exact scrobblerScheduleHandshake_asks _ quiet
  · exact scrobblerSubmit_asks _ quiet
  · exact scrobblerScheduleHandshake_asks _ quiet

theorem scrobblerHandshakeError_asks (world : World) (quiet : world.requests = []) :
    (scrobblerHandshakeError world >>= askAgain http) = scrobblerHandshakeError world := by
  apply assert_asks
  intro _
  exact scrobblerScheduleHandshake_asks _ quiet

theorem removeOldest_requests (count : Nat) (world : World) :
    Holds (fun _ => True) (fun next => next.requests = world.requests)
      (removeOldest count world) := by
  induction count generalizing world with
  | zero => exact rfl
  | succ count ih =>
      rw [removeOldest]
      cases world.scrobbler.queue with
      | nil => exact trivial
      | cons oldest queue => exact ih _

theorem scrobblerQueueRemoveOldest_asks (count : Nat) (world : World)
    {rest later : World → Outcome}
    (continued : ∀ next : World, next.requests = world.requests →
      (rest next >>= askAgain http) = later next) :
    ((scrobblerQueueRemoveOldest count world >>= rest) >>= askAgain http)
      = (scrobblerQueueRemoveOldest count world >>= later) := by
  rw [scrobblerQueueRemoveOldest, bind_assoc, bind_assoc]
  by_cases positive : count > 0
  · rw [assert_bind positive, assert_bind positive]
    have kept := removeOldest_requests count world
    cases removed : removeOldest count world with
    | error reason => rfl
    | ok next =>
        rw [removed] at kept
        exact continued next kept
  · rw [assert, if_neg positive]
    rfl

theorem scrobblerSubmitResponse_asks (response : Bytes) (world : World)
    (quiet : world.requests = []) :
    (scrobblerSubmitResponse (httpClientRequest []) response world >>= askAgain http)
      = scrobblerSubmitResponse http response world := by
  apply assert_asks
  intro _
  simp only
  split
  · split_ifs
    · apply scrobblerQueueRemoveOldest_asks
      intro next kept
      exact scrobblerSubmit_asks _ (kept.trans quiet)
    · apply assert_asks
      intro _
      exact scrobblerSubmit_asks _ quiet
  · exact scrobblerScheduleSubmit_asks _ quiet
  · exact scrobblerScheduleHandshake_asks _ quiet

theorem scrobblerSubmitError_asks (world : World) (quiet : world.requests = []) :
    (scrobblerSubmitError world >>= askAgain http) = scrobblerSubmitError world := by
  apply assert_asks
  intro _
  exact scrobblerScheduleSubmit_asks _ quiet

theorem callHandler_asks (http : HttpRequest → World → Outcome) (handler : HttpClientHandler)
    (result : HttpResult) (world : World) (quiet : world.requests = []) :
    (callHandler (httpClientRequest []) handler result world >>= askAgain http)
      = callHandler http handler result world := by
  cases handler with
  | scrobblerHandshakeHandler =>
      cases result with
      | response body => exact scrobblerHandshakeResponse_asks body world quiet
      | error => exact scrobblerHandshakeError_asks world quiet
  | scrobblerSubmitHandler =>
      cases result with
      | response body => exact scrobblerSubmitResponse_asks body world quiet
      | error => exact scrobblerSubmitError_asks world quiet

theorem dispatchTimer_asks (http : HttpRequest → World → Outcome) (checksum : Bytes → Bytes)
    (timestr : Bytes) (source : Source) (world : World) (quiet : world.requests = []) :
    (dispatchTimer checksum (httpClientRequest []) timestr source world >>= askAgain http)
      = dispatchTimer checksum http timestr source world := by
  rcases source with ⟨id, interval, callback⟩
  cases callback with
  | scrobblerHandshakeTimer =>
      apply assert_asks
      intro _
      exact askAgain_send _ _ quiet
  | scrobblerSubmitTimer =>
      apply assert_asks
      intro _
      exact scrobblerSubmit_asks _ quiet

/-! ### The events -/

/-- To ask again a client that has results is to answer the outstanding request next. -/
theorem askAgain_answer (checksum : Bytes → Bytes) (result : HttpResult)
    (results : List HttpResult) (world : World) :
    askAgain (httpClientRequest (result :: results)) world
      = step checksum world (.http 0 result results) := by
  rcases world with ⟨scrobbler, sources, nextId, requests, removed⟩
  cases requests with
  | nil => rfl
  | cons request requests => rfl

theorem askAgain_single (world : World) (single : world.requests.length ≤ 1) :
    askAgain (httpClientRequest []) world = .ok world := by
  rcases world with ⟨scrobbler, sources, nextId, requests, removed⟩
  cases requests with
  | nil => rfl
  | cons request requests =>
      have alone : requests = [] := by
        apply List.eq_nil_of_length_eq_zero
        simp only [List.length_cons] at single
        omega
      subst alone
      rfl

variable {config : ScrobblerConfig} {log : List Record}

theorem Invariant.quiet_of_timer {world : World} (invariant : Invariant config log world)
    {source : Source} (attached : source ∈ world.sources) : world.requests = [] := by
  have unarmedEmpty (unarmed : Unarmed world.scrobbler world.sources) : False := by
    rw [unarmed.sources] at attached
    exact List.not_mem_nil attached
  cases invariant.phase with
  | handshakeArmed _ _ _ _ quiet => exact quiet
  | submitArmed _ _ _ _ quiet => exact quiet
  | resting _ _ quiet => exact quiet
  | handshakeInFlight _ unarmed => exact (unarmedEmpty unarmed).elim
  | submissionInFlight _ unarmed => exact (unarmedEmpty unarmed).elim
  | nowPlayingInFlight _ unarmed => exact (unarmedEmpty unarmed).elim

/-- Without the request that is being answered there is none. -/
theorem Invariant.quiet_of_answer {world : World} (invariant : Invariant config log world)
    {index : Nat} {request : HttpRequest} (outstanding : world.requests[index]? = some request) :
    world.requests.eraseIdx index = [] := by
  have known : index < world.requests.length := (List.getElem?_eq_some_iff.mp outstanding).1
  have single := invariant.phase.single_request
  apply List.eq_nil_of_length_eq_zero
  rw [List.length_eraseIdx_of_lt known]
  omega

/-- What a callback leaves is the same whether the requests are answered at once or next. -/
theorem askAgain_oneByOne (checksum : Bytes → Bytes) (results : List HttpResult) (world : World)
    (invariant : Invariant config log world) :
    askAgain (httpClientRequest results) world
      = (results.map (Event.http 0 · [])).foldlM (step checksum) world := by
  induction results generalizing world with
  | nil => exact askAgain_single world invariant.phase.single_request
  | cons result results ih =>
      rw [askAgain_answer checksum, List.map_cons, List.foldlM_cons]
      have after := step_holds checksum log world (.http 0 result []) invariant
      simp only [pushed, List.append_nil] at after
      calc
        step checksum world (.http 0 result results)
            = step checksum world (.http 0 result []) >>= askAgain (httpClientRequest results) := by
          simp only [step]
          cases outstanding : world.requests[0]? with
          | none =>
              have quiet : world.requests = [] := by
                simpa using outstanding
              exact (askAgain_quiet world quiet).symm
          | some request =>
              exact (callHandler_asks _ request.handler result _
                (invariant.quiet_of_answer outstanding)).symm
        _ = step checksum world (.http 0 result [])
              >>= (results.map (Event.http 0 · [])).foldlM (step checksum) :=
          after.bind_congr ih

/-- Each step is the run of its events taken one by one. -/
theorem step_oneByOne (checksum : Bytes → Bytes) (world : World) (event : Event)
    (invariant : Invariant config log world) :
    step checksum world event = (oneByOne world event).foldlM (step checksum) world := by
  cases event with
  | timer id timestr results =>
      have after := step_holds checksum log world (.timer id timestr []) invariant
      simp only [pushed, List.append_nil] at after
      cases found : world.sources.find? (·.id = id) with
      | none => simp [oneByOne, step, found, pure, Except.pure]
      | some source =>
          have next := dispatchTimer_asks (httpClientRequest results) checksum timestr source
            world (invariant.quiet_of_timer (List.mem_of_find?_eq_some found))
          rw [oneByOne, if_pos (by simp [found]), List.foldlM_cons,
            ← after.bind_congr (askAgain_oneByOne checksum results)]
          simp only [step, found]
          exact next.symm
  | http request result results =>
      have after := step_holds checksum log world (.http request result []) invariant
      simp only [pushed, List.append_nil] at after
      cases outstanding : world.requests[request]? with
      | none => simp [oneByOne, step, outstanding, pure, Except.pure]
      | some pending =>
          have next := callHandler_asks (httpClientRequest results) pending.handler result
            { world with requests := world.requests.eraseIdx request }
            (invariant.quiet_of_answer outstanding)
          rw [oneByOne, if_pos (by simp [outstanding]), List.foldlM_cons,
            ← after.bind_congr (askAgain_oneByOne checksum results)]
          simp only [step, outstanding]
          exact next.symm
  | songchange file artist track album number mbid length time2 timestamp =>
      simp [oneByOne]
  | nowPlaying artist track album number mbid length source => simp [oneByOne]
  | otherSources count => simp [oneByOne]

end Mpdcron.AudioScrobbler
