import Mpdcron.Lib.Triple
import Mpdcron.Scrobbler.Submit

/-! The invariant of a scrobbler between two callbacks: the phase it is in, with all that
is armed and in flight there, and the account of its records. -/

namespace Mpdcron.AudioScrobbler

open CString Triple

/-! ### The batch -/

/-- The body of a submission of exactly `songs`. -/
def batchBody (session : Option Bytes) (songs : List Record) : Bytes :=
  songs.zipIdx.foldl (fun postData song => addSong postData song.2 song.1)
    (addVar [] (lit "s") session)

theorem addSongs_eq (postData : Bytes) (count : Nat) (songs : List Record)
    (small : count ≤ maxSubmitCount) :
    addSongs postData count songs =
      (((songs.take (maxSubmitCount - count)).zipIdx count).foldl
          (fun postData song => addSong postData song.2 song.1) postData,
        count + min (maxSubmitCount - count) songs.length) := by
  induction songs generalizing postData count with
  | nil => simp [addSongs]
  | cons song songs ih =>
      rw [addSongs]
      split_ifs with more
      · have room : maxSubmitCount - count = maxSubmitCount - (count + 1) + 1 := by omega
        rw [ih _ _ more, room, List.take_succ_cons, List.zipIdx_cons, List.foldl_cons,
          List.length_cons, Nat.add_min_add_right]
        congr 1
        omega
      · have full : maxSubmitCount - count = 0 := by omega
        simp [full]

theorem addSongs_batch (session : Option Bytes) (queue : List Record) :
    addSongs (addVar [] (lit "s") session) 0 queue =
      (batchBody session (queue.take (min maxSubmitCount queue.length)),
        min maxSubmitCount queue.length) := by
  have taken : queue.take (min maxSubmitCount queue.length) = queue.take maxSubmitCount := by
    rw [List.take_eq_take_iff]
    omega
  rw [addSongs_eq _ 0 queue (Nat.zero_le _), taken]
  simp [batchBody]

/-! ### Invariant -/

def Allowed (reason : Assertion) : Prop := reason = .recordIsDefined

structure Unarmed (scrobbler : Scrobbler) (sources : List Source) : Prop where
  handshake : scrobbler.handshakeSourceId = 0
  submit : scrobbler.submitSourceId = 0
  sources : sources = []

inductive Phase (scrobbler : Scrobbler) (sources : List Source) (requests : List HttpRequest) :
    Prop where
  | handshakeArmed
      (state : scrobbler.state = .nothing)
      (armed : 0 < scrobbler.handshakeSourceId)
      (timer : sources = [⟨scrobbler.handshakeSourceId, scrobbler.interval,
        .scrobblerHandshakeTimer⟩])
      (unarmed : scrobbler.submitSourceId = 0)
      (quiet : requests = [])
  | handshakeInFlight
      (state : scrobbler.state = .handshake)
      (unarmed : Unarmed scrobbler sources)
      (request : HttpRequest)
      (inFlight : requests = [request])
      (handler : request.handler = .scrobblerHandshakeHandler)
      (caller : request.caller = .scrobblerHandshake)
  | submitArmed
      (state : scrobbler.state = .ready)
      (armed : 0 < scrobbler.submitSourceId)
      (timer : sources = [⟨scrobbler.submitSourceId, scrobbler.interval,
        .scrobblerSubmitTimer⟩])
      (unarmed : scrobbler.handshakeSourceId = 0)
      (quiet : requests = [])
  | resting
      (state : scrobbler.state = .ready)
      (unarmed : Unarmed scrobbler sources)
      (quiet : requests = [])
      (empty : scrobbler.queue = [])
      (undefined : scrobbler.nowPlaying.isDefined = false)
  | submissionInFlight
      (state : scrobbler.state = .submitting)
      (unarmed : Unarmed scrobbler sources)
      (request : HttpRequest)
      (inFlight : requests = [request])
      (handler : request.handler = .scrobblerSubmitHandler)
      (caller : request.caller = .scrobblerSubmit)
      (positive : 0 < scrobbler.pending)
      (limited : scrobbler.pending ≤ maxSubmitCount)
      (body : request.postData = some (batchBody scrobbler.session
        (scrobbler.queue.take scrobbler.pending)))
  | nowPlayingInFlight
      (state : scrobbler.state = .submitting)
      (unarmed : Unarmed scrobbler sources)
      (request : HttpRequest)
      (inFlight : requests = [request])
      (handler : request.handler = .scrobblerSubmitHandler)
      (caller : request.caller = .scrobblerSendNowPlaying)
      (nonePending : scrobbler.pending = 0)

/-- `log` is everything that was ever queued, oldest first. A batch that failed leaves its
`pending` behind, but never more than the queue holds. -/
structure Books (config : ScrobblerConfig) (log : List Record) (world : World) : Prop where
  ids : 0 < world.nextId
  pending : world.scrobbler.pending ≤ world.scrobbler.queue.length
  complete : log = world.removed ++ world.scrobbler.queue
  config : world.scrobbler.config = config

structure Invariant (config : ScrobblerConfig) (log : List Record) (world : World) : Prop where
  phase : Phase world.scrobbler world.sources world.requests
  books : Books config log world

/-- A callback is entered with nothing armed and nothing in flight. -/
structure Entered (config : ScrobblerConfig) (log : List Record) (state : ScrobblerState)
    (world : World) : Prop where
  state : world.scrobbler.state = state
  unarmed : Unarmed world.scrobbler world.sources
  quiet : world.requests = []
  books : Books config log world

/-- What the callbacks need of `http_client_request`. -/
def Sends (config : ScrobblerConfig) (log : List Record)
    (http : HttpRequest → World → Outcome) : Prop :=
  ∀ request world, Invariant config log (world.send request) →
    Holds Allowed (Invariant config log) (http request world)

/-! ### The functions of the scrobbler -/

variable {config : ScrobblerConfig} {log : List Record} {http : HttpRequest → World → Outcome}

theorem assert_bind {condition : Prop} [Decidable condition] (holds : condition)
    (reason : Assertion) (world : World) (rest : World → Outcome) :
    (assert condition reason world >>= rest) = rest world := by
  rw [assert, if_pos holds]
  rfl

theorem assert_holds {allowed : Assertion → Prop} {post : World → Prop} {condition : Prop}
    [Decidable condition] {reason : Assertion} (world : World) {rest : World → Outcome}
    (failing : ¬condition → allowed reason)
    (continued : condition → Holds allowed post (rest world)) :
    Holds allowed post (assert condition reason world >>= rest) := by
  by_cases holds : condition
  · rw [assert_bind holds]
    exact continued holds
  · rw [assert, if_neg holds]
    exact failing holds

/-- The assertion whose failure is allowed to end a run. -/
theorem assert_defined_holds {condition : Prop} [Decidable condition] (world : World)
    (rest : World → Outcome) {post : World → Prop}
    (continued : condition → Holds Allowed post (rest world)) :
    Holds Allowed post (assert condition .recordIsDefined world >>= rest) :=
  assert_holds world (fun _ => (rfl : Allowed .recordIsDefined)) continued

theorem scrobblerScheduleHandshake_holds (world : World) (entered : Entered config log .nothing world) :
    Holds Allowed (Invariant config log) (scrobblerScheduleHandshake world) := by
  rcases entered with ⟨state, unarmed, quiet, books⟩
  rw [scrobblerScheduleHandshake, assert_bind state, assert_bind unarmed.handshake]
  refine (⟨?_, ?_⟩ : Invariant config log _)
  · exact .handshakeArmed state books.ids
      (by simp [World.update, unarmed.sources]) unarmed.submit quiet
  · exact ⟨Nat.succ_pos _, books.pending, books.complete, books.config⟩

theorem scrobblerScheduleSubmit_holds (world : World) (entered : Entered config log .ready world) :
    Holds Allowed (Invariant config log) (scrobblerScheduleSubmit world) := by
  rcases entered with ⟨state, unarmed, quiet, books⟩
  rw [scrobblerScheduleSubmit, assert_bind unarmed.submit]
  apply assert_defined_holds
  intro _
  refine (⟨?_, ?_⟩ : Invariant config log _)
  · exact .submitArmed state books.ids (by simp [World.update, unarmed.sources])
      unarmed.handshake quiet
  · exact ⟨Nat.succ_pos _, books.pending, books.complete, books.config⟩

theorem scrobblerSendNowPlaying_holds (sends : Sends config log http)
    (artist track album number mbid : Option Bytes) (length : Int) (world : World)
    (entered : Entered config log .ready world) (nonePending : world.scrobbler.pending = 0) :
    Holds Allowed (Invariant config log)
      (scrobblerSendNowPlaying http artist track album number mbid length world) := by
  rcases entered with ⟨state, unarmed, quiet, books⟩
  rw [scrobblerSendNowPlaying, assert_bind state, assert_bind unarmed.submit]
  apply sends
  constructor
  · exact .nowPlayingInFlight rfl ⟨unarmed.handshake, unarmed.submit, unarmed.sources⟩ _
      (by simp [World.send, World.update, quiet]; rfl) rfl rfl nonePending
  · exact ⟨books.ids, books.pending, books.complete, books.config⟩

theorem scrobblerSubmit_holds (sends : Sends config log http) (world : World)
    (entered : Entered config log .ready world) :
    Holds Allowed (Invariant config log) (scrobblerSubmit http world) := by
  rcases entered with ⟨state, unarmed, quiet, books⟩
  rw [scrobblerSubmit, assert_bind state, assert_bind unarmed.submit]
  by_cases empty : world.scrobbler.queue = []
  · have nonePending : world.scrobbler.pending = 0 := by
      have bound := books.pending
      rw [empty, List.length_nil] at bound
      omega
    rw [if_pos empty]
    by_cases defined : world.scrobbler.nowPlaying.isDefined
    · simp only [defined, if_true]
      exact scrobblerSendNowPlaying_holds sends _ _ _ _ _ _ world
        ⟨state, unarmed, quiet, books⟩ nonePending
    · have undefined : world.scrobbler.nowPlaying.isDefined = false := by simpa using defined
      simp only [undefined]
      exact (⟨.resting state unarmed quiet empty undefined, books⟩ : Invariant config log world)
  · have positive : 0 < world.scrobbler.queue.length := List.length_pos_iff.mpr empty
    rw [if_neg empty]
    simp only [World.update, addSongs_batch]
    apply sends
    constructor
    · refine .submissionInFlight rfl ⟨unarmed.handshake, unarmed.submit, unarmed.sources⟩ _
        (by simp [World.send, quiet]; rfl) rfl rfl ?_ (Nat.min_le_left _ _) rfl
      exact Nat.lt_min.mpr ⟨by decide, positive⟩
    · exact ⟨books.ids, Nat.min_le_right _ _, books.complete, books.config⟩

/-! ### The answers of the HTTP client -/

theorem Entered.ofState {state next : ScrobblerState} {world : World}
    (entered : Entered config log state world) (scrobbler : Scrobbler)
    (reached : scrobbler.state = next)
    (handshake : scrobbler.handshakeSourceId = world.scrobbler.handshakeSourceId)
    (submit : scrobbler.submitSourceId = world.scrobbler.submitSourceId)
    (queue : scrobbler.queue = world.scrobbler.queue)
    (pending : scrobbler.pending ≤ world.scrobbler.pending)
    (configured : scrobbler.config = world.scrobbler.config) :
    Entered config log next (world.update scrobbler) := by
  rcases entered with ⟨-, unarmed, quiet, books⟩
  refine ⟨reached, ⟨handshake.trans unarmed.handshake, submit.trans unarmed.submit,
    unarmed.sources⟩, quiet, ⟨books.ids, ?_, ?_, configured.trans books.config⟩⟩
  · calc
      scrobbler.pending ≤ world.scrobbler.pending := pending
      _ ≤ world.scrobbler.queue.length := books.pending
      _ = scrobbler.queue.length := by rw [queue]
  · exact books.complete.trans (by rw [← queue]; rfl)

theorem scrobblerHandshakeResponse_holds (sends : Sends config log http) (response : Bytes)
    (world : World) (entered : Entered config log .handshake world) :
    Holds Allowed (Invariant config log) (scrobblerHandshakeResponse http response world) := by
  rw [scrobblerHandshakeResponse, assert_bind entered.state]
  simp only
  split_ifs
  · apply scrobblerScheduleHandshake_holds
    exact entered.ofState _ rfl rfl rfl rfl (Nat.le_refl _) rfl
  · apply scrobblerSubmit_holds sends
    exact entered.ofState _ rfl rfl rfl rfl (Nat.le_refl _) rfl
  · apply scrobblerScheduleHandshake_holds
    exact entered.ofState _ rfl rfl rfl rfl (Nat.le_refl _) rfl

theorem scrobblerHandshakeError_holds (world : World) (entered : Entered config log .handshake world) :
    Holds Allowed (Invariant config log) (scrobblerHandshakeError world) := by
  rw [scrobblerHandshakeError, assert_bind entered.state]
  apply scrobblerScheduleHandshake_holds
  exact entered.ofState _ rfl rfl rfl rfl (Nat.le_refl _) rfl

def World.dropOldest (world : World) (count : Nat) : World :=
  { world with
    scrobbler := { world.scrobbler with queue := world.scrobbler.queue.drop count }
    removed := world.removed ++ world.scrobbler.queue.take count }

theorem removeOldest_eq (count : Nat) (world : World)
    (present : count ≤ world.scrobbler.queue.length) :
    removeOldest count world = .ok (world.dropOldest count) := by
  induction count generalizing world with
  | zero => simp [removeOldest, World.dropOldest]
  | succ count ih =>
      cases split : world.scrobbler.queue with
      | nil => simp [split] at present
      | cons oldest queue =>
          rw [split, List.length_cons] at present
          rw [removeOldest, split]
          simp only
          rw [ih _ (by simpa using present)]
          simp [World.dropOldest, split]

theorem scrobblerQueueRemoveOldest_bind (count : Nat) (world : World) (rest : World → Outcome)
    (positive : count > 0) (present : count ≤ world.scrobbler.queue.length) :
    (scrobblerQueueRemoveOldest count world >>= rest) = rest (world.dropOldest count) := by
  rw [scrobblerQueueRemoveOldest, assert_bind positive, removeOldest_eq count world present]
  rfl

theorem scrobblerSubmitResponse_holds (sends : Sends config log http) (response : Bytes)
    (world : World) (entered : Entered config log .submitting world) :
    Holds Allowed (Invariant config log) (scrobblerSubmitResponse http response world) := by
  rw [scrobblerSubmitResponse, assert_bind entered.state]
  simp only
  split
  · split_ifs with some
    · rw [scrobblerQueueRemoveOldest_bind _ _ _ some (by exact entered.books.pending)]
      apply scrobblerSubmit_holds sends
      refine ⟨rfl, ⟨entered.unarmed.handshake, entered.unarmed.submit, entered.unarmed.sources⟩,
        entered.quiet, ⟨entered.books.ids, Nat.zero_le _, ?_, entered.books.config⟩⟩
      calc
        log = world.removed ++ world.scrobbler.queue := entered.books.complete
        _ = world.removed ++ (world.scrobbler.queue.take world.scrobbler.pending ++
            world.scrobbler.queue.drop world.scrobbler.pending) := by rw [List.take_append_drop]
        _ = _ := by rw [← List.append_assoc]; rfl
    · apply assert_defined_holds
      intro _
      apply scrobblerSubmit_holds sends
      exact entered.ofState _ rfl rfl rfl rfl (Nat.le_refl _) rfl
  · apply scrobblerScheduleSubmit_holds
    exact entered.ofState _ rfl rfl rfl rfl (Nat.le_refl _) rfl
  · apply scrobblerScheduleHandshake_holds
    exact entered.ofState _ rfl rfl rfl rfl (Nat.le_refl _) rfl

theorem scrobblerSubmitError_holds (world : World) (entered : Entered config log .submitting world) :
    Holds Allowed (Invariant config log) (scrobblerSubmitError world) := by
  rw [scrobblerSubmitError, assert_bind entered.state]
  apply scrobblerScheduleSubmit_holds
  exact entered.ofState _ rfl rfl rfl rfl (Nat.le_refl _) rfl

theorem only_request (requests : List HttpRequest) (request other : HttpRequest)
    (single : requests ++ [request] = [other]) : requests = [] ∧ request = other := by
  cases requests with
  | nil => exact ⟨rfl, by simpa using single⟩
  | cons head tail => simp at single

/-- A request is answered by the handler that its state expects, at once or later. -/
theorem callHandler_holds (sends : Sends config log http) (request : HttpRequest)
    (result : HttpResult) (world : World) (sent : Invariant config log (world.send request)) :
    Holds Allowed (Invariant config log) (callHandler http request.handler result world) := by
  rcases sent with ⟨phase, books⟩
  have account : Books config log world := ⟨books.ids, books.pending, books.complete, books.config⟩
  have submitting (state : world.scrobbler.state = .submitting)
      (unarmed : Unarmed world.scrobbler world.sources) (quiet : world.requests = [])
      (handler : request.handler = .scrobblerSubmitHandler) :
      Holds Allowed (Invariant config log) (callHandler http request.handler result world) := by
    have entered : Entered config log .submitting world :=
      ⟨state, unarmed, quiet, account⟩
    rw [handler]
    cases result with
    | response body => exact scrobblerSubmitResponse_holds sends body world entered
    | error => exact scrobblerSubmitError_holds world entered
  cases phase with
  | handshakeArmed _ _ _ _ quiet => simp [World.send] at quiet
  | submitArmed _ _ _ _ quiet => simp [World.send] at quiet
  | resting _ _ quiet => simp [World.send] at quiet
  | handshakeInFlight state unarmed other inFlight handler =>
      rcases only_request _ _ _ inFlight with ⟨quiet, rfl⟩
      have entered : Entered config log .handshake world :=
        ⟨state, unarmed, quiet, account⟩
      rw [handler]
      cases result with
      | response body => exact scrobblerHandshakeResponse_holds sends body world entered
      | error => exact scrobblerHandshakeError_holds world entered
  | submissionInFlight state unarmed other inFlight handler =>
      rcases only_request _ _ _ inFlight with ⟨quiet, rfl⟩
      exact submitting state unarmed quiet handler
  | nowPlayingInFlight state unarmed other inFlight handler =>
      rcases only_request _ _ _ inFlight with ⟨quiet, rfl⟩
      exact submitting state unarmed quiet handler

theorem httpClientRequest_sends (results : List HttpResult) :
    Sends config log (httpClientRequest results) := by
  induction results with
  | nil =>
      intro request world sent
      exact sent
  | cons result results ih =>
      intro request world sent
      exact callHandler_holds ih request result world sent

/-! ### The events of the main loop -/

theorem scrobblerHandshakeTimer_holds (sends : Sends config log http) (checksum : Bytes → Bytes)
    (timestr : Bytes) (world : World) (state : world.scrobbler.state = .nothing)
    (submit : world.scrobbler.submitSourceId = 0) (sources : world.sources = [])
    (quiet : world.requests = []) (books : Books config log world) :
    Holds Allowed (Invariant config log) (scrobblerHandshakeTimer checksum http timestr world) := by
  rw [scrobblerHandshakeTimer, assert_bind state]
  apply sends
  constructor
  · exact .handshakeInFlight rfl ⟨rfl, submit, sources⟩ _
      (by simp [World.send, World.update, quiet]; rfl) rfl rfl
  · exact ⟨books.ids, books.pending, books.complete, books.config⟩

theorem scrobblerSubmitTimer_holds (sends : Sends config log http) (world : World)
    (state : world.scrobbler.state = .ready)
    (handshake : world.scrobbler.handshakeSourceId = 0) (sources : world.sources = [])
    (quiet : world.requests = []) (books : Books config log world) :
    Holds Allowed (Invariant config log) (scrobblerSubmitTimer http world) := by
  rw [scrobblerSubmitTimer, assert_bind state]
  apply scrobblerSubmit_holds sends
  exact ⟨state, ⟨handshake, rfl, sources⟩, quiet,
    ⟨books.ids, books.pending, books.complete, books.config⟩⟩

/-- A push and a now-playing song change the queue or the song and then schedule. -/
theorem scheduleIfReady_holds (songs : List Record) (nowPlaying : Record) (world : World)
    (invariant : Invariant config log world) :
    Holds Allowed (Invariant config (log ++ songs)) (scheduleIfReady (world.update
      { world.scrobbler with
        queue := world.scrobbler.queue ++ songs
        nowPlaying := nowPlaying })) := by
  rcases invariant with ⟨phase, books⟩
  have account : Books config (log ++ songs) (world.update
      { world.scrobbler with
        queue := world.scrobbler.queue ++ songs
        nowPlaying := nowPlaying }) := by
    refine ⟨books.ids, ?_, ?_, books.config⟩
    · simpa [World.update] using Nat.le_add_right_of_le books.pending
    · rw [books.complete, List.append_assoc]
      rfl
  unfold scheduleIfReady
  cases phase with
  | handshakeArmed state armed timer unarmed quiet =>
      rw [if_neg (by simp [World.update, state])]
      exact ⟨.handshakeArmed state armed timer unarmed quiet, account⟩
  | handshakeInFlight state unarmed request inFlight handler caller =>
      rw [if_neg (by simp [World.update, state])]
      exact ⟨.handshakeInFlight state ⟨unarmed.handshake, unarmed.submit, unarmed.sources⟩
        request inFlight handler caller, account⟩
  | submitArmed state armed timer unarmed quiet =>
      rw [if_neg (by simp [World.update]; omega)]
      exact ⟨.submitArmed state armed timer unarmed quiet, account⟩
  | resting state unarmed quiet empty undefined =>
      rw [if_pos ⟨state, unarmed.submit⟩]
      apply scrobblerScheduleSubmit_holds
      exact ⟨state, ⟨unarmed.handshake, unarmed.submit, unarmed.sources⟩, quiet, account⟩
  | submissionInFlight state unarmed request inFlight handler caller positive limited body =>
      rw [if_neg (by simp [World.update, state])]
      refine ⟨.submissionInFlight state ⟨unarmed.handshake, unarmed.submit, unarmed.sources⟩
        request inFlight handler caller positive limited ?_, account⟩
      rw [body]
      simp only [World.update, List.take_append_of_le_length books.pending]
  | nowPlayingInFlight state unarmed request inFlight handler caller nonePending =>
      rw [if_neg (by simp [World.update, state])]
      exact ⟨.nowPlayingInFlight state ⟨unarmed.handshake, unarmed.submit, unarmed.sources⟩
        request inFlight handler caller nonePending, account⟩

/-- The record an event pushes, if any. -/
def pushed : Event → List Record
  | .songchange file artist track album number mbid length time2 timestamp =>
      (songchangeRecord file artist track album number mbid length time2 timestamp).toList
  | _ => []

theorem dispatchTimer_holds (sends : Sends config log http) (checksum : Bytes → Bytes)
    (timestr : Bytes) (source : Source) (world : World) (attached : source ∈ world.sources)
    (invariant : Invariant config log world) :
    Holds Allowed (Invariant config log) (dispatchTimer checksum http timestr source world) := by
  rcases invariant with ⟨phase, books⟩
  have account : Books config log { world with sources := world.sources.erase source } :=
    ⟨books.ids, books.pending, books.complete, books.config⟩
  have unarmedEmpty (unarmed : Unarmed world.scrobbler world.sources) : False := by
    rw [unarmed.sources] at attached
    exact List.not_mem_nil attached
  cases phase with
  | handshakeArmed state armed timer unarmed quiet =>
      have found : source = _ := List.mem_singleton.mp (timer ▸ attached)
      have emptied : world.sources.erase source = [] := by
        rw [timer, found, List.erase_cons_head]
      subst found
      exact scrobblerHandshakeTimer_holds sends checksum timestr _ state unarmed emptied quiet
        account
  | submitArmed state armed timer unarmed quiet =>
      have found : source = _ := List.mem_singleton.mp (timer ▸ attached)
      have emptied : world.sources.erase source = [] := by
        rw [timer, found, List.erase_cons_head]
      subst found
      exact scrobblerSubmitTimer_holds sends _ state unarmed emptied quiet account
  | handshakeInFlight _ unarmed => exact (unarmedEmpty unarmed).elim
  | resting _ unarmed => exact (unarmedEmpty unarmed).elim
  | submissionInFlight _ unarmed => exact (unarmedEmpty unarmed).elim
  | nowPlayingInFlight _ unarmed => exact (unarmedEmpty unarmed).elim

theorem Phase.single_request {scrobbler : Scrobbler} {sources : List Source}
    {requests : List HttpRequest} (phase : Phase scrobbler sources requests) :
    requests.length ≤ 1 := by
  cases phase with
  | handshakeArmed _ _ _ _ quiet => simp [quiet]
  | submitArmed _ _ _ _ quiet => simp [quiet]
  | resting _ _ quiet => simp [quiet]
  | handshakeInFlight _ _ _ inFlight => simp [inFlight]
  | submissionInFlight _ _ _ inFlight => simp [inFlight]
  | nowPlayingInFlight _ _ _ inFlight => simp [inFlight]

/-- The outstanding request that is answered later is the one that was sent last. -/
theorem sent_of_outstanding (world : World) (index : Nat) (request : HttpRequest)
    (single : world.requests.length ≤ 1) (outstanding : world.requests[index]? = some request) :
    ({ world with requests := world.requests.eraseIdx index } : World).send request = world := by
  rcases world with ⟨scrobbler, sources, nextId, requests, removed⟩
  cases requests with
  | nil => simp at outstanding
  | cons head tail =>
      have alone : tail = [] := by
        apply List.eq_nil_of_length_eq_zero
        simp only [List.length_cons] at single
        omega
      subst alone
      cases index with
      | zero => simp_all [World.send]
      | succ index => simp at outstanding

theorem step_holds (checksum : Bytes → Bytes) (past : List Record) (world : World)
    (event : Event) (invariant : Invariant config past world) :
    Holds Allowed (Invariant config (past ++ pushed event)) (step checksum world event) := by
  cases event with
  | timer id timestr results =>
      simp only [step, pushed, List.append_nil]
      split
      · exact invariant
      · rename_i source found
        exact dispatchTimer_holds (httpClientRequest_sends results) checksum timestr source world
          (List.mem_of_find?_eq_some found) invariant
  | songchange file artist track album number mbid length time2 timestamp =>
      simp only [step, pushed, asSongchange]
      split
      · rename_i refused
        simpa [refused] using invariant
      · rename_i record accepted
        rw [accepted]
        exact scheduleIfReady_holds [record] world.scrobbler.nowPlaying world invariant
  | nowPlaying artist track album number mbid length source =>
      have scheduled := scheduleIfReady_holds [] ⟨artist, track, album, number, mbid, none,
        length, source⟩ world invariant
      simp only [List.append_nil] at scheduled
      simpa [step, pushed, asNowPlaying, scrobblerScheduleNowPlayingCallback] using scheduled
  | http index result results =>
      simp only [step, pushed, List.append_nil]
      split
      · exact invariant
      · rename_i request outstanding
        apply callHandler_holds (httpClientRequest_sends results)
        rw [sent_of_outstanding world index request invariant.phase.single_request outstanding]
        exact invariant
  | otherSources count =>
      simp only [step, pushed, List.append_nil]
      exact (⟨invariant.phase, ⟨Nat.lt_add_right count invariant.books.ids,
        invariant.books.pending, invariant.books.complete, invariant.books.config⟩⟩ :
        Invariant config past { world with nextId := world.nextId + count })

theorem scrobblerNewCallback_holds (config : ScrobblerConfig) (journal : List Record)
    (sourceIds : Nat) :
    Holds Allowed (Invariant config journal)
      (scrobblerNewCallback config journal sourceIds) := by
  apply scrobblerScheduleHandshake_holds
  exact ⟨rfl, ⟨rfl, rfl, rfl⟩, rfl, ⟨Nat.succ_pos _, Nat.zero_le _, rfl, rfl⟩⟩

/-- The invariant after every run, for the records pushed during it. -/
theorem run_holds (checksum : Bytes → Bytes) (config : ScrobblerConfig)
    (journal : List Record) (sourceIds : Nat) (events : List Event) :
    Holds Allowed (Invariant config (journal ++ events.flatMap pushed))
      (run checksum config journal sourceIds events) := by
  apply (scrobblerNewCallback_holds config journal sourceIds).bind
  intro world initial
  have lifted := Holds.foldlM
    (fun past world => Invariant config (journal ++ past.flatMap pushed) world)
    (fun past world event reached => by
      simpa using step_holds checksum (journal ++ past.flatMap pushed) world event reached)
    events [] world (by simpa using initial)
  simpa using lifted

end Mpdcron.AudioScrobbler
