import Mpdcron.Lib.PercentEncoding
import Mpdcron.Scrobbler.Record

/-! `scrobbler-submit.c`: one scrobbler among the timers of the main loop and the
requests of the HTTP client. A failed assertion ends the run. -/

namespace Mpdcron.AudioScrobbler

open CString

/-- `struct scrobbler_config` without `name`, which is only used in log messages. -/
structure ScrobblerConfig where
  url : Bytes
  username : Bytes
  password : Bytes
  journal : Option Bytes
  deriving DecidableEq, Repr

inductive ScrobblerState where
  | nothing
  | handshake
  | ready
  | submitting
  deriving DecidableEq, Repr

inductive AsSubmitting where
  | ok
  | failed
  | handshake
  deriving DecidableEq, Repr

/-- A source id is 0 where no source is remembered. -/
structure Scrobbler where
  config : ScrobblerConfig
  state : ScrobblerState
  interval : Nat
  handshakeSourceId : Nat
  submitSourceId : Nat
  session : Option Bytes
  nowplayUrl : Option Bytes
  submitUrl : Option Bytes
  nowPlaying : Record
  queue : List Record
  pending : Nat
  deriving DecidableEq, Repr

inductive TimerCallback where
  | scrobblerHandshakeTimer
  | scrobblerSubmitTimer
  deriving DecidableEq, Repr

/-- A timeout source of the main loop. -/
structure Source where
  id : Nat
  interval : Nat
  callback : TimerCallback
  deriving DecidableEq, Repr

/-- The function that called `http_client_request`. -/
inductive Caller where
  | scrobblerHandshake
  | scrobblerSendNowPlaying
  | scrobblerSubmit
  deriving DecidableEq, Repr

/-- The two `struct http_client_handler` tables. -/
inductive HttpClientHandler where
  | scrobblerHandshakeHandler
  | scrobblerSubmitHandler
  deriving DecidableEq, Repr

structure HttpRequest where
  url : Option Bytes
  postData : Option Bytes
  handler : HttpClientHandler
  caller : Caller
  deriving DecidableEq, Repr

inductive HttpResult where
  | response (body : Bytes)
  | error
  deriving DecidableEq, Repr

/-- `removed` logs, oldest first, the records that left the queue. `nextId` is what the
main loop hands out next; ids start at 1. -/
structure World where
  scrobbler : Scrobbler
  sources : List Source
  nextId : Nat
  requests : List HttpRequest
  removed : List Record
  deriving DecidableEq, Repr

/-- What the assertion that ended a run was about. -/
inductive Assertion where
  | state
  | handshakeSourceId
  | submitSourceId
  | recordIsDefined
  | count
  | emptyQueue
  | recordSource
  deriving DecidableEq, Repr

abbrev Outcome := Except Assertion World

/-- `assert(condition)` -/
def assert (condition : Prop) [Decidable condition] (reason : Assertion) (world : World) :
    Outcome :=
  if condition then .ok world else .error reason

def scrobblerNew (config : ScrobblerConfig) : Scrobbler :=
  { config := config
    state := .nothing
    interval := 1
    handshakeSourceId := 0
    submitSourceId := 0
    session := none
    nowplayUrl := none
    submitUrl := none
    nowPlaying := recordClear
    queue := []
    pending := 0 }

/-! ### Request texts -/

def asClientId : Bytes := lit "mcn"

/-- `VERSION` of `configure.ac` -/
def asClientVersion : Bytes := lit "0.3"

def maxSubmitCount : Nat := 10

def isUnreserved (c : UInt8) : Bool :=
  isAlpha c || isDigit c || c = 45 || c = 46 || c = 95 || c = 126

/-- `g_uri_escape_string(src, NULL, false)` -/
def httpClientUriEscape (src : Bytes) : Bytes :=
  src.flatMap fun c =>
    if isUnreserved c then [c]
    else [37, PercentEncoding.hexDigit (c / 16), PercentEncoding.hexDigit (c % 16)]

def addVarInternal (s : Bytes) (sep : UInt8) (key : Bytes) (idx : Int)
    (val : Option Bytes) : Bytes :=
  s ++ [sep] ++ key ++ (if 0 ≤ idx then lit "[" ++ decimal idx ++ lit "]" else [])
    ++ lit "=" ++ (val.map httpClientUriEscape).getD []

def firstVar (s key : Bytes) (val : Option Bytes) : Bytes := addVarInternal s 63 key (-1) val

def addVar (s key : Bytes) (val : Option Bytes) : Bytes := addVarInternal s 38 key (-1) val

def addVarI (s key : Bytes) (idx : Int) (val : Option Bytes) : Bytes :=
  addVarInternal s 38 key idx val

/-- The body of the loop in `scrobbler_submit`. -/
def addSong (postData : Bytes) (count : Nat) (song : Record) : Bytes :=
  let postData := addVarI postData (lit "a") count song.artist
  let postData := addVarI postData (lit "t") count song.track
  let postData := addVarI postData (lit "l") count (some (decimal song.length))
  let postData := addVarI postData (lit "i") count song.time
  let postData := addVarI postData (lit "o") count song.source
  let postData := addVarI postData (lit "r") count (some (lit ""))
  let postData := addVarI postData (lit "b") count song.album
  let postData := addVarI postData (lit "n") count song.number
  addVarI postData (lit "m") count song.mbid

/-- The loop of `scrobbler_submit` from the node `list` on: the grown text and `count`. -/
def addSongs (postData : Bytes) (count : Nat) : List Record → Bytes × Nat
  | [] => (postData, count)
  | song :: list =>
      if count < maxSubmitCount then addSongs (addSong postData count song) (count + 1) list
      else (postData, count)

def nowPlayingData (session artist track album number mbid : Option Bytes) (length : Int) :
    Bytes :=
  let postData := addVar [] (lit "s") session
  let postData := addVar postData (lit "a") artist
  let postData := addVar postData (lit "t") track
  let postData := addVar postData (lit "b") album
  let postData := addVar postData (lit "l") (some (decimal length))
  let postData := addVar postData (lit "n") number
  addVar postData (lit "m") mbid

/-- `checksum` is `g_compute_checksum_for_string(G_CHECKSUM_MD5, ..)`. -/
def asMd5 (checksum : Bytes → Bytes) (password timestamp : Bytes) : Bytes :=
  checksum (password ++ timestamp)

def handshakeUrl (checksum : Bytes → Bytes) (config : ScrobblerConfig) (timestr : Bytes) :
    Bytes :=
  let url := firstVar config.url (lit "hs") (some (lit "true"))
  let url := addVar url (lit "p") (some (lit "1.2"))
  let url := addVar url (lit "c") (some asClientId)
  let url := addVar url (lit "v") (some asClientVersion)
  let url := addVar url (lit "u") (some config.username)
  let url := addVar url (lit "t") (some timestr)
  addVar url (lit "a") (some (asMd5 checksum config.password timestr))

/-! ### Answers -/

def startsWith (line word : Bytes) : Bool := word.isPrefixOf line

/-- Only `OK` is told apart from the failures, which differ in their log messages. -/
def scrobblerParseHandshakeResponse (line : Bytes) : Bool := startsWith line (lit "OK")

def scrobblerParseSubmitResponse (line : Bytes) : AsSubmitting :=
  if line = lit "OK" then .ok
  else if line = lit "BADSESSION" then .handshake
  else .failed

/-- The next line and the input behind it. Without a newline the line is empty and the
input stays. -/
def nextLine (input : Bytes) : Bytes × Bytes :=
  if newline ∈ input then
    let line := input.takeWhile (· ≠ newline)
    (upToNul line, input.drop (line.length + 1))
  else ([], input)

/-! ### The scrobbler

Below, `http` is what `http_client_request` does when it is called. -/

def World.send (world : World) (request : HttpRequest) : World :=
  { world with requests := world.requests ++ [request] }

def World.update (world : World) (scrobbler : Scrobbler) : World :=
  { world with scrobbler := scrobbler }

def scrobblerIncreaseInterval (scrobbler : Scrobbler) : Scrobbler :=
  let interval := if scrobbler.interval < 60 then 60 else scrobbler.interval * 2 % 2 ^ 32
  { scrobbler with interval := if interval > 60 * 60 * 2 then 60 * 60 * 2 else interval }

/-- `g_timeout_add_seconds`: the new id and the main loop with the source. -/
def gTimeoutAddSeconds (interval : Nat) (callback : TimerCallback) (world : World) :
    Nat × World :=
  (world.nextId,
    { world with
      sources := world.sources ++ [⟨world.nextId, interval, callback⟩]
      nextId := world.nextId + 1 })

def scrobblerScheduleHandshake (world : World) : Outcome := do
  let world ← assert (world.scrobbler.state = .nothing) .state world
  let world ← assert (world.scrobbler.handshakeSourceId = 0) .handshakeSourceId world
  let (id, world) :=
    gTimeoutAddSeconds world.scrobbler.interval .scrobblerHandshakeTimer world
  return world.update { world.scrobbler with handshakeSourceId := id }

def scrobblerScheduleSubmit (world : World) : Outcome := do
  let world ← assert (world.scrobbler.submitSourceId = 0) .submitSourceId world
  let world ← assert (world.scrobbler.queue ≠ [] ∨ world.scrobbler.nowPlaying.isDefined)
    .recordIsDefined world
  let (id, world) := gTimeoutAddSeconds world.scrobbler.interval .scrobblerSubmitTimer world
  return world.update { world.scrobbler with submitSourceId := id }

def scrobblerSendNowPlaying (http : HttpRequest → World → Outcome)
    (artist track album number mbid : Option Bytes) (length : Int) (world : World) :
    Outcome := do
  let world ← assert (world.scrobbler.state = .ready) .state world
  let world ← assert (world.scrobbler.submitSourceId = 0) .submitSourceId world
  let world := world.update { world.scrobbler with state := .submitting }
  let postData :=
    nowPlayingData world.scrobbler.session artist track album number mbid length
  http ⟨world.scrobbler.nowplayUrl, some postData, .scrobblerSubmitHandler,
    .scrobblerSendNowPlaying⟩ world

def scrobblerSubmit (http : HttpRequest → World → Outcome) (world : World) : Outcome := do
  let world ← assert (world.scrobbler.state = .ready) .state world
  let world ← assert (world.scrobbler.submitSourceId = 0) .submitSourceId world
  if world.scrobbler.queue = [] then
    let song := world.scrobbler.nowPlaying
    if song.isDefined then
      scrobblerSendNowPlaying http song.artist song.track song.album song.number song.mbid
        song.length world
    else return world
  else
    let world := world.update { world.scrobbler with state := .submitting }
    let (postData, count) :=
      addSongs (addVar [] (lit "s") world.scrobbler.session) 0 world.scrobbler.queue
    let world := world.update { world.scrobbler with pending := count }
    http ⟨world.scrobbler.submitUrl, some postData, .scrobblerSubmitHandler,
      .scrobblerSubmit⟩ world

def scrobblerHandshake (checksum : Bytes → Bytes) (http : HttpRequest → World → Outcome)
    (timestr : Bytes) (world : World) : Outcome :=
  let world := world.update { world.scrobbler with state := .handshake }
  http ⟨some (handshakeUrl checksum world.scrobbler.config timestr), none,
    .scrobblerHandshakeHandler, .scrobblerHandshake⟩ world

def scrobblerHandshakeResponse (http : HttpRequest → World → Outcome) (response : Bytes)
    (world : World) : Outcome := do
  let world ← assert (world.scrobbler.state = .handshake) .state world
  let world := world.update { world.scrobbler with state := .nothing }
  let (line, response) := nextLine response
  if scrobblerParseHandshakeResponse line then
    let (session, response) := nextLine response
    let (nowplayUrl, response) := nextLine response
    let (submitUrl, _) := nextLine response
    if nowplayUrl = [] ∨ submitUrl = [] then
      let world := world.update
        { world.scrobbler with session := none, nowplayUrl := none, submitUrl := none }
      scrobblerScheduleHandshake (world.update (scrobblerIncreaseInterval world.scrobbler))
    else
      scrobblerSubmit http (world.update
        { world.scrobbler with
          session := some session
          nowplayUrl := some nowplayUrl
          submitUrl := some submitUrl
          state := .ready
          interval := 1 })
  else
    scrobblerScheduleHandshake (world.update (scrobblerIncreaseInterval world.scrobbler))

def scrobblerHandshakeError (world : World) : Outcome := do
  let world ← assert (world.scrobbler.state = .handshake) .state world
  let world := world.update { world.scrobbler with state := .nothing }
  scrobblerScheduleHandshake (world.update (scrobblerIncreaseInterval world.scrobbler))

/-- The `while (count--)` loop. Popping an empty queue gives NULL, which `record_free`
dereferences. -/
def removeOldest : Nat → World → Outcome
  | 0, world => .ok world
  | count + 1, world =>
      match world.scrobbler.queue with
      | [] => .error .emptyQueue
      | oldest :: queue =>
          removeOldest count
            { world with
              scrobbler := { world.scrobbler with queue := queue }
              removed := world.removed ++ [oldest] }

def scrobblerQueueRemoveOldest (count : Nat) (world : World) : Outcome := do
  let world ← assert (count > 0) .count world
  removeOldest count world

def scrobblerSubmitResponse (http : HttpRequest → World → Outcome) (response : Bytes)
    (world : World) : Outcome := do
  let world ← assert (world.scrobbler.state = .submitting) .state world
  let world := world.update { world.scrobbler with state := .ready }
  match scrobblerParseSubmitResponse (response.takeWhile (· ≠ newline)) with
  | .ok =>
      let world := world.update { world.scrobbler with interval := 1 }
      if world.scrobbler.pending > 0 then
        let world ← scrobblerQueueRemoveOldest world.scrobbler.pending world
        scrobblerSubmit http (world.update { world.scrobbler with pending := 0 })
      else
        let world ← assert world.scrobbler.nowPlaying.isDefined .recordIsDefined world
        scrobblerSubmit http (world.update { world.scrobbler with nowPlaying := recordZero })
  | .failed =>
      scrobblerScheduleSubmit (world.update (scrobblerIncreaseInterval world.scrobbler))
  | .handshake =>
      scrobblerScheduleHandshake (world.update { world.scrobbler with state := .nothing })

def scrobblerSubmitError (world : World) : Outcome := do
  let world ← assert (world.scrobbler.state = .submitting) .state world
  let world := world.update { world.scrobbler with state := .ready }
  scrobblerScheduleSubmit (world.update (scrobblerIncreaseInterval world.scrobbler))

/-- The call of a handler's `response` or `error`. -/
def callHandler (http : HttpRequest → World → Outcome) (handler : HttpClientHandler)
    (result : HttpResult) (world : World) : Outcome :=
  match handler, result with
  | .scrobblerHandshakeHandler, .response body => scrobblerHandshakeResponse http body world
  | .scrobblerHandshakeHandler, .error => scrobblerHandshakeError world
  | .scrobblerSubmitHandler, .response body => scrobblerSubmitResponse http body world
  | .scrobblerSubmitHandler, .error => scrobblerSubmitError world

/-- `http_client_request` while the HTTP client has `results` to give at once. A request
with no result stays outstanding. -/
def httpClientRequest : List HttpResult → HttpRequest → World → Outcome
  | [], request, world => .ok (world.send request)
  | result :: results, request, world =>
      callHandler (httpClientRequest results) request.handler result world

def scrobblerHandshakeTimer (checksum : Bytes → Bytes) (http : HttpRequest → World → Outcome)
    (timestr : Bytes) (world : World) : Outcome := do
  let world ← assert (world.scrobbler.state = .nothing) .state world
  let world := world.update { world.scrobbler with handshakeSourceId := 0 }
  scrobblerHandshake checksum http timestr world

def scrobblerSubmitTimer (http : HttpRequest → World → Outcome) (world : World) :
    Outcome := do
  let world ← assert (world.scrobbler.state = .ready) .state world
  let world := world.update { world.scrobbler with submitSourceId := 0 }
  scrobblerSubmit http world

def scheduleIfReady (world : World) : Outcome :=
  if world.scrobbler.state = .ready ∧ world.scrobbler.submitSourceId = 0 then
    scrobblerScheduleSubmit world
  else .ok world

def scrobblerScheduleNowPlayingCallback (song : Record) (world : World) : Outcome :=
  scheduleIfReady (world.update { world.scrobbler with nowPlaying := song })

def scrobblerPushCallback (record : Record) (world : World) : Outcome :=
  scheduleIfReady
    (world.update { world.scrobbler with queue := world.scrobbler.queue ++ [record] })

/-- `as_now_playing` leaves `source` as the stack has it. -/
def asNowPlaying (artist track album number mbid : Option Bytes) (length : Int)
    (source : Option Bytes) (world : World) : Outcome :=
  scrobblerScheduleNowPlayingCallback
    ⟨artist, track, album, number, mbid, none, length, source⟩ world

def isEmpty (text : Option Bytes) : Bool := text = none ∨ text = some []

/-- The record `as_songchange` builds, if it does not refuse the song. `timestamp` is what
`as_timestamp` gives when there is no `time2`. -/
def songchangeRecord (file : Bytes) (artist track album number mbid : Option Bytes)
    (length : Int) (time2 : Option Bytes) (timestamp : Bytes) : Option Record :=
  if isEmpty artist then none
  else if isEmpty track then none
  else some
    { artist := artist, track := track, album := album, number := number, mbid := mbid
      length := length
      time := some (time2.getD timestamp)
      source := some (if lit "://" <:+: file then lit "R" else lit "P") }

def asSongchange (file : Bytes) (artist track album number mbid : Option Bytes)
    (length : Int) (time2 : Option Bytes) (timestamp : Bytes) (world : World) : Outcome :=
  match songchangeRecord file artist track album number mbid length time2 timestamp with
  | none => .ok world
  | some record => scrobblerPushCallback record world

/-! ### Runs -/

/-- What the main loop, the player modules and the HTTP client can do next. `results` are
the results the HTTP client gives at once to the requests made in the callback. -/
inductive Event where
  | timer (id : Nat) (timestr : Bytes) (results : List HttpResult)
  | songchange (file : Bytes) (artist track album number mbid : Option Bytes) (length : Int)
      (time2 : Option Bytes) (timestamp : Bytes)
  | nowPlaying (artist track album number mbid : Option Bytes) (length : Int)
      (source : Option Bytes)
  | http (request : Nat) (result : HttpResult) (results : List HttpResult)
  | otherSources (count : Nat)
  deriving DecidableEq, Repr

/-- A timer callback returns `false`, so its source leaves the main loop. -/
def dispatchTimer (checksum : Bytes → Bytes) (http : HttpRequest → World → Outcome)
    (timestr : Bytes) (source : Source) (world : World) : Outcome :=
  let world := { world with sources := world.sources.erase source }
  match source.callback with
  | .scrobblerHandshakeTimer => scrobblerHandshakeTimer checksum http timestr world
  | .scrobblerSubmitTimer => scrobblerSubmitTimer http world

/-- An event that names no source or request of the scrobbler changes nothing. -/
def step (checksum : Bytes → Bytes) (world : World) : Event → Outcome
  | .timer id timestr results =>
      match world.sources.find? (·.id = id) with
      | none => .ok world
      | some source => dispatchTimer checksum (httpClientRequest results) timestr source world
  | .songchange file artist track album number mbid length time2 timestamp =>
      asSongchange file artist track album number mbid length time2 timestamp world
  | .nowPlaying artist track album number mbid length source =>
      asNowPlaying artist track album number mbid length source world
  | .http request result results =>
      match world.requests[request]? with
      | none => .ok world
      | some pending =>
          callHandler (httpClientRequest results) pending.handler result
            { world with requests := world.requests.eraseIdx request }
  | .otherSources count => .ok { world with nextId := world.nextId + count }

/-- `scrobbler_new_callback` with the records that `journal_read` found, in a main loop
that has handed out `sourceIds` ids before. -/
def scrobblerNewCallback (config : ScrobblerConfig) (journal : List Record)
    (sourceIds : Nat) : Outcome :=
  scrobblerScheduleHandshake
    { scrobbler := { scrobblerNew config with queue := journal }
      sources := [], nextId := sourceIds + 1, requests := [], removed := [] }

def run (checksum : Bytes → Bytes) (config : ScrobblerConfig) (journal : List Record)
    (sourceIds : Nat) (events : List Event) : Outcome := do
  let world ← scrobblerNewCallback config journal sourceIds
  events.foldlM (step checksum) world

end Mpdcron.AudioScrobbler
