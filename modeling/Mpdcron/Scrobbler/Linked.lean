import Mpdcron.Scrobbler.Curl
import Mpdcron.Scrobbler.Daemon

/-! The scrobblers on the HTTP client of `scrobbler-curl.c`: its requests have the handlers of
`scrobbler-submit.c`, and what a handler asks for is requested from inside it. -/

namespace Mpdcron.LinkedScrobbler

open CString AudioScrobbler
open HttpClient (Attempt Performed Message HandlerResult curlmOk curleOk)

/-- `handler_ctx` and `handler` of a request, and what it asks for. -/
structure Issued where
  scrobbler : Nat
  request : HttpRequest
  deriving DecidableEq, Repr

/-- `issued` holds all requests by their numbers. A function of a scrobbler calls
`http_client_request` last, so here it leaves the request in its world and returns, and the
request goes to the HTTP client then. -/
structure Linked where
  daemon : Daemon
  client : HttpClient.Client
  issued : List Issued

inductive Fault where
  | scrobbler (reason : Assertion)
  | client (fault : HttpClient.Fault)
  deriving DecidableEq, Repr

abbrev Outcome := Except Fault Linked

/-- A finished transfer, and what libcurl answers to the request that the handler makes, if it
makes one. -/
structure Transfer where
  request : Nat
  result : Int
  status : Int
  error : Bytes
  body : Bytes
  attempt : Attempt
  deriving DecidableEq, Repr

def Transfer.handlerResult (transfer : Transfer) : HandlerResult :=
  (Message.mk transfer.request transfer.result transfer.status transfer.error transfer.body
    []).handlerResult

/-! ### The handlers -/

/-- A function of a scrobbler, and what it asks for. -/
def Linked.call (linked : Linked) (index : Nat) (each : Instance)
    (function : World → AudioScrobbler.Outcome) : Except Fault (List Issued × Linked) := do
  let world ← (function each.world).mapError .scrobbler
  let left := { each with world := { world with requests := [] } }
  return (world.requests.map (Issued.mk index),
    { linked with
      daemon := { linked.daemon with scrobblers := linked.daemon.scrobblers.set index left } })

def httpResult : HandlerResult → HttpResult
  | .response body => .response body
  | .error _ _ => .error

/-- `handler->response` or `handler->error` -/
def callHandler (number : Nat) (result : HandlerResult) (linked : Linked) :
    Except Fault (List Issued × Linked) :=
  let linked := { linked with client := HttpClient.callHandler number result linked.client }
  match linked.issued[number]? with
  | none => .error (.client .useAfterFree)
  | some issued =>
      match linked.daemon.scrobblers[issued.scrobbler]? with
      | none => .error (.client .useAfterFree)
      | some each =>
          linked.call issued.scrobbler each
            (AudioScrobbler.callHandler (httpClientRequest []) issued.request.handler
              (httpResult result))

/-- The `error` functions of the scrobbler ask for nothing. -/
def callError (number : Nat) (code : Int) (message : Bytes) (linked : Linked) : Outcome := do
  let (_, linked) ← callHandler number (.error code message) linked
  return linked

/-! ### The HTTP client -/

def removeRequest (number : Nat) (linked : Linked) : Linked :=
  { linked with client := HttpClient.removeRequest number linked.client }

def httpRequestFree (number : Nat) (linked : Linked) : Outcome := do
  let client ← (HttpClient.httpRequestFree number linked.client).mapError .client
  return { linked with client := client }

def httpRequestAbort (code : Int) (message : Bytes) (linked : Linked) (number : Nat) : Outcome :=
  if number ∈ linked.client.freed then .error (.client .useAfterFree)
  else do
    let linked ← callError number code message (removeRequest number linked)
    httpRequestFree number linked

def httpClientAbortAllRequests (code : Int) (message : Bytes) (linked : Linked) : Outcome :=
  linked.client.requests.foldlM (httpRequestAbort code message) linked

def httpMultiPerform (performed : Performed) (linked : Linked) : Except Fault (Bool × Linked) :=
  if performed.mcode ≠ curlmOk then do
    let linked ← httpClientAbortAllRequests performed.mcode
      (lit "curl_multi_perform() failed: " ++ performed.strerror) linked
    return (false, linked)
  else .ok (true, linked)

def startFailed (number : Nat) (code : Int) (message : Bytes) (linked : Linked) : Outcome := do
  let linked ← httpRequestFree number linked
  callError number code message linked

def requestIssued (infoRead : Linked → Outcome) (attempt : Attempt) (linked : Linked)
    (issued : Issued) : Outcome :=
  let number := linked.client.started
  let linked :=
    { linked with
      client := { linked.client with started := number + 1 }
      issued := linked.issued ++ [issued] }
  if ¬attempt.curl then startFailed number 0 (lit "curl_easy_init() failed") linked
  else if attempt.addHandle ≠ curlmOk then
    startFailed number 0 (lit "curl_multi_add_handle() failed") linked
  else if attempt.setoptUrl ≠ curleOk then
    startFailed number attempt.setoptUrl (lit "curl_easy_setopt() failed") linked
  else do
    let (performed, linked) ← httpMultiPerform attempt.performed
      { linked with client := { linked.client with requests := number :: linked.client.requests } }
    if ¬performed then
      startFailed number attempt.setoptUrl (lit "http_multi_perform() failed")
        (removeRequest number linked)
    else if ¬linked.client.locked then infoRead linked
    else return linked

/-- A `http_multi_info_read` inside of the handler would fail its assertion. -/
def httpRequestDone (transfer : Transfer) (linked : Linked) : Outcome := do
  let (made, linked) ← callHandler transfer.request transfer.handlerResult linked
  let linked ←
    made.foldlM (requestIssued (fun _ => .error (.client .assertion)) transfer.attempt) linked
  httpRequestFree transfer.request (removeRequest transfer.request linked)

def infoReadTransfer (linked : Linked) (transfer : Transfer) : Outcome :=
  if transfer.request ∈ linked.client.requests then httpRequestDone transfer linked
  else .ok linked

def Linked.setLocked (linked : Linked) (locked : Bool) : Linked :=
  { linked with client := { linked.client with locked := locked } }

def httpMultiInfoRead (transfers : List Transfer) (linked : Linked) : Outcome :=
  if linked.client.locked then .error (.client .assertion)
  else do
    let linked ← transfers.foldlM infoReadTransfer (linked.setLocked true)
    return linked.setLocked false

def curlSourceDispatch (performed : Performed) (transfers : List Transfer) (linked : Linked) :
    Outcome := do
  let (performed, linked) ← httpMultiPerform performed linked
  if performed then httpMultiInfoRead transfers linked else return linked

/-! ### Runs -/

/-- What the main loop does next. `transfers` are those that are finished then. -/
inductive LinkedEvent where
  | songchange (file : Bytes) (artist track album number mbid : Option Bytes) (length : Int)
      (time2 : Option Bytes) (timestamp : Bytes)
  | nowPlaying (artist track album number mbid : Option Bytes) (length : Int)
      (source : Option Bytes)
  | timer (scrobbler : Nat) (id : Nat) (timestr : Bytes) (attempt : Attempt)
      (transfers : List Transfer)
  | dispatch (performed : Performed) (transfers : List Transfer)
  | otherSources (count : Nat)
  | save

variable (checksum : Bytes → Bytes)

/-- An event in which nothing is requested. -/
def Linked.step (linked : Linked) (event : DaemonEvent) : Outcome := do
  let daemon ← (daemonStep checksum linked.daemon event).mapError .scrobbler
  return { linked with daemon := daemon }

def timer (scrobbler id : Nat) (timestr : Bytes) (attempt : Attempt) (transfers : List Transfer)
    (linked : Linked) : Outcome :=
  match linked.daemon.scrobblers[scrobbler]? with
  | none => .ok linked
  | some each => do
      let (made, linked) ← linked.call scrobbler each fun world =>
        AudioScrobbler.step checksum world (.timer id timestr [])
      made.foldlM (requestIssued (httpMultiInfoRead transfers) attempt) linked

def linkedStep (linked : Linked) : LinkedEvent → Outcome
  | .songchange file artist track album number mbid length time2 timestamp =>
      linked.step checksum
        (.songchange file artist track album number mbid length time2 timestamp)
  | .nowPlaying artist track album number mbid length source =>
      linked.step checksum (.nowPlaying artist track album number mbid length source)
  | .timer scrobbler id timestr attempt transfers =>
      timer checksum scrobbler id timestr attempt transfers linked
  | .dispatch performed transfers => curlSourceDispatch performed transfers linked
  | .otherSources count => linked.step checksum (.otherSources count)
  | .save => linked.step checksum .save

/-- `http_client_init` and `as_init` -/
def linkedInit (iso8601 : Bytes → Option Int) (configs : List ScrobblerConfig) (files : Files) :
    Outcome := do
  let daemon ← (asInit iso8601 configs files).mapError .scrobbler
  return { daemon := daemon, client := HttpClient.httpClientInit, issued := [] }

def linkedRun (iso8601 : Bytes → Option Int) (configs : List ScrobblerConfig) (files : Files)
    (events : List LinkedEvent) : Outcome := do
  let linked ← linkedInit iso8601 configs files
  events.foldlM (linkedStep checksum) linked

end Mpdcron.LinkedScrobbler
