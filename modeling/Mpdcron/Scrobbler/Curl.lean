import Mathlib.Data.List.Basic
import Mpdcron.Lib.CString

/-! `scrobbler-curl.c`: the HTTP client. What libcurl answers and the handlers do is part of the
events. The handlers of the scrobbler make requests in `response`; in `error` they only arm
timers. -/

namespace Mpdcron.HttpClient

open CString

def curlmOk : Int := 0
def curleOk : Int := 0
def curleWriteError : Int := 23

def maxResponseBody : Nat := 8192

/-- What a handler is called with. -/
inductive HandlerResult where
  | response (body : Bytes)
  | error (code : Int) (message : Bytes)
  deriving DecidableEq, Repr

structure HandlerCall where
  request : Nat
  result : HandlerResult
  deriving DecidableEq, Repr

/-- The list `http_client.requests`, newest first, and `locked`. A request is known by the number
of the call of `http_client_request` that made it. Beside them, logs of the handler calls and
of the requests that were freed. -/
structure Client where
  requests : List Nat
  locked : Bool
  started : Nat
  calls : List HandlerCall
  freed : List Nat
  deriving DecidableEq, Repr

inductive Fault where
  | assertion
  | useAfterFree
  deriving DecidableEq, Repr

abbrev Outcome := Except Fault Client

/-- The last value of `curl_multi_perform`, which is called again while it asks for it, and its
text. -/
structure Performed where
  mcode : Int
  strerror : Bytes
  deriving DecidableEq, Repr

/-- What libcurl answers while a request is started. -/
structure Attempt where
  curl : Bool
  addHandle : Int
  setoptUrl : Int
  performed : Performed
  deriving DecidableEq, Repr

/-- A finished transfer, and the requests that the handler makes if it is called with a
response. -/
structure Message where
  request : Nat
  result : Int
  status : Int
  error : Bytes
  body : Bytes
  reactions : List Attempt
  deriving DecidableEq, Repr

def callHandler (request : Nat) (result : HandlerResult) (client : Client) : Client :=
  { client with calls := client.calls ++ [⟨request, result⟩] }

def removeRequest (request : Nat) (client : Client) : Client :=
  { client with requests := client.requests.erase request }

def httpRequestFree (request : Nat) (client : Client) : Outcome :=
  if request ∈ client.freed then .error .useAfterFree
  else .ok { client with freed := client.freed ++ [request] }

def httpRequestAbort (code : Int) (message : Bytes) (client : Client) (request : Nat) : Outcome :=
  -- the handler is read from the request
  if request ∈ client.freed then .error .useAfterFree
  else httpRequestFree request
    (callHandler request (.error code message) (removeRequest request client))

/-- The loop takes the head of the list until there is none. -/
def httpClientAbortAllRequests (code : Int) (message : Bytes) (client : Client) : Outcome :=
  client.requests.foldlM (httpRequestAbort code message) client

def httpMultiPerform (performed : Performed) (client : Client) : Except Fault (Bool × Client) :=
  if performed.mcode ≠ curlmOk then do
    let client ← httpClientAbortAllRequests performed.mcode
      (lit "curl_multi_perform() failed: " ++ performed.strerror) client
    return (false, client)
  else .ok (true, client)

/-- `handler->error` of a request that did not get into the list and is freed. -/
def startFailed (request : Nat) (code : Int) (message : Bytes) (client : Client) : Outcome := do
  let client ← httpRequestFree request client
  return callHandler request (.error code message) client

/-- `infoRead` is what `http_multi_info_read` does when it is called here. -/
def httpClientRequest (infoRead : Client → Outcome) (client : Client) (attempt : Attempt) :
    Outcome :=
  let request := client.started
  let client := { client with started := client.started + 1 }
  if ¬attempt.curl then startFailed request 0 (lit "curl_easy_init() failed") client
  else if attempt.addHandle ≠ curlmOk then
    startFailed request 0 (lit "curl_multi_add_handle() failed") client
  else if attempt.setoptUrl ≠ curleOk then
    startFailed request attempt.setoptUrl (lit "curl_easy_setopt() failed") client
  else do
    let (performed, client) ← httpMultiPerform attempt.performed
      { client with requests := request :: client.requests }
    if ¬performed then
      startFailed request attempt.setoptUrl (lit "http_multi_perform() failed")
        (removeRequest request client)
    else if ¬client.locked then infoRead client
    else return client

/-- What `http_request_done` calls the handler with. -/
def Message.handlerResult (message : Message) : HandlerResult :=
  if message.result = curleWriteError ∧ message.body.length > maxResponseBody then
    .error 0 (lit "response body is too large")
  else if message.result ≠ curleOk then
    .error message.result (lit "curl failed: " ++ message.error)
  else if message.status < 200 ∨ message.status ≥ 300 then
    .error 0 (lit "got HTTP status " ++ decimal message.status)
  else .response message.body

/-- The requests that the handler makes. A `http_multi_info_read` in one of them would fail its
assertion. -/
def Message.made (message : Message) : List Attempt :=
  match message.handlerResult with
  | .response _ => message.reactions
  | .error _ _ => []

def httpRequestDone (message : Message) (client : Client) : Outcome := do
  let client := callHandler message.request message.handlerResult client
  let client ← message.made.foldlM (httpClientRequest fun _ => .error .assertion) client
  httpRequestFree message.request (removeRequest message.request client)

/-- The loop over the finished transfers. libcurl reports those whose handle it still has. -/
def infoReadMessage (client : Client) (message : Message) : Outcome :=
  if message.request ∈ client.requests then httpRequestDone message client else .ok client

def httpMultiInfoRead (messages : List Message) (client : Client) : Outcome :=
  if client.locked then .error .assertion
  else do
    let client ← messages.foldlM infoReadMessage { client with locked := true }
    return { client with locked := false }

def curlSourceDispatch (performed : Performed) (messages : List Message) (client : Client) :
    Outcome := do
  let (performed, client) ← httpMultiPerform performed client
  if performed then httpMultiInfoRead messages client else return client

/-- A request that is made outside of the handlers, or the main loop dispatches the curl source.
`messages` are the transfers that are finished then. -/
inductive HttpEvent where
  | request (attempt : Attempt) (messages : List Message)
  | dispatch (performed : Performed) (messages : List Message)
  deriving DecidableEq, Repr

def httpStep (client : Client) : HttpEvent → Outcome
  | .request attempt messages => httpClientRequest (httpMultiInfoRead messages) client attempt
  | .dispatch performed messages => curlSourceDispatch performed messages client

def httpClientInit : Client :=
  { requests := [], locked := false, started := 0, calls := [], freed := [] }

def httpRun (events : List HttpEvent) : Outcome := events.foldlM httpStep httpClientInit

end Mpdcron.HttpClient
