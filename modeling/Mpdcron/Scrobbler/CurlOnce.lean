import Mathlib.Data.List.Infix
import Mathlib.Data.List.Count
import Mpdcron.Lib.Triple
import Mpdcron.Scrobbler.Curl

/-! Each HTTP request gets one call of its handler and is freed once, unless the transfer of a
new request cannot be started. -/

namespace Mpdcron.HttpClient

open CString Triple

/-- What has happened to a request: whether it is in the list, how often its handler was called
and how often it was freed. -/
structure Entry where
  listed : Bool
  called : Nat
  freed : Nat
  deriving DecidableEq, Repr

def Entry.blank : Entry := ⟨false, 0, 0⟩
def Entry.active : Entry := ⟨true, 0, 0⟩
def Entry.running : Entry := ⟨true, 1, 0⟩
def Entry.finished : Entry := ⟨false, 1, 1⟩

def Client.entry (client : Client) (request : Nat) : Entry :=
  ⟨request ∈ client.requests, (client.calls.map HandlerCall.request).count request,
    client.freed.count request⟩

/-- Every request that was started is under way or has had its one call and its one removal. -/
structure ExactlyOnce (client : Client) : Prop where
  each : ∀ request < client.started,
    client.entry request = .active ∨ client.entry request = .finished
  nodup : client.requests.Nodup

/-- The books while the handler of `busy` is running. -/
structure Booked (busy : Option Nat) (client : Client) : Prop where
  nodup : client.requests.Nodup
  fresh : ∀ request, client.started ≤ request → client.entry request = .blank
  each : ∀ request < client.started, some request ≠ busy →
    client.entry request = .active ∨ client.entry request = .finished
  running : ∀ request ∈ busy, client.entry request = .running

theorem Booked.exactlyOnce {client : Client} (booked : Booked none client) : ExactlyOnce client :=
  ⟨fun request bound => booked.each request bound (by simp), booked.nodup⟩

theorem booked_init : Booked none httpClientInit :=
  ⟨List.nodup_nil, fun _ _ => rfl, fun _ bound => absurd bound (Nat.not_lt_zero _), by simp⟩

theorem Booked.setLocked {busy : Option Nat} {client : Client} (booked : Booked busy client)
    (locked : Bool) : Booked busy { client with locked := locked } :=
  ⟨booked.nodup, booked.fresh, booked.each, booked.running⟩

theorem entry_listed {client : Client} {request : Nat} :
    (client.entry request).listed = true ↔ request ∈ client.requests := by
  simp [Client.entry]

theorem Booked.known {busy : Option Nat} {client : Client} (booked : Booked busy client)
    {request : Nat} (listed : request ∈ client.requests) : request < client.started := by
  by_contra outside
  have inList := entry_listed.mpr listed
  rw [booked.fresh request (Nat.not_lt.mp outside)] at inList
  cases inList

theorem Booked.active {client : Client} (booked : Booked none client) {request : Nat}
    (listed : request ∈ client.requests) : client.entry request = .active := by
  rcases booked.each request (booked.known listed) (by simp) with active | finished
  · exact active
  · have inList := entry_listed.mpr listed
    rw [finished] at inList
    cases inList

/-! ### What each operation does to the entries -/

theorem entry_callHandler (client : Client) (request other : Nat) (result : HandlerResult) :
    (callHandler request result client).entry other
      = if other = request then
          { client.entry other with called := (client.entry other).called + 1 }
        else client.entry other := by
  by_cases same : other = request
  · rw [if_pos same, same]
    simp [callHandler, Client.entry]
    rfl
  · rw [if_neg same]
    simp [callHandler, Client.entry, Ne.symm same]
    rfl

/-- A request leaves the list and is freed. -/
def Client.dropped (client : Client) (request : Nat) : Client :=
  { client with
    requests := client.requests.erase request, freed := client.freed ++ [request] }

theorem entry_dropped (client : Client) (request other : Nat) (nodup : client.requests.Nodup) :
    (client.dropped request).entry other
      = if other = request then
          { client.entry other with listed := false, freed := (client.entry other).freed + 1 }
        else client.entry other := by
  by_cases same : other = request
  · simp [Client.dropped, Client.entry, same, nodup.not_mem_erase]
  · simp [Client.dropped, Client.entry, same, Ne.symm same, List.mem_erase_of_ne same]

/-- A new request enters the list. -/
def Client.enlisted (client : Client) : Client :=
  { client with started := client.started + 1, requests := client.started :: client.requests }

theorem entry_enlisted (client : Client) (other : Nat) :
    client.enlisted.entry other
      = if other = client.started then { client.entry other with listed := true }
        else client.entry other := by
  by_cases same : other = client.started
  · simp [Client.enlisted, Client.entry, same]
  · simp [Client.enlisted, Client.entry, same]

theorem httpRequestFree_kept (request : Nat) (client : Client)
    (kept : (client.entry request).freed = 0) :
    httpRequestFree request client = .ok { client with freed := client.freed ++ [request] } :=
  if_neg (List.count_eq_zero.mp kept)

/-! ### The books are kept -/

/-- The handler of an active request is called. -/
theorem Booked.call {client : Client} (booked : Booked none client) (request : Nat)
    (result : HandlerResult) (listed : request ∈ client.requests) :
    Booked (some request) (callHandler request result client) := by
  refine ⟨booked.nodup, ?_, ?_, ?_⟩
  · intro other outside
    have apart : other ≠ request := by
      rintro rfl
      exact Nat.not_le.mpr (booked.known listed) outside
    rw [entry_callHandler, if_neg apart, booked.fresh other outside]
  · intro other bound apart
    rw [entry_callHandler, if_neg (by simpa using apart)]
    exact booked.each other bound (by simp)
  · rintro other ⟨⟩
    rw [entry_callHandler, if_pos rfl, booked.active listed]
    rfl

/-- A request whose handler has been called leaves the list and is freed. -/
theorem Booked.finish {client : Client} {request : Nat} (booked : Booked (some request) client) :
    Booked none (client.dropped request) := by
  have running := booked.running request rfl
  have listed : request ∈ client.requests := entry_listed.mp (by rw [running]; rfl)
  refine ⟨booked.nodup.erase request, ?_, ?_, by simp⟩
  · intro other outside
    have apart : other ≠ request := by
      rintro rfl
      exact Nat.not_le.mpr (booked.known listed) outside
    rw [entry_dropped _ _ _ booked.nodup, if_neg apart, booked.fresh other outside]
  · intro other bound _
    rw [entry_dropped _ _ _ booked.nodup]
    split_ifs with same
    · right
      rw [same, running]
      rfl
    · exact booked.each other bound (by simpa using same)

/-- The request that runs is not the one that is about to start. -/
theorem Booked.running_ne {busy : Option Nat} {client : Client} (booked : Booked busy client)
    {request : Nat} (running : request ∈ busy) : request ≠ client.started := by
  have listed : request ∈ client.requests :=
    entry_listed.mp (by rw [booked.running request running]; rfl)
  exact (booked.known listed).ne

theorem Booked.enlist {busy : Option Nat} {client : Client} (booked : Booked busy client) :
    Booked busy client.enlisted := by
  have new : client.started ∉ client.requests := fun member => Nat.lt_irrefl _ (booked.known member)
  refine ⟨List.nodup_cons.mpr ⟨new, booked.nodup⟩, ?_, ?_, ?_⟩
  · intro other outside
    rw [entry_enlisted, if_neg (Nat.lt_of_succ_le outside).ne',
      booked.fresh other (Nat.le_of_succ_le outside)]
  · intro other bound apart
    rw [entry_enlisted]
    split_ifs with same
    · left
      rw [same, booked.fresh _ (Nat.le_refl _)]
      rfl
    · exact booked.each other (Nat.lt_of_le_of_ne (Nat.le_of_lt_succ bound) same) apart
  · intro request running
    rw [entry_enlisted, if_neg (booked.running_ne running), booked.running request running]

/-- A new request that never enters the list is freed and its handler called. -/
def Client.refused (client : Client) (result : HandlerResult) : Client :=
  callHandler client.started result
    { client with started := client.started + 1, freed := client.freed ++ [client.started] }

theorem entry_refused (client : Client) (result : HandlerResult) (other : Nat) :
    (client.refused result).entry other
      = if other = client.started then
          { client.entry other with
            called := (client.entry other).called + 1, freed := (client.entry other).freed + 1 }
        else client.entry other := by
  rw [Client.refused, entry_callHandler]
  by_cases same : other = client.started
  · simp [Client.entry, same]
  · simp [Client.entry, same, Ne.symm same]

theorem Booked.refuse {busy : Option Nat} {client : Client} (booked : Booked busy client)
    (result : HandlerResult) : Booked busy (client.refused result) := by
  refine ⟨booked.nodup, ?_, ?_, ?_⟩
  · intro other outside
    rw [entry_refused, if_neg (Nat.lt_of_succ_le outside).ne',
      booked.fresh other (Nat.le_of_succ_le outside)]
  · intro other bound apart
    rw [entry_refused]
    split_ifs with same
    · right
      rw [same, booked.fresh _ (Nat.le_refl _)]
      rfl
    · exact booked.each other (Nat.lt_of_le_of_ne (Nat.le_of_lt_succ bound) same) apart
  · intro request running
    rw [entry_refused, if_neg (booked.running_ne running), booked.running request running]

theorem Booked.startFailed {busy : Option Nat} {client : Client} (booked : Booked busy client)
    (code : Int) (message : Bytes) :
    startFailed client.started code message { client with started := client.started + 1 }
      = .ok (client.refused (.error code message)) := by
  have new : (client.entry client.started).freed = 0 := by
    rw [booked.fresh _ (Nat.le_refl _)]
    rfl
  rw [HttpClient.startFailed,
    httpRequestFree_kept _ { client with started := client.started + 1 } new]
  rfl

/-! ### Requests -/

/-- The set-up of the request succeeds. -/
def Attempt.Starts (attempt : Attempt) : Prop :=
  attempt.curl = true ∧ attempt.addHandle = curlmOk ∧ attempt.setoptUrl = curleOk

/-- If the set-up succeeds, so does the `curl_multi_perform` that initiates the transfer. -/
def Attempt.Sound (attempt : Attempt) : Prop :=
  attempt.Starts → attempt.performed.mcode = curlmOk

theorem httpClientRequest_starts (infoRead : Client → Outcome) (client : Client)
    (attempt : Attempt) (starts : attempt.Starts) (sound : attempt.Sound) :
    httpClientRequest infoRead client attempt
      = if ¬client.locked then infoRead client.enlisted else .ok client.enlisted := by
  simp [httpClientRequest, starts.1, starts.2.1, starts.2.2, httpMultiPerform, sound starts, bind,
    Except.bind, pure, Except.pure, Client.enlisted]

theorem httpClientRequest_refused (infoRead : Client → Outcome) (client : Client)
    (attempt : Attempt) (fails : ¬attempt.Starts) {busy : Option Nat}
    (booked : Booked busy client) : ∃ result,
      httpClientRequest infoRead client attempt = .ok (client.refused result) := by
  rw [httpClientRequest]
  by_cases curl : attempt.curl = true
  · rw [if_neg (not_not_intro curl)]
    by_cases addHandle : attempt.addHandle = curlmOk
    · rw [if_neg (not_not_intro addHandle)]
      by_cases setopt : attempt.setoptUrl = curleOk
      · exact absurd ⟨curl, addHandle, setopt⟩ fails
      · rw [if_pos setopt]
        exact ⟨_, booked.startFailed _ _⟩
    · rw [if_pos addHandle]
      exact ⟨_, booked.startFailed _ _⟩
  · rw [if_pos curl]
    exact ⟨_, booked.startFailed _ _⟩

theorem httpRequestAbort_freed (code : Int) (message : Bytes) (client after : Client)
    (request : Nat) (aborted : httpRequestAbort code message client request = .ok after) :
    after.freed = client.freed ++ [request] := by
  rw [httpRequestAbort, httpRequestFree] at aborted
  split_ifs at aborted
  cases aborted
  rfl

/-- Aborting frees every request of the list. -/
theorem abortAll_freed (code : Int) (message : Bytes) (requests : List Nat) :
    ∀ client after, requests.foldlM (httpRequestAbort code message) client = .ok after →
      after.freed = client.freed ++ requests := by
  induction requests with
  | nil =>
      intro client after aborted
      cases aborted
      simp
  | cons request requests ih =>
      intro client after aborted
      rw [List.foldlM_cons] at aborted
      cases first : httpRequestAbort code message client request with
      | error reason =>
          rw [first] at aborted
          cases aborted
      | ok next =>
          rw [first] at aborted
          rw [ih next after aborted, httpRequestAbort_freed _ _ _ _ _ first]
          simp

/-- Where the transfer of a new request cannot be initiated, the request is freed twice. -/
theorem httpClientRequest_unsound (infoRead : Client → Outcome) (attempt : Attempt)
    (unsound : ¬attempt.Sound) (client : Client) :
    ∃ reason, httpClientRequest infoRead client attempt = .error reason := by
  rw [Attempt.Sound, Classical.not_imp] at unsound
  rcases unsound with ⟨⟨curl, addHandle, setopt⟩, fails⟩
  have unfolded : httpClientRequest infoRead client attempt
      = httpClientAbortAllRequests attempt.performed.mcode
          (lit "curl_multi_perform() failed: " ++ attempt.performed.strerror) client.enlisted >>=
        fun after => startFailed client.started attempt.setoptUrl
          (lit "http_multi_perform() failed") (removeRequest client.started after) := by
    rw [httpClientRequest, if_neg (by simp [curl]), if_neg (by simp [addHandle]),
      if_neg (by simp [setopt]), httpMultiPerform, if_pos fails]
    simp only [bind_assoc]
    rfl
  rw [unfolded]
  cases aborted : httpClientAbortAllRequests attempt.performed.mcode
      (lit "curl_multi_perform() failed: " ++ attempt.performed.strerror) client.enlisted with
  | error reason => exact ⟨reason, rfl⟩
  | ok after =>
      have freed := abortAll_freed _ _ _ _ _ aborted
      have twice : client.started ∈ (removeRequest client.started after).freed := by
        rw [removeRequest, freed]
        simp [Client.enlisted]
      refine ⟨.useAfterFree, ?_⟩
      change startFailed _ _ _ _ = _
      rw [startFailed, httpRequestFree, if_pos twice]
      rfl

/-! ### Finished transfers -/

def Message.Sound (message : Message) : Prop := ∀ attempt ∈ message.made, attempt.Sound

/-- A client inside `http_multi_info_read`. -/
def Reading (busy : Option Nat) (client : Client) : Prop :=
  Booked busy client ∧ client.locked = true

theorem httpClientRequest_reading {busy : Option Nat} (infoRead : Client → Outcome)
    (client : Client) (attempt : Attempt) (sound : attempt.Sound) (reading : Reading busy client) :
    Holds (fun _ => False) (Reading busy) (httpClientRequest infoRead client attempt) := by
  by_cases starts : attempt.Starts
  · rw [httpClientRequest_starts infoRead client attempt starts sound, if_neg (by simp [reading.2])]
    exact ⟨reading.1.enlist, reading.2⟩
  · rcases httpClientRequest_refused infoRead client attempt starts reading.1 with ⟨result, done⟩
    rw [done]
    exact ⟨reading.1.refuse result, reading.2⟩

theorem httpRequestDone_sound (message : Message) (client : Client) (sound : message.Sound)
    (reading : Reading none client) (listed : message.request ∈ client.requests) :
    Holds (fun _ => False) (Reading none) (httpRequestDone message client) := by
  have called : Reading (some message.request)
      (callHandler message.request message.handlerResult client) :=
    ⟨reading.1.call _ _ listed, reading.2⟩
  apply Holds.bind (Holds.foldlM_of_mem (Reading (some message.request)) message.made
    (fun client attempt member => httpClientRequest_reading _ client attempt (sound attempt member))
    _ called)
  intro after ⟨booked, locked⟩
  have kept : ((removeRequest message.request after).entry message.request).freed = 0 :=
    congrArg Entry.freed (booked.running _ rfl)
  rw [httpRequestFree_kept _ _ kept]
  exact ⟨booked.finish, locked⟩

theorem httpRequestDone_unsound (message : Message) (unsound : ¬message.Sound) (client : Client) :
    ∃ reason, httpRequestDone message client = .error reason := by
  rw [Message.Sound] at unsound
  push Not at unsound
  rcases unsound with ⟨attempt, member, bad⟩
  rcases foldlM_error message.made attempt member (httpClientRequest_unsound _ attempt bad)
    (callHandler message.request message.handlerResult client) with ⟨reason, failed⟩
  refine ⟨reason, ?_⟩
  change message.made.foldlM _ _ >>= _ = _
  rw [failed]
  rfl

/-- The requests that the handlers make while the messages are read are sound. -/
def MessagesSound : List Message → Client → Prop
  | [], _ => True
  | message :: messages, client =>
      (message.request ∈ client.requests → message.Sound) ∧
        ∀ after, infoReadMessage client message = .ok after → MessagesSound messages after

theorem messages_sound (messages : List Message) : ∀ client, Reading none client →
    MessagesSound messages client →
      Holds (fun _ => False) (Reading none) (messages.foldlM infoReadMessage client) := by
  induction messages with
  | nil => exact fun client reading _ => reading
  | cons message messages ih =>
      intro client reading sound
      have first : Holds (fun _ => False) (Reading none) (infoReadMessage client message) := by
        rw [infoReadMessage]
        split_ifs with listed
        · exact httpRequestDone_sound message client (sound.1 listed) reading listed
        · exact reading
      rw [List.foldlM_cons]
      cases read : infoReadMessage client message with
      | error reason =>
          rw [read] at first
          exact first
      | ok after =>
          rw [read] at first
          exact ih after first (sound.2 after read)

theorem messages_unsound (messages : List Message) : ∀ client, ¬MessagesSound messages client →
    ∃ reason, messages.foldlM infoReadMessage client = .error reason := by
  induction messages with
  | nil => exact fun client unsound => absurd trivial unsound
  | cons message messages ih =>
      intro client unsound
      rw [List.foldlM_cons]
      cases read : infoReadMessage client message with
      | error reason => exact ⟨reason, rfl⟩
      | ok after =>
          by_cases sound : message.request ∈ client.requests → message.Sound
          · apply ih after
            intro later
            refine unsound ⟨sound, fun other same => ?_⟩
            cases read.symm.trans same
            exact later
          · rw [Classical.not_imp] at sound
            rcases httpRequestDone_unsound message sound.2 client with ⟨reason, failed⟩
            rw [infoReadMessage, if_pos sound.1, failed] at read
            cases read

/-! ### Runs -/

/-- The client as `http_multi_info_read` begins to read. -/
def Client.lock (client : Client) : Client := { client with locked := true }

/-- The requests made in this event that are set up can be initiated. -/
def EventSound (client : Client) : HttpEvent → Prop
  | .request attempt messages =>
      attempt.Sound ∧ (attempt.Starts → MessagesSound messages client.enlisted.lock)
  | .dispatch performed messages =>
      performed.mcode = curlmOk → MessagesSound messages client.lock

/-- A client outside of `http_multi_info_read`. -/
def Resting (client : Client) : Prop := Booked none client ∧ client.locked = false

theorem infoRead_sound (messages : List Message) (client : Client) (resting : Resting client)
    (sound : MessagesSound messages client.lock) :
    Holds (fun _ => False) Resting (httpMultiInfoRead messages client) := by
  rw [httpMultiInfoRead, if_neg (by simp [resting.2])]
  apply Holds.bind (messages_sound messages client.lock ⟨resting.1.setLocked true, rfl⟩ sound)
  intro after reading
  exact ⟨reading.1.setLocked false, rfl⟩

theorem infoRead_unsound (messages : List Message) (client : Client)
    (unsound : ¬MessagesSound messages client.lock) :
    ∃ reason, httpMultiInfoRead messages client = .error reason := by
  rw [httpMultiInfoRead]
  split_ifs
  · exact ⟨_, rfl⟩
  · rcases messages_unsound messages client.lock unsound with ⟨reason, failed⟩
    refine ⟨reason, ?_⟩
    change messages.foldlM infoReadMessage client.lock >>= _ = _
    rw [failed]
    rfl

/-- Aborting all requests calls each handler and frees each request. -/
theorem abortAll_resting (code : Int) (message : Bytes) (requests : List Nat) :
    ∀ client, client.requests = requests → Resting client →
      Holds (fun _ => False) Resting (requests.foldlM (httpRequestAbort code message) client) := by
  induction requests with
  | nil => exact fun client _ resting => resting
  | cons request requests ih =>
      intro client same resting
      have listed : request ∈ client.requests := by simp [same]
      have kept : (client.entry request).freed = 0 :=
        congrArg Entry.freed (resting.1.active listed)
      have aborted : httpRequestAbort code message client request
          = .ok ((callHandler request (.error code message) client).dropped request) := by
        rw [httpRequestAbort, if_neg (List.count_eq_zero.mp kept)]
        exact httpRequestFree_kept request (callHandler request (.error code message)
          (removeRequest request client)) kept
      rw [List.foldlM_cons, aborted]
      exact ih _ (by simp [Client.dropped, callHandler, same])
        ⟨(resting.1.call request _ listed).finish, resting.2⟩

/-- One event: it keeps the books exactly where its requests can be initiated. -/
theorem httpStep_resting (client : Client) (event : HttpEvent) (resting : Resting client) :
    (EventSound client event → Holds (fun _ => False) Resting (httpStep client event)) ∧
      (¬EventSound client event → ∃ reason, httpStep client event = .error reason) := by
  have unlocked : ¬client.locked = true := by simp [resting.2]
  cases event with
  | request attempt messages =>
      rw [EventSound, httpStep]
      by_cases sound : attempt.Sound
      · by_cases starts : attempt.Starts
        · have reads := httpClientRequest_starts (httpMultiInfoRead messages) client attempt starts
            sound
          rw [if_pos unlocked] at reads
          rw [reads]
          refine ⟨fun both => infoRead_sound messages _ ⟨resting.1.enlist, resting.2⟩
            (both.2 starts), fun unsound => infoRead_unsound messages _ fun all => ?_⟩
          exact unsound ⟨sound, fun _ => all⟩
        · rcases httpClientRequest_refused (httpMultiInfoRead messages) client attempt starts
            resting.1 with ⟨result, done⟩
          rw [done]
          exact ⟨fun _ => ⟨resting.1.refuse result, resting.2⟩,
            fun unsound => absurd ⟨sound, fun starts' => absurd starts' starts⟩ unsound⟩
      · exact ⟨fun both => absurd both.1 sound,
          fun _ => httpClientRequest_unsound _ attempt sound client⟩
  | dispatch performed messages =>
      rw [EventSound, httpStep, curlSourceDispatch, httpMultiPerform]
      by_cases works : performed.mcode = curlmOk
      · rw [if_neg (not_not_intro works)]
        exact ⟨fun sound => infoRead_sound messages client resting (sound works),
          fun unsound => infoRead_unsound messages client fun all => unsound fun _ => all⟩
      · rw [if_pos works]
        refine ⟨fun _ => ?_, fun unsound => absurd (fun works' => absurd works' works) unsound⟩
        have aborted := abortAll_resting performed.mcode
          (lit "curl_multi_perform() failed: " ++ performed.strerror) _ client rfl resting
        rw [bind_assoc]
        exact Holds.bind aborted fun after resting => resting

/-- In every state of a run each request is under way or has had exactly one call and one
removal, if and only if the transfer of every request that was set up could be initiated. -/
theorem httpRun_once_iff (events : List HttpEvent) :
    (∀ past, past <+: events → Holds (fun _ => False) ExactlyOnce (httpRun past)) ↔
      ∀ past event client, past ++ [event] <+: events → httpRun past = .ok client →
        EventSound client event := by
  have initial : Holds (fun _ : Fault => False) Resting (.ok httpClientInit) := ⟨booked_init, rfl⟩
  exact Holds.run_iff (fun client resting => resting.1.exactlyOnce) initial
    (fun client event resting => (httpStep_resting client event resting).1)
    (fun client event resting unsound after => by
      rcases (httpStep_resting client event resting).2 unsound with ⟨reason, failed⟩
      rw [failed] at after
      exact after) events

/-- `curl_multi_perform` fails for the first request. -/
theorem first_request_freed_twice :
    ¬∀ past, past <+: [HttpEvent.request ⟨true, 0, 0, ⟨1, []⟩⟩ []] →
      Holds (fun _ => False) ExactlyOnce (httpRun past) := by
  intro always
  have after := always _ (List.prefix_refl _)
  have failed : httpRun [HttpEvent.request ⟨true, 0, 0, ⟨1, []⟩⟩ []] = .error .useAfterFree := by
    decide
  rw [failed] at after
  exact after

end Mpdcron.HttpClient
