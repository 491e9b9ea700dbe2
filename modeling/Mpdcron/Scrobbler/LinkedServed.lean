import Mpdcron.Scrobbler.Coherence
import Mpdcron.Scrobbler.CurlOnce
import Mpdcron.Scrobbler.LinkedViews

/-! What the HTTP client does for the scrobblers, request by request: the handlers that it calls are
answers to the scrobblers, and its books are kept. -/

namespace Mpdcron.LinkedScrobbler

open CString AudioScrobbler Triple
open HttpClient (Attempt Performed Booked HandlerResult)

variable (checksum : Bytes → Bytes)

/-! ### Requests in hand -/

/-- The books of the HTTP client, while the handler of `busy` is running and `made` has yet to be
requested. -/
structure Linked.Sound (busy : Option Nat) (made : List Issued) (linked : Linked) : Prop where
  booked : Booked busy linked.client
  numbered : linked.issued.length = linked.client.started
  called : ∀ call ∈ linked.client.calls, call.request < linked.client.started
  carries : linked.Carries (made ++ linked.outstanding busy)

/-- Calls of handlers bring the one daemon to the other. -/
def Hears (linked : Linked) (before : Daemon) (next : Linked) (after : Daemon) : Prop :=
  ∃ answers, (answers.map answerEvent).foldlM (daemonStep checksum) before = .ok after ∧
    next.answers = linked.answers ++ answers

variable {checksum}

theorem Linked.Carries.withClient {issued : List Issued} {linked : Linked}
    (carries : linked.Carries issued) (client : HttpClient.Client) :
    (Linked.mk linked.daemon client linked.issued).Carries issued :=
  ⟨carries.owned, carries.idle, carries.healthy⟩

theorem Hears.same {linked next : Linked} {daemon : Daemon} (answers : next.answers = linked.answers) :
    Hears checksum linked daemon next daemon :=
  ⟨[], rfl, by rw [answers, List.append_nil]⟩

theorem Hears.trans {linked middle next : Linked} {before between after : Daemon}
    (first : Hears checksum linked before middle between)
    (second : Hears checksum middle between next after) :
    Hears checksum linked before next after := by
  obtain ⟨answers, ran, told⟩ := first
  obtain ⟨more, continued, toldMore⟩ := second
  refine ⟨answers ++ more, ?_, ?_⟩
  · rw [List.map_append, List.foldlM_append, ran]
    exact continued
  · rw [toldMore, told, List.append_assoc]

theorem Linked.Sound.known {busy : Option Nat} {made : List Issued} {linked : Linked}
    (sound : linked.Sound busy made) {number : Nat} (listed : number ∈ linked.client.requests) :
    ∃ issued, linked.issued[number]? = some issued := by
  have bound : number < linked.issued.length := by
    rw [sound.numbered]
    exact sound.booked.known listed
  exact ⟨_, List.getElem?_eq_getElem bound⟩

/-- A scrobbler waits for one request or for none. -/
theorem Linked.Carries.waits {issued : List Issued} {linked : Linked}
    (carries : linked.Carries issued) (index : Nat)
    (bound : index < linked.daemon.scrobblers.length) : (requestsOf issued index).length ≤ 1 := by
  have shown : (linked.shows issued).scrobblers[index]?
      = some (waiting linked.daemon.scrobblers[index] (requestsOf issued index)) := by
    rw [shows_scrobbler, List.getElem?_eq_getElem bound]
    rfl
  obtain ⟨config, log, invariant, -⟩ := carries.healthy _ (List.mem_of_getElem? shown)
  exact invariant.phase.single_request

theorem Linked.Carries.only {front back : List Issued} {issued : Issued} {linked : Linked}
    (carries : linked.Carries (front ++ issued :: back))
    (bound : issued.scrobbler < linked.daemon.scrobblers.length) :
    requestsOf (front ++ issued :: back) issued.scrobbler = [issued.request] ∧
      requestsOf (front ++ back) issued.scrobbler = [] := by
  have waits := carries.waits issued.scrobbler bound
  have head : requestsOf (issued :: back) issued.scrobbler
      = issued.request :: requestsOf back issued.scrobbler :=
    List.filterMap_cons_some (if_pos rfl)
  rw [requestsOf_append, head] at waits
  rw [List.length_append, List.length_cons] at waits
  have frontEmpty : requestsOf front issued.scrobbler = [] :=
    List.eq_nil_of_length_eq_zero (by omega)
  have backEmpty : requestsOf back issued.scrobbler = [] :=
    List.eq_nil_of_length_eq_zero (by omega)
  rw [requestsOf_append, requestsOf_append, head, frontEmpty, backEmpty]
  exact ⟨rfl, rfl⟩

theorem requestsOf_skip (front back : List Issued) (issued : Issued) (other : Nat)
    (different : other ≠ issued.scrobbler) :
    requestsOf (front ++ issued :: back) other = requestsOf (front ++ back) other := by
  have head : requestsOf (issued :: back) other = requestsOf back other :=
    List.filterMap_cons_none (if_neg (Ne.symm different))
  rw [requestsOf_append, requestsOf_append, head]

/-! ### The handlers -/

def Linked.logged (linked : Linked) (number : Nat) (result : HandlerResult) : Linked :=
  { linked with client := HttpClient.callHandler number result linked.client }

theorem answers_logged (linked : Linked) (number : Nat) (result : HandlerResult) (issued : Issued)
    (found : linked.issued[number]? = some issued) :
    (linked.logged number result).answers
      = linked.answers ++ [(issued.scrobbler, httpResult result)] := by
  rw [Linked.answers, Linked.answers]
  simp only [Linked.logged, HttpClient.callHandler]
  rw [List.filterMap_append]
  simp [found]

variable (checksum) in
/-- The handler of a request that a scrobbler waits for. -/
theorem callHandler_called (linked : Linked) (number : Nat) (result : HandlerResult)
    (front back : List Issued) (issued : Issued) (found : linked.issued[number]? = some issued)
    (carries : linked.Carries (front ++ issued :: back)) :
    Holds AllowedFault
      (fun done => ∃ each, linked.daemon.scrobblers[issued.scrobbler]? = some each ∧
        Called checksum (linked.logged number result) (front ++ issued :: back) (front ++ back)
          issued.scrobbler
          (AudioScrobbler.callHandler (httpClientRequest []) issued.request.handler
            (httpResult result) each.world)
          (answerEvent (issued.scrobbler, httpResult result)) done.1 done.2)
      (callHandler number result linked) := by
  have bound := carries.owned issued (List.mem_of_getElem? found)
  have only := carries.only bound
  have present := List.getElem?_eq_getElem bound
  have idle := carries.idle _ (List.getElem_mem bound)
  have logged : (linked.logged number result).Carries (front ++ issued :: back) :=
    carries.withClient _
  have heard (other : Nat) : (answerEvent (issued.scrobbler, httpResult result)).received other
      = if issued.scrobbler = other then some (.http 0 (httpResult result) []) else none := rfl
  have called := call_called checksum (linked.logged number result) _ (front ++ back) logged
    issued.scrobbler _ present
    (AudioScrobbler.callHandler (httpClientRequest []) issued.request.handler (httpResult result))
    (answerEvent (issued.scrobbler, httpResult result)) (.http 0 (httpResult result) []) heard ?same
    (fun other different => requestsOf_skip front back issued other different)
  case same =>
    rw [only.1, only.2]
    simp only [List.append_nil]
    have quiet : (waiting linked.daemon.scrobblers[issued.scrobbler] []).world
        = linked.daemon.scrobblers[issued.scrobbler].world := by
      rw [waiting, ← idle]
    have answered : step checksum
          (waiting linked.daemon.scrobblers[issued.scrobbler] [issued.request]).world
          (.http 0 (httpResult result) [])
        = AudioScrobbler.callHandler (httpClientRequest []) issued.request.handler
            (httpResult result) (waiting linked.daemon.scrobblers[issued.scrobbler] []).world := rfl
    rw [answered, quiet]
    cases AudioScrobbler.callHandler (httpClientRequest []) issued.request.handler
      (httpResult result) linked.daemon.scrobblers[issued.scrobbler].world <;> rfl
  rw [callHandler]
  simp only [found, present]
  exact called.mono fun done after => ⟨_, rfl, after⟩

/-- An error makes no function of a scrobbler ask for anything. -/
theorem callHandler_error_requests (http : HttpRequest → World → AudioScrobbler.Outcome)
    (handler : HttpClientHandler) (world : World) :
    Holds (fun _ => True) (fun next => next.requests = world.requests)
      (AudioScrobbler.callHandler http handler .error world) := by
  cases handler with
  | scrobblerHandshakeHandler =>
      apply assert_holds _ fun _ => trivial
      intro _
      apply assert_holds _ fun _ => trivial
      intro _
      apply assert_holds _ fun _ => trivial
      intro _
      exact (rfl : world.requests = world.requests)
  | scrobblerSubmitHandler =>
      apply assert_holds _ fun _ => trivial
      intro _
      apply assert_holds _ fun _ => trivial
      intro _
      apply assert_holds _ fun _ => trivial
      intro _
      exact (rfl : world.requests = world.requests)

/-- `handler->error` of a request that a scrobbler waits for. -/
theorem callError_heard (linked : Linked) (number : Nat) (code : Int) (message : Bytes)
    (front back : List Issued) (issued : Issued) (found : linked.issued[number]? = some issued)
    (carries : linked.Carries (front ++ issued :: back)) :
    Holds AllowedFault
      (fun next => next.Carries (front ++ back) ∧
        next.client = (linked.logged number (.error code message)).client ∧
        next.issued = linked.issued ∧
        Hears checksum linked (linked.shows (front ++ issued :: back)) next
          (next.shows (front ++ back)))
      (callError number code message linked) := by
  rw [callError]
  apply (callHandler_called checksum linked number (.error code message) front back issued found
    carries).bind
  rintro ⟨made, next⟩ ⟨each, present, called⟩
  obtain ⟨world, ran, asked⟩ := called.asked
  have idle : world.requests = [] := by
    have kept := callHandler_error_requests (httpClientRequest []) issued.request.handler each.world
    have ended : AudioScrobbler.callHandler (httpClientRequest []) issued.request.handler .error
        each.world = .ok world := ran
    rw [ended] at kept
    exact kept.trans (carries.idle each (List.mem_of_getElem? present))
  obtain rfl : made = [] := by
    dsimp only at asked
    rw [asked, idle]
    rfl
  have answers : next.answers
      = linked.answers ++ [(issued.scrobbler, httpResult (.error code message))] := by
    rw [← answers_logged linked number (.error code message) issued found, Linked.answers,
      Linked.answers, called.client, called.kept]
  have heard : daemonStep checksum (linked.shows (front ++ issued :: back))
      (answerEvent (issued.scrobbler, httpResult (.error code message)))
        = .ok (next.shows (front ++ back)) := called.heard
  have carried : next.Carries (front ++ back) := called.carries
  refine ⟨carried, called.client, called.kept, ⟨[_], ?_, answers⟩⟩
  rw [List.map_singleton, List.foldlM_cons, heard]
  rfl

/-! ### One request -/

/-- The request has its number. -/
def Linked.numbering (linked : Linked) (issued : Issued) : Linked :=
  { linked with
    client := { linked.client with started := linked.client.started + 1 }
    issued := linked.issued ++ [issued] }

/-- The request is in the list of the client. -/
def Linked.enlisted (linked : Linked) (issued : Issued) : Linked :=
  { linked with client := linked.client.enlisted, issued := linked.issued ++ [issued] }

theorem requestIssued_starts (infoRead : Linked → Outcome) (linked : Linked) (issued : Issued)
    (attempt : Attempt) (starts : attempt.Starts) (sound : attempt.Sound) :
    requestIssued infoRead attempt linked issued
      = if ¬linked.client.locked then infoRead (linked.enlisted issued)
        else .ok (linked.enlisted issued) := by
  simp [requestIssued, starts.1, starts.2.1, starts.2.2, httpMultiPerform, sound starts, bind,
    Except.bind, pure, Except.pure, HttpClient.Client.enlisted, Linked.enlisted]

theorem requestIssued_fails (infoRead : Linked → Outcome) (linked : Linked) (issued : Issued)
    (attempt : Attempt) (fails : ¬attempt.Starts) : ∃ code message,
      requestIssued infoRead attempt linked issued
        = startFailed linked.client.started code message (linked.numbering issued) := by
  rw [requestIssued]
  by_cases curl : attempt.curl = true
  · rw [if_neg (not_not_intro curl)]
    by_cases addHandle : attempt.addHandle = HttpClient.curlmOk
    · rw [if_neg (not_not_intro addHandle)]
      by_cases setopt : attempt.setoptUrl = HttpClient.curleOk
      · exact absurd ⟨curl, addHandle, setopt⟩ fails
      · rw [if_pos setopt]
        exact ⟨_, _, rfl⟩
    · rw [if_pos addHandle]
      exact ⟨_, _, rfl⟩
  · rw [if_pos curl]
    exact ⟨_, _, rfl⟩

theorem answers_numbering {busy : Option Nat} {made : List Issued} {linked : Linked}
    (sound : linked.Sound busy made) (issued : Issued) (daemon : Daemon)
    (client : HttpClient.Client) (calls : client.calls = linked.client.calls) :
    (Linked.mk daemon client (linked.issued ++ [issued])).answers = linked.answers := by
  rw [Linked.answers, Linked.answers, calls]
  apply List.filterMap_congr
  intro call member
  have bound : call.request < linked.issued.length := by
    rw [sound.numbered]
    exact sound.called call member
  rw [List.getElem?_append_left bound]

theorem outstanding_numbering {busy : Option Nat} {made : List Issued} {linked : Linked}
    (sound : linked.Sound busy made) (issued : Issued) (daemon : Daemon)
    (client : HttpClient.Client) (requests : client.requests = linked.client.requests) :
    (Linked.mk daemon client (linked.issued ++ [issued])).outstanding busy
      = linked.outstanding busy := by
  rw [Linked.outstanding, Linked.outstanding, requests]
  apply List.filterMap_congr
  intro number member
  have bound : number < linked.issued.length := by
    rw [sound.numbered]
    exact sound.booked.known (List.mem_of_mem_filter member)
  rw [List.getElem?_append_left bound]

theorem outstanding_enlisted {busy : Option Nat} {made : List Issued} {linked : Linked}
    (sound : linked.Sound busy made) (issued : Issued) :
    (linked.enlisted issued).outstanding busy = issued :: linked.outstanding busy := by
  have new : some linked.client.started ≠ busy := by
    intro same
    exact sound.booked.running_ne same.symm rfl
  have last : (linked.issued ++ [issued])[linked.client.started]? = some issued := by
    rw [← sound.numbered, List.getElem?_concat_length]
  have others := outstanding_numbering sound issued linked.daemon linked.client rfl
  rw [← others, Linked.outstanding, Linked.outstanding]
  simp only [Linked.enlisted, HttpClient.Client.enlisted]
  rw [List.filter_cons_of_pos (by simpa using new), List.filterMap_cons_some last]

variable (checksum) in
/-- The request of a scrobbler is in the list or its handler has been told of an error. -/
def Requested (busy : Option Nat) (linked : Linked) (issued : Issued) (next : Linked) : Prop :=
  next.Sound busy [] ∧ next.client.locked = linked.client.locked ∧
    Hears checksum linked (linked.shows (issued :: linked.outstanding busy)) next
      (next.shows (next.outstanding busy))

theorem httpRequestFree_kept (number : Nat) (linked : Linked)
    (kept : (linked.client.entry number).freed = 0) :
    httpRequestFree number linked
      = .ok { linked with
          client := { linked.client with freed := linked.client.freed ++ [number] } } := by
  rw [httpRequestFree, HttpClient.httpRequestFree_kept number linked.client kept]
  rfl

theorem Linked.Sound.last {busy : Option Nat} {made : List Issued} {linked : Linked}
    (sound : linked.Sound busy made) (issued : Issued) :
    (linked.issued ++ [issued])[linked.client.started]? = some issued := by
  rw [← sound.numbered, List.getElem?_concat_length]

section Request

variable {busy : Option Nat} {linked : Linked} {issued : Issued}
  (sound : linked.Sound busy [issued])
  (owned : issued.scrobbler < linked.daemon.scrobblers.length)

include sound owned

theorem owned_concat : ∀ each ∈ linked.issued ++ [issued],
    each.scrobbler < linked.daemon.scrobblers.length := by
  intro each member
  rcases List.mem_append.mp member with old | new
  · exact sound.carries.owned each old
  · rw [List.mem_singleton.mp new]
    exact owned

theorem enlisted_requested : Requested checksum busy linked issued (linked.enlisted issued) := by
  have outstanding := outstanding_enlisted sound issued
  have answers := answers_numbering sound issued linked.daemon linked.client.enlisted rfl
  have shown : (linked.enlisted issued).shows ((linked.enlisted issued).outstanding busy)
      = linked.shows (issued :: linked.outstanding busy) := by
    rw [outstanding]
    rfl
  refine ⟨⟨sound.booked.enlist, ?_, ?_, owned_concat sound owned, sound.carries.idle, ?_⟩, rfl, ?_⟩
  · change (linked.issued ++ [issued]).length = linked.client.started + 1
    rw [List.length_append, sound.numbered]
    rfl
  · intro call member
    exact Nat.lt_succ_of_lt (sound.called call member)
  · rw [List.nil_append, shown]
    exact sound.carries.healthy
  · rw [shown]
    exact Hears.same answers

theorem startFailed_requested (code : Int) (message : Bytes) :
    Holds AllowedFault (Requested checksum busy linked issued)
      (startFailed linked.client.started code message (linked.numbering issued)) := by
  have new : ((linked.numbering issued).client.entry linked.client.started).freed = 0 := by
    have blank := sound.booked.fresh _ (Nat.le_refl _)
    exact congrArg HttpClient.Entry.freed blank
  rw [startFailed, httpRequestFree_kept _ _ new]
  have carries : (Linked.mk linked.daemon
      { (linked.numbering issued).client with
        freed := linked.client.freed ++ [linked.client.started] }
      (linked.issued ++ [issued])).Carries ([] ++ issued :: linked.outstanding busy) :=
    ⟨owned_concat sound owned, sound.carries.idle, sound.carries.healthy⟩
  apply (callError_heard _ linked.client.started code message [] (linked.outstanding busy) issued
    (sound.last issued) carries).mono
  rintro next ⟨carried, client, kept, heard⟩
  have refused : next.client = linked.client.refused (.error code message) := client
  obtain ⟨daemon, after, list⟩ := next
  obtain rfl : after = linked.client.refused (.error code message) := refused
  obtain rfl : list = linked.issued ++ [issued] := kept
  have outstanding := outstanding_numbering sound issued daemon
    (linked.client.refused (.error code message)) rfl
  have answers := answers_numbering sound issued linked.daemon
    { (linked.numbering issued).client with
      freed := linked.client.freed ++ [linked.client.started] } rfl
  refine ⟨⟨sound.booked.refuse _, ?_, ?_, ?_⟩, rfl, ?_⟩
  · change (linked.issued ++ [issued]).length = linked.client.started + 1
    rw [List.length_append, sound.numbered]
    rfl
  · intro call member
    rcases List.mem_append.mp member with old | latest
    · exact Nat.lt_succ_of_lt (sound.called call old)
    · rw [List.mem_singleton.mp latest]
      exact Nat.lt_succ_self _
  · rw [outstanding]
    exact carried
  · rw [outstanding]
    exact Hears.trans (Hears.same answers) heard

/-- A request that is made inside of a handler. -/
theorem requestIssued_locked (infoRead : Linked → Outcome) (attempt : Attempt)
    (initiated : attempt.Sound) (locked : linked.client.locked = true) :
    Holds AllowedFault (Requested checksum busy linked issued)
      (requestIssued infoRead attempt linked issued) := by
  by_cases starts : attempt.Starts
  · rw [requestIssued_starts infoRead linked issued attempt starts initiated,
      if_neg (not_not_intro locked)]
    exact enlisted_requested sound owned
  · obtain ⟨code, message, failed⟩ := requestIssued_fails infoRead linked issued attempt starts
    rw [failed]
    exact startFailed_requested sound owned code message

end Request

/-- One function asks for one request or for none. -/
theorem Linked.Sound.made_cases {busy : Option Nat} {made : List Issued} {linked : Linked}
    (sound : linked.Sound busy made) (index : Nat)
    (bound : index < linked.daemon.scrobblers.length) (requests : List HttpRequest)
    (same : made = requests.map (Issued.mk index)) :
    made = [] ∨ ∃ request, made = [⟨index, request⟩] := by
  have waits := sound.carries.waits index bound
  rw [requestsOf_append, same, requestsOf_own, List.length_append] at waits
  cases requests with
  | nil => exact Or.inl same
  | cons request requests =>
      rw [List.length_cons] at waits
      have alone : requests = [] := List.eq_nil_of_length_eq_zero (by omega)
      rw [alone] at same
      exact Or.inr ⟨request, same⟩

/-! ### Finished transfers -/

theorem outstanding_split (linked : Linked) (number : Nat) (issued : Issued)
    (nodup : linked.client.requests.Nodup) (listed : number ∈ linked.client.requests)
    (found : linked.issued[number]? = some issued) :
    ∃ front back, linked.outstanding none = front ++ issued :: back ∧
      linked.outstanding (some number) = front ++ back := by
  obtain ⟨before, behind, requests⟩ := List.append_of_mem listed
  refine ⟨before.filterMap fun each => linked.issued[each]?,
    behind.filterMap fun each => linked.issued[each]?, ?_, ?_⟩
  · rw [Linked.outstanding, requests]
    simp [found]
  · have apart : number ∉ before ++ behind := by
      rw [requests] at nodup
      exact (List.nodup_middle.mp nodup).notMem
    have others : (linked.client.requests.filter fun each => some each ≠ some number)
        = before ++ behind := by
      rw [requests, List.filter_append, List.filter_cons_of_neg (by simp), ← List.filter_append,
        List.filter_eq_self]
      intro each member
      refine decide_eq_true fun same => apart ?_
      exact Option.some.inj same ▸ member
    rw [Linked.outstanding, others, List.filterMap_append]

/-- A request leaves the list of the client. -/
theorem outstanding_erase (linked : Linked) (number : Nat) (nodup : linked.client.requests.Nodup)
    (client : HttpClient.Client) (requests : client.requests = linked.client.requests.erase number) :
    (Linked.mk linked.daemon client linked.issued).outstanding none
      = linked.outstanding (some number) := by
  have everything : (client.requests.filter fun each => some each ≠ (none : Option Nat))
      = client.requests := by
    rw [List.filter_eq_self]
    exact fun each member => rfl
  have others : linked.client.requests.erase number
      = linked.client.requests.filter fun each => some each ≠ some number := by
    rw [nodup.erase_eq_filter]
    apply List.filter_congr
    intro each member
    by_cases same : each = number <;> simp [same]
  rw [Linked.outstanding, Linked.outstanding]
  simp only
  rw [everything, requests, others]

variable (checksum) in
/-- What the HTTP client does between two events of the scrobblers. -/
def Served (linked next : Linked) : Prop :=
  next.Sound none [] ∧ next.client.locked = linked.client.locked ∧
    Hears checksum linked linked.view next next.view

theorem Served.refl {linked : Linked} (sound : linked.Sound none []) : Served checksum linked linked :=
  ⟨sound, rfl, Hears.same rfl⟩

theorem Served.trans {linked middle next : Linked} (first : Served checksum linked middle)
    (second : Served checksum middle next) : Served checksum linked next :=
  ⟨second.1, second.2.1.trans first.2.1, first.2.2.trans second.2.2⟩

/-- What a function asks for inside of a handler. -/
theorem made_locked {busy : Option Nat} {linked : Linked} {made : List Issued}
    (sound : linked.Sound busy made) (index : Nat)
    (bound : index < linked.daemon.scrobblers.length) (requests : List HttpRequest)
    (same : made = requests.map (Issued.mk index)) (infoRead : Linked → Outcome)
    (attempt : Attempt) (initiated : attempt.Sound) (locked : linked.client.locked = true) :
    Holds AllowedFault
      (fun next => next.Sound busy [] ∧ next.client.locked = linked.client.locked ∧
        Hears checksum linked (linked.shows (made ++ linked.outstanding busy)) next
          (next.shows (next.outstanding busy)))
      (made.foldlM (requestIssued infoRead attempt) linked) := by
  rcases sound.made_cases index bound requests same with rfl | ⟨request, rfl⟩
  · exact ⟨sound, rfl, Hears.same rfl⟩
  · have one : [Issued.mk index request].foldlM (requestIssued infoRead attempt) linked
        = requestIssued infoRead attempt linked ⟨index, request⟩ := by
      rw [List.foldlM_cons]
      simp only [List.foldlM_nil, bind_pure]
    rw [one]
    exact requestIssued_locked sound bound infoRead attempt initiated locked

theorem httpRequestDone_served (transfer : Transfer) (linked : Linked)
    (sound : linked.Sound none []) (locked : linked.client.locked = true)
    (listed : transfer.request ∈ linked.client.requests) (initiated : transfer.attempt.Sound) :
    Holds AllowedFault (Served checksum linked) (httpRequestDone transfer linked) := by
  obtain ⟨issued, found⟩ := sound.known listed
  obtain ⟨front, back, all, others⟩ :=
    outstanding_split linked transfer.request issued sound.booked.nodup listed found
  have carries : linked.Carries (front ++ issued :: back) := all ▸ sound.carries
  rw [httpRequestDone]
  apply (callHandler_called checksum linked transfer.request transfer.handlerResult front back
    issued found carries).bind
  rintro ⟨made, next⟩ ⟨each, present, called⟩
  obtain ⟨daemon, client, list⟩ := next
  obtain rfl : client
    = HttpClient.callHandler transfer.request transfer.handlerResult linked.client := called.client
  obtain rfl : list = linked.issued := called.kept
  obtain ⟨world, -, asked⟩ := called.asked
  have running : (Linked.mk daemon
      (HttpClient.callHandler transfer.request transfer.handlerResult linked.client)
      linked.issued).outstanding (some transfer.request) = front ++ back := others
  have inside : (Linked.mk daemon
      (HttpClient.callHandler transfer.request transfer.handlerResult linked.client)
      linked.issued).Sound (some transfer.request) made := by
    refine ⟨sound.booked.call _ _ listed, sound.numbered, ?_, ?_⟩
    · intro call member
      rcases List.mem_append.mp member with old | latest
      · exact sound.called call old
      · rw [List.mem_singleton.mp latest]
        exact sound.booked.known listed
    · rw [running]
      exact called.carries
  have bound : issued.scrobbler < daemon.scrobblers.length :=
    called.carries.owned issued (List.mem_of_getElem? found)
  apply (made_locked inside issued.scrobbler bound world.requests asked _ transfer.attempt initiated
    locked).bind
  rintro after ⟨left, stillLocked, heard⟩
  have kept : ((removeRequest transfer.request after).client.entry transfer.request).freed = 0 :=
    congrArg HttpClient.Entry.freed (left.booked.running _ rfl)
  rw [httpRequestFree_kept _ _ kept]
  have outstanding := outstanding_erase after transfer.request left.booked.nodup
    (after.client.dropped transfer.request) rfl
  have answered : Hears checksum linked linked.view
      (Linked.mk daemon
        (HttpClient.callHandler transfer.request transfer.handlerResult linked.client)
        linked.issued)
      (Linked.shows ⟨daemon, HttpClient.callHandler transfer.request transfer.handlerResult
        linked.client, linked.issued⟩ (made ++ (front ++ back))) := by
    refine ⟨[(issued.scrobbler, httpResult transfer.handlerResult)], ?_,
      answers_logged linked transfer.request transfer.handlerResult issued found⟩
    rw [List.map_singleton, List.foldlM_cons, Linked.view, all]
    have stepped : daemonStep checksum (linked.shows (front ++ issued :: back))
        (answerEvent (issued.scrobbler, httpResult transfer.handlerResult)) = .ok _ := called.heard
    rw [stepped]
    rfl
  rw [running] at heard
  refine ⟨⟨left.booked.finish, left.numbered, left.called, ?_⟩, stillLocked, ?_⟩
  · have last : (Linked.mk after.daemon (after.client.dropped transfer.request)
        after.issued).Carries ([] ++ after.outstanding (some transfer.request)) :=
      left.carries.withClient _
    rw [← outstanding] at last
    exact last
  · have ended : Hears checksum after (after.shows (after.outstanding (some transfer.request)))
        (Linked.mk after.daemon (after.client.dropped transfer.request) after.issued)
        (Linked.view ⟨after.daemon, after.client.dropped transfer.request, after.issued⟩) := by
      rw [Linked.view, outstanding]
      exact Hears.same rfl
    exact (answered.trans heard).trans ended

/-- The requests that handlers make can be initiated. -/
def TransfersSound (transfers : List Transfer) : Prop :=
  ∀ transfer ∈ transfers, transfer.attempt.Sound

theorem transfers_served (transfers : List Transfer) (initiated : TransfersSound transfers)
    (linked : Linked) (sound : linked.Sound none []) (locked : linked.client.locked = true) :
    Holds AllowedFault (Served checksum linked) (transfers.foldlM infoReadTransfer linked) := by
  refine (Holds.foldlM_of_mem (fun next => Served checksum linked next) transfers ?_ linked
    (Served.refl sound))
  intro middle transfer member served
  rw [infoReadTransfer]
  split_ifs with listed
  · apply (httpRequestDone_served transfer middle served.1 (served.2.1.trans locked) listed
      (initiated transfer member)).mono
    exact fun next more => served.trans more
  · exact served

theorem Linked.Sound.setLocked {busy : Option Nat} {made : List Issued} {linked : Linked}
    (sound : linked.Sound busy made) (locked : Bool) : (linked.setLocked locked).Sound busy made :=
  ⟨sound.booked.setLocked locked, sound.numbered, sound.called, sound.carries.withClient _⟩

theorem httpMultiInfoRead_served (transfers : List Transfer) (initiated : TransfersSound transfers)
    (linked : Linked) (sound : linked.Sound none []) (unlocked : linked.client.locked = false) :
    Holds AllowedFault (Served checksum linked) (httpMultiInfoRead transfers linked) := by
  rw [httpMultiInfoRead, if_neg (by simp [unlocked])]
  apply (transfers_served transfers initiated (linked.setLocked true) (sound.setLocked true)
    rfl).bind
  rintro next ⟨left, -, answers, ran, told⟩
  exact ⟨left.setLocked false, unlocked.symm, answers, ran, told⟩

/-- The handler of a request that is given up. -/
theorem httpRequestAbort_served (code : Int) (message : Bytes) (linked : Linked) (number : Nat)
    (sound : linked.Sound none []) (listed : number ∈ linked.client.requests) :
    Holds AllowedFault
      (fun next => Served checksum linked next ∧
        next.client.requests = linked.client.requests.erase number)
      (httpRequestAbort code message linked number) := by
  obtain ⟨issued, found⟩ := sound.known listed
  obtain ⟨front, back, all, others⟩ :=
    outstanding_split linked number issued sound.booked.nodup listed found
  have kept : (linked.client.entry number).freed = 0 :=
    congrArg HttpClient.Entry.freed (sound.booked.active listed)
  have before : linked.Carries (front ++ issued :: back) := all ▸ sound.carries
  have carries : (removeRequest number linked).Carries (front ++ issued :: back) :=
    before.withClient _
  rw [httpRequestAbort, if_neg (List.count_eq_zero.mp kept)]
  apply (callError_heard (removeRequest number linked) number code message front back issued found
    carries).bind
  rintro next ⟨carried, client, same, heard⟩
  obtain ⟨daemon, after, list⟩ := next
  obtain rfl : after = HttpClient.callHandler number (.error code message)
    (HttpClient.removeRequest number linked.client) := client
  obtain rfl : list = linked.issued := same
  have freed := httpRequestFree_kept number (Linked.mk daemon (HttpClient.callHandler number
    (.error code message) (HttpClient.removeRequest number linked.client)) linked.issued) kept
  rw [freed]
  have booked := (sound.booked.call number (.error code message) listed).finish
  have outstanding := outstanding_erase (Linked.mk daemon linked.client linked.issued) number
    sound.booked.nodup ((HttpClient.callHandler number (.error code message)
      linked.client).dropped number) rfl
  have rest : (Linked.mk daemon linked.client linked.issued).outstanding (some number)
      = front ++ back := others
  rw [rest] at outstanding
  refine ⟨⟨⟨booked, sound.numbered, ?_, ?_⟩, rfl, ?_⟩, rfl⟩
  · intro call member
    rcases List.mem_append.mp member with old | latest
    · exact sound.called call old
    · rw [List.mem_singleton.mp latest]
      exact sound.booked.known listed
  · have last : (Linked.mk daemon ((HttpClient.callHandler number (.error code message)
        linked.client).dropped number) linked.issued).Carries ([] ++ (front ++ back)) :=
      carried.withClient _
    rw [← outstanding] at last
    exact last
  · have began : Hears checksum linked linked.view (removeRequest number linked)
        ((removeRequest number linked).shows (front ++ issued :: back)) := by
      rw [Linked.view, all]
      exact Hears.same rfl
    have ended : Hears checksum
        (Linked.mk daemon (HttpClient.callHandler number (.error code message)
          (HttpClient.removeRequest number linked.client)) linked.issued)
        (Linked.shows ⟨daemon, HttpClient.callHandler number (.error code message)
          (HttpClient.removeRequest number linked.client), linked.issued⟩ (front ++ back))
        (Linked.mk daemon ((HttpClient.callHandler number (.error code message)
          linked.client).dropped number) linked.issued)
        (Linked.view ⟨daemon, (HttpClient.callHandler number (.error code message)
          linked.client).dropped number, linked.issued⟩) := by
      rw [Linked.view, outstanding]
      exact Hears.same rfl
    exact (began.trans heard).trans ended

theorem abortAll_served (code : Int) (message : Bytes) (requests : List Nat) : ∀ linked : Linked,
    linked.client.requests = requests → linked.Sound none [] →
      Holds AllowedFault (Served checksum linked)
        (requests.foldlM (httpRequestAbort code message) linked) := by
  induction requests with
  | nil => exact fun linked _ sound => Served.refl sound
  | cons number requests ih =>
      intro linked same sound
      rw [List.foldlM_cons]
      have listed : number ∈ linked.client.requests := by
        rw [same]
        exact List.mem_cons_self
      apply (httpRequestAbort_served code message linked number sound listed).bind
      rintro next ⟨served, left⟩
      have rest : next.client.requests = requests := by
        rw [left, same, List.erase_cons_head]
      exact (ih next rest served.1).mono fun last more => served.trans more

theorem curlSourceDispatch_served (performed : Performed) (transfers : List Transfer)
    (initiated : TransfersSound transfers) (linked : Linked) (sound : linked.Sound none [])
    (unlocked : linked.client.locked = false) :
    Holds AllowedFault (Served checksum linked) (curlSourceDispatch performed transfers linked) := by
  rw [curlSourceDispatch, httpMultiPerform]
  by_cases works : performed.mcode = HttpClient.curlmOk
  · rw [if_neg (not_not_intro works)]
    exact httpMultiInfoRead_served transfers initiated linked sound unlocked
  · rw [if_pos works, bind_assoc]
    exact (abortAll_served performed.mcode
      (lit "curl_multi_perform() failed: " ++ performed.strerror) _ linked rfl sound).bind
        fun next served => served

end Mpdcron.LinkedScrobbler
