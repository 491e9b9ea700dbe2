import Mpdcron.Lib.Delimited
import Mpdcron.Lib.Lines
import Mpdcron.Scrobbler.Monitor

/-! The answer to a handshake: the bytes that `next_line` looks at, the lines that
`scrobbler_handshake_response` takes, and what later requests use of them. -/

namespace Mpdcron.AudioScrobbler

open CString Triple

/-! ### `next_line` in memory

A buffer is the bytes that may be looked at; a function fails where it looks at another one. -/

/-- `memchr(buffer + start, ch, count)`: where the byte is, if it is there. -/
def memchr (buffer : Bytes) (ch : UInt8) : Nat → Nat → Option (Option Nat)
  | _, 0 => some none
  | start, count + 1 => do
      let byte ← buffer[start]?
      if byte = ch then return some start
      memchr buffer ch (start + 1) count

/-- `g_strndup(buffer + start, count)` -/
def gStrndup (buffer : Bytes) : Nat → Nat → Option Bytes
  | _, 0 => some []
  | start, count + 1 => do
      let byte ← buffer[start]?
      if byte = 0 then return []
      let text ← gStrndup buffer (start + 1) count
      return byte :: text

/-- `next_line` at the byte `input` of a buffer: the line and the new `*input_r`. -/
def nextLineAt (buffer : Bytes) (input stop : Nat) : Option (Bytes × Nat) := do
  match ← memchr buffer newline input (stop - input) with
  | none => return ([], input)
  | some found =>
      let line ← gStrndup buffer input (found - input)
      return (line, found + 1)

theorem memchr_eq (buffer : Bytes) (ch : UInt8) (count : Nat) : ∀ start,
    start + count = buffer.length → memchr buffer ch start count = some
      (if ch ∈ buffer.drop start then
        some (start + ((buffer.drop start).takeWhile (· ≠ ch)).length) else none) := by
  induction count with
  | zero =>
      intro start whole
      have past : buffer.drop start = [] := List.drop_eq_nil_of_le (by omega)
      simp [memchr, past]
  | succ count ih =>
      intro start whole
      have inside : start < buffer.length := by omega
      have split : buffer.drop start = buffer[start] :: buffer.drop (start + 1) :=
        List.drop_eq_getElem_cons inside
      rw [memchr, List.getElem?_eq_getElem inside, split]
      by_cases found : buffer[start] = ch
      · simp [found]
      · have later := ih (start + 1) (by omega)
        simp only [Option.bind_eq_bind, Option.bind_some, if_neg found, later, List.mem_cons,
          Ne.symm found, false_or]
        rw [List.takeWhile_cons_of_pos (by simpa using found), List.length_cons]
        congr 2
        congr 1
        omega

theorem gStrndup_eq (buffer : Bytes) (count : Nat) : ∀ start,
    start + count ≤ buffer.length →
    gStrndup buffer start count = some (upToNul ((buffer.drop start).take count)) := by
  induction count with
  | zero =>
      intro start _
      simp [gStrndup, upToNul]
  | succ count ih =>
      intro start inside
      have here : start < buffer.length := by omega
      have split : buffer.drop start = buffer[start] :: buffer.drop (start + 1) :=
        List.drop_eq_getElem_cons here
      have later := ih (start + 1) (by omega)
      rw [gStrndup, List.getElem?_eq_getElem here, split, List.take_succ_cons]
      by_cases ends : buffer[start] = 0
      · simp [upToNul, ends]
      · simp [upToNul, ends, later]

/-- A text with a newline starts with a line. -/
theorem nextLine_line (line rest : Bytes) (plain : newline ∉ line) :
    nextLine (line ++ newline :: rest) = (upToNul line, rest) := by
  have first := Delimited.takeWhile_front newline line rest plain
  have behind : (line ++ newline :: rest).drop (line.length + 1) = rest := by
    rw [← List.drop_drop, List.drop_left, List.drop_one, List.tail_cons]
  rw [nextLine, if_pos (by simp), first]
  dsimp only
  rw [behind]

theorem nextLine_rest (text : Bytes) (plain : newline ∉ text) : nextLine text = ([], text) := by
  rw [nextLine, if_neg plain]

/-- `next_line` looks at nothing past the end and moves on by what it returns. -/
theorem nextLineAt_eq (response : Bytes) (input : Nat) (inside : input ≤ response.length) :
    ∃ line next, next ≤ response.length ∧
      nextLineAt response input response.length = some (line, next) ∧
      nextLine (response.drop input) = (line, response.drop next) := by
  have searched := memchr_eq response newline (response.length - input) input (by omega)
  rw [nextLineAt, searched]
  by_cases found : newline ∈ response.drop input
  · rcases List.eq_append_cons_of_mem found with ⟨line, rest, split, plain⟩
    have size := congrArg List.length split
    rw [List.length_drop, List.length_append, List.length_cons] at size
    have copied := gStrndup_eq response line.length input (by omega)
    rw [split, List.take_left] at copied
    refine ⟨upToNul line, input + line.length + 1, by omega, ?_, ?_⟩
    · rw [if_pos found, split, Delimited.takeWhile_front newline line rest plain]
      simp [copied]
    · rw [split, nextLine_line line rest plain, Nat.add_assoc, ← List.drop_drop, split,
        ← List.drop_drop, List.drop_left, List.drop_one, List.tail_cons]
  · refine ⟨[], input, inside, ?_, nextLine_rest _ found⟩
    rw [if_neg found]
    rfl

/-! ### The lines of an answer -/

/-- The lines of a text that end in a newline. -/
def fullLines (text : Bytes) : List Bytes := (text.splitOn newline).dropLast

theorem fullLines_line (line rest : Bytes) (plain : newline ∉ line) :
    fullLines (line ++ newline :: rest) = line :: fullLines rest := by
  rw [fullLines, List.splitOn_append_cons_self, List.splitOn_eq_singleton plain,
    List.singleton_append, List.dropLast_cons_of_ne_nil (List.splitOn_ne_nil newline rest)]
  rfl

theorem fullLines_rest (text : Bytes) (plain : newline ∉ text) : fullLines text = [] := by
  rw [fullLines, List.splitOn_eq_singleton plain]
  rfl

/-- The session and the two urls. -/
structure Session where
  session : Bytes
  nowplayUrl : Bytes
  submitUrl : Bytes
  deriving DecidableEq, Repr

/-- The answer as a whole: OK, a session and two urls that are not empty, each on a line. -/
def handshakeLines (response : Bytes) : Option Session :=
  match (fullLines response).map upToNul with
  | first :: session :: nowplayUrl :: submitUrl :: _ =>
      if lit "OK" <+: first ∧ nowplayUrl ≠ [] ∧ submitUrl ≠ [] then
        some ⟨session, nowplayUrl, submitUrl⟩
      else none
  | _ => none

theorem fullLines_nextLine (text : Bytes) :
    (newline ∉ text ∧ fullLines text = [] ∧ nextLine text = ([], text)) ∨
      ∃ line rest, fullLines text = line :: fullLines rest ∧
        nextLine text = (upToNul line, rest) := by
  by_cases found : newline ∈ text
  · rcases List.eq_append_cons_of_mem found with ⟨line, rest, rfl, plain⟩
    exact Or.inr ⟨line, rest, fullLines_line line rest plain, nextLine_line line rest plain⟩
  · exact Or.inl ⟨found, fullLines_rest text found, nextLine_rest text found⟩

/-! ### The answer taken -/

/-- What the two failures leave: an answer that is OK but not whole clears what was there. -/
def failedHandshake (response : Bytes) (scrobbler : Scrobbler) : Scrobbler :=
  if scrobblerParseHandshakeResponse (nextLine response).1 then
    { scrobbler with session := none, nowplayUrl := none, submitUrl := none }
  else scrobbler

def acceptedHandshake (session : Session) (scrobbler : Scrobbler) : Scrobbler :=
  { scrobbler with
    session := some session.session
    nowplayUrl := some session.nowplayUrl
    submitUrl := some session.submitUrl
    state := .ready
    interval := 1 }

/-- The four reads of `scrobbler_handshake_response` find what the answer has on its lines. -/
theorem scrobblerHandshakeResponse_eq (http : HttpRequest → World → Outcome) (response : Bytes)
    (world : World) (state : world.scrobbler.state = .handshake) :
    scrobblerHandshakeResponse http response world = match handshakeLines response with
      | some session =>
          scrobblerSubmit http (world.update (acceptedHandshake session world.scrobbler))
      | none => scrobblerScheduleHandshake (world.update (scrobblerIncreaseInterval
          (failedHandshake response { world.scrobbler with state := .nothing }))) := by
  rw [scrobblerHandshakeResponse, assert_bind state, failedHandshake, handshakeLines]
  simp only [scrobblerParseHandshakeResponse, startsWith]
  rcases fullLines_nextLine response with ⟨_, lines, read⟩ | ⟨first, rest, lines, read⟩
  · rw [lines, read]
    rfl
  rw [lines, read, List.map_cons]
  by_cases accepted : (lit "OK").isPrefixOf (upToNul first)
  · have prefixed : lit "OK" <+: upToNul first := List.isPrefixOf_iff_prefix.mp accepted
    simp only [accepted, if_true]
    -- where a line is missing, so are those behind it
    rcases fullLines_nextLine rest with ⟨_, lines, read⟩ | ⟨session, rest, lines, read⟩
    · rw [lines, read]
      simp only [read]
      rfl
    rw [lines, read, List.map_cons]
    rcases fullLines_nextLine rest with ⟨_, lines, read⟩ | ⟨nowplayUrl, rest, lines, read⟩
    · rw [lines, read]
      simp only [read]
      rfl
    rw [lines, read, List.map_cons]
    rcases fullLines_nextLine rest with ⟨_, lines, read⟩ | ⟨submitUrl, rest, lines, read⟩
    · rw [lines, read]
      simp only [List.map_nil, or_true, if_true]
      rfl
    rw [lines, read, List.map_cons]
    by_cases given : upToNul nowplayUrl ≠ [] ∧ upToNul submitUrl ≠ []
    · dsimp only
      rw [if_neg (not_or.mpr given), if_pos ⟨prefixed, given⟩]
      rfl
    · dsimp only
      rw [if_pos (Decidable.or_iff_not_not_and_not.mpr given), if_neg (fun all => given all.2)]
      rfl
  · have refused : ¬ lit "OK" <+: upToNul first := fun prefixed =>
      accepted (List.isPrefixOf_iff_prefix.mpr prefixed)
    have none : handshakeLines response = none := by
      rw [handshakeLines, lines, List.map_cons]
      split
      · rename_i line _ _ _ _ split
        have same : upToNul first = line := (List.cons.inj split).1
        exact if_neg fun all => refused (same ▸ all.1)
      · rfl
    rw [handshakeLines, lines, List.map_cons] at none
    rw [none]
    simp only [accepted]
    rfl

theorem fullLines_noNul (text : Bytes) (noNul : (0 : UInt8) ∉ text) :
    (fullLines text).map upToNul = fullLines text := by
  have plain : ∀ line ∈ fullLines text, upToNul line = line := by
    intro line member
    apply upToNul_eq
    intro inLine
    have inText := (mem_splitOn newline 0 (by decide) text).mp
      ⟨line, List.mem_of_mem_dropLast member, inLine⟩
    exact noNul inText
  rw [List.map_congr_left plain, List.map_id'']
  exact fun _ => rfl

/-- The answer has at least four lines; the first starts with OK, and the two urls are not empty. -/
def Brings (response : Bytes) (session : Session) : Prop :=
  ∃ first rest, fullLines response
      = first :: session.session :: session.nowplayUrl :: session.submitUrl :: rest ∧
    lit "OK" <+: first ∧ session.nowplayUrl ≠ [] ∧ session.submitUrl ≠ []

theorem handshakeLines_iff (response : Bytes) (noNul : (0 : UInt8) ∉ response)
    (session : Session) : handshakeLines response = some session ↔ Brings response session := by
  rw [handshakeLines, fullLines_noNul response noNul]
  constructor
  · intro taken
    split at taken
    · rename_i first line nowplayUrl submitUrl rest lines
      split_ifs at taken with given
      cases taken
      exact ⟨first, rest, lines, given⟩
    · cases taken
  · intro whole
    rcases whole with ⟨first, rest, lines, given⟩
    rw [lines]
    exact if_pos given

/-! ### What later requests use -/

/-- The session of the last accepted handshake, all of it. -/
structure Session.HeldBy (session : Session) (scrobbler : Scrobbler) : Prop where
  text : scrobbler.session = some session.session
  nowplay : scrobbler.nowplayUrl = some session.nowplayUrl
  submit : scrobbler.submitUrl = some session.submitUrl

/-- A request with the session and the url of an accepted handshake. -/
inductive HttpRequest.Uses (session : Session) (request : HttpRequest) : Prop where
  | nowPlaying (caller : request.caller = .scrobblerSendNowPlaying)
      (url : request.url = some session.nowplayUrl) (song : Record)
      (postData : request.postData = some (nowPlayingData (some session.session) song.artist
        song.track song.album song.number song.mbid song.length))
  | submission (caller : request.caller = .scrobblerSubmit)
      (url : request.url = some session.submitUrl) (songs : List Record)
      (postData : request.postData = some (batchBody (some session.session) songs))

/-- A handshake has no session yet. -/
structure HttpRequest.IsHandshake (checksum : Bytes → Bytes) (config : ScrobblerConfig)
    (request : HttpRequest) : Prop where
  caller : request.caller = .scrobblerHandshake
  url : ∃ timestr, request.url = some (handshakeUrl checksum config timestr)
  postData : request.postData = none

/-- A request that was sent while this was the last answer to a handshake. -/
def HttpRequest.Proper (checksum : Bytes → Bytes) (config : ScrobblerConfig)
    (accepted : Option Session) (request : HttpRequest) : Prop :=
  request.IsHandshake checksum config ∨ ∃ session, accepted = some session ∧ request.Uses session

structure InUse (checksum : Bytes → Bytes) (config : ScrobblerConfig) (accepted : Option Session)
    (world : World) : Prop where
  held : world.scrobbler.state = .ready ∨ world.scrobbler.state = .submitting →
    ∃ session, accepted = some session ∧ session.HeldBy world.scrobbler
  requests : ∀ request ∈ world.requests, request.Proper checksum config accepted

variable {checksum : Bytes → Bytes} {config : ScrobblerConfig}

theorem scrobblerScheduleHandshake_inUse (accepted : Option Session) (world : World)
    (quiet : world.requests = []) :
    Holds (fun _ => True) (InUse checksum config accepted) (scrobblerScheduleHandshake world) := by
  apply assert_holds _ fun _ => trivial
  intro state
  apply assert_holds _ fun _ => trivial
  intro _
  refine (⟨?_, ?_⟩ : InUse checksum config accepted _)
  · intro awake
    simp [World.update, state] at awake
  · simp [World.update, quiet]

theorem scrobblerScheduleSubmit_inUse {accepted : Option Session} (world : World)
    (inUse : InUse checksum config accepted world) :
    Holds (fun _ => True) (InUse checksum config accepted) (scrobblerScheduleSubmit world) := by
  apply assert_holds _ fun _ => trivial
  intro _
  apply assert_holds _ fun _ => trivial
  intro _
  refine (⟨?_, ?_⟩ : InUse checksum config accepted _)
  · intro awake
    rcases inUse.held awake with ⟨session, last, held⟩
    exact ⟨session, last, held.text, held.nowplay, held.submit⟩
  · exact inUse.requests

theorem inUse_send {session : Session} (request : HttpRequest) (world : World)
    (quiet : world.requests = []) (held : session.HeldBy world.scrobbler)
    (uses : request.Uses session) :
    Holds (fun _ => True) (InUse checksum config (some session))
      (httpClientRequest [] request world) := by
  refine (⟨fun _ => ⟨session, rfl, held⟩, ?_⟩ :
    InUse checksum config (some session) (world.send request))
  rw [World.send, quiet, List.nil_append]
  exact List.forall_mem_singleton.mpr (Or.inr ⟨session, rfl, uses⟩)

theorem scrobblerSubmit_inUse (session : Session) (world : World) (quiet : world.requests = [])
    (held : session.HeldBy world.scrobbler) :
    Holds (fun _ => True) (InUse checksum config (some session))
      (scrobblerSubmit (httpClientRequest []) world) := by
  rcases held with ⟨text, nowplayUrl, submitUrl⟩
  apply assert_holds _ fun _ => trivial
  intro _
  apply assert_holds _ fun _ => trivial
  intro _
  by_cases empty : world.scrobbler.queue = []
  · rw [if_pos empty]
    by_cases defined : world.scrobbler.nowPlaying.isDefined
    · simp only [if_pos defined]
      apply assert_holds _ fun _ => trivial
      intro _
      apply assert_holds _ fun _ => trivial
      intro _
      apply inUse_send
      · exact quiet
      · exact ⟨text, nowplayUrl, submitUrl⟩
      · exact .nowPlaying rfl nowplayUrl world.scrobbler.nowPlaying (by rw [← text]; rfl)
    · simp only [if_neg defined]
      refine (⟨fun _ => ⟨session, rfl, text, nowplayUrl, submitUrl⟩, ?_⟩ :
        InUse checksum config (some session) world)
      simp [quiet]
  · rw [if_neg empty]
    simp only [addSongs_batch]
    apply inUse_send
    · exact quiet
    · exact ⟨text, nowplayUrl, submitUrl⟩
    · exact .submission rfl submitUrl _ (by rw [← text]; rfl)

theorem scrobblerHandshakeResponse_inUse (response : Bytes) (world : World)
    (quiet : world.requests = []) :
    Holds (fun _ => True) (InUse checksum config (handshakeLines response))
      (scrobblerHandshakeResponse (httpClientRequest []) response world) := by
  by_cases state : world.scrobbler.state = .handshake
  · rw [scrobblerHandshakeResponse_eq _ response world state]
    cases handshakeLines response with
    | none => exact scrobblerScheduleHandshake_inUse none _ quiet
    | some session => exact scrobblerSubmit_inUse session _ quiet ⟨rfl, rfl, rfl⟩
  · rw [scrobblerHandshakeResponse, assert, if_neg state]
    exact trivial

theorem scrobblerHandshakeError_inUse (world : World) (quiet : world.requests = []) :
    Holds (fun _ => True) (InUse checksum config none) (scrobblerHandshakeError world) := by
  apply assert_holds _ fun _ => trivial
  intro _
  exact scrobblerScheduleHandshake_inUse none _ quiet

theorem scrobblerSubmitResponse_inUse {accepted : Option Session} (response : Bytes)
    (world : World) (quiet : world.requests = []) (inUse : InUse checksum config accepted world) :
    Holds (fun _ => True) (InUse checksum config accepted)
      (scrobblerSubmitResponse (httpClientRequest []) response world) := by
  apply assert_holds _ fun _ => trivial
  intro state
  rcases inUse.held (Or.inr state) with ⟨session, rfl, held⟩
  have awake (next : World) (held : session.HeldBy next.scrobbler)
      (quiet : next.requests = []) : InUse checksum config (some session) next :=
    ⟨fun _ => ⟨session, rfl, held⟩, by simp [quiet]⟩
  dsimp only
  split
  · split
    · apply Holds.bind (scrobblerQueueRemoveOldest_shortened _ _)
      intro next shorter
      rcases shorter with ⟨queue, removed, rfl⟩
      apply scrobblerSubmit_inUse session
      · exact quiet
      · exact ⟨held.text, held.nowplay, held.submit⟩
    · apply assert_holds _ fun _ => trivial
      intro _
      apply scrobblerSubmit_inUse session
      · exact quiet
      · exact ⟨held.text, held.nowplay, held.submit⟩
  · apply scrobblerScheduleSubmit_inUse
    exact awake _ ⟨held.text, held.nowplay, held.submit⟩ quiet
  · exact scrobblerScheduleHandshake_inUse _ _ quiet

theorem scrobblerSubmitError_inUse {accepted : Option Session} (world : World)
    (quiet : world.requests = []) (inUse : InUse checksum config accepted world) :
    Holds (fun _ => True) (InUse checksum config accepted) (scrobblerSubmitError world) := by
  apply assert_holds _ fun _ => trivial
  intro state
  rcases inUse.held (Or.inr state) with ⟨session, rfl, held⟩
  apply scrobblerScheduleSubmit_inUse
  exact ⟨fun _ => ⟨session, rfl, held.text, held.nowplay, held.submit⟩, by
    simp [World.update, quiet]⟩

/-! ### A run -/

/-- What the last answer to a handshake brought, and the requests that were sent, each with what
that was when it was. -/
structure HandshakeNotes where
  accepted : Option Session
  sent : List (HttpRequest × Option Session)

/-- The answer that an event brings to a handshake. -/
def World.handshakeResult (world : World) : Event → Option HttpResult
  | .http request result _ =>
      match world.requests[request]? with
      | none => none
      | some pending =>
          if pending.handler = .scrobblerHandshakeHandler then some result else none
  | _ => none

def HttpResult.session : HttpResult → Option Session
  | .response body => handshakeLines body
  | .error => none

def World.acceptedAfter (world : World) (event : Event) (accepted : Option Session) :
    Option Session :=
  match world.handshakeResult event with
  | none => accepted
  | some result => result.session

def noteHandshake (world : World) (event : Event) (next : World) (notes : HandshakeNotes) :
    HandshakeNotes :=
  let accepted := world.acceptedAfter event notes.accepted
  ⟨accepted, notes.sent ++ next.requests.map (·, accepted)⟩

structure HandshakeNotes.Sound (checksum : Bytes → Bytes) (config : ScrobblerConfig)
    (world : World) (notes : HandshakeNotes) : Prop where
  inUse : InUse checksum config notes.accepted world
  sent : ∀ sent ∈ notes.sent, sent.1.Proper checksum config sent.2

theorem noteHandshake_sound (world : World) (event : Event) (next : World)
    (notes : HandshakeNotes) (sound : notes.Sound checksum config world)
    (inUse : InUse checksum config (world.acceptedAfter event notes.accepted) next) :
    (noteHandshake world event next notes).Sound checksum config next := by
  refine ⟨inUse, ?_⟩
  intro sent member
  rcases List.mem_append.mp member with before | now
  · exact sound.sent sent before
  · rcases List.mem_map.mp now with ⟨request, outstanding, rfl⟩
    exact inUse.requests request outstanding

theorem scheduleIfReady_inUse {accepted : Option Session} (world : World) (scrobbler : Scrobbler)
    (inUse : InUse checksum config accepted world)
    (state : scrobbler.state = world.scrobbler.state)
    (held : ∀ session : Session, session.HeldBy world.scrobbler → session.HeldBy scrobbler) :
    Holds (fun _ => True) (InUse checksum config accepted)
      (scheduleIfReady (world.update scrobbler)) := by
  have updated : InUse checksum config accepted (world.update scrobbler) := by
    refine ⟨?_, inUse.requests⟩
    intro awake
    rw [World.update, state] at awake
    rcases inUse.held awake with ⟨session, last, before⟩
    exact ⟨session, last, held session before⟩
  rw [scheduleIfReady]
  split
  · exact scrobblerScheduleSubmit_inUse _ updated
  · exact updated

theorem dispatchTimer_inUse {accepted : Option Session} (timestr : Bytes) (source : Source)
    (world : World) (quiet : world.requests = []) (configured : world.scrobbler.config = config)
    (inUse : InUse checksum config accepted world) :
    Holds (fun _ => True) (InUse checksum config accepted)
      (dispatchTimer checksum (httpClientRequest []) timestr source world) := by
  rcases source with ⟨id, interval, callback⟩
  cases callback with
  | scrobblerHandshakeTimer =>
      apply assert_holds _ fun _ => trivial
      intro _
      refine (⟨?_, ?_⟩ : InUse checksum config accepted (World.send _ _))
      · intro awake
        simp [World.send, World.update] at awake
      · rw [World.send]
        dsimp only [World.update]
        rw [quiet, List.nil_append]
        exact List.forall_mem_singleton.mpr
          (Or.inl ⟨rfl, ⟨timestr, by rw [← configured]⟩, rfl⟩)
  | scrobblerSubmitTimer =>
      apply assert_holds _ fun _ => trivial
      intro state
      rcases inUse.held (Or.inl state) with ⟨session, rfl, held⟩
      apply scrobblerSubmit_inUse session
      · exact quiet
      · exact ⟨held.text, held.nowplay, held.submit⟩

theorem step_timer_inUse {accepted : Option Session} {log : List Record} {world : World}
    (invariant : Invariant config log world) (inUse : InUse checksum config accepted world)
    (id : Nat) (timestr : Bytes) :
    Holds (fun _ => True) (InUse checksum config accepted)
      (step checksum world (.timer id timestr [])) := by
  rw [step]
  split
  · exact inUse
  · rename_i source found
    exact dispatchTimer_inUse timestr source world
      (invariant.quiet_of_timer (List.mem_of_find?_eq_some found)) invariant.books.config inUse

/-- An answer changes the session in use if it is one to a handshake. -/
theorem step_http_inUse {accepted : Option Session} {log : List Record} {world : World}
    (invariant : Invariant config log world) (inUse : InUse checksum config accepted world)
    (index : Nat) (result : HttpResult) :
    Holds (fun _ => True)
      (InUse checksum config (world.acceptedAfter (.http index result []) accepted))
      (step checksum world (.http index result [])) := by
  rw [step, World.acceptedAfter, World.handshakeResult]
  cases outstanding : world.requests[index]? with
  | none => exact inUse
  | some request =>
      have quiet := invariant.quiet_of_answer outstanding
      have before : InUse checksum config accepted
          { world with requests := world.requests.eraseIdx index } :=
        ⟨inUse.held, by simp [quiet]⟩
      dsimp only
      cases handler : request.handler with
      | scrobblerHandshakeHandler =>
          rw [if_pos rfl]
          cases result with
          | response body => exact scrobblerHandshakeResponse_inUse body _ quiet
          | error => exact scrobblerHandshakeError_inUse _ quiet
      | scrobblerSubmitHandler =>
          rw [if_neg (by simp)]
          cases result with
          | response body => exact scrobblerSubmitResponse_inUse body _ quiet before
          | error => exact scrobblerSubmitError_inUse _ quiet before

theorem step_inUse {log : List Record} {world : World} {accepted : Option Session}
    (invariant : Invariant config log world) (inUse : InUse checksum config accepted world)
    (event : Event) (unanswered : event.Unanswered) :
    Holds (fun _ => True) (InUse checksum config (world.acceptedAfter event accepted))
      (step checksum world event) := by
  cases event with
  | timer id timestr results =>
      cases unanswered
      exact step_timer_inUse invariant inUse id timestr
  | http index result results =>
      cases unanswered
      exact step_http_inUse invariant inUse index result
  | songchange file artist track album number mbid length time2 timestamp =>
      rw [step, asSongchange]
      split
      · exact inUse
      · exact scheduleIfReady_inUse world _ inUse rfl fun session held =>
          ⟨held.text, held.nowplay, held.submit⟩
  | nowPlaying artist track album number mbid length source =>
      exact scheduleIfReady_inUse world _ inUse rfl fun session held =>
        ⟨held.text, held.nowplay, held.submit⟩
  | otherSources count => exact ⟨inUse.held, inUse.requests⟩

theorem step_noteHandshake (log : List Record) (world : World) (notes : HandshakeNotes)
    (event : Event) (invariant : Invariant config log world)
    (sound : notes.Sound checksum config world) (unanswered : event.Unanswered) :
    Holds (fun _ => True) (fun next =>
        (noteHandshake world event next notes).Sound checksum config next)
      (step checksum world event) :=
  (step_inUse invariant sound.inUse event unanswered).mono fun next =>
    noteHandshake_sound world event next notes sound

/-- A run, with the answer to the last handshake and what was sent. -/
def handshakeRun (checksum : Bytes → Bytes) (config : ScrobblerConfig) (journal : List Record)
    (sourceIds : Nat) (events : List Event) : Except Assertion (Noted HandshakeNotes) :=
  notedRun noteHandshake checksum (fun _ => ⟨none, []⟩) config journal sourceIds events

theorem handshakeRun_sound (checksum : Bytes → Bytes) (config : ScrobblerConfig)
    (journal : List Record) (sourceIds : Nat) (events : List Event) :
    Holds Allowed (Noted.Sound config fun world notes => notes.Sound checksum config world)
      (handshakeRun checksum config journal sourceIds events) := by
  apply notedRun_sound
  · exact step_noteHandshake
  · exact (scrobblerScheduleHandshake_inUse none _ rfl).mono fun world inUse =>
      ⟨inUse, by simp⟩

/-- In HANDSHAKE no timer is armed and the handshake is the one request that waits for an answer. -/
theorem Invariant.inHandshake {log : List Record} {world : World}
    (invariant : Invariant config log world) (state : world.scrobbler.state = .handshake) :
    Unarmed world.scrobbler world.sources ∧
      ∃ request, world.requests = [request] ∧ request.handler = .scrobblerHandshakeHandler := by
  cases invariant.phase with
  | handshakeInFlight _ unarmed request inFlight handler => exact ⟨unarmed, request, inFlight, handler⟩
  | handshakeArmed other => simp [state] at other
  | submitArmed other => simp [state] at other
  | resting other => simp [state] at other
  | submissionInFlight other => simp [state] at other
  | nowPlayingInFlight other => simp [state] at other

theorem Invariant.step_handshake {log : List Record} {world : World}
    (invariant : Invariant config log world) (state : world.scrobbler.state = .handshake)
    (checksum : Bytes → Bytes) (response : Bytes) (results : List HttpResult) :
    step checksum world (.http 0 (.response response) results)
      = scrobblerHandshakeResponse (httpClientRequest results) response
          { world with requests := [] } := by
  rcases invariant.inHandshake state with ⟨-, request, inFlight, handler⟩
  rw [step, inFlight]
  dsimp only [List.getElem?_cons_zero]
  rw [handler]
  rfl

/-- The scrobbler that waits for a handshake at the increased interval, with no session taken. -/
structure Retries (world next : World) : Prop where
  state : next.scrobbler.state = .nothing
  interval : next.scrobbler.interval = (scrobblerIncreaseInterval world.scrobbler).interval
  timer : next.sources = [⟨next.scrobbler.handshakeSourceId, next.scrobbler.interval,
    .scrobblerHandshakeTimer⟩]
  quiet : next.requests = []

theorem scrobblerScheduleHandshake_ok (world : World) (state : world.scrobbler.state = .nothing)
    (unarmed : world.scrobbler.handshakeSourceId = 0) :
    scrobblerScheduleHandshake world = .ok
      { world with
        scrobbler := { world.scrobbler with handshakeSourceId := world.nextId }
        sources := world.sources ++
          [⟨world.nextId, world.scrobbler.interval, .scrobblerHandshakeTimer⟩]
        nextId := world.nextId + 1 } := by
  rw [scrobblerScheduleHandshake, assert_bind state, assert_bind unarmed]
  rfl

theorem scrobblerScheduleHandshake_retries {log : List Record} {world : World}
    (invariant : Invariant config log world) (state : world.scrobbler.state = .handshake)
    (response : Bytes) :
    ∃ next, scrobblerScheduleHandshake (World.update { world with requests := [] }
        (scrobblerIncreaseInterval
          (failedHandshake response { world.scrobbler with state := .nothing }))) = .ok next ∧
      Retries world next := by
  rcases invariant.inHandshake state with ⟨unarmed, -⟩
  rw [failedHandshake]
  split
  · exact ⟨_, scrobblerScheduleHandshake_ok _ rfl unarmed.handshake, rfl, rfl,
      by simp [World.update, unarmed.sources], rfl⟩
  · exact ⟨_, scrobblerScheduleHandshake_ok _ rfl unarmed.handshake, rfl, rfl,
      by simp [World.update, unarmed.sources], rfl⟩

/-- What the answer to a handshake does in a state. -/
structure ExactHandshake (checksum : Bytes → Bytes) (world : World) : Prop where
  accepts : ∀ response session results, (0 : UInt8) ∉ response → Brings response session →
    step checksum world (.http 0 (.response response) results)
      = scrobblerSubmit (httpClientRequest results)
          { world with
            scrobbler := acceptedHandshake session world.scrobbler
            requests := [] }
  refuses : ∀ response results, (0 : UInt8) ∉ response →
    (¬ ∃ session, Brings response session) →
    ∃ next, step checksum world (.http 0 (.response response) results) = .ok next ∧
      Retries world next

theorem Invariant.exactHandshake {log : List Record} {world : World}
    (invariant : Invariant config log world) (state : world.scrobbler.state = .handshake)
    (checksum : Bytes → Bytes) : ExactHandshake checksum world := by
  constructor
  · intro response session results noNul brings
    rw [invariant.step_handshake state,
      scrobblerHandshakeResponse_eq _ _ { world with requests := [] } state,
      (handshakeLines_iff response noNul session).mpr brings]
    rfl
  · intro response results noNul none
    have nothing : handshakeLines response = .none := by
      cases taken : handshakeLines response with
      | none => rfl
      | some session => exact absurd ⟨session, (handshakeLines_iff response noNul _).mp taken⟩ none
    rw [invariant.step_handshake state,
      scrobblerHandshakeResponse_eq _ _ { world with requests := [] } state, nothing]
    exact scrobblerScheduleHandshake_retries invariant state response

/-- In every state of a run the answer to a handshake is taken if and only if it is whole, every
other request that was sent has the session of an answer that was, and `next_line` stays within
the answer. -/
theorem handshake_exact (checksum : Bytes → Bytes) (config : ScrobblerConfig)
    (journal : List Record) (sourceIds : Nat) (events : List Event) :
    Holds (fun reason => reason = .recordIsDefined)
        (fun state => (state.world.scrobbler.state = .handshake →
            ExactHandshake checksum state.world) ∧
          ∀ sent ∈ state.notes.sent, sent.1.Proper checksum config sent.2)
        (handshakeRun checksum config journal sourceIds events) ∧
      (handshakeRun checksum config journal sourceIds events).map Noted.world
        = run checksum config journal sourceIds events ∧
      ∀ response input, input ≤ response.length → ∃ line next, next ≤ response.length ∧
        nextLineAt response input response.length = some (line, next) ∧
        nextLine (response.drop input) = (line, response.drop next) := by
  refine ⟨?_, notedRun_world .., nextLineAt_eq⟩
  apply (handshakeRun_sound checksum config journal sourceIds events).mono
  intro state sound
  rcases sound.invariant with ⟨log, invariant⟩
  exact ⟨fun waiting => invariant.exactHandshake waiting checksum, sound.good.sent⟩

end Mpdcron.AudioScrobbler
