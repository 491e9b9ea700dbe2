import Mpdcron.Scrobbler.LinkedServed

/-! The scrobblers on the HTTP client are the daemon whose requests are answered once each. -/

namespace Mpdcron.LinkedScrobbler

open CString AudioScrobbler Triple
open HttpClient (Attempt)

variable {checksum : Bytes → Bytes}

/-! ### Turns of the main loop -/

/-- What the event is to the scrobblers, but for the answers. -/
def LinkedEvent.brings : LinkedEvent → List DaemonEvent
  | .songchange file artist track album number mbid length time2 timestamp =>
      [.songchange file artist track album number mbid length time2 timestamp]
  | .nowPlaying artist track album number mbid length source =>
      [.nowPlaying artist track album number mbid length source]
  | .timer scrobbler id timestr _ _ => [.timer scrobbler id timestr []]
  | .dispatch _ _ => []
  | .otherSources count => [.otherSources count]
  | .save => [.save]

/-- libcurl initiates what it has set up. -/
def LinkedEvent.Sound : LinkedEvent → Prop
  | .timer _ _ _ attempt transfers => attempt.Sound ∧ TransfersSound transfers
  | .dispatch _ transfers => TransfersSound transfers
  | _ => True

variable (checksum) in
/-- The scrobblers have heard the event and the answers that came of it. -/
structure Turned (brought : List DaemonEvent) (linked next : Linked) : Prop where
  sound : next.Sound none []
  unlocked : next.client.locked = false
  heard : ∃ answers,
    (brought ++ answers.map answerEvent).foldlM (daemonStep checksum) linked.view = .ok next.view ∧
      next.answers = linked.answers ++ answers

theorem Served.turned {linked next : Linked} (served : Served checksum linked next)
    (unlocked : linked.client.locked = false) : Turned checksum [] linked next :=
  ⟨served.1, served.2.1.trans unlocked, served.2.2⟩

/-- An event in which nothing is asked for. -/
theorem step_turned (event : DaemonEvent) (quiet : Quiet event) (linked : Linked)
    (sound : linked.Sound none []) (unlocked : linked.client.locked = false) :
    Holds AllowedFault (Turned checksum [event] linked) (linked.step checksum event) := by
  apply (step_carries checksum linked _ sound.carries event quiet).mono
  rintro next ⟨carries, client, kept, stepped⟩
  have outstanding : next.outstanding none = linked.outstanding none := by
    rw [Linked.outstanding, Linked.outstanding, client, kept]
  refine ⟨⟨client ▸ sound.booked, ?_, ?_, ?_⟩, client ▸ unlocked, [], ?_, ?_⟩
  · rw [kept, client]
    exact sound.numbered
  · rw [client]
    exact sound.called
  · rw [outstanding]
    exact carries
  · have heard : daemonStep checksum linked.view event = .ok next.view := by
      rw [Linked.view, Linked.view, outstanding]
      exact stepped
    rw [List.map_nil, List.append_nil, List.foldlM_cons, heard]
    rfl
  · rw [Linked.answers, Linked.answers, client, kept, List.append_nil]

variable (checksum) in
/-- A timer of a scrobbler does not hear what another one waits for, nor what it waits for. -/
theorem timer_waiting (id : Nat) (timestr : Bytes) (each : Instance) (requests : List HttpRequest)
    (idle : each.world.requests = []) (healthy : Healthy (waiting each requests)) :
    step checksum (waiting each requests).world (.timer id timestr [])
      = (step checksum each.world (.timer id timestr [])).map fun world =>
          { world with requests := world.requests ++ requests } := by
  obtain ⟨config, log, invariant, -⟩ := healthy
  have sources : (waiting each requests).world.sources = each.world.sources := rfl
  rw [step, step, sources]
  cases found : each.world.sources.find? (·.id = id) with
  | none =>
      dsimp only [Except.map]
      rw [idle, List.nil_append]
      rfl
  | some source =>
      have quiet : requests = [] := invariant.quiet_of_timer (List.mem_of_find?_eq_some found)
      subst quiet
      have same : (waiting each []).world = each.world := by
        rw [waiting, ← idle]
      dsimp only
      rw [same]
      simp only [List.append_nil]
      cases dispatchTimer checksum (httpClientRequest []) timestr source each.world <;> rfl

/-- A function of a scrobbler that is called outside of the handlers asks for something. -/
theorem made_unlocked {linked : Linked} {made : List Issued} (sound : linked.Sound none made)
    (unlocked : linked.client.locked = false) (index : Nat)
    (bound : index < linked.daemon.scrobblers.length) (requests : List HttpRequest)
    (same : made = requests.map (Issued.mk index)) (attempt : Attempt) (transfers : List Transfer)
    (initiated : attempt.Sound) (initiatedLater : TransfersSound transfers) :
    Holds AllowedFault
      (fun next => next.Sound none [] ∧ next.client.locked = false ∧
        Hears checksum linked (linked.shows (made ++ linked.outstanding none)) next next.view)
      (made.foldlM (requestIssued (httpMultiInfoRead transfers) attempt) linked) := by
  rcases sound.made_cases index bound requests same with rfl | ⟨request, rfl⟩
  · exact ⟨sound, unlocked, Hears.same rfl⟩
  · rw [List.foldlM_cons]
    simp only [List.foldlM_nil, bind_pure]
    by_cases starts : attempt.Starts
    · obtain ⟨left, locked, heard⟩ := enlisted_requested sound bound
      rw [requestIssued_starts _ linked _ attempt starts initiated,
        if_pos (by rw [unlocked]; exact Bool.false_ne_true)]
      apply (httpMultiInfoRead_served transfers initiatedLater _ left (locked.trans unlocked)).mono
      rintro next ⟨after, stillUnlocked, more⟩
      exact ⟨after, stillUnlocked.trans (locked.trans unlocked), heard.trans more⟩
    · obtain ⟨code, message, failed⟩ :=
        requestIssued_fails (httpMultiInfoRead transfers) linked ⟨index, request⟩ attempt starts
      rw [failed]
      apply (startFailed_requested sound bound code message).mono
      rintro next ⟨left, locked, heard⟩
      exact ⟨left, locked.trans unlocked, heard⟩

theorem timer_turned (index id : Nat) (timestr : Bytes) (attempt : Attempt)
    (transfers : List Transfer) (initiated : attempt.Sound)
    (initiatedLater : TransfersSound transfers) (linked : Linked) (sound : linked.Sound none [])
    (unlocked : linked.client.locked = false) :
    Holds AllowedFault (Turned checksum [.timer index id timestr []] linked)
      (timer checksum index id timestr attempt transfers linked) := by
  have carries : linked.Carries (linked.outstanding none) := sound.carries
  have heardBy (other : Nat) : (DaemonEvent.timer index id timestr []).received other
      = if index = other then some (.timer id timestr []) else none := rfl
  rw [timer]
  cases present : linked.daemon.scrobblers[index]? with
  | none =>
      have beyond : linked.daemon.scrobblers.length ≤ index := List.getElem?_eq_none_iff.mp present
      have length : linked.view.scrobblers.length = linked.daemon.scrobblers.length :=
        List.length_mapIdx
      have deaf := stepEach_deaf checksum (.timer index id timestr []) linked.view.scrobblers 0
        fun other _ within => by
          rw [heardBy other, if_neg (by omega)]
      refine ⟨sound, unlocked, [], ?_, (List.append_nil _).symm⟩
      have same : daemonStep checksum linked.view (.timer index id timestr []) = .ok linked.view := by
        simp only [daemonStep, deaf]
        rfl
      rw [List.map_nil, List.append_nil, List.foldlM_cons, same]
      rfl
  | some each =>
      have shown : (linked.shows (linked.outstanding none)).scrobblers[index]?
          = some (waiting each (requestsOf (linked.outstanding none) index)) := by
        rw [shows_scrobbler, present]
        rfl
      have alone := timer_waiting checksum id timestr each
        (requestsOf (linked.outstanding none) index)
        (carries.idle each (List.mem_of_getElem? present))
        (carries.healthy _ (List.mem_of_getElem? shown))
      apply (call_called checksum linked (linked.outstanding none) (linked.outstanding none) carries
        index each present _ (.timer index id timestr []) (.timer id timestr []) heardBy alone
        fun _ _ => rfl).bind
      rintro ⟨made, next⟩ called
      obtain ⟨world, -, asked⟩ := called.asked
      have client : next.client = linked.client := called.client
      have kept : next.issued = linked.issued := called.kept
      have outstanding : next.outstanding none = linked.outstanding none := by
        rw [Linked.outstanding, Linked.outstanding, client, kept]
      have answers : next.answers = linked.answers := by
        rw [Linked.answers, Linked.answers, client, kept]
      have inside : next.Sound none made := by
        refine ⟨client ▸ sound.booked, ?_, ?_, ?_⟩
        · rw [kept, client]
          exact sound.numbered
        · rw [client]
          exact sound.called
        · rw [outstanding]
          exact called.carries
      have bound : index < next.daemon.scrobblers.length := by
        rw [called.length]
        exact (List.getElem?_eq_some_iff.mp present).1
      apply (made_unlocked inside (client ▸ unlocked) index bound
        world.requests asked attempt transfers initiated initiatedLater).mono
      rintro last ⟨left, stillUnlocked, more, ran, told⟩
      refine ⟨left, stillUnlocked, more, ?_, by rw [told, answers]⟩
      have heard : daemonStep checksum linked.view (.timer index id timestr [])
          = .ok (next.shows (made ++ linked.outstanding none)) := called.heard
      rw [List.singleton_append, List.foldlM_cons, heard]
      rw [outstanding] at ran
      exact ran

theorem linkedStep_turned (event : LinkedEvent) (initiated : event.Sound) (linked : Linked)
    (sound : linked.Sound none []) (unlocked : linked.client.locked = false) :
    Holds AllowedFault (Turned checksum event.brings linked) (linkedStep checksum linked event) := by
  cases event with
  | songchange => exact step_turned _ (by trivial) linked sound unlocked
  | nowPlaying => exact step_turned _ (by trivial) linked sound unlocked
  | otherSources => exact step_turned _ (by trivial) linked sound unlocked
  | save => exact step_turned _ (by trivial) linked sound unlocked
  | dispatch performed transfers =>
      exact (curlSourceDispatch_served performed transfers initiated linked sound unlocked).mono
        fun next served => served.turned unlocked
  | timer index id timestr attempt transfers =>
      exact timer_turned index id timestr attempt transfers initiated.1 initiated.2 linked sound
        unlocked

/-! ### Runs -/

/-- Nothing is asked for while the scrobblers are set up. -/
theorem asInit_idle (iso8601 : Bytes → Option Int) (configs : List ScrobblerConfig)
    (files : Files) :
    Holds (fun _ => True) (fun daemon => ∀ each ∈ daemon.scrobblers, each.world.requests = [])
      (asInit iso8601 configs files) := by
  apply Holds.foldlM_of_mem
  · intro daemon config _ idle
    have added (queue : List Record) (journalFileEmpty : Bool) :
        Holds (fun _ => True)
          (fun daemon : Daemon => ∀ each ∈ daemon.scrobblers, each.world.requests = []) (do
            let world ← scrobblerNewCallback config queue daemon.scrobblers.length
            return { daemon with
              scrobblers := ⟨world, []⟩ :: daemon.scrobblers
              journalFileEmpty := journalFileEmpty }) := by
      cases created : scrobblerNewCallback config queue daemon.scrobblers.length with
      | error reason => trivial
      | ok world =>
          have quiet : world.requests = [] := by
            cases created
            rfl
          intro each member
          rcases List.mem_cons.mp member with rfl | old
          · exact quiet
          · exact idle each old
    rw [Daemon.scrobblerNewCallback]
    cases config.journal with
    | none => exact added _ _
    | some path => exact added _ _
  · exact fun each absent => absurd absent List.not_mem_nil

/-- What the scrobblers have heard: each event, and then the answers that came of it. -/
def heardBy (events : List LinkedEvent) (answered : List (List (Nat × HttpResult))) :
    List DaemonEvent :=
  (List.zipWith (fun event answers => event.brings ++ answers.map answerEvent) events
    answered).flatten

variable (checksum) in
/-- The run so far is one of the scrobblers. -/
structure Refined (start : Daemon) (events : List LinkedEvent) (linked : Linked) : Prop where
  sound : linked.Sound none []
  unlocked : linked.client.locked = false
  heard : ∃ answered : List (List (Nat × HttpResult)), answered.length = events.length ∧
    (heardBy events answered).foldlM (daemonStep checksum) start = .ok linked.view ∧
      linked.answers = answered.flatten

theorem Refined.step {start : Daemon} {events : List LinkedEvent} {linked : Linked}
    (refined : Refined checksum start events linked) (event : LinkedEvent)
    (initiated : event.Sound) :
    Holds AllowedFault (Refined checksum start (events ++ [event]))
      (linkedStep checksum linked event) := by
  obtain ⟨answered, length, ran, told⟩ := refined.heard
  apply (linkedStep_turned event initiated linked refined.sound refined.unlocked).mono
  rintro next ⟨sound, unlocked, answers, turned, toldMore⟩
  refine ⟨sound, unlocked, answered ++ [answers], ?_, ?_, ?_⟩
  · rw [List.length_append, List.length_append, length]
    rfl
  · have more : heardBy (events ++ [event]) (answered ++ [answers])
        = heardBy events answered ++ (event.brings ++ answers.map answerEvent) := by
      rw [heardBy, List.zipWith_append length.symm, List.flatten_append]
      simp [heardBy]
    rw [more, List.foldlM_append, ran]
    exact turned
  · rw [toldMore, told, List.flatten_append, List.flatten_singleton]

variable (checksum) in
theorem linkedInit_refined {start : Daemon} (healthy : ∀ each ∈ start.scrobblers, Healthy each)
    (idle : ∀ each ∈ start.scrobblers, each.world.requests = []) :
    Refined checksum start []
      { daemon := start, client := HttpClient.httpClientInit, issued := [] } := by
  have view : waitingAll (requestsOf []) start.scrobblers = start.scrobblers := by
    apply List.ext_getElem?
    intro index
    rw [waitingAll, List.getElem?_mapIdx]
    cases found : start.scrobblers[index]? with
    | none => rfl
    | some each =>
        have quiet := idle each (List.mem_of_getElem? found)
        show some (waiting each []) = some each
        rw [waiting, ← quiet]
  have same : Linked.view { daemon := start, client := HttpClient.httpClientInit, issued := [] }
      = start :=
    congrArg (fun scrobblers => { start with scrobblers := scrobblers }) view
  refine ⟨⟨HttpClient.booked_init, rfl, fun call absent => absurd absent List.not_mem_nil,
    fun each absent => absurd absent List.not_mem_nil, idle, ?_⟩, rfl, [], rfl, ?_, rfl⟩
  · show ∀ each ∈ waitingAll (requestsOf []) start.scrobblers, Healthy each
    rwa [view]
  · rw [same]
    rfl

theorem events_refined {start : Daemon} (events : List LinkedEvent) : ∀ past linked,
    Refined checksum start past linked → (∀ event ∈ events, event.Sound) →
      Holds AllowedFault (Refined checksum start (past ++ events))
        (events.foldlM (linkedStep checksum) linked) := by
  induction events with
  | nil =>
      intro past linked refined _
      rw [List.append_nil]
      exact refined
  | cons event events ih =>
      intro past linked refined initiated
      rw [List.foldlM_cons]
      apply (refined.step event (initiated event List.mem_cons_self)).bind
      intro next after
      have rest := ih (past ++ [event]) next after fun other member =>
        initiated other (List.mem_cons_of_mem event member)
      rw [List.append_assoc] at rest
      exact rest

/-- In every run in which libcurl initiates what it has set up, each request of a scrobbler gets one
call of its handler and is freed once, and the scrobblers go through a run of their own in which
each event is followed by the answers that came of it. -/
theorem linkedRun_refines (checksum : Bytes → Bytes) (iso8601 : Bytes → Option Int)
    (configs : List ScrobblerConfig) (files : Files) (events : List LinkedEvent)
    (initiated : ∀ event ∈ events, event.Sound) :
    Holds AllowedFault
      (fun linked =>
        HttpClient.ExactlyOnce linked.client ∧
        (∀ each ∈ linked.view.scrobblers, Coherent each.world) ∧
        ∃ answered : List (List (Nat × HttpResult)), answered.length = events.length ∧
          daemonRun checksum iso8601 configs files (heardBy events answered) = .ok linked.view ∧
          linked.answers = answered.flatten)
      (linkedRun checksum iso8601 configs files events) := by
  have started := (asInit_started iso8601 configs files).and (asInit_idle iso8601 configs files)
  rw [linkedRun, linkedInit]
  cases began : asInit iso8601 configs files with
  | error reason =>
      rw [began] at started
      exact ⟨reason, rfl, started.1⟩
  | ok start =>
      rw [began] at started
      have initial := linkedInit_refined checksum started.1.healthy started.2
      apply (events_refined events [] _ initial initiated).mono
      intro linked refined
      obtain ⟨answered, length, ran, told⟩ := refined.heard
      refine ⟨refined.sound.booked.exactlyOnce, ?_, answered, length, ?_, told⟩
      · intro each member
        obtain ⟨config, log, invariant, -⟩ := refined.sound.carries.healthy each member
        exact invariant.coherent
      · rw [daemonRun, began]
        exact ran

/-- libcurl starts the transfer. -/
def working : Attempt := ⟨true, HttpClient.curlmOk, HttpClient.curleOk, ⟨HttpClient.curlmOk, []⟩⟩

/-- The handler of the handshake requests the submission of the song, and libcurl has answered that
too when `http_multi_info_read` goes on. -/
def answeredInHandler : List LinkedEvent :=
  [ .songchange (lit "a.ogg") (some (lit "A")) (some (lit "T")) none none none 120 none (lit "7"),
    .timer 0 1 (lit "8") working [],
    .dispatch ⟨HttpClient.curlmOk, []⟩
      [ ⟨0, HttpClient.curleOk, 200, [], lit "OK\nsession\nnow\nsubmit\n", working⟩,
        ⟨1, HttpClient.curleOk, 200, [], lit "OK\n", working⟩ ] ]

theorem linkedRun_refines_answeredInHandler :
    ∃ linked, linkedRun (fun _ => []) (fun _ => none) [lastFm] (fun _ => none) answeredInHandler
        = .ok linked ∧
      HttpClient.ExactlyOnce linked.client ∧
      linked.answers = [ (0, .response (lit "OK\nsession\nnow\nsubmit\n")),
        (0, .response (lit "OK\n")) ] := by
  have refined := linkedRun_refines (fun _ => []) (fun _ => none) [lastFm] (fun _ => none)
    answeredInHandler (by
      intro event member
      simp only [answeredInHandler, List.mem_cons, List.not_mem_nil, or_false] at member
      rcases member with rfl | rfl | rfl
      · trivial
      · exact ⟨fun _ => rfl, fun _ absent => absurd absent List.not_mem_nil⟩
      · intro transfer member
        simp only [List.mem_cons, List.not_mem_nil, or_false] at member
        rcases member with rfl | rfl <;> exact fun _ => rfl)
  have answers : (linkedRun (fun _ => []) (fun _ => none) [lastFm] (fun _ => none)
      answeredInHandler).map Linked.answers
        = .ok [ (0, .response (lit "OK\nsession\nnow\nsubmit\n")),
            (0, .response (lit "OK\n")) ] := by
    decide +kernel
  cases ran : linkedRun (fun _ => []) (fun _ => none) [lastFm] (fun _ => none)
      answeredInHandler with
  | error fault =>
      rw [ran] at answers
      cases answers
  | ok linked =>
      rw [ran] at answers refined
      exact ⟨linked, rfl, refined.1, Except.ok.inj answers⟩

end Mpdcron.LinkedScrobbler
