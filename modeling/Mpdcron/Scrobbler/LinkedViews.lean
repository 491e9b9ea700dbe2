import Mpdcron.Scrobbler.EachRun
import Mpdcron.Scrobbler.Linked

/-! The scrobblers on the HTTP client as the daemon that they are for each other: the requests
that the client has are those that the scrobblers wait for. -/

namespace Mpdcron.LinkedScrobbler

open CString AudioScrobbler Triple

/-! ### Views -/

/-- What a scrobbler has asked for. -/
def requestsOf (issued : List Issued) (index : Nat) : List HttpRequest :=
  issued.filterMap fun each => if each.scrobbler = index then some each.request else none

def waiting (each : Instance) (requests : List HttpRequest) : Instance :=
  { each with world := { each.world with requests := requests } }

def waitingAll (requests : Nat → List HttpRequest) (scrobblers : List Instance) : List Instance :=
  scrobblers.mapIdx fun index each => waiting each (requests index)

/-- The daemon whose scrobblers wait for these requests. -/
def Linked.shows (linked : Linked) (issued : List Issued) : Daemon :=
  { linked.daemon with scrobblers := waitingAll (requestsOf issued) linked.daemon.scrobblers }

/-- The requests that the client has, but for the one whose handler is running. -/
def Linked.outstanding (busy : Option Nat) (linked : Linked) : List Issued :=
  (linked.client.requests.filter fun number => some number ≠ busy).filterMap
    fun number => linked.issued[number]?

def Linked.view (linked : Linked) : Daemon := linked.shows (linked.outstanding none)

/-- The calls of the handlers, in their order: the scrobbler and the result. -/
def Linked.answers (linked : Linked) : List (Nat × HttpResult) :=
  linked.client.calls.filterMap fun call =>
    (linked.issued[call.request]?).map fun issued => (issued.scrobbler, httpResult call.result)

def answerEvent (answer : Nat × HttpResult) : DaemonEvent := .http answer.1 0 answer.2 []

theorem shows_scrobbler (linked : Linked) (issued : List Issued) (index : Nat) :
    (linked.shows issued).scrobblers[index]?
      = (linked.daemon.scrobblers[index]?).map (waiting · (requestsOf issued index)) := by
  rw [Linked.shows, waitingAll, List.getElem?_mapIdx]

theorem requestsOf_append (first second : List Issued) (index : Nat) :
    requestsOf (first ++ second) index = requestsOf first index ++ requestsOf second index :=
  List.filterMap_append

theorem requestsOf_own (index : Nat) (requests : List HttpRequest) :
    requestsOf (requests.map (Issued.mk index)) index = requests := by
  rw [requestsOf, List.filterMap_map]
  simp

theorem requestsOf_other (index other : Nat) (different : index ≠ other)
    (requests : List HttpRequest) : requestsOf (requests.map (Issued.mk index)) other = [] := by
  rw [requestsOf, List.filterMap_map]
  simp [different]

/-! ### Events of one scrobbler -/

variable (checksum : Bytes → Bytes)

theorem stepEach_deaf (event : DaemonEvent) (scrobblers : List Instance) : ∀ start,
    (∀ index, start ≤ index → index < start + scrobblers.length → event.received index = none) →
      stepEach checksum event start scrobblers = .ok scrobblers := by
  induction scrobblers with
  | nil => exact fun start deaf => rfl
  | cons each scrobblers ih =>
      intro start deaf
      rw [List.length_cons] at deaf
      have rest := ih (start + 1) fun index later within => deaf index (by omega) (by omega)
      rw [stepEach, deaf start (Nat.le_refl start) (by omega), rest]
      rfl

/-- Only one scrobbler hears the event. -/
theorem stepEach_only (event : DaemonEvent) (own : Event) (index : Nat) (each : Instance)
    (heard : ∀ other, event.received other = if index = other then some own else none)
    (scrobblers : List Instance) : ∀ start place, index = start + place →
      scrobblers[place]? = some each →
      stepEach checksum event start scrobblers
        = (step checksum each.world own).map fun world =>
            scrobblers.set place { each with world := world } := by
  induction scrobblers with
  | nil =>
      intro start place same present
      cases present
  | cons first scrobblers ih =>
      intro start place same present
      rw [stepEach, heard start]
      cases place with
      | zero =>
          obtain rfl := Option.some.inj present
          have deaf := stepEach_deaf checksum event scrobblers (start + 1)
            fun other later _ => by rw [heard other, if_neg (by omega)]
          rw [if_pos (show index = start from same), Instance.receive, deaf]
          cases step checksum first.world own <;> rfl
      | succ place =>
          have rest := ih (start + 1) place (by omega) present
          rw [if_neg (by omega), Instance.receive, rest]
          cases step checksum each.world own <;> rfl

theorem daemonStep_only (event : DaemonEvent) (own : Event) (index : Nat) (each : Instance)
    (heard : ∀ other, event.received other = if index = other then some own else none)
    (daemon : Daemon) (present : daemon.scrobblers[index]? = some each) :
    daemonStep checksum daemon event
      = (step checksum each.world own).map fun world =>
          { daemon with scrobblers := daemon.scrobblers.set index { each with world := world } } := by
  have only := stepEach_only checksum event own index each heard daemon.scrobblers 0
    index (Nat.zero_add index).symm present
  have stepped : daemonStep checksum daemon event
      = (stepEach checksum event 0 daemon.scrobblers).map fun scrobblers =>
          { daemon with scrobblers := scrobblers } := by
    cases event with
    | save =>
        have wrong := heard index
        rw [if_pos rfl] at wrong
        cases wrong
    | _ => rfl
  rw [stepped, only]
  cases step checksum each.world own <;> rfl

theorem daemonStep_healthy (daemon : Daemon) (event : DaemonEvent)
    (healthy : ∀ each ∈ daemon.scrobblers, Healthy each) :
    Holds Allowed (fun next => ∀ each ∈ next.scrobblers, Healthy each)
      (daemonStep checksum daemon event) := by
  have received : Holds Allowed (fun scrobblers => ∀ each ∈ scrobblers, Healthy each)
      (stepEach checksum event 0 daemon.scrobblers) := by
    apply (stepEach_continues checksum event 0 daemon.scrobblers healthy).mono
    intro scrobblers related each member
    obtain ⟨old, -, continued⟩ := forall₂_mem_right related each member
    exact continued.healthy
  cases event with
  | save =>
      have files : Holds Allowed (fun _ => True) (daemon.scrobblers.foldlM
          (fun files each =>
            scrobblerSaveCallback daemon.journalFileEmpty files each.world.scrobbler)
          daemon.files) := by
        apply Holds.foldlM_of_mem (fun _ => True)
        · intro files each member _
          exact (scrobblerSaveCallback_holds _ files each (healthy each member).sourced).mono
            fun _ _ => trivial
        · trivial
      apply files.bind
      intro after _ each member
      obtain ⟨old, present, rfl⟩ := List.mem_map.mp member
      exact healthy old present
  | _ => exact received.bind fun _ next => next

/-! ### Events in which nothing is asked for -/

def Quiet : DaemonEvent → Prop
  | .timer _ _ _ _ | .http _ _ _ _ => False
  | _ => True

theorem scrobblerScheduleSubmit_waiting (world : World) (requests : List HttpRequest) :
    scrobblerScheduleSubmit { world with requests := requests }
      = (scrobblerScheduleSubmit world).map fun next => { next with requests := requests } := by
  rw [scrobblerScheduleSubmit, scrobblerScheduleSubmit]
  by_cases unarmed : world.scrobbler.submitSourceId = 0
  · rw [assert_bind (by exact unarmed), assert_bind unarmed]
    by_cases defined : world.scrobbler.queue ≠ [] ∨ world.scrobbler.nowPlaying.isDefined
    · rw [assert_bind (by exact defined), assert_bind defined]
      rfl
    · rw [assert, assert, if_neg (by exact defined), if_neg defined]
      rfl
  · rw [assert, assert, if_neg (by exact unarmed), if_neg unarmed]
    rfl

theorem scheduleIfReady_waiting (world : World) (requests : List HttpRequest) :
    scheduleIfReady { world with requests := requests }
      = (scheduleIfReady world).map fun next => { next with requests := requests } := by
  simp only [scheduleIfReady]
  split_ifs
  · exact scrobblerScheduleSubmit_waiting world requests
  · rfl

theorem receive_waiting (event : DaemonEvent) (quiet : Quiet event) (index : Nat) (each : Instance)
    (requests : List HttpRequest) :
    (waiting each requests).receive checksum (event.received index)
      = (each.receive checksum (event.received index)).map fun next =>
          { next with requests := requests } := by
  cases event with
  | timer => exact quiet.elim
  | http => exact quiet.elim
  | otherSources count => rfl
  | save => rfl
  | nowPlaying artist track album number mbid length source =>
      exact scheduleIfReady_waiting
        (each.world.update { each.world.scrobbler with
          nowPlaying := ⟨artist, track, album, number, mbid, none, length, source⟩ }) requests
  | songchange file artist track album number mbid length time2 timestamp =>
      simp only [DaemonEvent.received, Instance.receive, step, asSongchange]
      cases songchangeRecord file artist track album number mbid length time2 timestamp with
      | none => rfl
      | some record =>
          exact scheduleIfReady_waiting
            (each.world.update { each.world.scrobbler with
              queue := each.world.scrobbler.queue ++ [record] }) requests

theorem stepEach_waiting (event : DaemonEvent) (quiet : Quiet event) (scrobblers : List Instance) :
    ∀ start requests, stepEach checksum event start (waitingAll requests scrobblers)
      = (stepEach checksum event start scrobblers).map (waitingAll requests) := by
  induction scrobblers with
  | nil => exact fun start requests => rfl
  | cons each scrobblers ih =>
      intro start requests
      have rest := ih (start + 1) fun index => requests (index + 1)
      have split (first : Instance) (others : List Instance) : waitingAll requests (first :: others)
          = waiting first (requests 0) :: waitingAll (fun index => requests (index + 1)) others :=
        List.mapIdx_cons
      rw [split, stepEach, stepEach, rest, receive_waiting checksum event quiet]
      cases each.receive checksum (event.received start) with
      | error reason => rfl
      | ok world =>
          cases stepEach checksum event (start + 1) scrobblers with
          | error reason => rfl
          | ok others => exact congrArg Except.ok (split ⟨world, each.saved⟩ others).symm

theorem saveAll_waiting (journalFileEmpty : Bool) (scrobblers : List Instance) :
    ∀ files requests, (waitingAll requests scrobblers).foldlM
        (fun files each => scrobblerSaveCallback journalFileEmpty files each.world.scrobbler) files
      = scrobblers.foldlM
        (fun files each => scrobblerSaveCallback journalFileEmpty files each.world.scrobbler)
        files := by
  induction scrobblers with
  | nil => exact fun files requests => rfl
  | cons each scrobblers ih =>
      intro files requests
      rw [waitingAll, List.mapIdx_cons, List.foldlM_cons, List.foldlM_cons]
      exact congrArg _ (funext fun middle => ih middle fun index => requests (index + 1))

/-- What is waited for makes no difference and stays. -/
theorem daemonStep_waiting (linked : Linked) (issued : List Issued) (event : DaemonEvent)
    (quiet : Quiet event) :
    daemonStep checksum (linked.shows issued) event
      = (daemonStep checksum linked.daemon event).map fun daemon =>
          Linked.shows { linked with daemon := daemon } issued := by
  have received : (do
        let scrobblers ← stepEach checksum event 0 (linked.shows issued).scrobblers
        return { linked.shows issued with scrobblers := scrobblers })
      = (do
          let scrobblers ← stepEach checksum event 0 linked.daemon.scrobblers
          return { linked.daemon with scrobblers := scrobblers }).map fun daemon =>
            Linked.shows { linked with daemon := daemon } issued := by
    have each := stepEach_waiting checksum event quiet linked.daemon.scrobblers 0 (requestsOf issued)
    have shown : (linked.shows issued).scrobblers
        = waitingAll (requestsOf issued) linked.daemon.scrobblers := rfl
    rw [shown, each]
    cases stepEach checksum event 0 linked.daemon.scrobblers <;> rfl
  cases event with
  | timer => exact quiet.elim
  | http => exact quiet.elim
  | otherSources => exact received
  | nowPlaying => exact received
  | songchange => exact received
  | save =>
      have files := saveAll_waiting linked.daemon.journalFileEmpty linked.daemon.scrobblers
        linked.daemon.files (requestsOf issued)
      have shown : (linked.shows issued).scrobblers
        = waitingAll (requestsOf issued) linked.daemon.scrobblers := rfl
      have saved (requests : Nat → List HttpRequest) (each : List Instance) :
          (waitingAll requests each).map (fun each =>
              { each with saved := each.saved ++ [each.world.scrobbler.queue] })
            = waitingAll requests (each.map fun each =>
                { each with saved := each.saved ++ [each.world.scrobbler.queue] }) := by
        apply List.ext_getElem?
        intro index
        simp only [waitingAll, List.getElem?_map, List.getElem?_mapIdx, Option.map_map]
        rfl
      rw [daemonStep, daemonStep, asSaveCache, asSaveCache, shown, saved]
      have files := saveAll_waiting linked.daemon.journalFileEmpty linked.daemon.scrobblers
        linked.daemon.files (requestsOf issued)
      have same : (linked.shows issued).journalFileEmpty = linked.daemon.journalFileEmpty ∧
          (linked.shows issued).files = linked.daemon.files := ⟨rfl, rfl⟩
      rw [same.1, same.2, files]
      cases linked.daemon.scrobblers.foldlM
        (fun files (each : Instance) => scrobblerSaveCallback linked.daemon.journalFileEmpty files
            each.world.scrobbler) linked.daemon.files <;> rfl

/-! ### One call of a scrobbler -/

/-- The scrobblers and what they wait for. -/
structure Linked.Carries (issued : List Issued) (linked : Linked) : Prop where
  owned : ∀ each ∈ linked.issued, each.scrobbler < linked.daemon.scrobblers.length
  idle : ∀ each ∈ linked.daemon.scrobblers, each.world.requests = []
  healthy : ∀ each ∈ (linked.shows issued).scrobblers, Healthy each

def AllowedFault (fault : Fault) : Prop := ∃ reason, fault = .scrobbler reason ∧ Allowed reason

/-- What a call of a scrobbler has done: `made` is what it asks for, `issued` what was waited for
before and `rest` what is waited for behind it but for that. -/
structure Called (linked : Linked) (issued rest : List Issued) (index : Nat)
    (outcome : AudioScrobbler.Outcome) (event : DaemonEvent) (made : List Issued) (next : Linked) :
    Prop where
  carries : next.Carries (made ++ rest)
  asked : ∃ world, outcome = .ok world ∧ made = world.requests.map (Issued.mk index)
  client : next.client = linked.client
  kept : next.issued = linked.issued
  length : next.daemon.scrobblers.length = linked.daemon.scrobblers.length
  heard : daemonStep checksum (linked.shows issued) event = .ok (next.shows (made ++ rest))

/-- A function of a scrobbler is what an event for it alone is to the daemon. -/
theorem call_called (linked : Linked) (issued rest : List Issued) (carries : linked.Carries issued)
    (index : Nat) (each : Instance) (present : linked.daemon.scrobblers[index]? = some each)
    (function : World → AudioScrobbler.Outcome) (event : DaemonEvent) (own : Event)
    (heard : ∀ other, event.received other = if index = other then some own else none)
    (same : step checksum (waiting each (requestsOf issued index)).world own
      = (function each.world).map fun world =>
          { world with requests := world.requests ++ requestsOf rest index })
    (others : ∀ other, other ≠ index → requestsOf issued other = requestsOf rest other) :
    Holds AllowedFault
      (fun result => Called checksum linked issued rest index (function each.world) event
        result.1 result.2)
      (linked.call index each function) := by
  have shown : (linked.shows issued).scrobblers[index]?
      = some (waiting each (requestsOf issued index)) := by
    rw [shows_scrobbler, present]
    rfl
  have stepped := daemonStep_only checksum event own index _ heard (linked.shows issued) shown
  have healthy := daemonStep_healthy checksum (linked.shows issued) event carries.healthy
  rw [same] at stepped
  rw [stepped] at healthy
  rw [Linked.call]
  cases ran : function each.world with
  | error reason =>
      rw [ran] at healthy
      exact ⟨reason, rfl, healthy⟩
  | ok world =>
      rw [ran] at healthy stepped
      have after : (linked.shows issued).scrobblers.set index
          (waiting ⟨world, each.saved⟩ (world.requests ++ requestsOf rest index))
          = waitingAll (requestsOf (world.requests.map (Issued.mk index) ++ rest))
              (linked.daemon.scrobblers.set index ⟨{ world with requests := [] }, each.saved⟩) := by
        apply List.ext_getElem?
        intro place
        have bound : index < linked.daemon.scrobblers.length :=
          (List.getElem?_eq_some_iff.mp present).1
        rw [waitingAll, List.getElem?_mapIdx, List.getElem?_set, List.getElem?_set, shows_scrobbler,
          requestsOf_append]
        by_cases here : index = place
        · subst here
          have shownBound : index < (linked.shows issued).scrobblers.length := by
            rw [Linked.shows, waitingAll, List.length_mapIdx]
            exact bound
          rw [if_pos rfl, if_pos rfl, if_pos bound, if_pos shownBound, requestsOf_own]
          rfl
        · rw [if_neg here, if_neg here, requestsOf_other _ _ here, List.nil_append,
            others place (Ne.symm here)]
      have heardNext : daemonStep checksum (linked.shows issued) event
          = .ok (Linked.shows
              { linked with
                daemon :=
                  { linked.daemon with
                    scrobblers := linked.daemon.scrobblers.set index
                      ⟨{ world with requests := [] }, each.saved⟩ } }
              (world.requests.map (Issued.mk index) ++ rest)) := by
        rw [stepped]
        exact congrArg (fun scrobblers => Except.ok { linked.daemon with scrobblers := scrobblers })
          after
      rw [← stepped, heardNext] at healthy
      refine ⟨⟨?_, ?_, healthy⟩, ⟨world, rfl, rfl⟩, rfl, rfl, List.length_set, heardNext⟩
      · intro issued member
        exact lt_of_lt_of_eq (carries.owned issued member) List.length_set.symm
      · intro other member
        rcases List.mem_or_eq_of_mem_set member with old | rfl
        · exact carries.idle other old
        · rfl

theorem receive_idle (event : DaemonEvent) (quiet : Quiet event) (index : Nat) (each : Instance)
    (next : World)
    (moved : (event.received index).toList.foldlM (step checksum) each.world = .ok next) :
    next.requests = each.world.requests := by
  have same := receive_waiting checksum event quiet index each each.world.requests
  rw [receive_eq, receive_eq, moved] at same
  have waits : (waiting each each.world.requests).world = each.world := rfl
  rw [waits, moved] at same
  have kept : next = { next with requests := each.world.requests } := Except.ok.inj same
  have fields := congrArg World.requests kept
  exact fields

/-- An event in which nothing is asked for. -/
theorem step_carries (linked : Linked) (issued : List Issued) (carries : linked.Carries issued)
    (event : DaemonEvent) (quiet : Quiet event) :
    Holds AllowedFault
      (fun next => next.Carries issued ∧ next.client = linked.client ∧
        next.issued = linked.issued ∧
        daemonStep checksum (linked.shows issued) event = .ok (next.shows issued))
      (linked.step checksum event) := by
  have stepped := daemonStep_waiting checksum linked issued event quiet
  have healthy := daemonStep_healthy checksum (linked.shows issued) event carries.healthy
  rw [stepped] at healthy
  rw [Linked.step]
  cases ran : daemonStep checksum linked.daemon event with
  | error reason =>
      rw [ran] at healthy
      exact ⟨reason, rfl, healthy⟩
  | ok daemon =>
      rw [ran] at healthy stepped
      obtain ⟨length, moved⟩ := daemonStep_moved ran
      refine ⟨⟨?_, ?_, healthy⟩, rfl, rfl, stepped⟩
      · intro issued member
        exact lt_of_lt_of_eq (carries.owned issued member) length.symm
      · intro each member
        obtain ⟨index, found⟩ := List.getElem?_of_mem member
        have bound : index < linked.daemon.scrobblers.length := by
          rw [← length]
          exact (List.getElem?_eq_some_iff.mp found).1
        obtain ⟨next, same, reached⟩ := moved index _ (List.getElem?_eq_getElem bound)
        obtain rfl := Option.some.inj (found.symm.trans same)
        rw [receive_idle checksum event quiet index _ _ reached]
        exact carries.idle _ (List.getElem_mem bound)

end Mpdcron.LinkedScrobbler
