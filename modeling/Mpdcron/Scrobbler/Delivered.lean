import Mpdcron.Scrobbler.Moves

/-! Every record arrives: in a run that never ends, whose timers fire, whose requests are
answered, and in which neither handshakes nor submissions fail for ever. -/

namespace Mpdcron.AudioScrobbler

open CString Triple Filter

variable {config : ScrobblerConfig} {log : List Record} {checksum : Bytes → Bytes}

/-! ### A run with answers at once -/

/-- What the events answer, one after the other. -/
def answers (checksum : Bytes → Bytes) (world : World) : List Event → List (Caller × Verdict)
  | [] => []
  | event :: events =>
      (world.answered event).toList ++
        match step checksum world event with
        | .ok next => answers checksum next events
        | .error _ => []

/-- The timers fire, the requests are answered, and among the answers to the handshakes there is
always another that is accepted, and so among those to the submissions. -/
structure Fair (run : EndlessRun (step checksum)) : Prop where
  timers : ∀ n, ∀ source ∈ (run.state n).sources,
    ∃ m, n ≤ m ∧ ∃ timestr results, run.input m = .timer source.id timestr results
  requests : ∀ n, (run.state n).requests ≠ [] →
    ∃ m, n ≤ m ∧ ∃ result results, run.input m = .http 0 result results
  heard : ∀ caller, caller ≠ .scrobblerSendNowPlaying →
    (∃ᶠ n in atTop, ∃ verdict, (caller, verdict) ∈
      answers checksum (run.state n) (oneByOne (run.state n) (run.input n))) →
    ∃ᶠ n in atTop, (caller, .success) ∈
      answers checksum (run.state n) (oneByOne (run.state n) (run.input n))

/-- The same for a run in which a timer or a request may be gone by then. -/
structure Fairly (run : EndlessRun (step checksum)) : Prop where
  timers : ∀ n, ∀ source ∈ (run.state n).sources, ∃ m, n ≤ m ∧
    (source ∈ (run.state m).sources →
      ∃ timestr results, run.input m = .timer source.id timestr results)
  requests : ∀ n, (run.state n).requests ≠ [] → ∃ m, n ≤ m ∧
    ((run.state m).requests ≠ [] → ∃ result results, run.input m = .http 0 result results)
  heard : ∀ caller, caller ≠ .scrobblerSendNowPlaying →
    (∃ᶠ n in atTop, ∃ verdict, (caller, verdict) ∈
      answers checksum (run.state n) (oneByOne (run.state n) (run.input n))) →
    ∃ᶠ n in atTop, (caller, .success) ∈
      answers checksum (run.state n) (oneByOne (run.state n) (run.input n))

theorem Fair.fairly {run : EndlessRun (step checksum)} (fair : Fair run) : Fairly run where
  timers n source attached := by
    obtain ⟨m, behind, fires⟩ := fair.timers n source attached
    exact ⟨m, behind, fun _ => fires⟩
  requests n outstanding := by
    obtain ⟨m, behind, answers⟩ := fair.requests n outstanding
    exact ⟨m, behind, fun _ => answers⟩
  heard := fair.heard

theorem mem_answers_iff (events : List Event) (world : World) (answer : Caller × Verdict) :
    answer ∈ answers checksum world events ↔
      ∃ place event next, events[place]? = some event ∧
        (events.take place).foldlM (step checksum) world = .ok next ∧
        next.answered event = some answer := by
  induction events generalizing world with
  | nil => simp [answers]
  | cons event events ih =>
      rw [answers, List.mem_append, Option.mem_toList]
      constructor
      · rintro (now | later)
        · exact ⟨0, event, world, rfl, rfl, now⟩
        · cases stepped : step checksum world event with
          | error reason => simp [stepped] at later
          | ok next =>
              rw [stepped] at later
              rcases (ih next).mp later with ⟨place, other, reached, found, run, answered⟩
              refine ⟨place + 1, other, reached, found, ?_, answered⟩
              rw [List.take_succ_cons, List.foldlM_cons, stepped]
              exact run
      · rintro ⟨place, other, reached, found, run, answered⟩
        cases place with
        | zero =>
            cases found
            cases run
            exact .inl answered
        | succ place =>
            rw [List.take_succ_cons, List.foldlM_cons] at run
            rcases bind_ok run with ⟨next, stepped, rest⟩
            rw [stepped]
            exact .inr ((ih next).mpr ⟨place, other, reached, found, rest, answered⟩)

/-- The events of a step taken one by one, at least one. -/
def singles (world : World) (event : Event) : List Event :=
  if oneByOne world event = [] then [.otherSources 0] else oneByOne world event

theorem singles_filled (world : World) (event : Event) : singles world event ≠ [] := by
  rw [singles]
  split_ifs with none
  · simp
  · exact none

theorem singles_unanswered (world : World) (event : Event) :
    ∀ single ∈ singles world event, single.Unanswered := by
  rw [singles]
  split_ifs
  · exact List.forall_mem_singleton.mpr trivial
  · exact oneByOne_unanswered world event

theorem step_singles (checksum : Bytes → Bytes) (world : World) (event : Event)
    (invariant : Invariant config log world) :
    (singles world event).foldlM (step checksum) world = step checksum world event := by
  rw [step_oneByOne checksum world event invariant, singles]
  split_ifs with none
  · rw [none]
    rfl
  · rfl

theorem answers_singles (checksum : Bytes → Bytes) (world : World) (event : Event) :
    answers checksum world (singles world event)
      = answers checksum world (oneByOne world event) := by
  rw [singles]
  split_ifs with none
  · rw [none]
    rfl
  · rfl

/-- A timer that is there is the first of its singles. -/
theorem singles_timer (world : World) (source : Source) (attached : source ∈ world.sources)
    (timestr : Bytes) (results : List HttpResult) :
    (singles world (.timer source.id timestr results))[0]?
        = some (.timer source.id timestr []) ∧
      world.takes (.timer source.id timestr []) = true := by
  have found : (world.sources.find? (·.id = source.id)).isSome = true := by
    rw [List.find?_isSome]
    exact ⟨source, attached, by simp⟩
  refine ⟨?_, found⟩
  rw [singles, oneByOne, if_pos found]
  rfl

theorem singles_http (world : World) (outstanding : world.requests ≠ []) (result : HttpResult)
    (results : List HttpResult) :
    (singles world (.http 0 result results))[0]? = some (.http 0 result []) ∧
      world.takes (.http 0 result []) = true := by
  have found : (world.requests[0]?).isSome = true := by
    cases requests : world.requests with
    | nil => exact absurd requests outstanding
    | cons request requests => rfl
  refine ⟨?_, found⟩
  rw [singles, oneByOne, if_pos found]
  rfl

section Singles

variable (run : EndlessRun (step checksum))
  (invariant : ∀ n, ∃ log, Invariant config log (run.state n))

/-- The run, with each event as the block of its singles. -/
def blocks : EndlessRun.OfBlocks (step checksum) where
  state := run.state
  input n := singles (run.state n) (run.input n)
  steps n := by
    rcases invariant n with ⟨log, invariant⟩
    rw [step_singles checksum _ _ invariant]
    exact run.steps n

theorem blocks_filled (n : Nat) : (blocks run invariant).input n ≠ [] :=
  singles_filled (run.state n) (run.input n)

/-- The run of the singles. -/
noncomputable abbrev singleRun : EndlessRun (step checksum) :=
  (blocks run invariant).inputs (blocks_filled run invariant)

theorem singleRun_block (n : Nat) : ∃ count,
    (blocks run invariant).position count = (n, 0) ∧
      (singleRun run invariant).state count = run.state n ∧
      some ((singleRun run invariant).input count)
        = (singles (run.state n) (run.input n))[0]? := by
  rcases (blocks run invariant).position_first (blocks_filled run invariant) n with ⟨count, first⟩
  have found := (blocks run invariant).inputs_at (blocks_filled run invariant) first
  refine ⟨count, first, ?_, found.2.symm⟩
  rw [found.1, EndlessRun.stateAt_zero]
  rfl

theorem singleRun_unanswered (count : Nat) :
    ((singleRun run invariant).input count).Unanswered :=
  singles_unanswered _ _ _ (List.get_mem _ _)

theorem singleRun_invariant (count : Nat) :
    ∃ log, Invariant config log ((singleRun run invariant).state count) := by
  induction count with
  | zero =>
      have start : (singleRun run invariant).state 0 = run.state 0 :=
        (blocks run invariant).stateAt_zero 0
      rw [start]
      exact invariant 0
  | succ count ih =>
      rcases ih with ⟨log, before⟩
      have after := step_holds checksum log _ ((singleRun run invariant).input count) before
      rw [(singleRun run invariant).steps count] at after
      exact ⟨_, after⟩

/-- As long as nothing happens that concerns a timer or a request, there are the same. -/
theorem singleRun_idle {first last : Nat} (later : first ≤ last)
    (waiting : ∀ n, first ≤ n → ((singleRun run invariant).state n).scrobbler.queue ≠ [])
    (idle : ∀ n, first ≤ n → ((singleRun run invariant).state n).takes
      ((singleRun run invariant).input n) = false) :
    ((singleRun run invariant).state last).sources
        = ((singleRun run invariant).state first).sources ∧
      ((singleRun run invariant).state last).requests
        = ((singleRun run invariant).state first).requests := by
  induction last, later using Nat.le_induction with
  | base => exact ⟨rfl, rfl⟩
  | succ last behind ih =>
      rcases singleRun_invariant run invariant last with ⟨log, before⟩
      have still := step_still checksum before (waiting last behind) _ (idle last behind)
      rw [(singleRun run invariant).steps last] at still
      exact ⟨still.sources.trans ih.1, still.requests.trans ih.2⟩

theorem singleRun_taken (fair : Fairly run) {first : Nat}
    (waiting : ∀ n, first ≤ n → ((singleRun run invariant).state n).scrobbler.queue ≠ [])
    (active : ((singleRun run invariant).state first).sources ≠ [] ∨
      ((singleRun run invariant).state first).requests ≠ []) :
    ∃ m, first ≤ m ∧ ((singleRun run invariant).state m).takes
      ((singleRun run invariant).input m) = true := by
  by_contra never
  have idle : ∀ n, first ≤ n → ((singleRun run invariant).state n).takes
      ((singleRun run invariant).input n) = false := by
    intro n behind
    by_contra taken
    exact never ⟨n, behind, by simpa using taken⟩
  -- the next event whose singles all come later
  have next (n : Nat) (behind : ((blocks run invariant).position first).1 < n) : ∃ count,
      first ≤ count ∧ (run.state n).sources = ((singleRun run invariant).state first).sources ∧
        (run.state n).requests = ((singleRun run invariant).state first).requests ∧
        (run.state n).takes ((singleRun run invariant).input count) = false ∧
        some ((singleRun run invariant).input count)
          = (singles (run.state n) (run.input n))[0]? := by
    rcases singleRun_block run invariant n with ⟨count, found, state, input⟩
    have later : first ≤ count := by
      apply le_of_lt
      apply (blocks run invariant).lt_of_block
      rw [found]
      exact behind
    have same := singleRun_idle run invariant later waiting idle
    have untaken := idle count later
    rw [state] at same untaken
    exact ⟨count, later, same.1, same.2, untaken, input⟩
  rcases next _ (Nat.lt_succ_self _) with ⟨_, _, sources, requests, -⟩
  rcases active with armed | outstanding
  · rcases List.exists_mem_of_ne_nil _ armed with ⟨source, attached⟩
    rcases fair.timers _ source (by rw [sources]; exact attached) with
      ⟨m, behind, stays⟩
    rcases next m behind with ⟨count, _, same, -, untaken, input⟩
    rcases stays (by rw [same]; exact attached) with ⟨timestr, results, fires⟩
    have timer := singles_timer (run.state m) source (by rw [same]; exact attached) timestr results
    rw [fires, timer.1] at input
    rw [Option.some.inj input, timer.2] at untaken
    cases untaken
  · rcases fair.requests _ (by rw [requests]; exact outstanding) with
      ⟨m, behind, stays⟩
    rcases next m behind with ⟨count, _, -, same, untaken, input⟩
    rcases stays (by rw [same]; exact outstanding) with ⟨result, results, answers⟩
    have answer := singles_http (run.state m) (by rw [same]; exact outstanding) result results
    rw [answers, answer.1] at input
    rw [Option.some.inj input, answer.2] at untaken
    cases untaken

/-- What a single answers is among what its event answers. -/
theorem singleRun_answered (count : Nat) (answer : Caller × Verdict)
    (answered : ((singleRun run invariant).state count).answered
      ((singleRun run invariant).input count) = some answer) :
    answer ∈ answers checksum (run.state ((blocks run invariant).position count).1)
      (oneByOne (run.state ((blocks run invariant).position count).1)
        (run.input ((blocks run invariant).position count).1)) := by
  rw [← answers_singles, mem_answers_iff]
  have here : (blocks run invariant).position count
      = (((blocks run invariant).position count).1,
        ((blocks run invariant).position count).2) := rfl
  have place := (blocks run invariant).inputs_at (blocks_filled run invariant) here
  exact ⟨_, _, _, place.2, (blocks run invariant).stateAt_spec _ _, answered⟩

theorem singleRun_heard (fair : Fairly run) (caller : Caller)
    (other : caller ≠ .scrobblerSendNowPlaying)
    (often : ∃ᶠ n in atTop, ∃ verdict, ((singleRun run invariant).state n).answered
      ((singleRun run invariant).input n) = some (caller, verdict)) :
    ∃ᶠ n in atTop, ((singleRun run invariant).state n).answered
      ((singleRun run invariant).input n) = some (caller, .success) := by
  have filled := blocks_filled run invariant
  have events : ∃ᶠ n in atTop, ∃ verdict, (caller, verdict) ∈
      answers checksum (run.state n) (oneByOne (run.state n) (run.input n)) := by
    apply ((blocks run invariant).position_tendsto filled).frequently
    apply often.mono
    rintro count ⟨verdict, answered⟩
    exact ⟨verdict, singleRun_answered run invariant count _ answered⟩
  apply (blocks run invariant).frequently_of_blocks filled (fair.heard caller other events)
  intro n accepted
  rw [← answers_singles, mem_answers_iff] at accepted
  rcases accepted with ⟨place, event, next, found, reached, answered⟩
  refine ⟨place, (List.getElem?_eq_some_iff.mp found).1, ?_⟩
  intro count here
  have found' := (blocks run invariant).inputs_at filled here
  have same := (blocks run invariant).stateAt_spec n place
  cases Except.ok.inj (reached.symm.trans same)
  cases Option.some.inj (found.symm.trans found'.2)
  rw [found'.1]
  exact answered

end Singles

/-! ### Every record -/

theorem step_grows_at_once (checksum : Bytes → Bytes) (world : World) (event : Event)
    (invariant : Invariant config log world) : Grows world (step checksum world event) := by
  rw [step_oneByOne checksum world event invariant]
  apply Holds.foldlM_of_mem (fun next : World => world.removed <+: next.removed)
  · intro next single member longer
    apply (step_grows checksum next single (oneByOne_unanswered world event single member)).mono
    intro last grown
    exact longer.trans grown
  · exact List.prefix_refl _

/-- The records of the journal, and those pushed by the first events. -/
def recordsBy (journal : List Record) (event : Nat → Event) (count : Nat) : List Record :=
  journal ++ (List.range count).flatMap fun n => pushed (event n)

theorem recordsBy_succ (journal : List Record) (event : Nat → Event) (count : Nat) :
    recordsBy journal event (count + 1)
      = recordsBy journal event count ++ pushed (event count) := by
  rw [recordsBy, recordsBy, List.range_succ, List.flatMap_append, List.flatMap_singleton,
    List.append_assoc]

theorem recordsBy_prefix (journal : List Record) (event : Nat → Event) {first last : Nat}
    (later : first ≤ last) : recordsBy journal event first <+: recordsBy journal event last := by
  induction last, later using Nat.le_induction with
  | base => exact List.prefix_refl _
  | succ last behind ih =>
      rw [recordsBy_succ]
      exact ih.trans (List.prefix_append _ _)

theorem endless_invariant (run : EndlessRun (step checksum)) (journal : List Record)
    (starts : Invariant config journal (run.state 0)) (n : Nat) :
    Invariant config (recordsBy journal run.input n) (run.state n) := by
  induction n with
  | zero => simpa [recordsBy] using starts
  | succ n ih =>
      have after := step_holds checksum _ _ (run.input n) ih
      rw [run.steps n, ← recordsBy_succ] at after
      exact after

theorem endless_removed (run : EndlessRun (step checksum))
    (invariant : ∀ n, ∃ log, Invariant config log (run.state n)) {first last : Nat}
    (later : first ≤ last) : (run.state first).removed <+: (run.state last).removed := by
  induction last, later using Nat.le_induction with
  | base => exact List.prefix_refl _
  | succ last behind ih =>
      rcases invariant last with ⟨log, before⟩
      have grows := step_grows_at_once checksum (run.state last) (run.input last) before
      rw [run.steps last] at grows
      exact ih.trans grows

/-- The number of records of which a scrobbler knows. -/
def World.known (world : World) : Nat := world.removed.length + world.scrobbler.queue.length

theorem Invariant.known {world : World} (invariant : Invariant config log world) :
    world.known = log.length := by
  rw [World.known, invariant.books.complete, List.length_append]

theorem endless_known (run : EndlessRun (step checksum))
    (invariant : ∀ n, ∃ log, Invariant config log (run.state n)) {first last : Nat}
    (later : first ≤ last) : (run.state first).known ≤ (run.state last).known := by
  induction last, later using Nat.le_induction with
  | base => exact Nat.le_refl _
  | succ last behind ih =>
      rcases invariant last with ⟨log, before⟩
      have after := step_holds checksum log _ (run.input last) before
      rw [run.steps last] at after
      have longer := Invariant.known after
      rw [List.length_append] at longer
      have same := before.known
      omega

/-- As long as a record of the first events is left, the singles behind these find it. -/
theorem singleRun_waiting (run : EndlessRun (step checksum))
    (invariant : ∀ n, ∃ log, Invariant config log (run.state n)) {n first : Nat}
    (reached : (singleRun run invariant).state first = run.state n)
    (left : ∀ count, ((singleRun run invariant).state count).removed.length < (run.state n).known)
    (count : Nat) (behind : first ≤ count) :
    ((singleRun run invariant).state count).scrobbler.queue ≠ [] := by
  intro empty
  have known := endless_known (singleRun run invariant) (singleRun_invariant run invariant) behind
  have some := left count
  rw [reached, World.known, World.known, empty, List.length_nil] at known
  rw [World.known] at some
  omega

theorem singleRun_served (run : EndlessRun (step checksum))
    (invariant : ∀ n, ∃ log, Invariant config log (run.state n)) (fair : Fairly run) {first : Nat}
    (waiting : ∀ n, first ≤ n → ((singleRun run invariant).state n).scrobbler.queue ≠ []) :
    Served config (singleRun run invariant) := by
  constructor
  · exact singleRun_unanswered run invariant
  · exact singleRun_invariant run invariant
  · exact eventually_atTop.mpr ⟨first, waiting⟩
  · apply eventually_atTop.mpr
    refine ⟨first, ?_⟩
    intro n behind active
    exact singleRun_taken run invariant fair (fun m later => waiting m (le_trans behind later))
      active
  · exact singleRun_heard run invariant fair

/-- As many records as are known now are removed in the end. -/
theorem endless_delivered (run : EndlessRun (step checksum)) (journal : List Record)
    (starts : Invariant config journal (run.state 0)) (fair : Fairly run) (n : Nat) :
    ∃ m, n ≤ m ∧ recordsBy journal run.input n <+: (run.state m).removed := by
  have always := endless_invariant run journal starts
  have invariant : ∀ n, ∃ log, Invariant config log (run.state n) := fun n => ⟨_, always n⟩
  -- once as many records were removed, these are among them
  have enough (m : Nat) (many : (run.state n).known ≤ (run.state m).removed.length) :
      ∃ m, n ≤ m ∧ recordsBy journal run.input n <+: (run.state m).removed := by
    refine ⟨max n m, le_max_left _ _, ?_⟩
    have grown := (endless_removed run invariant (le_max_right n m)).length_le
    have known := (always n).known
    have whole := recordsBy_prefix journal run.input (le_max_left n m)
    have complete := (always (max n m)).books.complete
    rw [complete] at whole
    exact List.prefix_of_prefix_length_le whole (List.prefix_append _ _) (by omega)
  by_contra never
  have left : ∀ count,
      ((singleRun run invariant).state count).removed.length < (run.state n).known := by
    intro count
    by_contra many
    rcases singleRun_block run invariant (((blocks run invariant).position count).1 + 1) with
      ⟨later, found, state, -⟩
    have behind : count < later := by
      apply (blocks run invariant).lt_of_block
      rw [found]
      exact Nat.lt_succ_self _
    have grown := (endless_removed (singleRun run invariant) (singleRun_invariant run invariant)
      (le_of_lt behind)).length_le
    rw [state] at grown
    exact never (enough (((blocks run invariant).position count).1 + 1) (by omega))
  rcases singleRun_block run invariant n with ⟨first, -, reached, -⟩
  have waiting := singleRun_waiting run invariant reached left
  have served := singleRun_served run invariant fair waiting
  rcases served.unbounded (run.state n).known with ⟨count, many⟩
  have few := left count
  omega

/-- In every fair run each record that was in the journal or pushed is removed in the end, and
the records are removed in the order in which they came. -/
theorem records_delivered (checksum : Bytes → Bytes) (config : ScrobblerConfig)
    (journal : List Record) (sourceIds : Nat) (run : EndlessRun (step checksum))
    (starts : scrobblerNewCallback config journal sourceIds = .ok (run.state 0))
    (fair : Fair run) (n : Nat) :
    ∃ m, n ≤ m ∧ recordsBy journal run.input n <+: (run.state m).removed := by
  have initial := scrobblerNewCallback_holds config journal sourceIds
  rw [starts] at initial
  exact endless_delivered run journal initial fair.fairly n

/-! ### A run in which every kind of request fails once -/

def Event.fires (id : Nat) : Event → Bool
  | .timer fired _ _ => fired = id
  | _ => false

def Event.answersFirst : Event → Bool
  | .http request _ _ => request = 0
  | _ => false

/-- What there is to wait for comes at once. -/
def World.served (world : World) (event : Event) : Bool :=
  (world.sources.all fun source => event.fires source.id) &&
    (world.requests.isEmpty || event.answersFirst)

theorem served_timers {world : World} {event : Event} (served : world.served event = true) :
    ∀ source ∈ world.sources, ∃ timestr results, event = .timer source.id timestr results := by
  intro source attached
  rw [World.served, Bool.and_eq_true, List.all_eq_true] at served
  have fires := served.1 source attached
  cases event with
  | timer id timestr results =>
      have same : id = source.id := by simpa [Event.fires] using fires
      exact ⟨timestr, results, by rw [same]⟩
  | _ => simp [Event.fires] at fires

theorem served_requests {world : World} {event : Event} (served : world.served event = true)
    (outstanding : world.requests ≠ []) : ∃ result results, event = .http 0 result results := by
  rw [World.served, Bool.and_eq_true, Bool.or_eq_true] at served
  have answered := served.2.resolve_left fun none => outstanding (List.isEmpty_iff.mp none)
  cases event with
  | http request result results =>
      have first : request = 0 := by simpa [Event.answersFirst] using answered
      exact ⟨result, results, by rw [first]⟩
  | _ => simp [Event.answersFirst] at answered

def retried : List Event :=
  [ .timer 1 [] [],
    .http 0 .error [],
    .timer 2 [] [.response (lit "OK\nsession\nnow\nsubmit\n")],
    .http 0 (.response (lit "FAILED\n")) [],
    .timer 3 [] [],
    .http 0 (.response (lit "OK\n")) [] ]

def retriedConfig : ScrobblerConfig := ⟨[], [], [], none⟩

def retriedJournal : List Record :=
  [{ recordZero with artist := some (lit "Can"), track := some (lit "Halleluwah") }]

def retriedStart : World :=
  { scrobbler := { scrobblerNew retriedConfig with queue := retriedJournal, handshakeSourceId := 1 }
    sources := [⟨1, 1, .scrobblerHandshakeTimer⟩], nextId := 2, requests := [], removed := [] }

def retriedEnd : World :=
  { scrobbler :=
      { scrobblerNew retriedConfig with
        state := .ready
        session := some (lit "session")
        nowplayUrl := some (lit "now")
        submitUrl := some (lit "submit") }
    sources := [], nextId := 4, requests := [], removed := retriedJournal }

def retriedRun : EndlessRun (step fun _ => []) :=
  .settling retried (.otherSources 0) retriedStart retriedEnd (by decide +kernel) rfl

theorem retriedRun_rest {n : Nat} (behind : 6 ≤ n) :
    retriedRun.state n = retriedEnd ∧ retriedRun.input n = .otherSources 0 :=
  EndlessRun.settling_rest _ _ behind

theorem retriedRun_served (n : Nat) :
    (retriedRun.state n).served (retriedRun.input n) = true := by
  have early : ∀ n, n < 6 → (retriedRun.state n).served (retriedRun.input n) = true := by
    decide +kernel
  rcases Nat.lt_or_ge n 6 with before | behind
  · exact early n before
  · rw [(retriedRun_rest behind).1, (retriedRun_rest behind).2]
    rfl

theorem retriedRun_fair : Fair retriedRun := by
  constructor
  · intro n source attached
    exact ⟨n, Nat.le_refl n, served_timers (retriedRun_served n) source attached⟩
  · intro n outstanding
    exact ⟨n, Nat.le_refl n, served_requests (retriedRun_served n) outstanding⟩
  · intro caller _ often
    rcases frequently_atTop.mp often 6 with ⟨n, behind, verdict, answered⟩
    rw [(retriedRun_rest behind).1, (retriedRun_rest behind).2] at answered
    cases answered

theorem records_delivered_retried :
    ∃ m, 0 ≤ m ∧ recordsBy retriedJournal retriedRun.input 0 <+: (retriedRun.state m).removed :=
  records_delivered (fun _ => []) retriedConfig retriedJournal 0 retriedRun rfl retriedRun_fair 0

end Mpdcron.AudioScrobbler
