import Mathlib.Data.List.Forall2
import Mathlib.Data.List.Induction
import Mpdcron.Cron.Env
import Mpdcron.Cron.Loop

/-! `cron-hooker.c`, the events of `cron-event.c` and the loop of `loop_idle` over them: what
the hooks see in their environment. -/

namespace Mpdcron.Cron

open CString Mpdcron.Gmodule
open Mpdcron.Player (MpdState)

/-- A hook that was started, and the environment it inherits. -/
structure HookRun where
  name : Bytes
  env : Env

/-- The environment of the daemon, the counters of `calls` and the hooks run so far. -/
structure Hooker where
  env : Env
  ncalls : Bytes → Nat
  runs : List HookRun

/-- The names and variables of `calls` -/
def calls : List (Bytes × Bytes) :=
  [(lit "database", lit "MC_CALLS_DATABASE"),
    (lit "stored_playlist", lit "MC_CALLS_STORED_PLAYLIST"),
    (lit "queue", lit "MC_CALLS_QUEUE"),
    (lit "playlist", lit "MC_CALLS_PLAYLIST"),
    (lit "player", lit "MC_CALLS_PLAYER"),
    (lit "mixer", lit "MC_CALLS_MIXER"),
    (lit "output", lit "MC_CALLS_OUTPUT"),
    (lit "options", lit "MC_CALLS_OPTIONS"),
    (lit "update", lit "MC_CALLS_UPDATE")]

def uintMax : Nat := 2 ^ 32 - 1

def hookerIncrement (name : Bytes) (hooker : Hooker) : Hooker :=
  match calls.lookup name with
  | none => hooker
  | some counter =>
      let ncalls := hooker.ncalls name + 1
      { hooker with
        env := hooker.env.setenv counter (decimalNat ncalls)
        ncalls := Function.update hooker.ncalls name (if ncalls = uintMax then 0 else ncalls) }

def hookerRunHook (name : Bytes) (hooker : Hooker) : Hooker :=
  let hooker := hookerIncrement name hooker
  { hooker with runs := hooker.runs ++ [⟨name, hooker.env⟩] }

/-- What Mpd answers to the commands of `event_player`: a status, whether there is a second
response, a song, and whether the response ends. -/
structure PlayerAnswer where
  status : Option MpdStatus
  next : Bool
  song : Option MpdSong
  finished : Bool

/-- The events with what Mpd answers to each. -/
inductive MpdAnswer where
  | database (stats : Option MpdStats)
  | storedPlaylist
  | queue
  | player (answer : PlayerAnswer)
  | mixer (status : Option MpdStatus)
  | output
  | options (status : Option MpdStatus)
  | update (status : Option MpdStatus)
  | other

/-- An event with the modules loaded when it comes and what their handlers return. -/
structure MpdEvent where
  answer : MpdAnswer
  handler : Nat → Int
  modules : Modules

/-- The status and the song of `event_player`, unless it fails. -/
def PlayerAnswer.received (answer : PlayerAnswer) : Option (MpdStatus × Option MpdSong) :=
  match answer.status with
  | none => none
  | some status =>
      if status.state = .play ∨ status.state = .pause then
        match answer.next, answer.song, answer.finished with
        | true, some song, true => some (status, some song)
        | _, _, _ => none
      else if answer.finished then some (status, none)
      else none

section Events

-- `mpd_idle_name`, and the text of a time where `localtime_r` does not fail
variable (mpdIdleName : MpdIdle → Bytes) (strftime : Int → Option Bytes)

/-- An event whose modules return `ret`: it fails without the answer, and otherwise exports
what the answer says and runs the hook. -/
def runHookWith (name : Bytes) (ret : Int) (exported : Option (Env → Env)) (hooker : Hooker) :
    Int × Hooker :=
  match exported with
  | none => (-1, hooker)
  | some exported => (ret, hookerRunHook name { hooker with env := exported hooker.env })

def eventDatabase (handler : Nat → Int) (modules : Modules) (stats : Option MpdStats) :
    Hooker → Int × Hooker :=
  runHookWith (mpdIdleName .database) (moduleDatabaseRun handler modules).ret
    (stats.map (envStats strftime))

def eventStoredPlaylist (handler : Nat → Int) (modules : Modules) : Hooker → Int × Hooker :=
  runHookWith (mpdIdleName .storedPlaylist) (moduleStoredPlaylistRun handler modules).ret (some id)

def eventQueue (handler : Nat → Int) (modules : Modules) : Hooker → Int × Hooker :=
  runHookWith (mpdIdleName .queue) (moduleQueueRun handler modules).ret (some id)

def eventPlayer (handler : Nat → Int) (modules : Modules) (answer : PlayerAnswer) :
    Hooker → Int × Hooker :=
  runHookWith (mpdIdleName .player) (modulePlayerRun handler modules).ret
    (answer.received.map fun received => envStatusCurrentsong strftime received.2 received.1)

def eventMixer (handler : Nat → Int) (modules : Modules) (status : Option MpdStatus) :
    Hooker → Int × Hooker :=
  runHookWith (mpdIdleName .mixer) (moduleMixerRun handler modules).ret (status.map envStatus)

def eventOutput (handler : Nat → Int) (modules : Modules) : Hooker → Int × Hooker :=
  runHookWith (mpdIdleName .output) (moduleOutputRun handler modules).ret (some id)

def eventOptions (handler : Nat → Int) (modules : Modules) (status : Option MpdStatus) :
    Hooker → Int × Hooker :=
  runHookWith (mpdIdleName .options) (moduleOptionsRun handler modules).ret (status.map envStatus)

def eventUpdate (handler : Nat → Int) (modules : Modules) (status : Option MpdStatus) :
    Hooker → Int × Hooker :=
  runHookWith (mpdIdleName .update) (moduleUpdateRun handler modules).ret (status.map envStatus)

/-- `event_run` -/
def MpdEvent.run (event : MpdEvent) : Hooker → Int × Hooker :=
  match event.answer with
  | .database stats => eventDatabase mpdIdleName strftime event.handler event.modules stats
  | .storedPlaylist => eventStoredPlaylist mpdIdleName event.handler event.modules
  | .queue => eventQueue mpdIdleName event.handler event.modules
  | .player answer => eventPlayer mpdIdleName strftime event.handler event.modules answer
  | .mixer status => eventMixer mpdIdleName event.handler event.modules status
  | .output => eventOutput mpdIdleName event.handler event.modules
  | .options status => eventOptions mpdIdleName event.handler event.modules status
  | .update status => eventUpdate mpdIdleName event.handler event.modules status
  | .other => fun hooker => (0, hooker)

/-- The loop of `loop_idle` over the events that came: a negative one is the last. -/
def loopIdleEvents : List MpdEvent → Hooker → Hooker
  | [], hooker => hooker
  | event :: events, hooker =>
      let (ret, hooker) :=
        event.run mpdIdleName strftime { hooker with env := envClearenv hooker.env }
      if ret < 0 then hooker else loopIdleEvents events hooker

/-- One call of `loop_idle` after the other, each with the events that came. -/
def hookerRun (start : Env) (wakeups : List (List MpdEvent)) : Hooker :=
  wakeups.foldl (fun hooker events => loopIdleEvents mpdIdleName strftime events hooker)
    { env := start, ncalls := fun _ => 0, runs := [] }

/-! ### What an event exports -/

def MpdEvent.idle (event : MpdEvent) : MpdIdle :=
  match event.answer with
  | .database _ => .database
  | .storedPlaylist => .storedPlaylist
  | .queue => .queue
  | .player _ => .player
  | .mixer _ => .mixer
  | .output => .output
  | .options _ => .options
  | .update _ => .update
  | .other => .other

/-- The event's own call of `env_stats`, `env_status` or `env_status_currentsong`; an event
without one changes nothing, and one that fails or is unknown runs no hook. -/
def MpdEvent.exports (event : MpdEvent) : Option (Env → Env) :=
  match event.answer with
  | .database stats => stats.map (envStats strftime)
  | .player answer =>
      answer.received.map fun received => envStatusCurrentsong strftime received.2 received.1
  | .mixer status | .options status | .update status => status.map envStatus
  | .storedPlaylist | .queue | .output => some id
  | .other => none

/-- Mpd answers what the event asks, and there is a hook for it. -/
def MpdEvent.runsHook (event : MpdEvent) : Bool :=
  match event.answer with
  | .database stats => stats.isSome
  | .player answer => answer.received.isSome
  | .mixer status | .options status | .update status => status.isSome
  | .storedPlaylist | .queue | .output => true
  | .other => false

def MpdEvent.exportsStatus (event : MpdEvent) : Bool :=
  match event.answer with
  | .player answer => answer.received.isSome
  | .mixer status | .options status | .update status => status.isSome
  | _ => false

def MpdEvent.exportsSong (event : MpdEvent) : Bool :=
  match event.answer with
  | .player answer => (answer.received.bind Prod.snd).isSome
  | _ => false

/-- The value of `event_run` is that of the dispatcher of `cron-loop`. -/
theorem MpdEvent.run_ret (event : MpdEvent) (hooker : Hooker) :
    (event.run mpdIdleName strftime hooker).1
      = eventRun event.idle event.runsHook event.handler event.modules := by
  rw [MpdEvent.run, MpdEvent.idle, MpdEvent.runsHook, eventRun.eq_def]
  cases event.answer with
  | database stats => cases stats <;> rfl
  | player answer =>
      rcases Option.eq_none_or_eq_some answer.received with missing | ⟨received, present⟩
      · simp only [eventPlayer, missing]
        rfl
      · simp only [eventPlayer, present]
        rfl
  | mixer status => cases status <;> rfl
  | options status => cases status <;> rfl
  | update status => cases status <;> rfl
  | storedPlaylist => rfl
  | queue => rfl
  | output => rfl
  | other => rfl

/-- An event exports and runs its hook, or leaves everything. -/
theorem MpdEvent.run_hooker (event : MpdEvent) (hooker : Hooker) :
    (event.run mpdIdleName strftime hooker).2 =
      match event.exports strftime with
      | none => hooker
      | some exported =>
          hookerRunHook (mpdIdleName event.idle) { hooker with env := exported hooker.env } := by
  rw [MpdEvent.run, MpdEvent.idle, MpdEvent.exports]
  cases event.answer with
  | database stats => cases stats <;> rfl
  | player answer =>
      dsimp only [eventPlayer]
      cases answer.received <;> rfl
  | mixer status => cases status <;> rfl
  | options status => cases status <;> rfl
  | update status => cases status <;> rfl
  | storedPlaylist => rfl
  | queue => rfl
  | output => rfl
  | other => rfl

/-- What the export of an event sets. -/
structure Settings (event : MpdEvent) (settings : List (Bytes × Bytes)) : Prop where
  random : statusRandom ∈ names settings ↔ event.exportsStatus
  duration : songDuration ∈ names settings ↔ event.exportsSong
  known : names settings ⊆ statusRandom :: songDuration :: clearedVariables

theorem known_of_cleared (name : Bytes) (cleared : name ∈ clearedVariables) :
    name ∈ statusRandom :: songDuration :: clearedVariables :=
  List.mem_cons_of_mem _ (List.mem_cons_of_mem _ cleared)

theorem known_of_status (name : Bytes) (known : name ∈ statusRandom :: clearedVariables) :
    name ∈ statusRandom :: songDuration :: clearedVariables := by
  rcases List.mem_cons.mp known with rfl | cleared
  · exact List.mem_cons_self
  · exact known_of_cleared name cleared

theorem settings_nothing (event : MpdEvent) (noStatus : ¬ event.exportsStatus)
    (noSong : ¬ event.exportsSong) : Settings event [] :=
  ⟨iff_of_false (by simp) noStatus, iff_of_false (by simp) noSong, by simp⟩

theorem settings_status (event : MpdEvent) (status : MpdStatus) (isStatus : event.exportsStatus)
    (noSong : ¬ event.exportsSong) : Settings event (statusVariables status) := by
  obtain ⟨random, noDuration, known⟩ := statusVariables_names status
  exact ⟨iff_of_true random isStatus, iff_of_false noDuration noSong,
    fun name present => known_of_status name (known present)⟩

theorem settings_statusSong (event : MpdEvent) (status : MpdStatus) (song : MpdSong)
    (isStatus : event.exportsStatus) (isSong : event.exportsSong) :
    Settings event (statusVariables status ++ songVariables strftime song) := by
  obtain ⟨random, -, known⟩ := statusVariables_names status
  obtain ⟨duration, -, songKnown⟩ := songVariables_names strftime song
  have either : names (statusVariables status ++ songVariables strftime song)
      = names (statusVariables status) ++ names (songVariables strftime song) := List.map_append
  refine ⟨iff_of_true ?_ isStatus, iff_of_true ?_ isSong, ?_⟩
  · rw [either]
    exact List.mem_append_left _ random
  · rw [either]
    exact List.mem_append_right _ duration
  · intro name present
    rw [either, List.mem_append] at present
    rcases present with inStatus | inSong
    · exact known_of_status name (known inStatus)
    · exact List.mem_cons_of_mem _ (songKnown inSong)

variable {strftime} in
theorem MpdEvent.exports_settings (event : MpdEvent) (exported : Env → Env)
    (exports : event.exports strftime = some exported) :
    ∃ settings, exported = Environment.setAll settings ∧ Settings event settings := by
  rcases event with ⟨answer, handler, modules⟩
  cases answer with
  | database stats =>
      obtain ⟨given, -, rfl⟩ := Option.map_eq_some_iff.mp exports
      obtain ⟨noRandom, noDuration, known⟩ := statsVariables_names strftime given
      exact ⟨_, rfl, iff_of_false noRandom Bool.false_ne_true,
        iff_of_false noDuration Bool.false_ne_true,
        fun name present => known_of_cleared name (known present)⟩
  | player answer =>
      obtain ⟨⟨status, song⟩, received, rfl⟩ := Option.map_eq_some_iff.mp exports
      have isStatus : answer.received.isSome := Option.isSome_of_eq_some received
      cases song with
      | none =>
          have noSong : ¬ (answer.received.bind Prod.snd).isSome := by simp [received]
          exact ⟨_, rfl, settings_status _ status isStatus noSong⟩
      | some song =>
          have isSong : (answer.received.bind Prod.snd).isSome := by simp [received]
          refine ⟨statusVariables status ++ songVariables strftime song, ?_,
            settings_statusSong strftime _ status song isStatus isSong⟩
          funext env
          exact (Environment.setAll_append _ _ env).symm
  | mixer status =>
      obtain ⟨given, rfl, rfl⟩ := Option.map_eq_some_iff.mp exports
      exact ⟨_, rfl, settings_status _ given rfl Bool.false_ne_true⟩
  | options status =>
      obtain ⟨given, rfl, rfl⟩ := Option.map_eq_some_iff.mp exports
      exact ⟨_, rfl, settings_status _ given rfl Bool.false_ne_true⟩
  | update status =>
      obtain ⟨given, rfl, rfl⟩ := Option.map_eq_some_iff.mp exports
      exact ⟨_, rfl, settings_status _ given rfl Bool.false_ne_true⟩
  | storedPlaylist =>
      cases exports
      exact ⟨[], rfl, settings_nothing _ Bool.false_ne_true Bool.false_ne_true⟩
  | queue =>
      cases exports
      exact ⟨[], rfl, settings_nothing _ Bool.false_ne_true Bool.false_ne_true⟩
  | output =>
      cases exports
      exact ⟨[], rfl, settings_nothing _ Bool.false_ne_true Bool.false_ne_true⟩
  | other => cases exports

/-! ### What the hooks see -/

/-- The events that `event_run` is called for: up to the first that fails. -/
def handledEvents : List MpdEvent → List MpdEvent
  | [] => []
  | event :: events =>
      if eventRun event.idle event.runsHook event.handler event.modules < 0 then [event]
      else event :: handledEvents events

theorem handledEvents_singleton (event : MpdEvent) : handledEvents [event] = [event] := by
  rw [handledEvents]
  split_ifs <;> rfl

/-- `env_clearenv`, then `event_run` -/
def handleEvent (hooker : Hooker) (event : MpdEvent) : Hooker :=
  (event.run mpdIdleName strftime { hooker with env := envClearenv hooker.env }).2

/-- The variables that a hook sees are those that its own event exports to an empty
environment. -/
def SeesOwn (event : MpdEvent) (hook : HookRun) : Prop :=
  ∀ exported, event.exports strftime = some exported →
    ∀ name, IsMpdVariable name → hook.env name = exported Environment.empty name

/-- Every hook run of the daemon sees what its event exported and nothing else. -/
def HooksSeeOwn (start : Env) (wakeups : List (List MpdEvent)) : Prop :=
  List.Forall₂ (SeesOwn strftime) ((wakeups.flatMap handledEvents).filter MpdEvent.runsHook)
    (hookerRun mpdIdleName strftime start wakeups).runs

/-- The later event exports a status and a song if the earlier one does, or runs no hook. -/
def Overwrites (earlier later : MpdEvent) : Prop :=
  later.runsHook → (earlier.exportsStatus → later.exportsStatus) ∧
    (earlier.exportsSong → later.exportsSong)

theorem loopIdleEvents_eq (events : List MpdEvent) (hooker : Hooker) :
    loopIdleEvents mpdIdleName strftime events hooker
      = (handledEvents events).foldl (handleEvent mpdIdleName strftime) hooker := by
  induction events generalizing hooker with
  | nil => rfl
  | cons event events ih =>
      rw [loopIdleEvents, handledEvents]
      dsimp only
      rw [MpdEvent.run_ret]
      split_ifs
      · rfl
      · rw [ih]
        rfl

theorem hookerRun_eq (start : Env) (wakeups : List (List MpdEvent)) :
    hookerRun mpdIdleName strftime start wakeups
      = (wakeups.flatMap handledEvents).foldl (handleEvent mpdIdleName strftime)
          { env := start, ncalls := fun _ => 0, runs := [] } := by
  rw [hookerRun]
  generalize ({ env := start, ncalls := fun _ => 0, runs := [] } : Hooker) = hooker
  induction wakeups generalizing hooker with
  | nil => rfl
  | cons events wakeups ih =>
      rw [List.foldl_cons, List.flatMap_cons, List.foldl_append, loopIdleEvents_eq, ih]

theorem calls_other (name counter : Bytes) (listed : calls.lookup name = some counter) :
    ¬ IsMpdVariable counter := by
  obtain ⟨before, after, split, -⟩ := List.lookup_eq_some_iff.mp listed
  have member : (name, counter) ∈ calls := by
    rw [split]
    exact List.mem_append_right _ List.mem_cons_self
  have none : ∀ call ∈ calls, ¬ IsMpdVariable call.2 := by decide
  exact none _ member

/-- The counters are no variables of Mpd. -/
theorem hookerIncrement_env (hookName : Bytes) (hooker : Hooker) (name : Bytes)
    (isMpd : IsMpdVariable name) :
    (hookerIncrement hookName hooker).env name = hooker.env name := by
  rw [hookerIncrement]
  split
  · rfl
  · rename_i counter listed
    refine Environment.setenv_of_ne _ _ _ _ fun same => ?_
    exact calls_other hookName counter listed (same ▸ isMpd)

/-- After `past` the status flag and the duration are all that `env_clearenv` can leave. -/
structure Leaves (past : List MpdEvent) (env : Env) : Prop where
  random : env statusRandom ≠ none ↔ ∃ event ∈ past, event.exportsStatus
  duration : env songDuration ≠ none ↔ ∃ event ∈ past, event.exportsSong
  others : ∀ name, IsMpdVariable name → name ∉ statusRandom :: songDuration :: clearedVariables →
    env name = none

theorem Leaves.clear (past : List MpdEvent) (env : Env) (leaves : Leaves past env) :
    Leaves past (envClearenv env) := by
  constructor
  · rw [envClearenv, Environment.unsetAll_apply, if_neg not_cleared.1]
    exact leaves.random
  · rw [envClearenv, Environment.unsetAll_apply, if_neg not_cleared.2]
    exact leaves.duration
  · intro name isMpd other
    rw [envClearenv, Environment.unsetAll_apply]
    split_ifs
    · rfl
    · exact leaves.others name isMpd other

theorem MpdEvent.exports_isSome (event : MpdEvent) :
    (event.exports strftime).isSome = event.runsHook := by
  rw [MpdEvent.exports, MpdEvent.runsHook]
  cases event.answer <;> simp

theorem MpdEvent.runsHook_of_exports (event : MpdEvent)
    (exports : event.exportsStatus ∨ event.exportsSong) : event.runsHook := by
  rcases event with ⟨answer, handler, modules⟩
  cases answer with
  | player answer =>
      rcases exports with status | song
      · exact status
      · exact Option.isSome_of_isSome_bind song
  | mixer status => exact exports.resolve_right Bool.false_ne_true
  | options status => exact exports.resolve_right Bool.false_ne_true
  | update status => exact exports.resolve_right Bool.false_ne_true
  | database stats => exact absurd exports (not_or.mpr ⟨Bool.false_ne_true, Bool.false_ne_true⟩)
  | storedPlaylist => rfl
  | queue => rfl
  | output => rfl
  | other => exact absurd exports (not_or.mpr ⟨Bool.false_ne_true, Bool.false_ne_true⟩)

section Step

variable {mpdIdleName strftime} {past : List MpdEvent} {event : MpdEvent} {hooker : Hooker}

/-- What is set when an event starts. -/
theorem Leaves.set_before (leaves : Leaves past hooker.env) (name : Bytes)
    (isMpd : IsMpdVariable name) (set : envClearenv hooker.env name ≠ none) :
    name = statusRandom ∨ name = songDuration := by
  have kept : name ∉ clearedVariables := by
    intro cleared
    rw [envClearenv, Environment.unsetAll_apply, if_pos cleared] at set
    exact set rfl
  by_contra neither
  rw [not_or] at neither
  refine set ((leaves.clear past _).others name isMpd fun known => ?_)
  rcases List.mem_cons.mp known with random | later
  · exact neither.1 random
  · rcases List.mem_cons.mp later with duration | cleared
    · exact neither.2 duration
    · exact kept cleared

/-- The hook sees its own variables exactly when its event overwrites the two that stay. -/
theorem seesOwn_iff (leaves : Leaves past hooker.env) (exported : Env → Env)
    (exports : event.exports strftime = some exported) (hookName : Bytes) :
    SeesOwn strftime event ⟨hookName, (hookerIncrement hookName
        { hooker with env := exported (envClearenv hooker.env) }).env⟩ ↔
      ∀ earlier ∈ past, Overwrites earlier event := by
  obtain ⟨settings, rfl, sets⟩ := event.exports_settings exported exports
  have isMpd : IsMpdVariable statusRandom ∧ IsMpdVariable songDuration := by decide
  have cleared := leaves.clear past hooker.env
  have runs : event.runsHook := by
    rw [← event.exports_isSome strftime, exports]
    rfl
  have sees (name : Bytes) (isMpd : IsMpdVariable name) :
      (hookerIncrement hookName
        { hooker with env := Environment.setAll settings (envClearenv hooker.env) }).env name
          = Environment.setAll settings Environment.empty name ↔
        (envClearenv hooker.env name ≠ none → name ∈ names settings) := by
    rw [hookerIncrement_env hookName _ name isMpd]
    exact Environment.setAll_eq_iff settings (envClearenv hooker.env) name
  constructor
  · intro own earlier inPast _
    have clean (name : Bytes) (isMpd : IsMpdVariable name) :=
      (sees name isMpd).mp (own _ exports name isMpd)
    refine ⟨fun status => ?_, fun song => ?_⟩
    · exact sets.random.mp (clean _ isMpd.1 (cleared.random.mpr ⟨earlier, inPast, status⟩))
    · exact sets.duration.mp (clean _ isMpd.2 (cleared.duration.mpr ⟨earlier, inPast, song⟩))
  · intro overwrites exported' same name isMpd
    cases exports.symm.trans same
    refine (sees name isMpd).mpr fun set => ?_
    rcases leaves.set_before name isMpd set with rfl | rfl
    · obtain ⟨earlier, inPast, status⟩ := cleared.random.mp set
      exact sets.random.mpr ((overwrites earlier inPast runs).1 status)
    · obtain ⟨earlier, inPast, song⟩ := cleared.duration.mp set
      exact sets.duration.mpr ((overwrites earlier inPast runs).2 song)

theorem Leaves.step (leaves : Leaves past hooker.env) (event : MpdEvent) :
    Leaves (past ++ [event]) (handleEvent mpdIdleName strftime hooker event).env := by
  have cleared := leaves.clear past hooker.env
  have either (exportsIt : MpdEvent → Bool) :
      (∃ other ∈ past ++ [event], exportsIt other) ↔
        exportsIt event ∨ ∃ other ∈ past, exportsIt other := by
    simp [or_and_right, exists_or, or_comm]
  rw [handleEvent, MpdEvent.run_hooker]
  cases exports : event.exports strftime with
  | none =>
      dsimp only
      have silent : ¬ event.runsHook := by
        rw [← event.exports_isSome strftime, exports]
        exact Bool.false_ne_true
      have noStatus : ¬ event.exportsStatus := fun status =>
        silent (event.runsHook_of_exports (Or.inl status))
      have noSong : ¬ event.exportsSong := fun song =>
        silent (event.runsHook_of_exports (Or.inr song))
      refine ⟨?_, ?_, cleared.others⟩
      · rw [either MpdEvent.exportsStatus, or_iff_right noStatus]
        exact cleared.random
      · rw [either MpdEvent.exportsSong, or_iff_right noSong]
        exact cleared.duration
  | some exported =>
      obtain ⟨settings, rfl, sets⟩ := event.exports_settings exported exports
      have isMpd : IsMpdVariable statusRandom ∧ IsMpdVariable songDuration := by decide
      have stays (name : Bytes) (isMpd : IsMpdVariable name) :
          (hookerRunHook (mpdIdleName event.idle)
            { hooker with env := Environment.setAll settings (envClearenv hooker.env) }).env name
              = Environment.setAll settings (envClearenv hooker.env) name :=
        hookerIncrement_env (mpdIdleName event.idle) _ name isMpd
      refine ⟨?_, ?_, fun name isMpd other => ?_⟩
      · exact (not_congr (stays _ isMpd.1).congr_left).trans <|
          (Environment.setAll_ne_none_iff settings _ _).trans <|
            (or_congr sets.random cleared.random).trans (either MpdEvent.exportsStatus).symm
      · exact (not_congr (stays _ isMpd.2).congr_left).trans <|
          (Environment.setAll_ne_none_iff settings _ _).trans <|
            (or_congr sets.duration cleared.duration).trans (either MpdEvent.exportsSong).symm
      · rw [stays name isMpd,
          Environment.setAll_of_notMem settings _ name fun set => other (sets.known set)]
        exact cleared.others name isMpd other

end Step

variable {mpdIdleName strftime}

theorem forall₂_concat {α β : Type} {R : α → β → Prop} (xs : List α) (x : α) (ys : List β) (y : β)
    (lengths : xs.length = ys.length) :
    List.Forall₂ R (xs ++ [x]) (ys ++ [y]) ↔ List.Forall₂ R xs ys ∧ R x y := by
  constructor
  · intro related
    have front := List.forall₂_take xs.length related
    have back := List.forall₂_drop xs.length related
    rw [List.take_left, lengths, List.take_left] at front
    rw [List.drop_left, lengths, List.drop_left] at back
    exact ⟨front, by simpa using back⟩
  · intro both
    exact List.rel_append both.1 (.cons both.2 .nil)

variable (strftime) in
/-- All that holds after some events: what the environment still has, and that the hooks so far
saw their own variables exactly when each event overwrote what came before it. -/
structure Seen (past : List MpdEvent) (hooker : Hooker) : Prop where
  leaves : Leaves past hooker.env
  runs : (past.filter MpdEvent.runsHook).length = hooker.runs.length
  own : List.Forall₂ (SeesOwn strftime) (past.filter MpdEvent.runsHook) hooker.runs ↔
    past.Pairwise Overwrites

variable (mpdIdleName strftime) in
theorem handleEvent_runs (event : MpdEvent) (hooker : Hooker) :
    (handleEvent mpdIdleName strftime hooker event).runs =
      match event.exports strftime with
      | none => hooker.runs
      | some exported => hooker.runs ++ [⟨mpdIdleName event.idle,
          (hookerIncrement (mpdIdleName event.idle)
            { hooker with env := exported (envClearenv hooker.env) }).env⟩] := by
  rw [handleEvent, MpdEvent.run_hooker]
  cases event.exports strftime with
  | none => rfl
  | some exported =>
      dsimp only [hookerRunHook]
      rw [hookerIncrement]
      split <;> rfl

theorem pairwise_concat (past : List MpdEvent) (event : MpdEvent) :
    (past ++ [event]).Pairwise Overwrites ↔
      past.Pairwise Overwrites ∧ ∀ earlier ∈ past, Overwrites earlier event := by
  simp [List.pairwise_append]

theorem Seen.step {past : List MpdEvent} {hooker : Hooker} (seen : Seen strftime past hooker)
    (event : MpdEvent) :
    Seen strftime (past ++ [event]) (handleEvent mpdIdleName strftime hooker event) := by
  have ran := handleEvent_runs mpdIdleName strftime event hooker
  have hook := event.exports_isSome strftime
  cases exports : event.exports strftime with
  | none =>
      rw [exports] at ran hook
      have silent : (past ++ [event]).filter MpdEvent.runsHook = past.filter MpdEvent.runsHook := by
        rw [List.filter_append, List.filter_singleton, ← hook]
        exact List.append_nil _
      have ignored : ∀ earlier ∈ past, Overwrites earlier event := by
        intro earlier _ runs
        rw [← hook] at runs
        cases runs
      refine ⟨seen.leaves.step event, ?_, ?_⟩
      · rw [silent, ran]
        exact seen.runs
      · rw [silent, ran, pairwise_concat, and_iff_left ignored]
        exact seen.own
  | some exported =>
      rw [exports] at ran hook
      have counted : (past ++ [event]).filter MpdEvent.runsHook
          = past.filter MpdEvent.runsHook ++ [event] := by
        rw [List.filter_append, List.filter_singleton, ← hook]
        rfl
      refine ⟨seen.leaves.step event, ?_, ?_⟩
      · rw [counted, ran, List.length_append, List.length_append, seen.runs]
        rfl
      · rw [counted, ran, forall₂_concat _ _ _ _ seen.runs, pairwise_concat, seen.own,
          seesOwn_iff seen.leaves exported exports]

/-- Hooks see exactly their own variables if and only if no event that runs a hook comes after
one that exported a status, or a song, without exporting another. -/
theorem hooksSeeOwn_iff (start : Env) (fresh : ∀ name, IsMpdVariable name → start name = none)
    (wakeups : List (List MpdEvent)) :
    HooksSeeOwn mpdIdleName strftime start wakeups ↔
      (wakeups.flatMap handledEvents).Pairwise Overwrites := by
  have isMpd : IsMpdVariable statusRandom ∧ IsMpdVariable songDuration := by decide
  rw [HooksSeeOwn, hookerRun_eq]
  suffices seen : ∀ events : List MpdEvent, Seen strftime events
      (events.foldl (handleEvent mpdIdleName strftime)
        { env := start, ncalls := fun _ => 0, runs := [] }) from (seen _).own
  intro events
  induction events using List.reverseRecOn with
  | nil =>
      refine ⟨⟨?_, ?_, fun name isMpd _ => fresh name isMpd⟩, rfl, by simp⟩
      · simp [fresh _ isMpd.1]
      · simp [fresh _ isMpd.2]
  | append_singleton past event ih =>
      rw [List.foldl_concat]
      exact ih.step event

/-- An event in a daemon without modules. -/
def plainEvent (answer : MpdAnswer) : MpdEvent :=
  { answer := answer, handler := fun _ => 0, modules := ⟨[], List.nodup_nil⟩ }

def playingStatus : MpdStatus :=
  { volume := 80, repeating := false, random := true, single := false, consume := false
    queueLength := 2, queueVersion := 7, crossfade := 0, songPos := 1, songId := 4
    elapsedTime := 3, elapsedMs := 3100, totalTime := 200, kbitRate := 320, updateId := 0
    state := .play, audioFormat := none }

def playedSong (title : Bytes) : MpdSong :=
  { uri := lit "a.ogg", lastModified := 0, duration := 200, pos := 1, id := 4
    tag := fun tag => if tag = .title then some title else none }

def playing (title : Bytes) : MpdEvent :=
  plainEvent (.player { status := some playingStatus, next := true
                        song := some (playedSong title), finished := true })

/-- The player changes twice and the queue comes first. -/
theorem hooksSeeOwn_player : HooksSeeOwn (fun _ => lit "player") (fun _ => none) Environment.empty
    [[plainEvent .queue], [playing (lit "Blue")], [playing (lit "Red")]] := by
  refine (hooksSeeOwn_iff Environment.empty (fun _ _ => rfl) _).mpr ?_
  have fromQueue (later : MpdEvent) : Overwrites (plainEvent .queue) later := fun _ =>
    ⟨fun status => absurd status Bool.false_ne_true, fun song => absurd song Bool.false_ne_true⟩
  have toPlayer (earlier : MpdEvent) (title : Bytes) : Overwrites earlier (playing title) :=
    fun _ => ⟨fun _ => rfl, fun _ => rfl⟩
  simp [handledEvents_singleton, fromQueue, toPlayer]

def mixerThenPlaylist : List (List MpdEvent) :=
  [[plainEvent (.mixer (some playingStatus))], [plainEvent .storedPlaylist]]

/-- After a change of the volume the hook of a stored playlist still sees the random flag. -/
theorem storedPlaylist_sees_random :
    (∃ hook, (hookerRun (fun _ => lit "hook") (fun _ => none) Environment.empty
        mixerThenPlaylist).runs[1]? = some hook ∧ hook.env statusRandom = some (lit "1")) ∧
      ¬ HooksSeeOwn (fun _ => lit "hook") (fun _ => none) Environment.empty mixerThenPlaylist := by
  have handled : mixerThenPlaylist.flatMap handledEvents
      = [plainEvent (.mixer (some playingStatus)), plainEvent .storedPlaylist] := by
    simp [mixerThenPlaylist, handledEvents_singleton]
  have ran : ∃ first second : HookRun, (hookerRun (fun _ => lit "hook") (fun _ => none)
      Environment.empty mixerThenPlaylist).runs = [first, second] ∧
      second.env statusRandom = some (lit "1") := by
    rw [hookerRun_eq, handled]
    exact ⟨_, _, rfl, by decide +kernel⟩
  obtain ⟨first, second, runs, random⟩ := ran
  refine ⟨⟨second, by rw [runs]; rfl, random⟩, fun own => ?_⟩
  have hooks : [plainEvent (.mixer (some playingStatus)), plainEvent .storedPlaylist].filter
      MpdEvent.runsHook
        = [plainEvent (.mixer (some playingStatus)), plainEvent .storedPlaylist] := rfl
  rw [HooksSeeOwn, runs, handled, hooks] at own
  cases own with
  | cons _ rest =>
      cases rest with
      | cons own _ =>
          have clean := own id rfl statusRandom (by decide)
          rw [random] at clean
          cases clean

end Events

end Mpdcron.Cron
