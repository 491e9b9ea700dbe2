import Mathlib.Data.List.Nodup
import Mpdcron.Lib.Triple
import Mpdcron.Scrobbler.Daemon
import Mpdcron.Scrobbler.Invariant

/-! When the journal files are the queues after `as_save_cache`. -/

namespace Mpdcron.AudioScrobbler

open CString Triple

/-- `struct config` as `as_init` gets it: no two scrobblers share a journal. -/
structure Config where
  scrobblers : List ScrobblerConfig
  distinct : (scrobblers.filterMap (·.journal)).Nodup

def Instance.journal (each : Instance) : Option Bytes := each.world.scrobbler.config.journal

def Instance.queue (each : Instance) : List Record := each.world.scrobbler.queue

def journals (scrobblers : List Instance) : List Bytes := scrobblers.filterMap Instance.journal

/-- Every journal file holds the queue of its scrobbler. -/
def Saved (daemon : Daemon) : Prop :=
  ∀ each ∈ daemon.scrobblers, ∀ path, each.journal = some path →
    ∃ text, journalText each.queue = .ok text ∧ daemon.files path = some text

/-! ### Reading -/

def AllSourced (queue : List Record) : Prop := ∀ record ∈ queue, record.source.isSome

theorem AllSourced.append {first second : List Record} (left : AllSourced first)
    (right : AllSourced second) : AllSourced (first ++ second) := by
  intro record member
  rcases List.mem_append.mp member with old | new
  · exact left record old
  · exact right record new

/-- What the loop of `journal_read` keeps when it starts with an empty queue. -/
structure WellRead (reading : JournalReading) : Prop where
  record : reading.record.source.isSome
  queue : AllSourced reading.queue
  flag : reading.journalFileEmpty = true ↔ reading.queue = []

theorem journalCommitRecord_wellRead (reading : JournalReading) (before : WellRead reading) :
    WellRead (journalCommitRecord reading) := by
  unfold journalCommitRecord
  split_ifs
  · refine ⟨rfl, before.queue.append ?_, by simp⟩
    intro record member
    rw [List.mem_singleton.mp member]
    exact before.record
  · exact ⟨rfl, before.queue, before.flag⟩

theorem journalReadPair_wellRead (iso8601 : Bytes → Option Int) (key value : Bytes)
    (reading : JournalReading) (before : WellRead reading) :
    WellRead (journalReadPair iso8601 key value reading) := by
  have committed := journalCommitRecord_wellRead reading before
  unfold journalReadPair
  simp only
  split_ifs
  · exact ⟨committed.record, committed.queue, committed.flag⟩
  all_goals first
    | exact before
    | exact ⟨before.record, before.queue, before.flag⟩
    | exact ⟨rfl, before.queue, before.flag⟩

theorem journalReadLine_wellRead (iso8601 : Bytes → Option Int) (line : Bytes)
    (reading : JournalReading) (before : WellRead reading) :
    WellRead (journalReadLine iso8601 reading line) := by
  unfold journalReadLine
  simp only
  split_ifs
  · exact before
  · exact before
  · exact journalReadPair_wellRead iso8601 _ _ reading before

theorem journalReadLines_wellRead (iso8601 : Bytes → Option Int) (lines : List Bytes)
    (reading : JournalReading) (before : WellRead reading) :
    WellRead (lines.foldl (journalReadLine iso8601) reading) := by
  induction lines generalizing reading with
  | nil => exact before
  | cons line lines ih => exact ih _ (journalReadLine_wellRead iso8601 line reading before)

theorem journalRead_sourced (iso8601 : Bytes → Option Int) (file : Option Bytes) :
    AllSourced (journalRead iso8601 file []).1 := by
  cases file with
  | none => exact fun record member => (List.not_mem_nil member).elim
  | some text =>
      apply (journalCommitRecord_wellRead _ _).queue
      exact journalReadLines_wellRead iso8601 _ _ ⟨rfl, fun _ member => by simp at member, by simp⟩

/-- The flag that `journal_read` leaves says whether it found a record. -/
theorem journalRead_flag (iso8601 : Bytes → Option Int) (file : Option Bytes) :
    (journalRead iso8601 file []).2 = true ↔ (journalRead iso8601 file []).1 = [] := by
  cases file with
  | none => simp [journalRead]
  | some text =>
      apply (journalCommitRecord_wellRead _ _).flag
      exact journalReadLines_wellRead iso8601 _ _ ⟨rfl, fun _ member => by simp at member, by simp⟩

/-! ### Writing -/

theorem journalText_sourced (queue : List Record) (sourced : AllSourced queue) :
    ∃ text, journalText queue = .ok text ∧ (queue ≠ [] → text ≠ []) := by
  induction queue with
  | nil => exact ⟨[], rfl, fun some => (some rfl).elim⟩
  | cons record queue ih =>
      rcases ih (fun other member => sourced other (List.mem_cons_of_mem _ member)) with
        ⟨rest, written, -⟩
      rcases Option.isSome_iff_exists.mp (sourced record List.mem_cons_self) with ⟨source, known⟩
      refine ⟨_, by rw [journalText, journalWriteRecord, known, written]; rfl, ?_⟩
      intro _
      simp [lit]

/-- What one `as_save_cache` does to the file of a scrobbler. -/
def Written (journalFileEmpty : Bool) (before after : Files) (each : Instance) : Prop :=
  ∀ path, each.journal = some path →
    if each.queue = [] ∧ journalFileEmpty then after path = before path
    else ∃ text, journalText each.queue = .ok text ∧ (each.queue ≠ [] → text ≠ []) ∧
      after path = some text

theorem journalWrite_holds (journalFileEmpty : Bool) (queue : List Record)
    (file : Option Bytes) (sourced : AllSourced queue) :
    Holds Allowed
      (fun after =>
        if queue = [] ∧ journalFileEmpty then after = file
        else ∃ text, journalText queue = .ok text ∧ (queue ≠ [] → text ≠ []) ∧
          after = some text)
      (journalWrite true journalFileEmpty queue file) := by
  rcases journalText_sourced queue sourced with ⟨text, written, nonempty⟩
  unfold journalWrite
  by_cases skipped : queue = [] ∧ journalFileEmpty
  · simp only [if_pos skipped]
    exact (rfl : file = file)
  · simp only [if_neg skipped, if_true, written]
    exact Exists.intro text ⟨rfl, nonempty, rfl⟩

theorem scrobblerSaveCallback_holds (journalFileEmpty : Bool) (files : Files) (each : Instance)
    (sourced : AllSourced each.queue) :
    Holds Allowed
      (fun after => Written journalFileEmpty files after each ∧
        ∀ path, each.journal ≠ some path → after path = files path)
      (scrobblerSaveCallback journalFileEmpty files each.world.scrobbler) := by
  unfold scrobblerSaveCallback
  split
  · rename_i configured
    have unset : each.journal = none := configured
    refine And.intro ?_ fun _ _ => rfl
    intro path found
    rw [unset] at found
    cases found
  · rename_i path configured
    have same : each.journal = some path := configured
    apply (journalWrite_holds journalFileEmpty each.queue (files path) sourced).bind
    intro file outcome
    refine And.intro ?_ ?_
    · intro other found
      have equal : other = path := Option.some.inj (found.symm.trans same)
      simpa only [equal, if_true] using outcome
    · intro other different
      have apart : other ≠ path := by
        intro equal
        rw [equal] at different
        exact different same
      exact if_neg apart

theorem mem_journals_cons (each : Instance) (scrobblers : List Instance) (path : Bytes) :
    path ∈ journals (each :: scrobblers) ↔ each.journal = some path ∨ path ∈ journals scrobblers := by
  simp only [journals, List.mem_filterMap, List.mem_cons, exists_eq_or_imp]

theorem journals_cons_nodup (each : Instance) (scrobblers : List Instance)
    (distinct : (journals (each :: scrobblers)).Nodup) :
    (∀ path, each.journal = some path → path ∉ journals scrobblers) ∧
      (journals scrobblers).Nodup := by
  cases configured : each.journal with
  | none =>
      constructor
      · intro path mine
        cases mine
      · simpa [journals, configured] using distinct
  | some own =>
      have both : own ∉ journals scrobblers ∧ (journals scrobblers).Nodup := by
        simpa [journals, configured] using distinct
      refine ⟨?_, both.2⟩
      rintro path ⟨⟩
      exact both.1

theorem saveAll_holds (journalFileEmpty : Bool) (scrobblers : List Instance) (files : Files)
    (sourced : ∀ each ∈ scrobblers, AllSourced each.queue)
    (distinct : (journals scrobblers).Nodup) :
    Holds Allowed
      (fun after => (∀ each ∈ scrobblers, Written journalFileEmpty files after each) ∧
        ∀ path ∉ journals scrobblers, after path = files path)
      (scrobblers.foldlM
        (fun files each => scrobblerSaveCallback journalFileEmpty files each.world.scrobbler)
        files) := by
  induction scrobblers generalizing files with
  | nil => exact And.intro (fun each member => (List.not_mem_nil member).elim) fun _ _ => rfl
  | cons each scrobblers ih =>
      rw [List.foldlM_cons]
      apply Holds.bind (scrobblerSaveCallback_holds journalFileEmpty files each
        (sourced each List.mem_cons_self))
      intro middle first
      rcases journals_cons_nodup each scrobblers distinct with ⟨apart, distinctRest⟩
      apply (ih middle (fun other member => sourced other (List.mem_cons_of_mem _ member))
        distinctRest).mono
      intro after rest
      constructor
      · intro other member
        rcases List.mem_cons.mp member with rfl | later
        · intro path mine
          have kept : after path = middle path := rest.2 path (apart path mine)
          simpa only [kept] using first.1 path mine
        · intro path mine
          have different : each.journal ≠ some path := by
            intro equal
            exact apart path equal (List.mem_filterMap.mpr ⟨other, later, mine⟩)
          simpa only [first.2 path different] using rest.1 other later path mine
      · intro path outside
        rw [mem_journals_cons, not_or] at outside
        exact (rest.2 path outside.2).trans (first.2 path outside.1)

/-! ### Between two saves -/

/-- A scrobbler that keeps its invariant, every record of it with a source. -/
def Healthy (each : Instance) : Prop :=
  ∃ config log, Invariant config log each.world ∧ AllSourced log

theorem Healthy.sourced {each : Instance} (healthy : Healthy each) : AllSourced each.queue := by
  rcases healthy with ⟨config, log, invariant, sourced⟩
  intro record member
  apply sourced
  rw [invariant.books.complete]
  exact List.mem_append_right _ member

theorem pushed_sourced (event : Event) : AllSourced (pushed event) := by
  intro record member
  cases event with
  | songchange file artist track album number mbid length time2 timestamp =>
      rw [pushed, Option.mem_toList] at member
      unfold songchangeRecord at member
      split_ifs at member <;> cases member <;> rfl
  | timer => simp [pushed] at member
  | nowPlaying => simp [pushed] at member
  | http => simp [pushed] at member
  | otherSources => simp [pushed] at member

/-- What an event other than a save leaves of a scrobbler. -/
structure Continues (before after : Instance) : Prop where
  healthy : Healthy after
  saved : after.saved = before.saved
  journal : after.journal = before.journal

theorem receive_continues (checksum : Bytes → Bytes) (received : Option Event)
    (each : Instance) (healthy : Healthy each) :
    Holds Allowed (fun world => Continues each { each with world := world })
      (each.receive checksum received) := by
  cases received with
  | none => exact (⟨healthy, rfl, rfl⟩ : Continues each each)
  | some event =>
      rcases healthy with ⟨config, log, invariant, sourced⟩
      apply (step_holds checksum log each.world event invariant).mono
      intro world next
      refine ⟨⟨config, _, next, sourced.append (pushed_sourced event)⟩, rfl, ?_⟩
      calc
        world.scrobbler.config.journal = config.journal := by rw [next.books.config]
        _ = each.world.scrobbler.config.journal := by rw [invariant.books.config]

theorem stepEach_continues (checksum : Bytes → Bytes) (event : DaemonEvent) (index : Nat)
    (scrobblers : List Instance) (healthy : ∀ each ∈ scrobblers, Healthy each) :
    Holds Allowed (List.Forall₂ Continues scrobblers)
      (stepEach checksum event index scrobblers) := by
  induction scrobblers generalizing index with
  | nil => exact List.Forall₂.nil
  | cons each scrobblers ih =>
      apply (receive_continues checksum (event.received index) each
        (healthy each List.mem_cons_self)).bind
      intro world first
      apply (ih (index + 1) fun other later =>
        healthy other (List.mem_cons_of_mem _ later)).bind
      intro rest others
      exact List.Forall₂.cons first others

/-! ### Runs -/

/-- A file is empty now if it was empty at the start and no save found songs. -/
def FileOf (initial current : Files) (each : Instance) : Prop :=
  ∀ path, each.journal = some path →
    (current path = some [] ↔ initial path = some [] ∧ ∀ queue ∈ each.saved, queue = [])

structure Tracked (initial : Files) (paths : List Bytes) (journalFileEmpty : Bool)
    (daemon : Daemon) : Prop where
  healthy : ∀ each ∈ daemon.scrobblers, Healthy each
  paths : journals daemon.scrobblers = paths
  flag : daemon.journalFileEmpty = journalFileEmpty
  files : journalFileEmpty = true →
    ∀ each ∈ daemon.scrobblers, FileOf initial daemon.files each

section

variable {initial : Files} {paths : List Bytes} {journalFileEmpty : Bool}

theorem forall₂_mem_right {before after : List Instance}
    (related : List.Forall₂ Continues before after) (each : Instance) (member : each ∈ after) :
    ∃ old ∈ before, Continues old each := by
  induction related with
  | nil => exact (List.not_mem_nil member).elim
  | cons first rest ih =>
      rcases List.mem_cons.mp member with rfl | later
      · exact ⟨_, List.mem_cons_self, first⟩
      · rcases ih later with ⟨old, present, continued⟩
        exact ⟨old, List.mem_cons_of_mem _ present, continued⟩

theorem journals_continues {before after : List Instance}
    (related : List.Forall₂ Continues before after) : journals after = journals before := by
  induction related with
  | nil => rfl
  | cons first rest ih =>
      unfold journals at ih ⊢
      rw [List.filterMap_cons, List.filterMap_cons, first.journal, ih]

theorem stepEach_tracked (checksum : Bytes → Bytes) (event : DaemonEvent) (daemon : Daemon)
    (tracked : Tracked initial paths journalFileEmpty daemon) :
    Holds Allowed
      (fun scrobblers => Tracked initial paths journalFileEmpty
        { daemon with scrobblers := scrobblers })
      (stepEach checksum event 0 daemon.scrobblers) := by
  apply (stepEach_continues checksum event 0 daemon.scrobblers tracked.healthy).mono
  intro scrobblers related
  refine ⟨?_, (journals_continues related).trans tracked.paths, tracked.flag, ?_⟩
  · intro each member
    rcases forall₂_mem_right related each member with ⟨old, -, continued⟩
    exact continued.healthy
  · intro empty each member path configured
    rcases forall₂_mem_right related each member with ⟨old, present, continued⟩
    rw [continued.saved]
    exact tracked.files empty old present path (continued.journal ▸ configured)

/-- When the files are the queues after a save: the flag lets it write them all, or the
empty queues have had empty files all along. -/
def KeptEmpty (initial : Files) (daemon : Daemon) : Prop :=
  ∀ each ∈ daemon.scrobblers, ∀ path, each.journal = some path → each.queue = [] →
    initial path = some [] ∧ ∀ queue ∈ each.saved, queue = []

theorem FileOf.written {before after : Files} {each : Instance}
    (file : FileOf initial before each) (written : Written true before after each) :
    FileOf initial after { each with saved := each.saved ++ [each.queue] } := by
  intro path configured
  have outcome := written path configured
  by_cases empty : each.queue = []
  · rw [if_pos ⟨empty, rfl⟩] at outcome
    rw [outcome, file path configured]
    simp only [List.forall_mem_append, List.forall_mem_singleton, empty, and_true]
  · rw [if_neg fun both => empty both.1] at outcome
    rcases outcome with ⟨text, -, nonempty, filled⟩
    simp [filled, nonempty empty, empty]

/-- The file of one scrobbler after a save with the flag set. -/
theorem saved_file_iff {before after : Files} {each : Instance} {path : Bytes}
    (file : FileOf initial before each) (written : Written true before after each)
    (configured : each.journal = some path) :
    (∃ text, journalText each.queue = .ok text ∧ after path = some text) ↔
      (each.queue = [] → initial path = some [] ∧ ∀ queue ∈ each.saved, queue = []) := by
  have outcome := written path configured
  by_cases empty : each.queue = []
  · rw [if_pos ⟨empty, rfl⟩] at outcome
    have history := file path configured
    simp [empty, journalText, outcome, history]
  · rw [if_neg fun both => empty both.1] at outcome
    rcases outcome with ⟨text, known, -, filled⟩
    simp [empty, known, filled]

theorem saved_save (daemon : Daemon) (after : Files) :
    Saved { daemon with
        scrobblers := daemon.scrobblers.map fun each =>
          { each with saved := each.saved ++ [each.world.scrobbler.queue] }
        files := after } ↔
      ∀ each ∈ daemon.scrobblers, ∀ path, each.journal = some path →
        ∃ text, journalText each.queue = .ok text ∧ after path = some text := by
  unfold Saved
  simp only [List.forall_mem_map]
  rfl

theorem written_iff_keptEmpty {daemon : Daemon} {after : Files}
    (tracked : Tracked initial paths journalFileEmpty daemon)
    (written : ∀ each ∈ daemon.scrobblers, Written journalFileEmpty daemon.files after each) :
    (∀ each ∈ daemon.scrobblers, ∀ path, each.journal = some path →
        ∃ text, journalText each.queue = .ok text ∧ after path = some text) ↔
      journalFileEmpty = false ∨ KeptEmpty initial daemon := by
  cases journalFileEmpty with
  | false =>
      refine ⟨fun _ => .inl rfl, fun _ each member path configured => ?_⟩
      have filled := written each member path configured
      rw [if_neg (by simp)] at filled
      rcases filled with ⟨text, known, -, there⟩
      exact ⟨text, known, there⟩
  | true =>
      have files := tracked.files rfl
      constructor
      · intro saved
        right
        intro each member path configured
        exact (saved_file_iff (files each member) (written each member) configured).mp
          (saved each member path configured)
      · intro kept each member path configured
        rcases kept with impossible | kept
        · cases impossible
        · exact (saved_file_iff (files each member) (written each member) configured).mpr
            (kept each member path configured)

theorem asSaveCache_holds (daemon : Daemon) (distinct : paths.Nodup)
    (tracked : Tracked initial paths journalFileEmpty daemon) :
    Holds Allowed
      (fun next => Tracked initial paths journalFileEmpty next ∧
        (Saved next ↔ journalFileEmpty = false ∨ KeptEmpty initial daemon))
      (asSaveCache daemon) := by
  unfold asSaveCache
  apply (saveAll_holds daemon.journalFileEmpty daemon.scrobblers daemon.files
    (fun each member => (tracked.healthy each member).sourced)
    (tracked.paths ▸ distinct)).bind
  intro after outcome
  have written := outcome.1
  rw [tracked.flag] at written
  refine And.intro ⟨?_, ?_, tracked.flag, ?_⟩ ?_
  · intro each member
    rcases List.mem_map.mp member with ⟨old, present, rfl⟩
    exact tracked.healthy old present
  · rw [← tracked.paths]
    unfold journals
    rw [List.filterMap_map]
    rfl
  · intro empty each member
    rcases List.mem_map.mp member with ⟨old, present, rfl⟩
    subst empty
    exact (tracked.files rfl old present).written (written old present)
  · exact (saved_save daemon after).trans (written_iff_keptEmpty tracked written)

theorem daemonStep_tracked (checksum : Bytes → Bytes) (daemon : Daemon) (event : DaemonEvent)
    (distinct : paths.Nodup) (tracked : Tracked initial paths journalFileEmpty daemon) :
    Holds Allowed (Tracked initial paths journalFileEmpty)
      (daemonStep checksum daemon event) := by
  cases event with
  | save => exact (asSaveCache_holds daemon distinct tracked).mono fun _ both => both.1
  | songchange => exact (stepEach_tracked checksum _ daemon tracked).bind fun _ next => next
  | nowPlaying => exact (stepEach_tracked checksum _ daemon tracked).bind fun _ next => next
  | timer => exact (stepEach_tracked checksum _ daemon tracked).bind fun _ next => next
  | http => exact (stepEach_tracked checksum _ daemon tracked).bind fun _ next => next
  | otherSources => exact (stepEach_tracked checksum _ daemon tracked).bind fun _ next => next

end

section

variable (iso8601 : Bytes → Option Int)

/-- The journal that `as_init` reads last decides the flag. -/
def flagAfter (files : Files) (configs : List ScrobblerConfig) : Bool :=
  match (configs.filterMap (·.journal)).getLast? with
  | none => false
  | some path => (journalRead iso8601 (files path) []).2

structure Started (files : Files) (configs : List ScrobblerConfig) (daemon : Daemon) :
    Prop where
  healthy : ∀ each ∈ daemon.scrobblers, Healthy each
  fresh : ∀ each ∈ daemon.scrobblers, each.saved = []
  paths : journals daemon.scrobblers = (configs.filterMap (·.journal)).reverse
  untouched : daemon.files = files
  flag : daemon.journalFileEmpty = flagAfter iso8601 files configs

theorem scrobblerNewCallback_started (files : Files) (past : List ScrobblerConfig)
    (daemon : Daemon) (config : ScrobblerConfig) (started : Started iso8601 files past daemon) :
    Holds Allowed (Started iso8601 files (past ++ [config]))
      (daemon.scrobblerNewCallback iso8601 config) := by
  have added (queue : List Record) (journalFileEmpty : Bool) (sourced : AllSourced queue)
      (flag : journalFileEmpty = flagAfter iso8601 files (past ++ [config])) :
      Holds Allowed (Started iso8601 files (past ++ [config])) (do
        let world ← scrobblerNewCallback config queue daemon.scrobblers.length
        return { daemon with
          scrobblers := ⟨world, []⟩ :: daemon.scrobblers
          journalFileEmpty := journalFileEmpty }) := by
    apply (scrobblerNewCallback_holds config queue daemon.scrobblers.length).bind
    intro world invariant
    have journal : (⟨world, []⟩ : Instance).journal = config.journal :=
      congrArg ScrobblerConfig.journal invariant.books.config
    refine (⟨?_, ?_, ?_, started.untouched, flag⟩ :
      Started iso8601 files (past ++ [config]) ⟨⟨world, []⟩ :: _, journalFileEmpty, _⟩)
    · intro each member
      rcases List.mem_cons.mp member with rfl | old
      · exact ⟨config, queue, invariant, sourced⟩
      · exact started.healthy each old
    · intro each member
      rcases List.mem_cons.mp member with rfl | old
      · rfl
      · exact started.fresh each old
    · have earlier := started.paths
      rw [journals] at earlier ⊢
      rw [List.filterMap_cons, journal, List.filterMap_append, List.reverse_append, ← earlier]
      cases configured : config.journal with
      | none => simp [configured]
      | some path => simp [configured]
  rw [Daemon.scrobblerNewCallback]
  cases configured : config.journal with
  | none =>
      apply added [] daemon.journalFileEmpty (fun _ member => (List.not_mem_nil member).elim)
      rw [started.flag, flagAfter, flagAfter, List.filterMap_append]
      simp [configured]
  | some path =>
      apply added _ _ (journalRead_sourced iso8601 (daemon.files path))
      rw [started.untouched, flagAfter, List.filterMap_append]
      simp only [List.filterMap_cons, configured, List.filterMap_nil, List.getLast?_concat]
      rfl

theorem asInit_started (configs : List ScrobblerConfig) (files : Files) :
    Holds Allowed (Started iso8601 files configs) (asInit iso8601 configs files) := by
  have initial : Started iso8601 files []
      { scrobblers := [], journalFileEmpty := false, files := files } :=
    ⟨by simp, by simp, rfl, rfl, rfl⟩
  exact Holds.foldlM (Started iso8601 files)
    (fun past daemon config => scrobblerNewCallback_started iso8601 files past daemon config)
    configs [] _ initial

theorem Started.tracked {files : Files} {configs : List ScrobblerConfig} {daemon : Daemon}
    (started : Started iso8601 files configs daemon) :
    Tracked files (configs.filterMap (·.journal)).reverse (flagAfter iso8601 files configs)
      daemon := by
  refine ⟨started.healthy, started.paths, started.flag, ?_⟩
  intro _ each member path _
  simp [started.untouched, started.fresh each member]

/-- The journal that was read last had a record in it. -/
def LastJournalHasRecord (files : Files) (configs : List ScrobblerConfig) : Prop :=
  ∃ path, (configs.filterMap (·.journal)).getLast? = some path ∧
    (journalRead iso8601 (files path) []).1 ≠ []

/-- After every run, the next `as_save_cache` leaves the queues in the journal files if and
only if the last journal read at the start had a record, or the scrobblers whose queue is
empty now started with an empty file and had no song at any earlier save. -/
theorem run_saved_iff (checksum : Bytes → Bytes) (config : Config) (files : Files)
    (events : List DaemonEvent) :
    Holds (fun reason => reason = .recordIsDefined)
      (fun daemon => Holds (fun reason => reason = .recordIsDefined)
        (fun next => Saved next ↔
          LastJournalHasRecord iso8601 files config.scrobblers ∨ KeptEmpty files daemon)
        (asSaveCache daemon))
      (daemonRun checksum iso8601 config.scrobblers files events) := by
  have distinct : ((config.scrobblers.filterMap (·.journal)).reverse).Nodup :=
    List.nodup_reverse.mpr config.distinct
  apply (asInit_started iso8601 config.scrobblers files).bind
  intro start started
  apply (Holds.foldlM (fun _ daemon => Tracked files _ _ daemon)
    (fun _ daemon event tracked => daemonStep_tracked checksum daemon event distinct tracked)
    events [] start (started.tracked iso8601)).mono
  intro daemon tracked
  apply (asSaveCache_holds daemon distinct tracked).mono
  intro next both
  rw [both.2]
  cases last : (config.scrobblers.filterMap (·.journal)).getLast? with
  | none =>
      have without : journals daemon.scrobblers = [] := by
        rw [tracked.paths, List.getLast?_eq_none_iff.mp last]
        rfl
      have kept : KeptEmpty files daemon := by
        intro each member path configured _
        have listed : path ∈ journals daemon.scrobblers :=
          List.mem_filterMap.mpr ⟨each, member, configured⟩
        rw [without] at listed
        exact (List.not_mem_nil listed).elim
      exact ⟨fun _ => .inr kept, fun _ => .inr kept⟩
  | some path =>
      have flag : flagAfter iso8601 files config.scrobblers = false ↔
          LastJournalHasRecord iso8601 files config.scrobblers := by
        rw [flagAfter, LastJournalHasRecord, last]
        simp only [Option.some.injEq, exists_eq_left']
        rw [← Bool.not_eq_true, journalRead_flag]
      rw [flag]

end

/-! ### A song that comes back -/

def lastFm : ScrobblerConfig :=
  { url := lit "http://post.audioscrobbler.com", username := lit "u", password := lit "p"
    journal := some (lit "lastfm.journal") }

/-- A song is played, saved, submitted with success and saved again. -/
def acknowledged : List DaemonEvent :=
  [ .songchange (lit "a.ogg") (some (lit "A")) (some (lit "T")) none none none 120 none
      (lit "7"),
    .save,
    .timer 0 1 (lit "8") [],
    .http 0 0 (.response (lit "OK\nsession\nnow\nsubmit\n")) [],
    .http 0 0 (.response (lit "OK\n")) [],
    .save ]

def acknowledgedRun : Except Assertion Daemon :=
  daemonRun (fun _ => []) (fun _ => none) [lastFm] (fun _ => some []) acknowledged

def song : Record :=
  { artist := some (lit "A"), track := some (lit "T"), album := none, number := none
    mbid := none, time := some (lit "7"), length := 120, source := some (lit "P") }

theorem acknowledgedRun_eq :
    acknowledgedRun.toOption.map (fun daemon => (daemon.scrobblers.map Instance.journal,
        daemon.scrobblers.map Instance.queue, daemon.files (lit "lastfm.journal"))) =
      some ([lastFm.journal], [[]], (journalText [song]).toOption) := by
  decide

/-- The last save left the song in the file, and the next start queues it again. -/
theorem acknowledged_song_returns :
    ¬Holds (fun reason => reason = .recordIsDefined) Saved acknowledgedRun ∧
      (acknowledgedRun >>= fun daemon =>
          asInit (fun _ => none) [lastFm] daemon.files).toOption.map
        (fun daemon => daemon.scrobblers.map Instance.queue) = some [[song]] := by
  constructor
  · intro saved
    have computed := acknowledgedRun_eq
    cases outcome : acknowledgedRun with
    | error reason =>
        rw [outcome] at computed
        cases computed
    | ok daemon =>
        rw [outcome] at saved computed
        have parts := Option.some.inj computed
        rcases Prod.mk.inj parts with ⟨journal, rest⟩
        rcases Prod.mk.inj rest with ⟨queue, file⟩
        rcases List.map_eq_singleton_iff.mp journal with ⟨each, single, configured⟩
        rcases saved each (by rw [single]; exact List.mem_singleton_self each) _ configured with
          ⟨text, written, stored⟩
        have empty : each.queue = [] := by simpa [single] using queue
        rw [empty] at written
        rw [file] at stored
        cases written
        revert stored
        decide
  · decide

end Mpdcron.AudioScrobbler
