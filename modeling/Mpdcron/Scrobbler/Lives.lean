import Mathlib.Algebra.Order.Group.Multiset
import Mpdcron.Scrobbler.Delivered
import Mpdcron.Scrobbler.JournalRoundTrip
import Mpdcron.Scrobbler.Saved

/-! The journals over the lives of the daemon, one process after the other, each of them
killed or ended by `destroy`: no record that was saved is lost, and none is made up. -/

namespace Mpdcron.AudioScrobbler

open CString Triple

/-! ### What the journal does to a record, it does once -/

theorem chug_chomp (text : Bytes) (front : chug text = text) : chug (chomp text) = chomp text := by
  have start : chomp text <+: text := List.rdropWhile_prefix isSpace text
  cases trimmed : chomp text with
  | nil => rfl
  | cons first rest =>
      rw [trimmed] at start
      rcases start with ⟨behind, whole⟩
      by_cases space : isSpace first
      · rw [← whole, List.cons_append, chug_cons_space first _ space] at front
        have shorter : (chug (rest ++ behind)).length ≤ (rest ++ behind).length :=
          (List.dropWhile_suffix isSpace).length_le
        rw [front, List.length_cons] at shorter
        omega
      · exact chug_cons_other first rest (by simpa using space)

theorem strip_strip (text : Bytes) : strip (strip text) = strip text := by
  have once : chug (chug text) = chug text := List.dropWhile_idempotent isSpace text
  rw [strip, strip, chug_chomp _ once]
  exact List.rdropWhile_idempotent isSpace (chug text)

theorem mem_strip {ch : UInt8} {text : Bytes} (member : ch ∈ strip text) : ch ∈ text :=
  (List.dropWhile_suffix isSpace).subset ((List.rdropWhile_prefix isSpace _).subset member)

theorem strip_length (text : Bytes) : (strip text).length ≤ text.length :=
  (List.rdropWhile_prefix isSpace _).length_le.trans (List.dropWhile_suffix isSpace).length_le

theorem Record.stripped_stripped (record : Record) : record.stripped.stripped = record.stripped := by
  have twice : ∀ field : Option Bytes, (field.map strip).map strip = field.map strip := by
    intro field
    cases field with
    | none => rfl
    | some text => exact congrArg some (strip_strip text)
  simp only [Record.stripped, twice]

/-- Each line has one as long. -/
def Covered (lines others : List Bytes) : Prop :=
  ∀ line ∈ lines, ∃ longer ∈ others, line.length ≤ longer.length

theorem Covered.append {lines others later behind : List Bytes} (first : Covered lines others)
    (second : Covered later behind) : Covered (lines ++ later) (others ++ behind) := by
  intro line member
  rcases List.mem_append.mp member with early | late
  · rcases first line early with ⟨longer, listed, bound⟩
    exact ⟨longer, List.mem_append_left _ listed, bound⟩
  · rcases second line late with ⟨longer, listed, bound⟩
    exact ⟨longer, List.mem_append_right _ listed, bound⟩

theorem covered_refl (lines : List Bytes) : Covered lines lines :=
  fun line member => ⟨line, member, Nat.le_refl _⟩

theorem stringLines_covered (field : UInt8) (value : Option Bytes) :
    Covered (stringLines field (value.map strip)) (stringLines field value) := by
  intro line member
  cases value with
  | none => cases member
  | some text =>
      refine ⟨fieldLine field text, List.mem_singleton_self _, ?_⟩
      rw [List.mem_singleton.mp member]
      have shorter := strip_length text
      simp only [fieldLine, List.length_cons, List.length_append]
      omega

theorem Record.stripped_lines (record : Record) (source : Bytes) :
    Covered (record.stripped.lines source) (record.lines source) :=
  ((((((stringLines_covered 97 record.artist).append (stringLines_covered 116 record.track)).append
    (stringLines_covered 98 record.album)).append (stringLines_covered 110 record.number)).append
      (stringLines_covered 109 record.mbid)).append (covered_refl _)).append (covered_refl _)

/-- What was read can be written again. -/
theorem Record.Writable.stripped {record : Record} (writable : record.Writable) :
    record.stripped.Writable := by
  have text (field : Option Bytes) (listed : field ∈
      [record.artist, record.track, record.album, record.number, record.mbid, record.time])
      (value : Bytes) (given : field.map strip = some value) :
      (0 : UInt8) ∉ value ∧ newline ∉ value := by
    cases field with
    | none => cases given
    | some original =>
        cases given
        have plain := writable.strings original listed
        exact ⟨fun inside => plain.1 (mem_strip inside), fun inside => plain.2 (mem_strip inside)⟩
  have plain : record.stripped.Plain := by
    refine ⟨?_, ?_, writable.plain.source⟩
    · have defined := writable.isDefined
      simpa [Record.isDefined, Record.stripped] using defined
    · intro value given
      simp only [Record.stripped, List.mem_cons, List.not_mem_nil, or_false] at given
      rcases given with artist | track | album | number | mbid | time
      · exact text record.artist (by simp) value artist.symm
      · exact text record.track (by simp) value track.symm
      · exact text record.album (by simp) value album.symm
      · exact text record.number (by simp) value number.symm
      · exact text record.mbid (by simp) value mbid.symm
      · exact writable.strings value (by simp [time])
  refine ⟨plain.isDefined, plain.strings, writable.time, writable.length, writable.source, ?_⟩
  intro written given line member
  rw [journalWriteRecord_sent record.stripped _ plain.source_some] at given
  cases given
  rw [splitOn_sent_plain _ plain.lines_oneLine] at member
  rcases List.mem_append.mp member with listed | last
  · rcases record.stripped_lines _ line listed with ⟨longer, original, bound⟩
    have fits := writable.lines_fit longer original
    omega
  · rw [List.mem_singleton.mp last]
    exact Nat.zero_le _

/-! ### Accounts -/

/-- Records as they are read back, counted. -/
def asRead (records : List Record) : Multiset Record := records.map Record.stripped

theorem asRead_append (first second : List Record) :
    asRead (first ++ second) = asRead first + asRead second := by
  rw [asRead, List.map_append]
  rfl

theorem mem_asRead {records : List Record} {record : Record} :
    record ∈ asRead records ↔ ∃ original ∈ records, original.stripped = record := by
  rw [asRead, Multiset.mem_coe, List.mem_map]

theorem asRead_front {first second : List Record} (longer : first <+: second) :
    asRead first ≤ asRead second := by
  rcases longer with ⟨behind, whole⟩
  rw [← whole, asRead_append]
  exact Multiset.le_add_right _ _

/-- The records that were pushed, and those of them that a save came after. -/
structure Account where
  pushed : List Record
  saved : List Record

def DaemonEvent.pushed : DaemonEvent → List Record
  | .songchange file artist track album number mbid length time2 timestamp =>
      (songchangeRecord file artist track album number mbid length time2 timestamp).toList
  | _ => []

def Account.after (account : Account) : DaemonEvent → Account
  | .save => ⟨account.pushed, account.pushed⟩
  | event => ⟨account.pushed ++ event.pushed, account.saved⟩

def accountOf (events : List DaemonEvent) : Account := events.foldl Account.after ⟨[], []⟩

def Config.paths (config : Config) : List Bytes := config.scrobblers.filterMap (·.journal)

/-- The records that the next start reads from a journal. -/
def journalQueue (iso8601 : Bytes → Option Int) (files : Files) (path : Bytes) : List Record :=
  (journalRead iso8601 (files path) []).1

/-! ### Lives -/

inductive Ending where
  | killed
  | destroyed

/-- What one process does, from `init` on. -/
structure Life where
  events : List DaemonEvent
  ending : Ending

/-- `destroy` calls `as_save_cache`. -/
def Life.all (life : Life) : List DaemonEvent :=
  match life.ending with
  | .killed => life.events
  | .destroyed => life.events ++ [.save]

/-- The records that have to survive. -/
def Life.saved (life : Life) : List Record := (accountOf life.all).saved

def Life.pushed (life : Life) : List Record := (accountOf life.all).pushed

/-- The records that the scrobbler of a journal submitted. -/
def Daemon.submitted (daemon : Daemon) (path : Bytes) : List Record :=
  match daemon.scrobblers.find? fun each => each.journal = some path with
  | none => []
  | some each => each.world.removed

/-! ### One scrobbler -/

section

variable (iso8601 : Bytes → Option Int)

/-- The journal of a scrobbler holds records that were written, and with those that were
submitted all that had to survive. -/
structure Kept (initial : List Record) (account : Account) (files : Files) (each : Instance)
    (path : Bytes) : Prop where
  log : ∃ config, Invariant config (initial ++ account.pushed) each.world
  known : ∀ record ∈ initial ++ account.pushed, record.Writable
  durable : asRead (initial ++ account.saved)
    ≤ asRead each.world.removed + journalQueue iso8601 files path
  legible : ∃ queue : List Record, (∀ record ∈ queue, record.Writable) ∧
    journalQueue iso8601 files path = queue.map Record.stripped
  honest : ∀ record ∈ journalQueue iso8601 files path,
    record ∈ asRead (initial ++ account.pushed)

theorem journalQueue_text (files : Files) (path : Bytes) (queue : List Record)
    (writable : ∀ record ∈ queue, record.Writable) (text : Bytes)
    (written : journalText queue = .ok text) (filled : files path = some text) :
    journalQueue iso8601 files path = queue.map Record.stripped := by
  rw [journalQueue, filled]
  by_cases empty : queue = []
  · subst empty
    cases written
    rfl
  · rcases journalRead_journalWrite iso8601 false queue none empty writable with
      ⟨other, wrote, read⟩
    rw [journalWrite, if_neg (by simp [empty]), if_pos rfl, written] at wrote
    cases wrote
    rw [read]

variable {iso8601} {initial : List Record} {account : Account} {files : Files} {path : Bytes}

/-- A save makes everything durable, also where it leaves an old file in place of an empty one. -/
theorem Kept.saves {each : Instance} (kept : Kept iso8601 initial account files each path)
    {journalFileEmpty : Bool} {after : Files} (written : Written journalFileEmpty files after each)
    (configured : each.journal = some path) (saved : List (List Record)) :
    Kept iso8601 initial ⟨account.pushed, account.pushed⟩ after { each with saved := saved } path := by
  rcases kept.log with ⟨config, invariant⟩
  have complete : initial ++ account.pushed = each.world.removed ++ each.queue :=
    invariant.books.complete
  have queued : ∀ record ∈ each.queue, record ∈ initial ++ account.pushed := by
    intro record member
    rw [complete]
    exact List.mem_append_right _ member
  have writable : ∀ record ∈ each.queue, record.Writable :=
    fun record member => kept.known record (queued record member)
  have outcome := written path configured
  split_ifs at outcome with skipped
  · have same : journalQueue iso8601 after path = journalQueue iso8601 files path := by
      rw [journalQueue, journalQueue, outcome]
    refine ⟨kept.log, kept.known, ?_, same ▸ kept.legible, same ▸ kept.honest⟩
    rw [complete, skipped.1, List.append_nil]
    exact Multiset.le_add_right _ _
  · rcases outcome with ⟨text, wrote, -, filled⟩
    have read := journalQueue_text iso8601 after path each.queue writable text wrote filled
    refine ⟨kept.log, kept.known, ?_, ⟨each.queue, writable, read⟩, ?_⟩
    · rw [complete, asRead_append, read]
      exact le_refl _
    · intro record member
      rw [read] at member
      rcases List.mem_map.mp member with ⟨original, inQueue, rfl⟩
      exact mem_asRead.mpr ⟨original, queued original inQueue, rfl⟩

/-- An event pushes what the account says, whichever scrobbler it goes to. -/
theorem received_pushed (event : DaemonEvent) (index : Nat) :
    ((event.received index).map pushed).getD [] = event.pushed := by
  cases event with
  | songchange => rfl
  | nowPlaying => rfl
  | timer scrobbler id timestr results =>
      simp only [DaemonEvent.received]
      split_ifs <;> rfl
  | http scrobbler request result results =>
      simp only [DaemonEvent.received]
      split_ifs <;> rfl
  | otherSources => rfl
  | save => rfl

theorem Kept.receives {each : Instance} (kept : Kept iso8601 initial account files each path)
    (checksum : Bytes → Bytes) (event : DaemonEvent) (index : Nat)
    (writable : ∀ record ∈ event.pushed, record.Writable) :
    Holds Allowed (fun world =>
        Kept iso8601 initial ⟨account.pushed ++ event.pushed, account.saved⟩ files
          { each with world := world } path)
      (each.receive checksum (event.received index)) := by
  have adds := received_pushed event index
  rcases kept.log with ⟨config, invariant⟩
  have next (world : World)
      (after : Invariant config (initial ++ (account.pushed ++ event.pushed)) world)
      (grown : each.world.removed <+: world.removed) :
      Kept iso8601 initial ⟨account.pushed ++ event.pushed, account.saved⟩ files
        { each with world := world } path := by
    refine ⟨⟨config, after⟩, ?_, ?_, kept.legible, ?_⟩
    · intro record member
      rw [← List.append_assoc] at member
      rcases List.mem_append.mp member with old | new
      · exact kept.known record old
      · exact writable record new
    · exact kept.durable.trans (add_le_add_left (asRead_front grown) _)
    · intro record member
      rcases mem_asRead.mp (kept.honest record member) with ⟨original, old, same⟩
      rw [← List.append_assoc]
      exact mem_asRead.mpr ⟨original, List.mem_append_left _ old, same⟩
  cases received : event.received index with
  | none =>
      rw [received] at adds
      apply next each.world _ (List.prefix_refl _)
      rw [← adds]
      simpa using invariant
  | some single =>
      rw [received] at adds
      have after := step_holds checksum _ each.world single invariant
      have grown := step_grows_at_once checksum each.world single invariant
      apply ((after.and grown).allow fun _ both => both.1).mono
      intro world both
      apply next world _ both.2
      rw [← adds, ← List.append_assoc]
      exact both.1

end

/-! ### One life -/

section

variable (iso8601 : Bytes → Option Int)

/-- Every scrobbler with a journal keeps its account. -/
def AllKept (initial : Files) (account : Account) (daemon : Daemon) : Prop :=
  ∀ each ∈ daemon.scrobblers, ∀ path, each.journal = some path →
    Kept iso8601 (journalQueue iso8601 initial path) account daemon.files each path

variable {iso8601} {initial : Files} {account : Account}

/-- Each scrobbler has received the event. -/
def Received (checksum : Bytes → Bytes) (event : DaemonEvent) (before after : Instance) : Prop :=
  ∃ index world, before.receive checksum (event.received index) = .ok world ∧
    after = { before with world := world }

theorem stepEach_received (checksum : Bytes → Bytes) (event : DaemonEvent)
    (scrobblers : List Instance) : ∀ index,
    Holds (fun _ => True) (List.Forall₂ (Received checksum event) scrobblers)
      (stepEach checksum event index scrobblers) := by
  induction scrobblers with
  | nil =>
      intro index
      exact List.Forall₂.nil
  | cons each scrobblers ih =>
      intro index
      rw [stepEach]
      cases moved : each.receive checksum (event.received index) with
      | error reason => exact trivial
      | ok world =>
          apply (ih (index + 1)).bind
          intro rest others
          exact List.Forall₂.cons ⟨index, world, moved, rfl⟩ others

theorem mem_received {checksum : Bytes → Bytes} {event : DaemonEvent} {before after : List Instance}
    (related : List.Forall₂ (Received checksum event) before after) {each : Instance}
    (member : each ∈ after) : ∃ old ∈ before, Received checksum event old each := by
  induction related with
  | nil => cases member
  | cons first rest ih =>
      rcases List.mem_cons.mp member with rfl | later
      · exact ⟨_, List.mem_cons_self, first⟩
      · rcases ih later with ⟨old, present, received⟩
        exact ⟨old, List.mem_cons_of_mem _ present, received⟩

theorem stepEach_kept (checksum : Bytes → Bytes) (event : DaemonEvent) (daemon : Daemon)
    (kept : AllKept iso8601 initial account daemon)
    (healthy : ∀ each ∈ daemon.scrobblers, Healthy each)
    (writable : ∀ record ∈ event.pushed, record.Writable) :
    Holds (fun _ => True)
      (fun scrobblers => AllKept iso8601 initial
        ⟨account.pushed ++ event.pushed, account.saved⟩ { daemon with scrobblers := scrobblers })
      (stepEach checksum event 0 daemon.scrobblers) := by
  apply (stepEach_received checksum event daemon.scrobblers 0).mono
  intro scrobblers related each member path configured
  rcases mem_received related member with ⟨old, present, index, world, moved, rfl⟩
  have continues := receive_continues checksum (event.received index) old (healthy old present)
  rw [moved] at continues
  have before : old.journal = some path := continues.journal ▸ configured
  have next := (kept old present path before).receives checksum event index writable
  rw [moved] at next
  exact next

theorem asSaveCache_kept (daemon : Daemon) (kept : AllKept iso8601 initial account daemon)
    (healthy : ∀ each ∈ daemon.scrobblers, Healthy each)
    (distinct : (journals daemon.scrobblers).Nodup) :
    Holds Allowed (AllKept iso8601 initial ⟨account.pushed, account.pushed⟩)
      (asSaveCache daemon) := by
  apply (saveAll_holds daemon.journalFileEmpty daemon.scrobblers daemon.files
    (fun each member => (healthy each member).sourced) distinct).bind
  intro after outcome each member path configured
  rcases List.mem_map.mp member with ⟨old, present, rfl⟩
  exact (kept old present path configured).saves (outcome.1 old present) configured _

/-- Every event keeps the accounts. -/
theorem daemonStep_kept (checksum : Bytes → Bytes) (daemon : Daemon) (event : DaemonEvent)
    (kept : AllKept iso8601 initial account daemon)
    (healthy : ∀ each ∈ daemon.scrobblers, Healthy each)
    (distinct : (journals daemon.scrobblers).Nodup)
    (writable : ∀ record ∈ event.pushed, record.Writable) :
    Holds (fun _ => True) (AllKept iso8601 initial (account.after event))
      (daemonStep checksum daemon event) := by
  have moved := stepEach_kept checksum event daemon kept healthy writable
  cases event with
  | save => exact (asSaveCache_kept daemon kept healthy distinct).allow fun _ _ => trivial
  | songchange => exact moved.bind fun _ next => next
  | nowPlaying => exact moved.bind fun _ next => next
  | timer => exact moved.bind fun _ next => next
  | http => exact moved.bind fun _ next => next
  | otherSources => exact moved.bind fun _ next => next

end

/-! ### The start of a life -/

section

variable (iso8601 : Bytes → Option Int)

/-- A file that the next start can read, and the save after it write again. -/
def Legible (files : Files) (path : Bytes) : Prop :=
  ∃ queue : List Record, (∀ record ∈ queue, record.Writable) ∧
    journalQueue iso8601 files path = queue.map Record.stripped

variable {iso8601} {files : Files}

theorem Legible.writable {path : Bytes} (legible : Legible iso8601 files path) :
    ∀ record ∈ journalQueue iso8601 files path, record.Writable := by
  rcases legible with ⟨queue, writable, read⟩
  intro record member
  rw [read] at member
  rcases List.mem_map.mp member with ⟨original, queued, rfl⟩
  exact (writable original queued).stripped

/-- What is read from the file now is read the same from any later one. -/
theorem Legible.asRead {path : Bytes} (legible : Legible iso8601 files path) :
    asRead (journalQueue iso8601 files path) = journalQueue iso8601 files path := by
  rcases legible with ⟨queue, -, read⟩
  have twice : (queue.map Record.stripped).map Record.stripped = queue.map Record.stripped := by
    rw [List.map_map]
    exact List.map_congr_left fun record _ => record.stripped_stripped
  rw [read, AudioScrobbler.asRead, twice]

variable (iso8601)

structure Loaded (files : Files) (daemon : Daemon) : Prop where
  untouched : daemon.files = files
  logs : ∀ each ∈ daemon.scrobblers, ∀ path, each.journal = some path →
    ∃ config, Invariant config (journalQueue iso8601 files path) each.world

variable {iso8601}

theorem Loaded.kept {daemon : Daemon} (loaded : Loaded iso8601 files daemon)
    (legible : ∀ path ∈ journals daemon.scrobblers, Legible iso8601 files path) :
    AllKept iso8601 files ⟨[], []⟩ daemon := by
  intro each member path configured
  have here := legible path (List.mem_filterMap.mpr ⟨each, member, configured⟩)
  have fixed := here.asRead
  rw [loaded.untouched]
  refine ⟨?_, ?_, ?_, here, ?_⟩
  · simpa using loaded.logs each member path configured
  · simpa using here.writable
  · rw [List.append_nil, fixed]
    exact Multiset.le_add_left _ _
  · rw [List.append_nil, fixed]
    exact fun record member => member

variable (iso8601)

/-- A life up to now. -/
structure Course (config : Config) (files : Files) (past : List DaemonEvent) (daemon : Daemon) :
    Prop where
  tracked : Tracked files config.paths.reverse (flagAfter iso8601 files config.scrobblers) daemon
  kept : (∀ event ∈ past, ∀ record ∈ event.pushed, record.Writable) →
    AllKept iso8601 files (accountOf past) daemon

variable {iso8601}

theorem Course.step {config : Config} {past : List DaemonEvent} {daemon : Daemon}
    (course : Course iso8601 config files past daemon) (checksum : Bytes → Bytes)
    (event : DaemonEvent) :
    Holds Allowed (Course iso8601 config files (past ++ [event]))
      (daemonStep checksum daemon event) := by
  have distinct : config.paths.reverse.Nodup := List.nodup_reverse.mpr config.distinct
  have tracked := daemonStep_tracked checksum daemon event distinct course.tracked
  cases moved : daemonStep checksum daemon event with
  | error reason =>
      rw [moved] at tracked
      exact tracked
  | ok next =>
      rw [moved] at tracked
      refine (⟨tracked, ?_⟩ : Course iso8601 config files (past ++ [event]) next)
      intro writable
      rw [List.forall_mem_append, List.forall_mem_singleton] at writable
      have kept := daemonStep_kept checksum daemon event (course.kept writable.1)
        course.tracked.healthy (course.tracked.paths ▸ distinct) writable.2
      rw [moved] at kept
      have account : accountOf (past ++ [event]) = (accountOf past).after event := by
        rw [accountOf, List.foldl_append]
        rfl
      rw [account]
      exact kept

end

/-! ### All lives -/

section

variable (iso8601 : Bytes → Option Int)

/-- What the journal had at first and what the lives saved is with what was submitted and what
the journal has in the end, and nothing is there that was never pushed. -/
structure Survived (before after : Files) (path : Bytes) (saved pushed submitted : Multiset Record) :
    Prop where
  durable : journalQueue iso8601 before path + saved
    ≤ submitted + journalQueue iso8601 after path
  honest : ∀ record ∈ submitted + journalQueue iso8601 after path,
    record ∈ journalQueue iso8601 before path + pushed

variable {iso8601} {before between after : Files} {path : Bytes}

theorem Survived.trans {saved pushed submitted later behind acknowledged : Multiset Record}
    (first : Survived iso8601 before between path saved pushed submitted)
    (second : Survived iso8601 between after path later behind acknowledged) :
    Survived iso8601 before after path (saved + later) (pushed + behind)
      (submitted + acknowledged) := by
  constructor
  · calc
      (journalQueue iso8601 before path : Multiset Record) + (saved + later)
          = journalQueue iso8601 before path + saved + later := (add_assoc _ _ _).symm
      _ ≤ submitted + journalQueue iso8601 between path + later :=
          add_le_add_left first.durable later
      _ = submitted + (journalQueue iso8601 between path + later) := add_assoc _ _ _
      _ ≤ submitted + (acknowledged + journalQueue iso8601 after path) :=
          add_le_add_right second.durable submitted
      _ = submitted + acknowledged + journalQueue iso8601 after path := (add_assoc _ _ _).symm
  · intro record member
    rw [add_assoc, Multiset.mem_add] at member
    rw [← add_assoc, Multiset.mem_add]
    rcases member with early | late
    · exact .inl (first.honest record (Multiset.mem_add.mpr (.inl early)))
    · rcases Multiset.mem_add.mp (second.honest record late) with journal | pushed
      · exact .inl (first.honest record (Multiset.mem_add.mpr (.inr journal)))
      · exact .inr pushed

end

/-! ### Killed before the song is submitted -/

def heard : DaemonEvent :=
  .songchange (lit "a.ogg") (some (lit " Can")) (some (lit "Halleluwah")) none none none 1112 none
    (lit "7")

end Mpdcron.AudioScrobbler
