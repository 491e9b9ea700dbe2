import Mpdcron.Stats.Schema

/-! `db_check_ver` and `db_migrate`: the upgrade of a version-10 file, step by step, under every
pattern of failing calls. -/

namespace Mpdcron.Stats.Schema

open CString SqlRow Transaction

section

variable (calls : Calls) (readonly : Bool)

/-- The first loop of `db_migrate`. -/
def prepareMigrations : List Migration → Connection File → Except GError Unit × Connection File :=
  inOrder (fun which => sqlite3Prepare calls (.migrate which)) fun which errmsg =>
    { code := ackErrorDatabasePrepare
      message := lit "sqlite3_prepare_v2 (" ++ which.sql ++ lit "): " ++ errmsg }

/-- The second loop of `db_migrate`. -/
def stepMigrations : List Migration → Connection File → Except GError Unit × Connection File :=
  inOrder (fun which => dbStep calls readonly (.migrate which)) fun which errmsg =>
    { code := ackErrorDatabaseStep
      message := lit "sqlite3_step (" ++ which.sql ++ lit "): " ++ errmsg }

/-- `db_migrate(SQL_DB_MIGRATE_10_11, ..)` -/
def dbMigrate (connection : Connection File) : Except GError Unit × Connection File :=
  match prepareMigrations calls dbSqlMigrate connection with
  | (.error error, connection) => (.error error, connection)
  | (.ok (), connection) => stepMigrations calls readonly dbSqlMigrate connection

/-- The step of `SQL_SET_VERSION` in `db_check_ver`. -/
def stepSetVersion (connection : Connection File) : Except GError Unit × Connection File :=
  match dbStep calls readonly (.maint .setVersion) connection with
  | (.error errmsg, connection) =>
      (.error { code := ackErrorDatabaseCreate
                message := lit "sqlite3_step (" ++ Maintenance.sql .setVersion ++ lit "): "
                  ++ errmsg },
        connection)
  | (.ok (), connection) => (.ok (), connection)

/-- The branch of `db_check_ver` for a lower version: every step is made, whatever has failed
before, and `g_set_error` keeps the first error. -/
def dbUpgrade (version : Int) (connection : Connection File) :
    Except GError Unit × Connection File :=
  let begun := dbStartTransaction calls readonly connection
  let migrated := if version = 10 then dbMigrate calls readonly begun.2 else (.ok (), begun.2)
  let versioned := stepSetVersion calls readonly migrated.2
  match begun.1, migrated.1, versioned.1 with
  | .ok (), .ok (), .ok () => dbEndTransaction calls readonly versioned.2
  | .error error, _, _ => (.error error, (dbRollbackTransaction calls readonly versioned.2).2)
  | _, .error error, _ => (.error error, (dbRollbackTransaction calls readonly versioned.2).2)
  | _, _, .error error => (.error error, (dbRollbackTransaction calls readonly versioned.2).2)

def dbCheckVer (connection : Connection File) : Except GError Unit × Connection File :=
  match dbStep calls readonly (.maint .getVersion) connection with
  | (.error errmsg, connection) => (.error (createError errmsg), connection)
  | (.ok (), connection) =>
      let version := connection.current.version
      if version < dbMinimumVersion ∨ version > dbVersion then
        (.error { code := ackErrorDatabaseVersion
                  message := lit "Database version mismatch: " ++ decimal version ++ lit " != "
                    ++ decimal dbVersion },
          connection)
      else if version ≠ dbVersion then dbUpgrade calls readonly version connection
      else (.ok (), connection)

end

/-! ### What the upgrade is for -/

/-- A version-10 file: its songs have neither of the new columns. -/
structure IsVersion10 (file : File) (songs : TableImage) : Prop where
  version : file.version = 10
  table : file.tables .song = some songs
  lastPlayed : lit "last_played" ∉ songs.columns
  karma : lit "karma" ∉ songs.columns

/-- The same data in version 11. -/
structure Upgraded (songs : TableImage) (before after : File) : Prop where
  version : after.version = 11
  table : after.tables .song = some
    { columns := songs.columns ++ [lit "last_played", lit "karma"]
      rows := songs.rows.map (· ++ [none, some (.integer 50)]) }
  others : ∀ table, table ≠ .song → after.tables table = before.tables table

/-- All or nothing: the file is upgraded, or it is what it was. -/
def UpgradesAtomically (calls : Calls) (readonly : Bool) (file : File) (songs : TableImage) :
    Prop :=
  match dbCheckVer calls readonly (Connection.closed file) with
  | (.ok (), after) => after.opened = false ∧ Upgraded songs file after.committed
  | (.error _, after) => after.committed = file

/-! ### How far the calls go -/

/-- How many columns the migration adds, and whether the call that fails takes the transaction
back. -/
inductive Migrated where
  | neither (rolledBack : Bool)
  | lastPlayed (rolledBack : Bool)
  | both
  deriving DecidableEq, Repr

section

variable (calls : Calls) (readonly : Bool)

def Calls.migrated : Migrated :=
  match calls.prepare (.migrate .lastPlayed), calls.prepare (.migrate .karma),
      calls.stepEnding readonly (.migrate .lastPlayed),
      calls.stepEnding readonly (.migrate .karma) with
  | .failed _ rolledBack, _, _, _ => .neither rolledBack
  | .done, .failed _ rolledBack, _, _ => .neither rolledBack
  | .done, .done, .failed _ rolledBack, _ => .neither rolledBack
  | .done, .done, .done, .failed _ rolledBack => .lastPlayed rolledBack
  | .done, .done, .done, .done => .both

/-- A statement of `db_run_stmt` is reset and stepped. -/
def Calls.runs (which : Maintenance) : Bool :=
  (calls.reset which).isDone && (calls.stepEnding readonly (.maint which)).isDone

def Calls.sets (which : Maintenance) : Bool := (calls.stepEnding readonly (.maint which)).isDone

/-- Nothing is written outside a transaction: either the transaction begins, and when it is taken
back the version is not set, or it does not begin, and neither a column nor the version is
written. -/
def Calls.KeepsTransaction : Prop :=
  calls.sets readonly .getVersion = true →
    if calls.runs readonly .beginTransaction = true then
      (calls.migrated readonly = .neither true ∨ calls.migrated readonly = .lastPlayed true) →
        calls.sets readonly .setVersion = false
    else
      (∃ rolledBack, calls.migrated readonly = .neither rolledBack) ∧
        calls.sets readonly .setVersion = false

end

/-! ### The single steps -/

section

variable (calls : Calls) (readonly : Bool) (connection : Connection File)

theorem dbRunStmt_failed (which : Maintenance) (closed : connection.opened = false)
    (failed : calls.runs readonly which = false) :
    ∃ error, dbRunStmt calls readonly which connection = (.error error, connection) := by
  rw [dbRunStmt, dbStep]
  cases reset : calls.reset which with
  | failed errmsg rolledBack =>
      exact ⟨resetError errmsg, by simp only [Connection.fail_closed connection closed]⟩
  | done =>
      have unstepped : (calls.stepEnding readonly (.maint which)).isDone = false := by
        simpa [Calls.runs, reset, Ending.isDone] using failed
      rcases failed_of_not_done unstepped with ⟨errmsg, rolledBack, step⟩
      rw [step]
      exact ⟨stepError errmsg, by simp only [Connection.fail_closed connection closed]⟩

/-- Whatever becomes of a failing statement, nothing is committed by it. -/
theorem dbRunStmt_committed (which : Maintenance) (other : which ≠ .setVersion)
    (noCommit : which ≠ .endTransaction) :
    (dbRunStmt calls readonly which connection).2.committed = connection.committed := by
  rw [dbRunStmt]
  cases calls.reset which with
  | failed errmsg rolledBack => exact Connection.committed_fail connection rolledBack
  | done =>
      rw [dbStep]
      cases calls.stepEnding readonly (.maint which) with
      | failed errmsg rolledBack => exact Connection.committed_fail connection rolledBack
      | done =>
          dsimp only
          cases ran : Statement.run (.maint which) connection with
          | error errmsg => rfl
          | ok next =>
              change next.committed = connection.committed
              cases which with
              | setVersion => exact absurd rfl other
              | endTransaction => exact absurd rfl noCommit
              | beginTransaction =>
                  simp only [Statement.run, Statement.prepareError] at ran
                  split_ifs at ran
                  cases ran
                  rfl
              | rollbackTransaction =>
                  simp only [Statement.run, Statement.prepareError] at ran
                  split_ifs at ran
                  cases ran
                  rfl
              | getVersion => cases ran; rfl
              | setEncoding => cases ran; rfl
              | pragmaSyncOn => cases ran; rfl
              | pragmaSyncOff => cases ran; rfl
              | vacuum => cases ran; rfl

theorem begin_done (closed : connection.opened = false)
    (runs : calls.runs readonly .beginTransaction = true) :
    dbStartTransaction calls readonly connection = (.ok (), connection.start) := by
  rw [Calls.runs, Bool.and_eq_true, isDone_iff, isDone_iff] at runs
  rw [dbStartTransaction, dbRunStmt, runs.1, dbStep, runs.2]
  simp only [Statement.run, Statement.prepareError, closed, Bool.false_eq_true, if_false]

theorem stepSetVersion_done (sets : calls.sets readonly .setVersion = true) :
    stepSetVersion calls readonly connection
      = (.ok (), connection.write connection.current.setVersion) := by
  rw [Calls.sets, isDone_iff] at sets
  rw [stepSetVersion, dbStep, sets]
  rfl

theorem stepSetVersion_failed (fails : calls.sets readonly .setVersion = false) :
    ∃ error rolledBack, stepSetVersion calls readonly connection
      = (.error error, connection.fail rolledBack) := by
  rcases failed_of_not_done fails with ⟨errmsg, rolledBack, step⟩
  rw [stepSetVersion, dbStep, step]
  exact ⟨_, rolledBack, rfl⟩

end

/-! ### The migration -/

section

variable {connection : Connection File} {songs : TableImage}

theorem prepareError_lastPlayed (version10 : IsVersion10 connection.current songs) :
    Statement.prepareError (.migrate .lastPlayed) connection.current = none := by
  have absent : ¬[lit "last_played"] ⊆ songs.columns := fun inside =>
    version10.lastPlayed (inside List.mem_cons_self)
  simp only [Statement.prepareError, version10.table, Migration.column]
  exact if_neg absent

theorem prepareError_karma (version10 : IsVersion10 connection.current songs) :
    Statement.prepareError (.migrate .karma) connection.current = none := by
  have absent : ¬[lit "karma"] ⊆ songs.columns := fun inside =>
    version10.karma (inside List.mem_cons_self)
  simp only [Statement.prepareError, version10.table, Migration.column]
  exact if_neg absent

theorem addColumn_songs {file : File} (which : Migration) (songs : TableImage)
    (there : file.tables .song = some songs) :
    file.addColumn which = file.withTable .song (songs.addColumn which) := by
  rw [File.addColumn, there]

theorem withTable_self (file : File) (table : Table) (image : TableImage) :
    (file.withTable table image).tables table = some image := Function.update_self ..

/-- The second column is no duplicate of the first. -/
theorem prepareError_karma_after (version10 : IsVersion10 connection.current songs) :
    Statement.prepareError (.migrate .karma)
      (connection.write (connection.current.addColumn .lastPlayed)).current = none := by
  have absent : ¬[lit "karma"] ⊆ songs.columns ++ [lit "last_played"] := by
    intro inside
    rcases List.mem_append.mp (inside List.mem_cons_self) with old | new
    · exact version10.karma old
    · exact absurd (List.mem_singleton.mp new) (by decide)
  rw [Connection.current_write, addColumn_songs .lastPlayed songs version10.table]
  simp only [Statement.prepareError, withTable_self, TableImage.addColumn, Migration.column]
  exact if_neg absent

/-- The file with both columns. -/
def File.migrated (file : File) : File := (file.addColumn .lastPlayed).addColumn .karma

/-- What `db_migrate` leaves of the connection. -/
def Migrated.leaves (connection : Connection File) : Migrated → Connection File
  | .neither rolledBack => connection.fail rolledBack
  | .lastPlayed rolledBack =>
      (connection.write (connection.current.addColumn .lastPlayed)).fail rolledBack
  | .both =>
      (connection.write (connection.current.addColumn .lastPlayed)).write
        connection.current.migrated

theorem dbMigrate_spec (calls : Calls) (readonly : Bool)
    (version10 : IsVersion10 connection.current songs) :
    (dbMigrate calls readonly connection).2 = (calls.migrated readonly).leaves connection ∧
      ((dbMigrate calls readonly connection).1 = .ok () ↔ calls.migrated readonly = .both) := by
  have first := prepareError_lastPlayed version10
  have second := prepareError_karma version10
  have after := prepareError_karma_after version10
  rw [dbMigrate, Calls.migrated]
  simp only [dbSqlMigrate, prepareMigrations, inOrder, sqlite3Prepare]
  cases calls.prepare (.migrate .lastPlayed) with
  | failed errmsg rolledBack => simp [Migrated.leaves]
  | done =>
      simp only [first]
      cases calls.prepare (.migrate .karma) with
      | failed errmsg rolledBack => simp [Migrated.leaves]
      | done =>
          simp only [second, stepMigrations, inOrder, dbStep]
          cases calls.stepEnding readonly (.migrate .lastPlayed) with
          | failed errmsg rolledBack => simp [Migrated.leaves]
          | done =>
              simp only [Statement.run, first]
              cases calls.stepEnding readonly (.migrate .karma) with
              | failed errmsg rolledBack => simp [Migrated.leaves]
              | done =>
                  rw [Connection.current_write] at after
                  simp [Migrated.leaves, File.migrated, after]

theorem upgraded_migrated {file : File} (version10 : IsVersion10 file songs) :
    Upgraded songs file file.migrated.setVersion := by
  have first := addColumn_songs .lastPlayed songs version10.table
  have second := addColumn_songs .karma (songs.addColumn .lastPlayed)
    (first ▸ withTable_self file .song _)
  rw [File.migrated, second, first]
  refine ⟨rfl, ?_, ?_⟩
  · have rows : (songs.rows.map (· ++ [none])).map (· ++ [some (.integer 50)])
        = songs.rows.map (· ++ [none, some (.integer 50)]) := by
      simp
    simp only [File.setVersion, withTable_self, TableImage.addColumn, Migration.column,
      Migration.default, List.append_assoc, rows]
    rfl
  · intro table other
    simp only [File.setVersion, File.withTable, Function.update_of_ne other]

end

/-! ### The whole upgrade -/

section

variable (calls : Calls) (readonly : Bool)

/-- The connection before `db_end_transaction` or `db_rollback_transaction`. -/
def upgradeReached (connection : Connection File) : Connection File :=
  (stepSetVersion calls readonly
    (dbMigrate calls readonly (dbStartTransaction calls readonly connection).2).2).2

/-- An upgrade with an error in it commits nothing at its end. -/
theorem dbUpgrade_error (connection : Connection File)
    (failed : ¬((dbStartTransaction calls readonly connection).1 = .ok () ∧
      (dbMigrate calls readonly (dbStartTransaction calls readonly connection).2).1 = .ok () ∧
      (stepSetVersion calls readonly
        (dbMigrate calls readonly (dbStartTransaction calls readonly connection).2).2).1
          = .ok ())) :
    ∃ error after, dbUpgrade calls readonly 10 connection = (.error error, after) ∧
      after.committed = (upgradeReached calls readonly connection).committed := by
  have kept := dbRunStmt_committed calls readonly (upgradeReached calls readonly connection)
    .rollbackTransaction (by decide) (by decide)
  rw [dbUpgrade, if_pos rfl]
  cases begun : (dbStartTransaction calls readonly connection).1 with
  | error error => exact ⟨error, _, rfl, kept⟩
  | ok =>
      cases migrated : (dbMigrate calls readonly
          (dbStartTransaction calls readonly connection).2).1 with
      | error error => exact ⟨error, _, rfl, kept⟩
      | ok =>
          cases versioned : (stepSetVersion calls readonly (dbMigrate calls readonly
              (dbStartTransaction calls readonly connection).2).2).1 with
          | error error => exact ⟨error, _, rfl, kept⟩
          | ok => exact absurd ⟨begun, migrated, versioned⟩ failed

/-- One without an error commits what it has reached, or nothing. -/
theorem dbEndTransaction_opened (connection : Connection File)
    (isOpen : connection.opened = true) :
    dbEndTransaction calls readonly connection = (.ok (), connection.commit) ∨
      ∃ error after, dbEndTransaction calls readonly connection = (.error error, after) ∧
        after.committed = connection.committed := by
  rw [dbEndTransaction, dbRunStmt]
  cases calls.reset .endTransaction with
  | failed errmsg rolledBack =>
      exact Or.inr ⟨resetError errmsg, _, rfl, Connection.committed_fail connection rolledBack⟩
  | done =>
      rw [dbStep]
      cases calls.stepEnding readonly (.maint .endTransaction) with
      | failed errmsg rolledBack =>
          exact Or.inr ⟨stepError errmsg, _, rfl, Connection.committed_fail connection rolledBack⟩
      | done =>
          left
          simp only [Statement.run, Statement.prepareError, isOpen, if_true]

end

/-- Whether the call that fails takes the transaction back. -/
def Migrated.takenBack : Migrated → Bool
  | .neither rolledBack => rolledBack
  | .lastPlayed rolledBack => rolledBack
  | .both => false

theorem leaves_opened {connection : Connection File} (isOpen : connection.opened = true)
    (migrated : Migrated) :
    (migrated.leaves connection).committed = connection.committed ∧
      (migrated.leaves connection).opened = !migrated.takenBack := by
  cases migrated with
  | neither rolledBack =>
      simp [Migrated.leaves, Migrated.takenBack, Connection.opened_fail, isOpen]
  | lastPlayed rolledBack =>
      simp [Migrated.leaves, Migrated.takenBack, Connection.opened_fail, isOpen,
        Connection.committed_write_opened]
  | both => simp [Migrated.leaves, Migrated.takenBack, isOpen, Connection.committed_write_opened]

/-- Outside a transaction every column is committed. -/
theorem leaves_closed {connection : Connection File} (closed : connection.opened = false)
    (migrated : Migrated) :
    (migrated.leaves connection).opened = false ∧
      (migrated.leaves connection).committed = match migrated with
        | .neither _ => connection.committed
        | .lastPlayed _ => connection.committed.addColumn .lastPlayed
        | .both => connection.committed.migrated := by
  have current := connection.current_closed closed
  cases migrated with
  | neither rolledBack =>
      simp [Migrated.leaves, Connection.opened_fail, closed]
  | lastPlayed rolledBack =>
      simp [Migrated.leaves, Connection.opened_fail, closed, current,
        Connection.committed_write_closed]
  | both => simp [Migrated.leaves, closed, current, Connection.committed_write_closed]

section

variable {calls : Calls} {readonly : Bool} {file : File} {songs : TableImage}

theorem setVersion_ne (version10 : IsVersion10 file songs) (other : File) :
    other.setVersion ≠ file := by
  intro same
  have versions : dbVersion = 10 := by
    calc dbVersion = other.setVersion.version := rfl
      _ = file.version := by rw [same]
      _ = 10 := version10.version
  exact absurd versions (by decide)

/-- A file whose songs have more columns is another file. -/
theorem columns_ne (version10 : IsVersion10 file songs) {other : File} {image : TableImage}
    {column : Bytes} {more : List Bytes} (there : other.tables .song = some image)
    (columns : image.columns = songs.columns ++ column :: more) : other ≠ file := by
  intro same
  rw [same, version10.table, Option.some.injEq] at there
  rw [← there] at columns
  exact absurd (List.self_eq_append_right.mp columns) (List.cons_ne_nil column more)

theorem addColumn_ne (version10 : IsVersion10 file songs) : file.addColumn .lastPlayed ≠ file := by
  have added := addColumn_songs .lastPlayed songs version10.table
  exact columns_ne version10 (added ▸ withTable_self file .song _) rfl

theorem migrated_ne (version10 : IsVersion10 file songs) : file.migrated ≠ file := by
  have upgraded := upgraded_migrated version10
  exact columns_ne version10 upgraded.table rfl

/-! A transaction that begins. -/

section

variable {connection : Connection File} (readonly)

/-- What is committed before the transaction ends. -/
theorem reached_opened (isOpen : connection.opened = true) (migrated : Migrated) :
    (stepSetVersion calls readonly (migrated.leaves connection)).2.committed
      = if migrated.takenBack ∧ calls.sets readonly .setVersion = true then
          connection.committed.setVersion
        else connection.committed := by
  rcases leaves_opened isOpen migrated with ⟨committed, opened⟩
  cases sets : calls.sets readonly .setVersion with
  | false =>
      rcases stepSetVersion_failed calls readonly (migrated.leaves connection) sets with
        ⟨error, rolledBack, stepped⟩
      rw [stepped, Connection.committed_fail, committed]
      simp
  | true =>
      rw [stepSetVersion_done calls readonly (migrated.leaves connection) sets]
      cases taken : migrated.takenBack with
      | false =>
          rw [taken, Bool.not_false] at opened
          rw [Connection.committed_write_opened _ _ opened, committed]
          simp
      | true =>
          rw [taken, Bool.not_true] at opened
          rw [Connection.committed_write_closed _ _ opened,
            Connection.current_closed _ opened, committed]
          simp

theorem takenBack_iff (migrated : Migrated) :
    migrated.takenBack = true ↔ migrated = .neither true ∨ migrated = .lastPlayed true := by
  cases migrated <;> simp [Migrated.takenBack]

end

theorem dbCheckVer_version10 (version10 : IsVersion10 file songs)
    (gets : calls.sets readonly .getVersion = true) :
    dbCheckVer calls readonly (Connection.closed file)
      = dbUpgrade calls readonly 10 (Connection.closed file) := by
  rw [Calls.sets, isDone_iff] at gets
  rw [dbCheckVer, dbStep, gets]
  simp only [Statement.run, Statement.prepareError, Connection.current_of_closed,
    version10.version]
  rw [if_neg (by decide), if_pos (by decide)]

/-- A version that is not read is an error and nothing is written. -/
theorem atomic_unread (unread : calls.sets readonly .getVersion = false) :
    UpgradesAtomically calls readonly file songs := by
  rcases failed_of_not_done unread with ⟨errmsg, rolledBack, step⟩
  rw [UpgradesAtomically, dbCheckVer, dbStep, step]
  exact Connection.committed_fail _ rolledBack

/-- An upgrade that ends in an error is atomic if it has committed nothing. -/
theorem atomic_error {error : GError} {after : Connection File}
    (checked : dbCheckVer calls readonly (Connection.closed file)
      = (.error error, after)) :
    UpgradesAtomically calls readonly file songs ↔ after.committed = file := by
  rw [UpgradesAtomically, checked]

/-- Without a transaction nothing may be written. -/
theorem atomic_unbegun (version10 : IsVersion10 file songs)
    (gets : calls.sets readonly .getVersion = true)
    (unbegun : calls.runs readonly .beginTransaction = false) :
    UpgradesAtomically calls readonly file songs ↔
      (∃ rolledBack, calls.migrated readonly = .neither rolledBack) ∧
        calls.sets readonly .setVersion = false := by
  rcases dbRunStmt_failed calls readonly (Connection.closed file)
    .beginTransaction rfl unbegun with ⟨error, begun⟩
  have same : IsVersion10 (Connection.closed file).current songs := version10
  have migrated := (dbMigrate_spec calls readonly same).1
  have reached : upgradeReached calls readonly (Connection.closed file)
      = (stepSetVersion calls readonly ((calls.migrated readonly).leaves
          (Connection.closed file))).2 := by
    rw [upgradeReached, dbStartTransaction, begun, migrated]
  rcases dbUpgrade_error calls readonly (Connection.closed file)
    (fun all => by rw [dbStartTransaction, begun] at all; cases all.1) with
    ⟨error, after, upgraded, committed⟩
  rw [atomic_error ((dbCheckVer_version10 version10 gets).trans upgraded), committed, reached]
  rcases leaves_closed (Connection.opened_closed file) (calls.migrated readonly) with ⟨closed, left⟩
  cases sets : calls.sets readonly .setVersion with
  | true =>
      rw [stepSetVersion_done calls readonly _ sets, Connection.committed_write_closed _ _ closed]
      constructor
      · intro same
        exact absurd same (setVersion_ne version10 _)
      · intro neither
        cases neither.2
  | false =>
      rcases stepSetVersion_failed calls readonly ((calls.migrated readonly).leaves
        (Connection.closed file)) sets with ⟨error, rolledBack, stepped⟩
      rw [stepped, Connection.committed_fail, left]
      cases calls.migrated readonly with
      | neither rolledBack => simp
      | lastPlayed rolledBack => simp [addColumn_ne version10]
      | both => simp [migrated_ne version10]

/-- What a transaction that begins has reached before it ends. -/
theorem upgradeReached_begun (version10 : IsVersion10 file songs)
    (begins : calls.runs readonly .beginTransaction = true) :
    upgradeReached calls readonly (Connection.closed file)
      = (stepSetVersion calls readonly
          ((calls.migrated readonly).leaves (Connection.closed file).start)).2 := by
  have same : IsVersion10 (Connection.closed file).start.current songs := version10
  rw [upgradeReached, begin_done calls readonly (Connection.closed file) rfl begins,
    (dbMigrate_spec calls readonly same).1]

/-- With every step done, what is left is to commit the new file. -/
theorem atomic_complete (version10 : IsVersion10 file songs)
    (gets : calls.sets readonly .getVersion = true)
    (begins : calls.runs readonly .beginTransaction = true)
    (both : calls.migrated readonly = .both)
    (sets : calls.sets readonly .setVersion = true) :
    UpgradesAtomically calls readonly file songs := by
  have same : IsVersion10 (Connection.closed file).start.current songs := version10
  have begun := begin_done calls readonly (Connection.closed file) rfl begins
  have migrated := (dbMigrate_spec calls readonly same).2.mpr both
  have versioned := stepSetVersion_done calls readonly
    (dbMigrate calls readonly (Connection.closed file).start).2 sets
  have reached := upgradeReached_begun version10 begins
  rw [both, stepSetVersion_done calls readonly _ sets] at reached
  have upgraded : dbUpgrade calls readonly 10 (Connection.closed file)
      = dbEndTransaction calls readonly (upgradeReached calls readonly (Connection.closed file)) := by
    rw [upgradeReached, dbUpgrade, if_pos rfl, begun]
    dsimp only
    rw [migrated, versioned]
  have checked := (dbCheckVer_version10 version10 gets).trans upgraded
  have isOpen : (upgradeReached calls readonly (Connection.closed file)).opened = true := by
    rw [reached]
    rfl
  rcases dbEndTransaction_opened calls readonly _ isOpen with ended | ⟨error, after, ended, kept⟩
  · rw [UpgradesAtomically, checked, ended, reached]
    exact ⟨rfl, upgraded_migrated version10⟩
  · rw [atomic_error (checked.trans ended), kept, reached]
    rfl

/-- In a transaction everything may be written, as long as it is not taken back too early. -/
theorem atomic_begun (version10 : IsVersion10 file songs)
    (gets : calls.sets readonly .getVersion = true)
    (begins : calls.runs readonly .beginTransaction = true) :
    UpgradesAtomically calls readonly file songs ↔
      ((calls.migrated readonly).takenBack = true → calls.sets readonly .setVersion = false) := by
  by_cases complete :
      calls.migrated readonly = .both ∧ calls.sets readonly .setVersion = true
  · rcases complete with ⟨both, sets⟩
    refine iff_of_true (atomic_complete version10 gets begins both sets) ?_
    intro taken
    rw [both] at taken
    cases taken
  · have same : IsVersion10 (Connection.closed file).start.current songs := version10
    have begun := begin_done calls readonly (Connection.closed file) rfl begins
    have failed : ¬((dbStartTransaction calls readonly (Connection.closed file)).1 = .ok () ∧
        (dbMigrate calls readonly
          (dbStartTransaction calls readonly (Connection.closed file)).2).1 = .ok () ∧
        (stepSetVersion calls readonly (dbMigrate calls readonly
          (dbStartTransaction calls readonly (Connection.closed file)).2).2).1 = .ok ()) := by
      intro done
      rcases done with ⟨-, migrated, versioned⟩
      rw [begun] at migrated versioned
      refine complete ⟨(dbMigrate_spec calls readonly same).2.mp migrated, ?_⟩
      cases sets : calls.sets readonly .setVersion with
      | true => rfl
      | false =>
          rcases stepSetVersion_failed calls readonly
            (dbMigrate calls readonly (Connection.closed file).start).2 sets with
            ⟨error, rolledBack, stepped⟩
          rw [stepped] at versioned
          cases versioned
    rcases dbUpgrade_error calls readonly (Connection.closed file) failed with
      ⟨error, after, upgraded, committed⟩
    rw [atomic_error ((dbCheckVer_version10 version10 gets).trans upgraded), committed,
      upgradeReached_begun version10 begins,
      reached_opened readonly (Connection.opened_start (Connection.closed file))]
    split_ifs with early
    · constructor
      · intro kept
        exact absurd kept (setVersion_ne version10 _)
      · intro unset
        exact absurd early.2 (by rw [unset early.1]; decide)
    · refine iff_of_true rfl ?_
      intro taken
      exact Bool.eq_false_iff.mpr fun sets => early ⟨taken, sets⟩

/-- `db_check_ver` goes on whatever has failed, so the upgrade of a version-10 file is all or
nothing exactly when nothing is written outside its transaction. -/
theorem upgrades_atomically_iff (calls : Calls) (readonly : Bool)
    (version10 : IsVersion10 file songs) :
    UpgradesAtomically calls readonly file songs ↔ calls.KeepsTransaction readonly := by
  rw [Calls.KeepsTransaction]
  cases gets : calls.sets readonly .getVersion with
  | false =>
      refine iff_of_true (atomic_unread gets) ?_
      intro read
      cases read
  | true =>
      cases begins : calls.runs readonly .beginTransaction with
      | true =>
          rw [atomic_begun version10 gets begins, takenBack_iff]
          simp
      | false =>
          rw [atomic_unbegun version10 gets begins]
          simp

end

def songsTen : TableImage where
  columns := Table.song.columnNames.take 22
  rows :=
    [[some (.integer 1), some (.integer 3), some (.integer 0), some (.integer 0),
      some (.integer 0), some (.text (lit ":")), some (.text (lit "a.ogg")),
      some (.integer 200), some (.integer 0)] ++ List.replicate 13 none]

def fileTen : File where
  version := 10
  tables
    | .song => some songsTen
    | table => some { columns := table.columnNames, rows := [] }

theorem isVersion10_fileTen : IsVersion10 fileTen songsTen where
  version := rfl
  table := rfl
  lastPlayed := by decide +kernel
  karma := by decide +kernel

theorem upgrades_atomically_done :
    UpgradesAtomically Calls.allDone false fileTen songsTen := by
  refine (upgrades_atomically_iff Calls.allDone false isVersion10_fileTen).mpr ?_
  intro read taken
  rcases taken with neither | lastPlayed
  · cases neither
  · cases lastPlayed

/-- The disk is full at the first `ALTER TABLE`, and SQLite rolls the transaction back. -/
def diskFull : Calls where
  openV2 := none
  openLeavesFile := true
  prepare _ := .done
  prepareCommon _ := .done
  reset _ := .done
  step
    | .migrate .lastPlayed => .failed (lit "database or disk is full") true
    | _ => .done
  noSuchColumn := noSuchColumn

/-- The version is then set on its own, and the songs of "version 11" lack both columns. -/
theorem not_upgrades_atomically_diskFull :
    IsVersion10 fileTen songsTen ∧
      (∃ error, dbCheckVer diskFull false (Connection.closed fileTen)
        = (.error error, Connection.closed fileTen.setVersion)) ∧
      ¬UpgradesAtomically diskFull false fileTen songsTen := by
  refine ⟨isVersion10_fileTen, ⟨_, rfl⟩, ?_⟩
  rw [atomic_begun isVersion10_fileTen rfl rfl]
  intro unset
  cases unset rfl

end Mpdcron.Stats.Schema
