import Mpdcron.Stats.Upgrade

/-! `db_create` and `db_init`: a file that is not there yet, under every pattern of failing calls,
and what the next start makes of it. -/

namespace Mpdcron.Stats.Schema

open CString Transaction

def prepareCreateError (create : Table × Bytes) (errmsg : Bytes) : GError where
  code := ackErrorDatabasePrepare
  message := lit "sqlite3_prepare_v2 (" ++ create.2 ++ lit "): " ++ errmsg

section

variable (calls : Calls) (readonly : Bool)

def createTables : List Table → Connection File → Except GError Unit × Connection File :=
  inOrder (fun table => dbStep calls readonly (.create table)) fun _ => createError

def dbCreate (connection : Connection File) : Except GError Unit × Connection File :=
  match createTables calls readonly [.song, .artist, .album, .genre] connection with
  | (.error error, connection) => (.error error, connection)
  | (.ok (), connection) =>
      match dbStep calls readonly (.maint .setEncoding) connection with
      | (.error errmsg, connection) => (.error (createError errmsg), connection)
      | (.ok (), connection) =>
          match dbStep calls readonly (.maint .setVersion) connection with
          | (.error errmsg, connection) => (.error (createError errmsg), connection)
          | (.ok (), connection) => (.ok (), connection)

def prepareMaint : List Maintenance → Connection File → Except GError Unit × Connection File :=
  inOrder (fun which => sqlite3Prepare calls (.maint which)) fun _ => prepareError

def prepareCreate :
    List (Table × Bytes) → Connection File → Except GError Unit × Connection File :=
  inOrder (fun create => sqlite3Prepare calls (.create create.1)) prepareCreateError

def prepareCommon : List Common → Connection File → Except GError Unit × Connection File :=
  inOrder (sqlite3PrepareCommon calls) fun _ => prepareError

/-- `if (new) .. else ..` in `db_init` -/
def createOrCheck (isNew : Bool) (connection : Connection File) :
    Except GError Unit × Connection File :=
  if isNew then
    match prepareCreate calls dbSqlCreate connection with
    | (.error error, connection) => (.error error, connection)
    | (.ok (), connection) => dbCreate calls readonly connection
  else dbCheckVer calls readonly connection

/-- `db_init` after `sqlite3_open_v2` -/
def dbInitOpened (isNew : Bool) (connection : Connection File) :
    Except GError Unit × Connection File :=
  match prepareMaint calls dbSqlMaint connection with
  | (.error error, connection) => (.error error, connection)
  | (.ok (), connection) =>
      match createOrCheck calls readonly isNew connection with
      | (.error error, connection) => (.error error, connection)
      | (.ok (), connection) => prepareCommon calls dbSql connection

end

/-- `db_init`, and what is at the path afterwards; `none` is a path with no file. An error closes
the connection, which loses what is not committed. -/
def dbInit (calls : Calls) (create readonly : Bool) (path : Option File) :
    Except GError (Connection File) × Option File :=
  if create && readonly then
    (.error { code := ackErrorDatabaseOpen, message := lit "Invalid flags" }, path)
  else
    match calls.openV2 with
    | some errmsg =>
        (.error (openError errmsg),
          if path.isNone && create && calls.openLeavesFile then some File.empty else path)
    | none =>
        if path.isNone && !create then
          (.error (openError (lit "unable to open database file")), none)
        else
          match dbInitOpened calls readonly path.isNone
              (Connection.closed (path.getD File.empty)) with
          | (.error error, connection) => (.error error, some connection.committed)
          | (.ok (), connection) => (.ok connection, some connection.committed)

/-! ### What creation is for -/

/-- The whole schema of version 11. -/
structure IsVersion11 (file : File) : Prop where
  version : file.version = 11
  tables : ∀ table, ∃ image, file.tables table = some image ∧ image.columns = table.columnNames

/-- A start that failed on a path with no file does no harm to the next one. -/
def Retriable (calls : Calls) : Prop :=
  ∀ error left, dbInit calls true false none = (.error error, left) →
    ∃ connection, dbInit Calls.allDone true false left
        = (.ok connection, some connection.committed) ∧
      IsVersion11 connection.committed

/-- Every call of `db_init` up to the end of `db_create`. -/
def Calls.Creates (calls : Calls) : Prop :=
  (∀ which ∈ dbSqlMaint, calls.prepare (.maint which) = .done) ∧
    (∀ table : Table, calls.prepare (.create table) = .done) ∧
    (∀ table : Table, calls.step (.create table) = .done) ∧
    calls.step (.maint .setEncoding) = .done ∧ calls.step (.maint .setVersion) = .done

/-- The file is created in full, or not at all. -/
def Calls.CreatesOrLeavesNothing (calls : Calls) : Prop :=
  match calls.openV2 with
  | some _ => calls.openLeavesFile = false
  | none => calls.Creates

/-! ### The single calls -/

section

variable (calls : Calls) {connection : Connection File}

/-- Outside a transaction nothing that is prepared changes the file. -/
theorem sqlite3Prepare_closed (closed : connection.opened = false) (statement : Statement) :
    (sqlite3Prepare calls statement connection).2 = connection ∧
      ((sqlite3Prepare calls statement connection).1 = .ok () ↔
        calls.prepare statement = .done ∧ statement.prepareError connection.current = none) := by
  rw [sqlite3Prepare]
  cases calls.prepare statement with
  | failed errmsg rolledBack => simp [Connection.fail_closed connection closed]
  | done => cases statement.prepareError connection.current <;> simp

theorem sqlite3PrepareCommon_closed (closed : connection.opened = false) (common : Common) :
    (sqlite3PrepareCommon calls common connection).2 = connection ∧
      ((sqlite3PrepareCommon calls common connection).1 = .ok () ↔
        calls.prepareCommon common = .done ∧
          common.prepareError calls.noSuchColumn connection.current = none) := by
  rw [sqlite3PrepareCommon]
  cases calls.prepareCommon common with
  | failed errmsg rolledBack => simp [Connection.fail_closed connection closed]
  | done => cases common.prepareError calls.noSuchColumn connection.current <;> simp

theorem prepareMaint_closed (closed : connection.opened = false) :
    (prepareMaint calls dbSqlMaint connection).2 = connection ∧
      ((prepareMaint calls dbSqlMaint connection).1 = .ok () ↔
        ∀ which ∈ dbSqlMaint, calls.prepare (.maint which) = .done) := by
  have each := fun which : Maintenance => sqlite3Prepare_closed calls closed (.maint which)
  have stays : ∀ which ∈ dbSqlMaint,
      (sqlite3Prepare calls (.maint which) connection).2 = connection :=
    fun which _ => (each which).1
  rcases inOrder_stays (fun _ => prepareError) stays with ⟨same, all⟩
  refine ⟨same, all.trans (forall₂_congr fun which _ => (each which).2.trans ?_)⟩
  simp [Statement.prepareError]

theorem created_once (table : Table) : ∃ text, (table, text) ∈ dbSqlCreate := by
  cases table with
  | song => exact ⟨_, List.mem_cons_self⟩
  | artist => exact ⟨_, List.mem_cons_of_mem _ List.mem_cons_self⟩
  | album => exact ⟨_, List.mem_cons_of_mem _ (List.mem_cons_of_mem _ List.mem_cons_self)⟩
  | genre => exact ⟨_, List.mem_of_getLast? rfl⟩

theorem prepareCreate_empty :
    (prepareCreate calls dbSqlCreate (Connection.closed File.empty)).2
        = Connection.closed File.empty ∧
      ((prepareCreate calls dbSqlCreate (Connection.closed File.empty)).1 = .ok () ↔
        ∀ table, calls.prepare (.create table) = .done) := by
  have each := fun create : Table × Bytes =>
    sqlite3Prepare_closed calls (Connection.opened_closed File.empty) (.create create.1)
  have stays : ∀ create ∈ dbSqlCreate,
      (sqlite3Prepare calls (.create create.1) (Connection.closed File.empty)).2
        = Connection.closed File.empty :=
    fun create _ => (each create).1
  rcases inOrder_stays prepareCreateError stays with ⟨same, all⟩
  refine ⟨same, all.trans ?_⟩
  constructor
  · intro prepared table
    rcases created_once table with ⟨text, mem⟩
    exact ((each (table, text)).2.mp (prepared (table, text) mem)).1
  · intro done create _
    exact (each create).2.mpr ⟨done create.1, rfl⟩

/-- What is created is version 0 until the last statement. -/
def Unversioned (connection : Connection File) : Prop :=
  connection.opened = false ∧ connection.committed.version = 0

theorem unversioned_empty : Unversioned (Connection.closed File.empty) := ⟨rfl, rfl⟩

theorem dbStep_unversioned {statement : Statement} (unversioned : Unversioned connection)
    (other : ∀ next, statement.run connection = .ok next → Unversioned next) :
    Unversioned (dbStep calls false statement connection).2 := by
  rw [dbStep]
  cases calls.stepEnding false statement with
  | failed errmsg rolledBack =>
      simpa only [Connection.fail_closed connection unversioned.1] using unversioned
  | done =>
      cases ran : statement.run connection with
      | error errmsg => exact unversioned
      | ok next => exact other next ran

theorem dbStep_create_unversioned (table : Table) (unversioned : Unversioned connection) :
    Unversioned (dbStep calls false (.create table) connection).2 := by
  refine dbStep_unversioned calls unversioned fun next ran => ?_
  rw [Statement.run] at ran
  split at ran
  · cases ran
  · cases ran
    refine ⟨(Connection.opened_write connection _).trans unversioned.1, ?_⟩
    rw [Connection.committed_write_closed _ _ unversioned.1,
      Connection.current_closed connection unversioned.1]
    exact unversioned.2

theorem dbStep_encoding_unversioned (unversioned : Unversioned connection) :
    Unversioned (dbStep calls false (.maint .setEncoding) connection).2 := by
  refine dbStep_unversioned calls unversioned fun next ran => ?_
  cases ran
  exact unversioned

theorem stepEnding_writable (statement : Statement) :
    calls.stepEnding false statement = calls.step statement := by
  simp [Calls.stepEnding]

/-- A step that is done was called without an error. -/
theorem dbStep_ok {statement : Statement}
    (stepped : (dbStep calls false statement connection).1 = .ok ()) :
    calls.step statement = .done := by
  rw [dbStep, stepEnding_writable] at stepped
  cases step : calls.step statement with
  | done => rfl
  | failed errmsg rolledBack =>
      rw [step] at stepped
      cases stepped

theorem dbStep_create {table : Table} {file : File} (step : calls.step (.create table) = .done)
    (absent : file.tables table = none) :
    dbStep calls false (.create table) (Connection.closed file)
      = (.ok (), Connection.closed (file.create table)) := by
  have unprepared : Statement.prepareError (.create table) file = none := by
    rw [Statement.prepareError, absent]
    rfl
  rw [dbStep, stepEnding_writable, step]
  dsimp only
  rw [Statement.run, Connection.current_of_closed, unprepared]
  rfl

/-- The file that `db_create` makes. -/
def fileEleven : File :=
  ((((File.empty.create .song).create .artist).create .album).create .genre).setVersion

theorem dbCreate_done (tables : ∀ table, calls.step (.create table) = .done)
    (encoding : calls.step (.maint .setEncoding) = .done)
    (version : calls.step (.maint .setVersion) = .done) :
    dbCreate calls false (Connection.closed File.empty)
      = (.ok (), Connection.closed fileEleven) := by
  have created : createTables calls false [.song, .artist, .album, .genre]
      (Connection.closed File.empty) = (.ok (), Connection.closed
        ((((File.empty.create .song).create .artist).create .album).create .genre)) := by
    rw [createTables, inOrder, dbStep_create calls (tables .song) rfl]
    dsimp only
    rw [inOrder, dbStep_create calls (tables .artist) rfl]
    dsimp only
    rw [inOrder, dbStep_create calls (tables .album) rfl]
    dsimp only
    rw [inOrder, dbStep_create calls (tables .genre) rfl]
    rfl
  rw [dbCreate, created]
  simp only [dbStep, stepEnding_writable, encoding, version]
  rfl

/-- A creation that is cut short leaves a file of version 0. -/
theorem dbCreate_failed
    (failed : ¬((∀ table : Table, calls.step (.create table) = .done) ∧
      calls.step (.maint .setEncoding) = .done ∧ calls.step (.maint .setVersion) = .done)) :
    ∃ error connection, dbCreate calls false (Connection.closed File.empty)
        = (.error error, connection) ∧ Unversioned connection := by
  have unversioned : Unversioned (createTables calls false [.song, .artist, .album, .genre]
      (Connection.closed File.empty)).2 :=
    inOrder_invariant (fun table _ _ => dbStep_create_unversioned calls table) unversioned_empty
  rw [dbCreate]
  rcases created : createTables calls false [.song, .artist, .album, .genre]
    (Connection.closed File.empty) with ⟨ending, connection⟩
  rw [created] at unversioned
  cases ending with
  | error error => exact ⟨error, connection, rfl, unversioned⟩
  | ok =>
      have tables : ∀ table : Table, calls.step (.create table) = .done := by
        intro table
        have mem : table ∈ [Table.song, .artist, .album, .genre] := by
          cases table <;> decide
        rcases inOrder_ok (congrArg Prod.fst created) table mem with ⟨seen, stepped⟩
        exact dbStep_ok calls stepped
      dsimp only
      have encoded := dbStep_encoding_unversioned calls unversioned
      rcases encoding : dbStep calls false (.maint .setEncoding) connection with ⟨ending, after⟩
      rw [encoding] at encoded
      cases ending with
      | error errmsg => exact ⟨createError errmsg, after, rfl, encoded⟩
      | ok =>
          have utf8 := dbStep_ok calls (congrArg Prod.fst encoding)
          have unset : (calls.step (.maint .setVersion)).isDone = false := by
            rw [Bool.eq_false_iff, ne_eq, isDone_iff]
            intro done
            exact failed ⟨tables, utf8, done⟩
          rcases failed_of_not_done unset with ⟨errmsg, rolledBack, step⟩
          dsimp only
          rw [dbStep, stepEnding_writable, step]
          dsimp only
          rw [Connection.fail_closed after encoded.1]
          exact ⟨createError errmsg, after, rfl, encoded⟩

end

/-! ### The file that is created -/

theorem tables_fileEleven (table : Table) :
    fileEleven.tables table = some { columns := table.columnNames, rows := [] } := by
  cases table <;> rfl

theorem isVersion11_fileEleven : IsVersion11 fileEleven where
  version := rfl
  tables table := ⟨_, tables_fileEleven table, rfl⟩

/-- Every statement of `db_sql` names columns of its table. -/
theorem common_columns (common : Common) : common.columns ⊆ common.table.columnNames := by
  cases common with
  | has table => cases table <;> decide +kernel
  | insert table => cases table <;> decide +kernel
  | update table => cases table <;> decide +kernel
  | updateSongPlayed => decide +kernel

theorem prepareError_fileEleven (noSuchColumn : Common → Bytes → Bytes) (common : Common) :
    common.prepareError noSuchColumn fileEleven = none := by
  rw [Common.prepareError, tables_fileEleven]
  have found : common.columns.find?
      (fun column => !common.table.columnNames.contains column) = none := by
    apply List.find?_eq_none.mpr
    intro column named
    simp [common_columns common named]
  exact congrArg (Option.map (noSuchColumn common)) found

theorem prepareCommon_fileEleven (calls : Calls) :
    (prepareCommon calls dbSql (Connection.closed fileEleven)).2 = Connection.closed fileEleven ∧
      ((prepareCommon calls dbSql (Connection.closed fileEleven)).1 = .ok () ↔
        ∀ common ∈ dbSql, calls.prepareCommon common = .done) := by
  have each :=
    sqlite3PrepareCommon_closed calls (Connection.opened_closed fileEleven)
  have stays : ∀ common ∈ dbSql,
      (sqlite3PrepareCommon calls common (Connection.closed fileEleven)).2
        = Connection.closed fileEleven :=
    fun common _ => (each common).1
  rcases inOrder_stays (fun _ => prepareError) stays with ⟨same, all⟩
  refine ⟨same, all.trans (forall₂_congr fun common _ => (each common).2.trans ?_)⟩
  exact and_iff_left (prepareError_fileEleven calls.noSuchColumn common)

/-! ### The first start and the next -/

section

variable (calls : Calls)

theorem dbInitOpened_creates (creates : calls.Creates) :
    dbInitOpened calls false true (Connection.closed File.empty)
      = prepareCommon calls dbSql (Connection.closed fileEleven) := by
  rcases creates with ⟨maint, prepared, tables, encoding, version⟩
  have maintained : prepareMaint calls dbSqlMaint (Connection.closed File.empty)
      = (.ok (), Connection.closed File.empty) := by
    rcases prepareMaint_closed calls (Connection.opened_closed File.empty) with ⟨same, all⟩
    exact Prod.ext (all.mpr maint) same
  have ready : prepareCreate calls dbSqlCreate (Connection.closed File.empty)
      = (.ok (), Connection.closed File.empty) := by
    rcases prepareCreate_empty calls with ⟨same, all⟩
    exact Prod.ext (all.mpr prepared) same
  rw [dbInitOpened, maintained]
  dsimp only
  rw [createOrCheck, if_pos rfl, ready]
  dsimp only
  rw [dbCreate_done calls tables encoding version]

theorem dbInitOpened_cut_short (cutShort : ¬calls.Creates) :
    ∃ error connection, dbInitOpened calls false true (Connection.closed File.empty)
        = (.error error, connection) ∧ connection.committed.version = 0 := by
  rw [dbInitOpened]
  rcases prepareMaint_closed calls (Connection.opened_closed File.empty) with ⟨same, all⟩
  rcases maintained : prepareMaint calls dbSqlMaint (Connection.closed File.empty) with
    ⟨ending, connection⟩
  rw [maintained] at same all
  obtain rfl : connection = Connection.closed File.empty := same
  cases ending with
  | error error => exact ⟨error, Connection.closed File.empty, rfl, rfl⟩
  | ok =>
      dsimp only
      rw [createOrCheck, if_pos rfl]
      rcases prepareCreate_empty calls with ⟨same, every⟩
      rcases ready : prepareCreate calls dbSqlCreate (Connection.closed File.empty) with
        ⟨ending, connection⟩
      rw [ready] at same every
      obtain rfl : connection = Connection.closed File.empty := same
      cases ending with
      | error error => exact ⟨error, Connection.closed File.empty, rfl, rfl⟩
      | ok =>
          have failed : ¬((∀ table : Table, calls.step (.create table) = .done) ∧
              calls.step (.maint .setEncoding) = .done ∧
              calls.step (.maint .setVersion) = .done) := by
            intro stepped
            exact cutShort ⟨all.mp rfl, every.mp rfl, stepped⟩
          rcases dbCreate_failed calls failed with ⟨error, connection, created, unversioned⟩
          dsimp only
          rw [created]
          exact ⟨error, connection, rfl, unversioned.2⟩

end

theorem dbInit_ok {calls : Calls} {connection : Connection File} (path : Option File)
    (opens : calls.openV2 = none)
    (ready : dbInitOpened calls false path.isNone (Connection.closed (path.getD File.empty))
      = (.ok (), connection)) :
    dbInit calls true false path = (.ok connection, some connection.committed) := by
  rw [dbInit, opens, ready]
  simp

theorem dbInit_error {calls : Calls} {connection : Connection File} {error : GError}
    (path : Option File) (opens : calls.openV2 = none)
    (failed : dbInitOpened calls false path.isNone (Connection.closed (path.getD File.empty))
      = (.error error, connection)) :
    dbInit calls true false path = (.error error, some connection.committed) := by
  rw [dbInit, opens, failed]
  simp

theorem creates_allDone : Calls.allDone.Creates :=
  ⟨fun _ _ => rfl, fun _ => rfl, fun _ => rfl, rfl, rfl⟩

theorem prepareCommon_allDone :
    prepareCommon Calls.allDone dbSql (Connection.closed fileEleven)
      = (.ok (), Connection.closed fileEleven) := by
  rcases prepareCommon_fileEleven Calls.allDone with ⟨same, all⟩
  exact Prod.ext (all.mpr fun _ _ => rfl) same

theorem prepareMaint_allDone (file : File) :
    prepareMaint Calls.allDone dbSqlMaint (Connection.closed file)
      = (.ok (), Connection.closed file) := by
  rcases prepareMaint_closed Calls.allDone (Connection.opened_closed file) with ⟨same, all⟩
  exact Prod.ext (all.mpr fun _ _ => rfl) same

/-- With no file the next start creates one. -/
theorem dbInit_none :
    dbInit Calls.allDone true false none
      = (.ok (Connection.closed fileEleven), some fileEleven) :=
  dbInit_ok none rfl ((dbInitOpened_creates Calls.allDone creates_allDone).trans prepareCommon_allDone)

/-- A file that was created in full is accepted. -/
theorem dbInit_fileEleven :
    dbInit Calls.allDone true false (some fileEleven)
      = (.ok (Connection.closed fileEleven), some fileEleven) := by
  have checked : dbCheckVer Calls.allDone false (Connection.closed fileEleven)
      = (.ok (), Connection.closed fileEleven) := rfl
  have opened : dbInitOpened Calls.allDone false false (Connection.closed fileEleven)
      = (.ok (), Connection.closed fileEleven) := by
    rw [dbInitOpened, prepareMaint_allDone]
    dsimp only
    rw [createOrCheck, if_neg Bool.false_ne_true, checked]
    exact prepareCommon_allDone
  exact dbInit_ok (some fileEleven) rfl opened

/-- A file of version 0 is refused, at this start and at every other. -/
theorem dbInit_unversioned {file : File} (version : file.version = 0) :
    ∃ error, dbInit Calls.allDone true false (some file) = (.error error, some file) := by
  have checked : ∃ error, dbCheckVer Calls.allDone false (Connection.closed file)
      = (.error error, Connection.closed file) := by
    have stepped : dbStep Calls.allDone false (.maint .getVersion) (Connection.closed file)
        = (.ok (), Connection.closed file) := rfl
    rw [dbCheckVer, stepped]
    dsimp only
    rw [Connection.current_of_closed, version, if_pos (Or.inl (by decide))]
    exact ⟨_, rfl⟩
  rcases checked with ⟨error, checked⟩
  have opened : dbInitOpened Calls.allDone false false (Connection.closed file)
      = (.error error, Connection.closed file) := by
    rw [dbInitOpened, prepareMaint_allDone]
    dsimp only
    rw [createOrCheck, if_neg Bool.false_ne_true, checked]
  exact ⟨error, dbInit_error (some file) rfl opened⟩

theorem not_retriable {calls : Calls} {error : GError} {left : File} (version : left.version = 0)
    (first : dbInit calls true false none = (.error error, some left)) : ¬Retriable calls := by
  intro retried
  rcases retried error (some left) first with ⟨connection, again, -⟩
  rcases dbInit_unversioned version with ⟨later, rejected⟩
  rw [rejected] at again
  cases again

/-- A failed creation can be tried again exactly when it left nothing, or everything: a file that
it leaves without its version is refused by `db_check_ver`. -/
theorem retriable_iff (calls : Calls) : Retriable calls ↔ calls.CreatesOrLeavesNothing := by
  rw [Calls.CreatesOrLeavesNothing]
  cases opens : calls.openV2 with
  | some errmsg =>
      have first : dbInit calls true false none
          = (.error (openError errmsg),
            if calls.openLeavesFile = true then some File.empty else none) := by
        rw [dbInit, opens]
        rfl
      cases leaves : calls.openLeavesFile with
      | true =>
          rw [leaves, if_pos rfl] at first
          exact iff_of_false (not_retriable rfl first) (Ne.symm Bool.false_ne_true)
      | false =>
          rw [leaves, if_neg Bool.false_ne_true] at first
          refine iff_of_true ?_ rfl
          intro error left failed
          rw [first] at failed
          cases failed
          exact ⟨_, dbInit_none, isVersion11_fileEleven⟩
  | none =>
      by_cases creates : calls.Creates
      · refine iff_of_true ?_ creates
        intro error left failed
        have opened := dbInitOpened_creates calls creates
        have same := (prepareCommon_fileEleven calls).1
        rcases ended : prepareCommon calls dbSql (Connection.closed fileEleven) with
          ⟨ending, connection⟩
        rw [ended] at opened same
        obtain rfl : connection = Connection.closed fileEleven := same
        cases ending with
        | ok =>
            rw [dbInit_ok none opens opened] at failed
            cases failed
        | error first =>
            rw [dbInit_error none opens opened] at failed
            cases failed
            exact ⟨_, dbInit_fileEleven, isVersion11_fileEleven⟩
      · refine iff_of_false ?_ creates
        rcases dbInitOpened_cut_short calls creates with ⟨error, connection, opened, version⟩
        exact not_retriable version (dbInit_error none opens opened)

/-- The disk is full when the third table is created. -/
def diskFullAtAlbum : Calls where
  openV2 := none
  openLeavesFile := true
  prepare _ := .done
  prepareCommon _ := .done
  reset _ := .done
  step
    | .create .album => .failed (lit "database or disk is full") false
    | _ => .done
  noSuchColumn := noSuchColumn

/-- Two tables are left, and "Database version mismatch: 0 != 11" is what every later start says. -/
theorem not_retriable_diskFullAtAlbum :
    (∃ error, dbInit diskFullAtAlbum true false none
      = (.error error, some ((File.empty.create .song).create .artist))) ∧
      ¬Retriable diskFullAtAlbum := by
  have first : dbInit diskFullAtAlbum true false none
      = (.error (createError (lit "database or disk is full")),
        some ((File.empty.create .song).create .artist)) := rfl
  exact ⟨⟨_, first⟩, not_retriable rfl first⟩

end Mpdcron.Stats.Schema
