import Mpdcron.Lib.Transaction
import Mpdcron.Stats.Engine

/-! The database file of `stats-sqlite.c` as its schema, its version and its rows, and the
statements that create and upgrade it. -/

namespace Mpdcron.Stats.Schema

open CString SqlRow Transaction

/-! ### The file -/

/-- The columns of a table and its rows, each with one value for a column; NULL is `none`. -/
structure TableImage where
  columns : List Bytes
  rows : List (List (Option Value))
  deriving DecidableEq, Repr

/-- `version` is the `user_version` of the header. -/
structure File where
  version : Int
  tables : Table → Option TableImage

/-- What `sqlite3_open_v2` leaves of a file that was not there. -/
def File.empty : File := { version := 0, tables := fun _ => none }

def File.withTable (file : File) (table : Table) (image : TableImage) : File :=
  { file with tables := Function.update file.tables table (some image) }

def dbVersion : Int := 11

def dbMinimumVersion : Int := 10

/-! ### The statements -/

/-- `db_sql_maint` -/
inductive Maintenance where
  | setVersion
  | getVersion
  | setEncoding
  | beginTransaction
  | endTransaction
  | rollbackTransaction
  | pragmaSyncOn
  | pragmaSyncOff
  | vacuum
  deriving DecidableEq, Repr

def Maintenance.sql : Maintenance → Bytes
  | .setVersion => lit "PRAGMA user_version = 11;"
  | .getVersion => lit "PRAGMA user_version;"
  | .setEncoding => lit "PRAGMA encoding = \"UTF-8\";"
  | .beginTransaction => lit "BEGIN TRANSACTION;"
  | .endTransaction => lit "END TRANSACTION;"
  | .rollbackTransaction => lit "ROLLBACK TRANSACTION;"
  | .pragmaSyncOn => lit "PRAGMA synchronous=ON;"
  | .pragmaSyncOff => lit "PRAGMA synchronous=OFF;"
  | .vacuum => lit "VACUUM;"

def dbSqlMaint : List Maintenance :=
  [.setVersion, .getVersion, .setEncoding, .beginTransaction, .endTransaction,
    .rollbackTransaction, .pragmaSyncOn, .pragmaSyncOff, .vacuum]

/-- `db_sql_create`, each statement with the text that `db_init` prints when it is not prepared. -/
def dbSqlCreate : List (Table × Bytes) :=
  [(.song, Maintenance.sql .setVersion), (.artist, Maintenance.sql .getVersion),
    (.album, Maintenance.sql .setEncoding), (.genre, Maintenance.sql .beginTransaction)]

/-- The statements of `db_sql_migrate[SQL_DB_MIGRATE_10_11]` -/
inductive Migration where
  | lastPlayed
  | karma
  deriving DecidableEq, Repr

def Migration.column : Migration → Bytes
  | .lastPlayed => lit "last_played"
  | .karma => lit "karma"

/-- What the rows that are there get in the new column. -/
def Migration.default : Migration → Option Value
  | .lastPlayed => none
  | .karma => some (.integer 50)

def Migration.sql : Migration → Bytes
  | .lastPlayed => lit "alter table song add column\n\tlast_played     INTEGER\n;"
  | .karma =>
      lit "alter table song add column\n\tkarma           INTEGER\n\t\tNOT NULL\n" ++
        lit "\t\tCONSTRAINT karma_percent CHECK (karma >= 0 AND karma <= 100)\n" ++
        lit "\t\tDEFAULT 50\n;"

def dbSqlMigrate : List Migration := [.lastPlayed, .karma]

/-- What is stepped. -/
inductive Statement where
  | maint (which : Maintenance)
  | create (table : Table)
  | migrate (which : Migration)
  deriving DecidableEq, Repr

/-- The statements of `db_sql`, which are only prepared here. -/
inductive Common where
  | has (table : Table)
  | insert (table : Table)
  | update (table : Table)
  | updateSongPlayed
  deriving DecidableEq, Repr

def Common.table : Common → Table
  | .has table => table
  | .insert table => table
  | .update table => table
  | .updateSongPlayed => .song

/-- The tags of a song that its insert and its updates write. -/
def tagColumns : List Bytes :=
  [lit "artist", lit "album", lit "title", lit "track", lit "name", lit "genre", lit "date",
    lit "composer", lit "performer", lit "disc", lit "mb_artistid", lit "mb_albumid",
    lit "mb_trackid"]

def counterNames : List Bytes := [lit "love", lit "kill", lit "rating", lit "tags"]

/-- The columns that the statement names. -/
def Common.columns : Common → List Bytes
  | .has .song => [lit "id", lit "uri"]
  | .has _ => [lit "id", lit "name"]
  | .insert .song =>
      [lit "play_count", lit "karma", lit "uri", lit "duration", lit "last_modified",
        lit "last_played"] ++ counterNames ++ tagColumns
  | .insert .album => [lit "play_count", lit "artist", lit "name"] ++ counterNames
  | .insert _ => [lit "play_count", lit "name"] ++ counterNames
  | .update .song =>
      [lit "play_count", lit "uri", lit "duration", lit "last_modified", lit "id"] ++ tagColumns
  | .update .album => [lit "play_count", lit "artist", lit "name", lit "id"]
  | .update _ => [lit "play_count", lit "name", lit "id"]
  | .updateSongPlayed =>
      [lit "play_count", lit "uri", lit "duration", lit "last_modified", lit "last_played",
        lit "karma", lit "id"] ++ tagColumns

/-- `db_sql` -/
def dbSql : List Common :=
  [.has .song, .has .artist, .has .album, .has .genre, .insert .song, .insert .artist,
    .insert .album, .insert .genre, .update .song, .updateSongPlayed, .update .artist,
    .update .album, .update .genre]

/-! ### What the statements do -/

def noSuchTable (table : Table) : Bytes := lit "no such table: " ++ table.name

/-- Why a statement cannot be compiled against the file. -/
def Statement.prepareError : Statement → File → Option Bytes
  | .maint _, _ => none
  | .create table, file =>
      if (file.tables table).isSome then
        some (lit "table " ++ table.name ++ lit " already exists")
      else none
  | .migrate which, file =>
      match file.tables .song with
      | none => some (noSuchTable .song)
      | some image =>
          if [which.column] ⊆ image.columns then
            some (lit "duplicate column name: " ++ which.column)
          else none

/-- `noSuchColumn` is what SQLite says of a column that is not there. -/
def Common.prepareError (noSuchColumn : Common → Bytes → Bytes) (common : Common) (file : File) :
    Option Bytes :=
  match file.tables common.table with
  | none => some (noSuchTable common.table)
  | some image =>
      (common.columns.find? fun column => !image.columns.contains column).map (noSuchColumn common)

/-- The table with one more column, which is NULL or the default in the rows there are. -/
def TableImage.addColumn (which : Migration) (image : TableImage) : TableImage :=
  { columns := image.columns ++ [which.column]
    rows := image.rows.map (· ++ [which.default]) }

def File.addColumn (which : Migration) (file : File) : File :=
  match file.tables .song with
  | none => file
  | some image => file.withTable .song (image.addColumn which)

def File.create (table : Table) (file : File) : File :=
  file.withTable table { columns := table.columnNames, rows := [] }

def File.setVersion (file : File) : File := { file with version := dbVersion }

/-- One `sqlite3_step` of a statement that SQLite can carry out, or `sqlite3_errmsg`. -/
def Statement.run (statement : Statement) (connection : Connection File) :
    Except Bytes (Connection File) :=
  match statement.prepareError connection.current with
  | some errmsg => .error errmsg
  | none =>
      match statement with
      | .create table => .ok (connection.write (connection.current.create table))
      | .migrate which => .ok (connection.write (connection.current.addColumn which))
      | .maint .setVersion => .ok (connection.write connection.current.setVersion)
      | .maint .beginTransaction =>
          if connection.opened then
            .error (lit "cannot start a transaction within a transaction")
          else .ok connection.start
      | .maint .endTransaction =>
          if connection.opened then .ok connection.commit
          else .error (lit "cannot commit - no transaction is active")
      | .maint .rollbackTransaction =>
          if connection.opened then .ok connection.rollback
          else .error (lit "cannot rollback - no transaction is active")
      -- none of the others changes the schema, the version or a row
      | .maint _ => .ok connection

def Statement.writes : Statement → Bool
  | .create _ => true
  | .migrate _ => true
  | .maint .setVersion => true
  | .maint _ => false

/-! ### Calls that fail -/

def noSuchColumn : Common → Bytes → Bytes
  | .insert table, column => lit "table " ++ table.name ++ lit " has no column named " ++ column
  | _, column => lit "no such column: " ++ column

/-- Which calls fail for reasons of their own (a full disk, a lock, no memory), and a message that
is SQLite's own. Each statement is prepared, reset and stepped at most once. -/
structure Calls where
  openV2 : Option Bytes
  /-- Whether `sqlite3_open_v2` leaves a file where it fails. -/
  openLeavesFile : Bool
  prepare : Statement → Ending Bytes
  prepareCommon : Common → Ending Bytes
  reset : Maintenance → Ending Bytes
  step : Statement → Ending Bytes
  noSuchColumn : Common → Bytes → Bytes

def Calls.allDone : Calls where
  openV2 := none
  openLeavesFile := true
  prepare _ := .done
  prepareCommon _ := .done
  reset _ := .done
  step _ := .done
  noSuchColumn := Schema.noSuchColumn

/-- A connection that was opened for reading refuses to write. -/
def Calls.stepEnding (calls : Calls) (readonly : Bool) (statement : Statement) : Ending Bytes :=
  if readonly ∧ statement.writes then .failed (lit "attempt to write a readonly database") false
  else calls.step statement

section

variable (calls : Calls) (readonly : Bool)

def sqlite3Prepare (statement : Statement) (connection : Connection File) :
    Except Bytes Unit × Connection File :=
  match calls.prepare statement with
  | .failed errmsg rolledBack => (.error errmsg, connection.fail rolledBack)
  | .done =>
      match statement.prepareError connection.current with
      | some errmsg => (.error errmsg, connection)
      | none => (.ok (), connection)

def sqlite3PrepareCommon (common : Common) (connection : Connection File) :
    Except Bytes Unit × Connection File :=
  match calls.prepareCommon common with
  | .failed errmsg rolledBack => (.error errmsg, connection.fail rolledBack)
  | .done =>
      match common.prepareError calls.noSuchColumn connection.current with
      | some errmsg => (.error errmsg, connection)
      | none => (.ok (), connection)

/-- `db_step`: a busy database is asked again. -/
def dbStep (statement : Statement) (connection : Connection File) :
    Except Bytes Unit × Connection File :=
  match calls.stepEnding readonly statement with
  | .failed errmsg rolledBack => (.error errmsg, connection.fail rolledBack)
  | .done =>
      match statement.run connection with
      | .error errmsg => (.error errmsg, connection)
      | .ok next => (.ok (), next)

def dbRunStmt (stmt : Maintenance) (connection : Connection File) :
    Except GError Unit × Connection File :=
  match calls.reset stmt with
  | .failed errmsg rolledBack => (.error (resetError errmsg), connection.fail rolledBack)
  | .done =>
      match dbStep calls readonly (.maint stmt) connection with
      | (.error errmsg, connection) => (.error (stepError errmsg), connection)
      | (.ok (), connection) => (.ok (), connection)

def dbStartTransaction : Connection File → Except GError Unit × Connection File :=
  dbRunStmt calls readonly .beginTransaction

def dbEndTransaction : Connection File → Except GError Unit × Connection File :=
  dbRunStmt calls readonly .endTransaction

def dbRollbackTransaction : Connection File → Except GError Unit × Connection File :=
  dbRunStmt calls readonly .rollbackTransaction

end

def ackErrorDatabaseOpen : Int := 50
def ackErrorDatabaseCreate : Int := 51
def ackErrorDatabaseVersion : Int := 52

def openError (errmsg : Bytes) : GError :=
  { code := ackErrorDatabaseOpen, message := lit "sqlite3_open_v2: " ++ errmsg }

def createError (errmsg : Bytes) : GError :=
  { code := ackErrorDatabaseCreate, message := lit "sqlite3_step: " ++ errmsg }

end Mpdcron.Stats.Schema
