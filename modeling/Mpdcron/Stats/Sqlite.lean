import Mpdcron.Lib.CString

/-! `stats-sqlite.c`: the database functions that the commands call. SQLite itself is a
parameter. -/

namespace Mpdcron.Stats

open CString

/-- What stops the daemon: a failed `g_assert`, a NULL pointer that is read, or a buffer whose
contents are undefined. -/
inductive Fault where
  | assertion
  | nullPointer
  | undefinedText
  deriving DecidableEq, Repr

/-- `GError`, without its domain. -/
structure GError where
  code : Int
  message : Bytes
  deriving DecidableEq, Repr

/-- What the column accessors read: `sqlite3_column_int`, `_int64` and `_text`. -/
structure Column where
  int : Int
  int64 : Int
  text : Option Bytes
  deriving DecidableEq, Repr

def Column.null : Column := { int := 0, int64 := 0, text := none }

abbrev Columns := List Column

def Columns.int (columns : Columns) (index : Nat) : Int := (columns.getD index .null).int

def Columns.int64 (columns : Columns) (index : Nat) : Int := (columns.getD index .null).int64

/-- `g_strdup` of the text -/
def Columns.text (columns : Columns) (index : Nat) : Option Bytes :=
  (columns.getD index .null).text.map upToNul

/-- What successive calls of `sqlite3_step` on one statement return, with the database after
each of them that the code can stop at. -/
inductive Execution (Db : Type) where
  | done (db : Db)
  | failed (errmsg : Bytes) (db : Db)
  | row (columns : Columns) (db : Db) (next : Execution Db)
  | busy (next : Execution Db)

/-- All the rows, up to the end or the failure. -/
def Execution.rows {Db : Type} : Execution Db → List Columns
  | .done _ => []
  | .failed _ _ => []
  | .row columns _ next => columns :: next.rows
  | .busy next => next.rows

def Execution.failure {Db : Type} : Execution Db → Option Bytes
  | .done _ => none
  | .failed errmsg _ => some errmsg
  | .row _ _ next => next.failure
  | .busy next => next.failure

def Execution.final {Db : Type} : Execution Db → Db
  | .done db => db
  | .failed _ db => db
  | .row _ _ next => next.final
  | .busy next => next.final

/-- The statements of `db_sql_maint` that the commands run. -/
inductive Maint where
  | beginTransaction
  | endTransaction
  | pragmaSyncOn
  | pragmaSyncOff
  deriving DecidableEq, Repr

/-- What an authorizer is asked about. -/
inductive Action where
  | read
  | select
  | function (name : Bytes)
  | update
  | other
  deriving DecidableEq, Repr

/-- SQLite as the daemon sees it. `prepare` compiles the first statement of a text under an
authorizer and returns what running it will do, or `sqlite3_errmsg`; `setAuthorizer` is told
whether it installs one or removes it. -/
structure Sqlite (Db : Type) where
  prepare : (Action → Bool) → Bytes → Db → Except Bytes (Execution Db)
  changes : Db → Int
  reset : Maint → Db → Except Bytes Db
  runMaint : (Action → Bool) → Maint → Db → Execution Db
  setAuthorizer : Bool → Db → Except Bytes Unit

inductive StepResult where
  | row
  | done
  | failed (errmsg : Bytes)
  deriving DecidableEq, Repr

/-- `db_step` -/
def dbStep {Db : Type} : Execution Db → StepResult × Db
  | .done db => (.done, db)
  | .failed errmsg db => (.failed errmsg, db)
  | .row _ db _ => (.row, db)
  | .busy next => dbStep next

def ackErrorDatabaseAuth : Int := 53
def ackErrorDatabasePrepare : Int := 57
def ackErrorDatabaseStep : Int := 59
def ackErrorDatabaseReset : Int := 60
def ackErrorInvalidTag : Int := 101

def prepareError (errmsg : Bytes) : GError :=
  { code := ackErrorDatabasePrepare, message := lit "sqlite3_prepare_v2: " ++ errmsg }

def stepError (errmsg : Bytes) : GError :=
  { code := ackErrorDatabaseStep, message := lit "sqlite3_step: " ++ errmsg }

def resetError (errmsg : Bytes) : GError :=
  { code := ackErrorDatabaseReset, message := lit "sqlite3_reset: " ++ errmsg }

/-- Whether `db_step` returned `SQLITE_DONE`, and the error set otherwise. -/
def stepDone : StepResult → Except GError Unit
  | .done => .ok ()
  | .failed errmsg => .error (stepError errmsg)
  | .row => .error (stepError (lit "another row available"))

inductive Table where
  | song
  | artist
  | album
  | genre
  deriving DecidableEq, Repr

def Table.name : Table → Bytes
  | .song => lit "song"
  | .artist => lit "artist"
  | .album => lit "album"
  | .genre => lit "genre"

section Database

variable {Db : Type} (sqlite : Sqlite Db) (authorizer : Action → Bool)

def sqlUpdateEntry (tbl : Table) (stmt expr : Bytes) (db : Db) : Except GError Unit × Db :=
  let sql := lit "update " ++ tbl.name ++ lit " set " ++ stmt ++ lit " where " ++ expr ++ lit " ;"
  match sqlite.prepare authorizer sql db with
  | .error errmsg => (.error (prepareError errmsg), db)
  | .ok execution => (stepDone (dbStep execution).1, (dbStep execution).2)

def dbRunStmt (stmt : Maint) (db : Db) : Except GError Unit × Db :=
  match sqlite.reset stmt db with
  | .error errmsg => (.error (resetError errmsg), db)
  | .ok db =>
      let stepped := dbStep (sqlite.runMaint authorizer stmt db)
      (stepDone stepped.1, stepped.2)

def dbStartTransaction (db : Db) : Except GError Unit × Db :=
  dbRunStmt sqlite authorizer .beginTransaction db

def dbEndTransaction (db : Db) : Except GError Unit × Db :=
  dbRunStmt sqlite authorizer .endTransaction db

def dbSetSync (on : Bool) (db : Db) : Except GError Unit × Db :=
  dbRunStmt sqlite authorizer (if on then .pragmaSyncOn else .pragmaSyncOff) db

/-- The loop of a SELECT, which prepends what it reads of each row to `values`. -/
def stepRows {α : Type} (read : Columns → Except Fault α) :
    Execution Db → List α → Except Fault (Except GError (List α) × Db)
  | .done db, values => .ok (.ok values, db)
  | .failed errmsg db, _ => .ok (.error (stepError errmsg), db)
  | .row columns _ next, values => do stepRows read next ((← read columns) :: values)
  | .busy next, values => stepRows read next values

/-- What the loop collects of a whole execution. -/
def collected {α : Type} (execution : Execution Db) (items : List α) :
    Except GError (List α) × Db :=
  match execution.failure with
  | none => (.ok items, execution.final)
  | some errmsg => (.error (stepError errmsg), execution.final)

theorem stepRows_eq {α : Type} (read : Columns → Except Fault α) (execution : Execution Db) :
    ∀ values : List α, stepRows read execution values
      = (execution.rows.mapM read).map fun items => collected execution (items.reverse ++ values) := by
  induction execution with
  | done db => intro values; rfl
  | failed errmsg db => intro values; rfl
  | busy next ih => exact ih
  | row columns db next ih =>
      intro values
      rw [stepRows, Execution.rows, List.mapM_cons]
      cases read columns with
      | error fault => rfl
      | ok item =>
          change stepRows read next (item :: values) = _
          rw [ih]
          cases next.rows.mapM read with
          | error fault => rfl
          | ok items =>
              simp [Except.map, bind, Except.bind, pure, Except.pure, collected, Execution.failure,
                Execution.final]

def dbSelect {α : Type} (read : Columns → Except Fault α) (sql : Bytes) (db : Db) :
    Except Fault (Except GError (List α) × Db) :=
  match sqlite.prepare authorizer sql db with
  | .error errmsg => .ok (.error (prepareError errmsg), db)
  | .ok execution => stepRows read execution []

/-- `struct db_generic_data`; `tags` is NULL where it is `none`. -/
structure DbGenericData where
  id : Int
  playCount : Int := 0
  name : Option Bytes := none
  artist : Option Bytes := none
  love : Int := 0
  kill : Int := 0
  rating : Int := 0
  tags : Option (List Bytes) := none
  deriving DecidableEq, Repr

/-- `struct db_song_data`, the fields that the commands fill -/
structure DbSongData where
  id : Int
  playCount : Int := 0
  love : Int := 0
  kill : Int := 0
  rating : Int := 0
  karma : Int := 0
  uri : Option Bytes := none
  lastPlayed : Int := 0
  tags : Option (List Bytes) := none
  deriving DecidableEq, Repr

def colon : UInt8 := 58

/-- `g_strsplit(string, ":", -1)`: an empty string has no pieces. -/
def gStrsplit (string : Bytes) : List Bytes :=
  if string = [] then [] else string.splitOn colon

def selectText (what : Bytes) (tbl : Table) (expr : Bytes) : Bytes :=
  lit "select " ++ what ++ lit " from " ++ tbl.name ++ lit " where " ++ expr ++ lit " ;"

/-- A `db_list_*` or `db_listinfo_*` function. -/
def dbListExpr {α : Type} (what : Bytes) (tbl : Table) (read : Columns → α) (expr : Bytes)
    (db : Db) : Except Fault (Except GError (List α) × Db) :=
  dbSelect sqlite authorizer (fun columns => .ok (read columns)) (selectText what tbl expr) db

def readListGeneric (columns : Columns) : DbGenericData :=
  { id := columns.int 0, name := columns.text 1 }

def readListAlbum (columns : Columns) : DbGenericData :=
  { id := columns.int 0, name := columns.text 1, artist := columns.text 2 }

def readListSong (columns : Columns) : DbSongData :=
  { id := columns.int 0, uri := columns.text 1 }

def dbListArtistExpr (expr : Bytes) (db : Db) :=
  dbListExpr sqlite authorizer (lit "id, name") .artist readListGeneric expr db

def dbListAlbumExpr (expr : Bytes) (db : Db) :=
  dbListExpr sqlite authorizer (lit "id, name, artist") .album readListAlbum expr db

def dbListGenreExpr (expr : Bytes) (db : Db) :=
  dbListExpr sqlite authorizer (lit "id, name") .genre readListGeneric expr db

def dbListSongExpr (expr : Bytes) (db : Db) :=
  dbListExpr sqlite authorizer (lit "id, uri") .song readListSong expr db

def readListinfoGeneric (columns : Columns) : DbGenericData :=
  { id := columns.int 0, playCount := columns.int 1, name := columns.text 2
    love := columns.int 3, kill := columns.int 4, rating := columns.int 5 }

def readListinfoAlbum (columns : Columns) : DbGenericData :=
  { id := columns.int 0, playCount := columns.int 1, name := columns.text 2
    artist := columns.text 3, love := columns.int 4, kill := columns.int 5
    rating := columns.int 6 }

def readListinfoSong (columns : Columns) : DbSongData :=
  { id := columns.int 0, playCount := columns.int 1, love := columns.int 2
    kill := columns.int 3, rating := columns.int 4, karma := columns.int 5
    lastPlayed := columns.int64 6, uri := columns.text 7 }

def dbListinfoArtistExpr (expr : Bytes) (db : Db) :=
  dbListExpr sqlite authorizer (lit "id, play_count, name, love, kill, rating") .artist
    readListinfoGeneric expr db

def dbListinfoAlbumExpr (expr : Bytes) (db : Db) :=
  dbListExpr sqlite authorizer (lit "id, play_count, name, artist, love, kill, rating") .album
    readListinfoAlbum expr db

def dbListinfoGenreExpr (expr : Bytes) (db : Db) :=
  dbListExpr sqlite authorizer (lit "id, play_count, name, love, kill, rating") .genre
    readListinfoGeneric expr db

def dbListinfoSongExpr (expr : Bytes) (db : Db) :=
  dbListExpr sqlite authorizer (lit "id, play_count, love, kill, rating, karma, last_played, uri")
    .song readListinfoSong expr db

def readTagsGeneric (columns : Columns) : DbGenericData :=
  { id := columns.int 0, name := columns.text 1, tags := (columns.text 2).map gStrsplit }

def readTagsAlbum (columns : Columns) : DbGenericData :=
  { id := columns.int 0, name := columns.text 1, artist := columns.text 2
    tags := (columns.text 3).map gStrsplit }

def readTagsSong (columns : Columns) : DbSongData :=
  { id := columns.int 0, uri := columns.text 1, tags := (columns.text 2).map gStrsplit }

def dbListArtistTagExpr (expr : Bytes) (db : Db) :=
  dbListExpr sqlite authorizer (lit "id, name, tags") .artist readTagsGeneric expr db

def dbListAlbumTagExpr (expr : Bytes) (db : Db) :=
  dbListExpr sqlite authorizer (lit "id, name, artist, tags") .album readTagsAlbum expr db

def dbListGenreTagExpr (expr : Bytes) (db : Db) :=
  dbListExpr sqlite authorizer (lit "id, name, tags") .genre readTagsGeneric expr db

def dbListSongTagExpr (expr : Bytes) (db : Db) :=
  dbListExpr sqlite authorizer (lit "id, uri, tags") .song readTagsSong expr db

/-- A function that runs one UPDATE and asks for the number of changes. -/
def dbUpdateExpr (tbl : Table) (stmt expr : Bytes) (db : Db) : Except GError Int × Db :=
  match sqlUpdateEntry sqlite authorizer tbl stmt expr db with
  | (.error error, db) => (.error error, db)
  | (.ok (), db) => (.ok (sqlite.changes db), db)

def dbCountExpr (tbl : Table) (expr : Bytes) (count : Int) (db : Db) :=
  dbUpdateExpr sqlite authorizer tbl (lit "play_count = play_count + (" ++ decimal count ++ lit ")")
    expr db

def dbCountArtistExpr (expr : Bytes) (count : Int) (db : Db) :=
  dbCountExpr sqlite authorizer .artist expr count db

def dbCountAlbumExpr (expr : Bytes) (count : Int) (db : Db) :=
  dbCountExpr sqlite authorizer .album expr count db

def dbCountGenreExpr (expr : Bytes) (count : Int) (db : Db) :=
  dbCountExpr sqlite authorizer .genre expr count db

def dbCountSongExpr (expr : Bytes) (count : Int) (db : Db) :=
  dbCountExpr sqlite authorizer .song expr count db

def dbLoveExpr (tbl : Table) (expr : Bytes) (love : Bool) (db : Db) :=
  dbUpdateExpr sqlite authorizer tbl
    (lit "love = love " ++ lit (if love then "+" else "-") ++ lit " 1") expr db

def dbLoveArtistExpr (expr : Bytes) (love : Bool) (db : Db) :=
  dbLoveExpr sqlite authorizer .artist expr love db

def dbLoveAlbumExpr (expr : Bytes) (love : Bool) (db : Db) :=
  dbLoveExpr sqlite authorizer .album expr love db

def dbLoveGenreExpr (expr : Bytes) (love : Bool) (db : Db) :=
  dbLoveExpr sqlite authorizer .genre expr love db

def dbLoveSongExpr (expr : Bytes) (love : Bool) (db : Db) :=
  dbLoveExpr sqlite authorizer .song expr love db

def dbKillExpr (tbl : Table) (expr : Bytes) (kkill : Bool) (db : Db) :=
  dbUpdateExpr sqlite authorizer tbl (lit "kill = " ++ lit (if kkill then "kill + 1" else "0"))
    expr db

def dbKillArtistExpr (expr : Bytes) (kkill : Bool) (db : Db) :=
  dbKillExpr sqlite authorizer .artist expr kkill db

def dbKillAlbumExpr (expr : Bytes) (kkill : Bool) (db : Db) :=
  dbKillExpr sqlite authorizer .album expr kkill db

def dbKillGenreExpr (expr : Bytes) (kkill : Bool) (db : Db) :=
  dbKillExpr sqlite authorizer .genre expr kkill db

def dbKillSongExpr (expr : Bytes) (kkill : Bool) (db : Db) :=
  dbKillExpr sqlite authorizer .song expr kkill db

def dbRateExpr (tbl : Table) (expr : Bytes) (rating : Int) (db : Db) :=
  dbUpdateExpr sqlite authorizer tbl (lit "rating = rating + (" ++ decimal rating ++ lit ")") expr db

def dbRateArtistExpr (expr : Bytes) (rating : Int) (db : Db) :=
  dbRateExpr sqlite authorizer .artist expr rating db

def dbRateAlbumExpr (expr : Bytes) (rating : Int) (db : Db) :=
  dbRateExpr sqlite authorizer .album expr rating db

def dbRateGenreExpr (expr : Bytes) (rating : Int) (db : Db) :=
  dbRateExpr sqlite authorizer .genre expr rating db

def dbRateSongExpr (expr : Bytes) (rating : Int) (db : Db) :=
  dbRateExpr sqlite authorizer .song expr rating db

def dbRateAbsoluteExpr (tbl : Table) (expr : Bytes) (rating : Int) (db : Db) :=
  dbUpdateExpr sqlite authorizer tbl (lit "rating = (" ++ decimal rating ++ lit ")") expr db

def dbRateAbsoluteArtistExpr (expr : Bytes) (rating : Int) (db : Db) :=
  dbRateAbsoluteExpr sqlite authorizer .artist expr rating db

def dbRateAbsoluteAlbumExpr (expr : Bytes) (rating : Int) (db : Db) :=
  dbRateAbsoluteExpr sqlite authorizer .album expr rating db

def dbRateAbsoluteGenreExpr (expr : Bytes) (rating : Int) (db : Db) :=
  dbRateAbsoluteExpr sqlite authorizer .genre expr rating db

def dbRateAbsoluteSongExpr (expr : Bytes) (rating : Int) (db : Db) :=
  dbRateAbsoluteExpr sqlite authorizer .song expr rating db

def dbKarmaSongExpr (expr : Bytes) (karma : Int) (db : Db) :
    Except Fault (Except GError Int × Db) :=
  if 0 ≤ karma ∧ karma ≤ 100 then
    .ok (dbUpdateExpr sqlite authorizer .song (lit "karma = (" ++ decimal karma ++ lit ")") expr db)
  else .error .assertion

def validateTag (tag : Bytes) : Except GError Unit :=
  if tag = [] ∨ colon ∈ tag then
    .error { code := ackErrorInvalidTag, message := lit "Invalid tag `" ++ tag ++ lit "'" }
  else .ok ()

theorem validateTag_ok (tag : Bytes) : validateTag tag = .ok () ↔ tag ≠ [] ∧ colon ∉ tag := by
  rw [validateTag, ← not_or]
  constructor
  · intro accepted invalid
    rw [if_pos invalid] at accepted
    cases accepted
  · exact fun valid => if_neg valid

def dbAddTagExpr (tbl : Table) (expr tag : Bytes) (db : Db) : Except GError Int × Db :=
  match validateTag tag with
  | .error error => (.error error, db)
  | .ok () => dbUpdateExpr sqlite authorizer tbl (lit "tags = tags || '" ++ tag ++ lit ":'") expr db

def dbAddArtistTagExpr (expr tag : Bytes) (db : Db) :=
  dbAddTagExpr sqlite authorizer .artist expr tag db

def dbAddAlbumTagExpr (expr tag : Bytes) (db : Db) :=
  dbAddTagExpr sqlite authorizer .album expr tag db

def dbAddGenreTagExpr (expr tag : Bytes) (db : Db) :=
  dbAddTagExpr sqlite authorizer .genre expr tag db

def dbAddSongTagExpr (expr tag : Bytes) (db : Db) :=
  dbAddTagExpr sqlite authorizer .song expr tag db

/-- `remove_tag`: the list that `g_strsplit` returns for NULL is NULL too. -/
def removeTag (tags : Option Bytes) (tag : Bytes) : Except Fault Bytes :=
  match tags with
  | none => .error .nullPointer
  | some tags =>
      .ok (colon :: ((gStrsplit tags).filter fun piece => piece ≠ [] ∧ piece ≠ tag).flatMap
        fun piece => piece ++ [colon])

/-- `escape_string`: the `%Q` of `sqlite3_mprintf` -/
def escapeString (src : Bytes) : Bytes :=
  lit "'" ++ src.flatMap (fun ch => if ch = 39 then [39, 39] else [ch]) ++ lit "'"

/-- The updates of the rows that had the tag; `suffix` follows the literal in the statement. -/
def removeTagLoop (tbl : Table) (suffix : Bytes) :
    List (Int × Bytes) → Int → Db → Except GError Int × Db
  | [], changes, db => (.ok changes, db)
  | (id, tags) :: ids, changes, db =>
      match sqlUpdateEntry sqlite authorizer tbl (lit "tags = " ++ escapeString tags ++ suffix)
          (lit "id = " ++ decimal id) db with
      | (.error error, db) => (.error error, db)
      | (.ok (), db) => removeTagLoop tbl suffix ids (changes + sqlite.changes db) db

/-- What `db_remove_*_tag_expr` does once it has read the rows. -/
def removeTagRows (tbl : Table) (suffix : Bytes) (ids : List (Int × Bytes)) (db : Db) :
    Except GError Int × Db :=
  let db := (dbSetSync sqlite authorizer false db).2
  let db := (dbStartTransaction sqlite authorizer db).2
  let removed := removeTagLoop sqlite authorizer tbl suffix ids 0 db
  let db := (dbEndTransaction sqlite authorizer removed.2).2
  (removed.1, (dbSetSync sqlite authorizer true db).2)

/-- What `db_remove_*_tag_expr` keeps of a row. -/
def readRemoved (tag : Bytes) (columns : Columns) : Except Fault (Int × Bytes) := do
  return (columns.int 0, ← removeTag (columns.text 1) tag)

def dbRemoveTagExpr (tbl : Table) (suffix expr tag : Bytes) (db : Db) :
    Except Fault (Except GError Int × Db) :=
  match validateTag tag with
  | .error error => .ok (.error error, db)
  | .ok () => do
      match ← dbSelect sqlite authorizer (readRemoved tag) (selectText (lit "id, tags") tbl expr) db with
      | (.error error, db) => return (.error error, db)
      | (.ok ids, db) => return removeTagRows sqlite authorizer tbl suffix ids db

def dbRemoveSongTagExpr (expr tag : Bytes) (db : Db) :=
  dbRemoveTagExpr sqlite authorizer .song [] expr tag db

def dbRemoveArtistTagExpr (expr tag : Bytes) (db : Db) :=
  dbRemoveTagExpr sqlite authorizer .artist [] expr tag db

/-- Its statement ends in a quote of its own. -/
def dbRemoveAlbumTagExpr (expr tag : Bytes) (db : Db) :=
  dbRemoveTagExpr sqlite authorizer .album (lit "'") expr tag db

def dbRemoveGenreTagExpr (expr tag : Bytes) (db : Db) :=
  dbRemoveTagExpr sqlite authorizer .genre [] expr tag db

/-- `db_set_authorizer`, but for the authorizer itself. -/
def dbSetAuthorizer (install : Bool) (db : Db) : Except GError Unit :=
  match sqlite.setAuthorizer install db with
  | .error errmsg =>
      .error { code := ackErrorDatabaseAuth, message := lit "sqlite3_set_authorizer: " ++ errmsg }
  | .ok () => .ok ()

end Database

end Mpdcron.Stats
