import Mpdcron.Lib.Selected
import Mpdcron.Stats.Database
import Mpdcron.Stats.Statement

/-! What SQLite is documented to do with the statements of `stats-sqlite.c` that end in an
expression. -/

namespace Mpdcron.Stats

open CString SqlText SqlRow

/-! ### The columns of the tables -/

def Table.columnNames : Table → List Bytes
  | .song =>
      [lit "id", lit "play_count", lit "love", lit "kill", lit "rating", lit "tags", lit "uri",
        lit "duration", lit "last_modified", lit "artist", lit "album", lit "title", lit "track",
        lit "name", lit "genre", lit "date", lit "composer", lit "performer", lit "disc",
        lit "mb_artistid", lit "mb_albumid", lit "mb_trackid", lit "last_played", lit "karma"]
  | .album =>
      [lit "id", lit "play_count", lit "tags", lit "artist", lit "name", lit "love", lit "kill",
        lit "rating"]
  | _ =>
      [lit "id", lit "play_count", lit "tags", lit "name", lit "love", lit "kill", lit "rating"]

/-- The columns that commands write. -/
def Table.writtenNames : Table → List Bytes
  | .song =>
      [lit "play_count", lit "love", lit "kill", lit "rating", lit "tags", lit "karma"]
  | _ => [lit "play_count", lit "love", lit "kill", lit "rating", lit "tags"]

def integerColumn (name : String) (value : Int) : Bytes × Option Value :=
  (lit name, some (.integer value))

def textColumn (name : String) (text : Option Bytes) : Bytes × Option Value :=
  (lit name, text.map .text)

def counterColumns (counters : Counters) : List (Bytes × Option Value) :=
  [integerColumn "play_count" counters.playCount, integerColumn "love" counters.love,
    integerColumn "kill" counters.kill, integerColumn "rating" counters.rating,
    textColumn "tags" (some counters.tags)]

def infoColumns (info : SongInfo) : List (Bytes × Option Value) :=
  [integerColumn "duration" info.duration, integerColumn "last_modified" info.lastModified,
    textColumn "artist" info.artist, textColumn "album" info.album, textColumn "title" info.title,
    textColumn "track" info.track, textColumn "name" info.name, textColumn "genre" info.genre,
    textColumn "date" info.date, textColumn "composer" info.composer,
    textColumn "performer" info.performer, textColumn "disc" info.disc,
    textColumn "mb_artistid" info.mbArtistid, textColumn "mb_albumid" info.mbAlbumid,
    textColumn "mb_trackid" info.mbTrackid]

def dataColumns : (table : Table) → Keyed.Row Bytes (Data table) → List (Bytes × Option Value)
  | .song, row =>
      counterColumns (SongData.counters row.data) ++ [textColumn "uri" (some row.key)]
        ++ infoColumns (SongData.info row.data)
        ++ [(lit "last_played", (SongData.lastPlayed row.data).map .integer),
          integerColumn "karma" (SongData.karma row.data).val]
  | .album, row =>
      counterColumns (AlbumData.counters row.data)
        ++ [textColumn "artist" (AlbumData.artist row.data), textColumn "name" (some row.key)]
  | .artist, row => counterColumns row.data ++ [textColumn "name" (some row.key)]
  | .genre, row => counterColumns row.data ++ [textColumn "name" (some row.key)]

def Counters.set (counters : Counters) (name : Bytes) : Value → Option Counters
  | .integer value =>
      [(lit "play_count", { counters with playCount := value }),
        (lit "love", { counters with love := value }),
        (lit "kill", { counters with kill := value }),
        (lit "rating", { counters with rating := value })].lookup name
  | .text bytes => [(lit "tags", { counters with tags := bytes })].lookup name

def setCounters : (table : Table) → Data table → Counters → Data table
  | .song, data, counters => { (data : SongData) with counters := counters }
  | .artist, _, counters => counters
  | .album, data, counters => { (data : AlbumData) with counters := counters }
  | .genre, _, counters => counters

/-- The constraint on the column holds of what is set. -/
def setKarma : (table : Table) → Data table → Value → Option (Data table)
  | .song, data, .integer karma =>
      if range : 0 ≤ karma ∧ karma ≤ 100 then some { (data : SongData) with karma := ⟨karma, range⟩ }
      else none
  | _, _, _ => none

def setColumn (table : Table) (data : Data table) (name : Bytes) (value : Value) :
    Option (Data table) :=
  if name = lit "karma" then setKarma table data value
  else ((countersOf table data).set name value).map (setCounters table data)

def rowLayout (table : Table) : Layout (Keyed.Row Bytes (Data table)) where
  get row name := ((integerColumn "id" row.id :: dataColumns table row).lookup name).join
  set row name value := (setColumn table row.data name value).map fun data => { row with data := data }

/-- The row with its counters changed. -/
def withCounters (table : Table) (change : Counters → Counters) (row : Keyed.Row Bytes (Data table)) :
    Keyed.Row Bytes (Data table) :=
  { row with data := setCounters table row.data (change (countersOf table row.data)) }

theorem countersOf_withCounters (table : Table) (change : Counters → Counters)
    (row : Keyed.Row Bytes (Data table)) :
    countersOf table (withCounters table change row).data = change (countersOf table row.data) := by
  cases table <;> rfl

/-- What the accessors make of a value; a text is converted to an integer. -/
def columnOf : Option Value → Column
  | none => .null
  | some (.integer value) => { int := wrapInt value, int64 := value, text := some (decimal value) }
  | some (.text bytes) =>
      { int := atoi (upToNul bytes), int64 := clampLong (strtol (upToNul bytes)).1
        text := some bytes }

/-! ### The statements -/

/-- Names with commas between them. -/
def nameList : List Bytes → Bytes
  | [] => []
  | [name] => name
  | name :: names => name ++ lit ", " ++ nameList names

/-- The expression that `db_remove_*_tag_expr` builds. -/
def idExpr (id : Int) : Bytes := lit "id = " ++ decimal id

/-- A statement can be compiled. -/
def Prepares {Db : Type} (sqlite : Sqlite Db) (authorizer : Action → Bool) (sql : Bytes) (db : Db) :
    Prop :=
  ∃ execution, sqlite.prepare authorizer sql db = .ok execution

/-- The contents of a database and what the expressions of clients say about its rows, with what
SQLite does with them. `RowExpression` are the texts that are one expression over a row, `holds`
the rows of which it is true and `compiles` whether a statement over a table, some of its columns
and an expression can be compiled. -/
structure Engine {Db : Type} (sqlite : Sqlite Db) where
  contents : Db → Database
  RowExpression : Bytes → Prop
  holds : Db → Table → Bytes → Int → Bool
  compiles : (Action → Bool) → Table → List Bytes → Bytes → Db → Prop
  /-- The values in an update, which is a C string, are no matter to the compiler. -/
  update_compiles : ∀ authorizer table (assignment : Assignment) expr db, RowExpression expr →
    (0 : UInt8) ∉ assignment.sql → assignment.column ∈ table.writtenNames → assignment.columns ⊆ table.columnNames →
    (Prepares sqlite authorizer (statement (updateHead table assignment.sql) expr) db ↔
      compiles authorizer table assignment.columns expr db)
  /-- An update that is done has changed the selected rows. -/
  update_done : ∀ authorizer table (assignment : Assignment) expr db execution next,
    RowExpression expr →
    assignment.column ∈ table.writtenNames → assignment.columns ⊆ table.columnNames →
    sqlite.prepare authorizer (statement (updateHead table assignment.sql) expr) db = .ok execution →
    dbStep execution = (.done, next) →
      (contents db table).Becomes (holds db table expr) (assignment.apply (rowLayout table))
        (contents next table) ∧
      (∀ other, other ≠ table → contents next other = contents db other) ∧
      sqlite.changes next = ((contents db table).select (holds db table expr)).length
  /-- A query returns the selected rows in some order. -/
  select_done : ∀ authorizer table names expr db execution, RowExpression expr →
    names ≠ [] → names ⊆ table.columnNames →
    sqlite.prepare authorizer (statement (selectHead (nameList names) table) expr) db
      = .ok execution →
    execution.failure = none →
      List.Perm execution.rows (((contents db table).select (holds db table expr)).map fun row =>
        names.map fun name => columnOf ((rowLayout table).get row name)) ∧
      contents execution.final = contents db
  /-- An integer is compared with the id. -/
  id_expression : ∀ id, RowExpression (idExpr id)
  id_holds : ∀ db table id row, holds db table (idExpr id) row = decide (row = id)
  reset_kept : ∀ stmt db next, sqlite.reset stmt db = .ok next → contents next = contents db

/-- The assignment that a change makes. -/
def Change.assignment : Change → Assignment
  | .love _ on =>
      ⟨lit "love", if on then .add (lit "love") (.integer 1) else .subtract (lit "love") (.integer 1)⟩
  | .kill _ kkill =>
      ⟨lit "kill", if kkill then .add (lit "kill") (.integer 1) else .just (.integer 0)⟩
  | .rate _ rating => ⟨lit "rating", .add (lit "rating") (.grouped rating)⟩
  | .rateAbsolute _ rating => ⟨lit "rating", .just (.grouped rating)⟩
  | .count _ plays => ⟨lit "play_count", .add (lit "play_count") (.grouped plays)⟩
  | .karma value => ⟨lit "karma", .just (.grouped value)⟩
  | .addTag _ tag => ⟨lit "tags", .concat (lit "tags") (.literal (tag ++ [colon]))⟩

/-- The tag of a change needs no quoting. -/
def Change.Plain : Change → Prop
  | .addTag _ tag => apostrophe ∉ tag
  | _ => True

theorem addTag_literal (tag : Bytes) (plain : apostrophe ∉ tag) :
    lit "tags = tags || '" ++ tag ++ lit ":'"
      = lit "tags" ++ lit " = " ++ (lit "tags" ++ lit " || " ++ quoted (tag ++ [colon])) := by
  have kept : apostrophe ∉ tag ++ [colon] := by
    simpa [plain] using (show apostrophe ≠ colon by decide)
  calc
    _ = lit "tags = tags || " ++ (apostrophe :: (tag ++ [colon] ++ [apostrophe])) := by
      have opened : lit "tags = tags || '" = lit "tags = tags || " ++ [apostrophe] := rfl
      have closed : lit ":'" = [colon] ++ [apostrophe] := rfl
      rw [opened, closed]
      simp only [List.append_assoc, List.cons_append, List.nil_append]
    _ = lit "tags = tags || " ++ quoted (tag ++ [colon]) := by rw [quoted, doubled_plain _ kept]
    _ = _ := rfl

/-- The text of a change is the text of its assignment. -/
theorem Change.stmt_eq (change : Change) (plain : change.Plain) :
    change.stmt = change.assignment.sql := by
  have grouped (column : Bytes) (value : Int) (front : Bytes)
      (text : front = column ++ lit " = " ++ (column ++ lit " + " ++ lit "(")) :
      front ++ decimal value ++ lit ")"
        = (Assignment.mk column (.add column (.grouped value))).sql := by
    rw [text]
    simp only [Assignment.sql, Expr.sql, Operand.sql, List.append_assoc]
  cases change with
  | love tbl on => cases on <;> rfl
  | kill tbl kkill => cases kkill <;> rfl
  | rate tbl rating => exact grouped (lit "rating") rating _ rfl
  | count tbl plays => exact grouped (lit "play_count") plays _ rfl
  | rateAbsolute tbl rating => rfl
  | karma value => rfl
  | addTag tbl tag => exact addTag_literal tag plain

/-- The tag of a change is a C string. -/
def Change.NoNul : Change → Prop
  | .addTag _ tag => (0 : UInt8) ∉ tag
  | _ => True

theorem Change.stmt_noNul (change : Change) (noNul : change.NoNul) : (0 : UInt8) ∉ change.stmt := by
  have number (front : Bytes) (value : Int) (text : (0 : UInt8) ∉ front) :
      (0 : UInt8) ∉ front ++ decimal value ++ lit ")" := by
    simp only [List.mem_append, text, decimal_noNul, false_or]
    decide
  cases change with
  | love tbl on =>
      have signs : ∀ on : Bool, (0 : UInt8) ∉
          lit "love = love " ++ lit (if on then "+" else "-") ++ lit " 1" := by decide
      exact signs on
  | kill tbl kkill =>
      have values : ∀ kkill : Bool,
          (0 : UInt8) ∉ lit "kill = " ++ lit (if kkill then "kill + 1" else "0") := by decide
      exact values kkill
  | rate tbl rating | rateAbsolute tbl rating | count tbl rating | karma rating =>
      exact number _ _ (by decide)
  | addTag tbl tag =>
      have absent : (0 : UInt8) ∉ tag := noNul
      simp only [Change.stmt, List.mem_append, absent, or_false]
      decide

theorem Change.written (change : Change) :
    change.assignment.column ∈ change.table.writtenNames := by
  cases change with
  | karma value => exact List.mem_of_getElem? (i := 5) rfl
  | love tbl on => cases tbl <;> exact List.mem_of_getElem? (i := 1) rfl
  | kill tbl kkill => cases tbl <;> exact List.mem_of_getElem? (i := 2) rfl
  | rate tbl rating => cases tbl <;> exact List.mem_of_getElem? (i := 3) rfl
  | rateAbsolute tbl rating => cases tbl <;> exact List.mem_of_getElem? (i := 3) rfl
  | count tbl plays => cases tbl <;> exact List.mem_of_getElem? (i := 0) rfl
  | addTag tbl tag => cases tbl <;> exact List.mem_of_getElem? (i := 4) rfl

theorem Change.columns_eq (change : Change) :
    ∀ name ∈ change.assignment.columns, name = change.assignment.column := by
  cases change with
  | love tbl on => cases on <;> simp [Change.assignment, Assignment.columns, Expr.columns, Operand.columns]
  | kill tbl kkill =>
      cases kkill <;> simp [Change.assignment, Assignment.columns, Expr.columns, Operand.columns]
  | rate tbl value | rateAbsolute tbl value | count tbl value | karma value | addTag tbl tag =>
      simp [Change.assignment, Assignment.columns, Expr.columns, Operand.columns]

theorem written_subset (table : Table) : table.writtenNames ⊆ table.columnNames := by
  cases table with
  | song =>
      simp only [Table.writtenNames, List.cons_subset]
      exact ⟨List.mem_of_getElem? (i := 1) rfl, List.mem_of_getElem? (i := 2) rfl,
        List.mem_of_getElem? (i := 3) rfl, List.mem_of_getElem? (i := 4) rfl,
        List.mem_of_getElem? (i := 5) rfl, List.mem_of_getElem? (i := 23) rfl, List.nil_subset _⟩
  | album =>
      simp only [Table.writtenNames, List.cons_subset]
      exact ⟨List.mem_of_getElem? (i := 1) rfl, List.mem_of_getElem? (i := 5) rfl,
        List.mem_of_getElem? (i := 6) rfl, List.mem_of_getElem? (i := 7) rfl,
        List.mem_of_getElem? (i := 2) rfl, List.nil_subset _⟩
  | artist | genre =>
      simp only [Table.writtenNames, List.cons_subset]
      exact ⟨List.mem_of_getElem? (i := 1) rfl, List.mem_of_getElem? (i := 4) rfl,
        List.mem_of_getElem? (i := 5) rfl, List.mem_of_getElem? (i := 6) rfl,
        List.mem_of_getElem? (i := 2) rfl, List.nil_subset _⟩

theorem Change.known (change : Change) :
    change.assignment.columns ⊆ change.table.columnNames := by
  intro name member
  rw [change.columns_eq name member]
  exact written_subset change.table change.written

/-! ### What a change does -/

theorem runStatement_done {Db : Type} (sqlite : Sqlite Db) (authorizer : Action → Bool) (sql : Bytes)
    (db next : Db) (changes : Int)
    (ran : runStatement sqlite authorizer sql db = (.ok changes, next)) :
    ∃ execution, sqlite.prepare authorizer sql db = .ok execution ∧
      dbStep execution = (.done, next) ∧ changes = sqlite.changes next := by
  rw [runStatement] at ran
  cases prepared : sqlite.prepare authorizer sql db with
  | error errmsg =>
      rw [prepared] at ran
      cases ran
  | ok execution =>
      rw [prepared] at ran
      rcases stepped : dbStep execution with ⟨result, after⟩
      simp only [stepped, Prod.mk.injEq] at ran
      cases result with
      | done =>
          rcases ran with ⟨counted, rfl⟩
          exact ⟨execution, rfl, stepped, (Except.ok.inj counted).symm⟩
      | row => cases ran.1
      | failed errmsg => cases ran.1

section Engine

variable {Db : Type} {sqlite : Sqlite Db} (engine : Engine sqlite)

/-- The rows of an expression are changed and nothing else is. -/
structure Engine.Updated (table : Table) (expr : Bytes)
    (change : Keyed.Row Bytes (Data table) → Option (Keyed.Row Bytes (Data table)))
    (db next : Db) : Prop where
  becomes : (engine.contents db table).Becomes (engine.holds db table expr) change
    (engine.contents next table)
  others : ∀ other, other ≠ table → engine.contents next other = engine.contents db other

/-- The number of rows of an expression. -/
def Engine.matching (table : Table) (expr : Bytes) (db : Db) : Nat :=
  ((engine.contents db table).select (engine.holds db table expr)).length

/-- A change that succeeds has made its assignment in the rows of its expression. -/
theorem Engine.change_done (authorizer : Action → Bool) (change : Change)
    (accepted : change.Accepted) (plain : change.Plain) (expr : Bytes)
    (isExpr : engine.RowExpression expr) (db next : Db) (changes : Int)
    (ran : change.run sqlite authorizer expr db = .ok (.ok changes, next)) :
    engine.Updated change.table expr (change.assignment.apply (rowLayout change.table)) db next ∧
      changes = engine.matching change.table expr db := by
  rw [change.run_statement sqlite authorizer accepted, change.stmt_eq plain] at ran
  rcases runStatement_done sqlite authorizer _ db next changes (Except.ok.inj ran) with
    ⟨execution, prepared, stepped, counted⟩
  rcases engine.update_done authorizer change.table change.assignment expr db execution next isExpr
    change.written change.known prepared stepped with ⟨becomes, others, count⟩
  exact ⟨⟨becomes, others⟩, counted.trans count⟩

end Engine

end Mpdcron.Stats
