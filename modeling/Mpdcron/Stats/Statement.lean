import Mpdcron.Lib.SqlRow
import Mpdcron.Stats.Sqlite

/-! The statements of `stats-sqlite.c` that end in the expression of a client. -/

namespace Mpdcron.Stats

open CString SqlText SqlRow

/-- A function that updates the rows of an expression, with its arguments. -/
inductive Change where
  | love (tbl : Table) (on : Bool)
  | kill (tbl : Table) (kkill : Bool)
  | rate (tbl : Table) (rating : Int)
  | rateAbsolute (tbl : Table) (rating : Int)
  | count (tbl : Table) (plays : Int)
  | karma (value : Int)
  | addTag (tbl : Table) (tag : Bytes)
  deriving DecidableEq, Repr

def Change.run {Db : Type} (sqlite : Sqlite Db) (authorizer : Action → Bool) (change : Change)
    (expr : Bytes) (db : Db) : Except Fault (Except GError Int × Db) :=
  match change with
  | .love tbl on => .ok (dbLoveExpr sqlite authorizer tbl expr on db)
  | .kill tbl kkill => .ok (dbKillExpr sqlite authorizer tbl expr kkill db)
  | .rate tbl rating => .ok (dbRateExpr sqlite authorizer tbl expr rating db)
  | .rateAbsolute tbl rating => .ok (dbRateAbsoluteExpr sqlite authorizer tbl expr rating db)
  | .count tbl plays => .ok (dbCountExpr sqlite authorizer tbl expr plays db)
  | .karma value => dbKarmaSongExpr sqlite authorizer expr value db
  | .addTag tbl tag => .ok (dbAddTagExpr sqlite authorizer tbl expr tag db)

def Change.table : Change → Table
  | .love tbl _ => tbl
  | .kill tbl _ => tbl
  | .rate tbl _ => tbl
  | .rateAbsolute tbl _ => tbl
  | .count tbl _ => tbl
  | .karma _ => .song
  | .addTag tbl _ => tbl

/-- What stands behind `set`. -/
def Change.stmt : Change → Bytes
  | .love _ on => lit "love = love " ++ lit (if on then "+" else "-") ++ lit " 1"
  | .kill _ kkill => lit "kill = " ++ lit (if kkill then "kill + 1" else "0")
  | .rate _ rating => lit "rating = rating + (" ++ decimal rating ++ lit ")"
  | .rateAbsolute _ rating => lit "rating = (" ++ decimal rating ++ lit ")"
  | .count _ plays => lit "play_count = play_count + (" ++ decimal plays ++ lit ")"
  | .karma value => lit "karma = (" ++ decimal value ++ lit ")"
  | .addTag _ tag => lit "tags = tags || '" ++ tag ++ lit ":'"

/-- The arguments pass the checks of the function. -/
def Change.Accepted : Change → Prop
  | .karma value => 0 ≤ value ∧ value ≤ 100
  | .addTag _ tag => validateTag tag = .ok ()
  | _ => True

def updateHead (tbl : Table) (stmt : Bytes) : Bytes :=
  lit "update " ++ tbl.name ++ lit " set " ++ stmt

def selectHead (what : Bytes) (tbl : Table) : Bytes :=
  lit "select " ++ what ++ lit " from " ++ tbl.name

/-- An update with its text as a whole, and the number of changes. -/
def runStatement {Db : Type} (sqlite : Sqlite Db) (authorizer : Action → Bool) (sql : Bytes)
    (db : Db) : Except GError Int × Db :=
  match sqlite.prepare authorizer sql db with
  | .error errmsg => (.error (prepareError errmsg), db)
  | .ok execution =>
      ((stepDone (dbStep execution).1).map fun _ => sqlite.changes (dbStep execution).2,
        (dbStep execution).2)

theorem dbUpdateExpr_statement {Db : Type} (sqlite : Sqlite Db) (authorizer : Action → Bool)
    (tbl : Table) (stmt expr : Bytes) (db : Db) :
    dbUpdateExpr sqlite authorizer tbl stmt expr db
      = runStatement sqlite authorizer (statement (updateHead tbl stmt) expr) db := by
  have text : lit "update " ++ tbl.name ++ lit " set " ++ stmt ++ lit " where " ++ expr ++ lit " ;"
      = statement (updateHead tbl stmt) expr := rfl
  rw [dbUpdateExpr, sqlUpdateEntry, runStatement]
  simp only [text]
  cases sqlite.prepare authorizer (statement (updateHead tbl stmt) expr) db with
  | error errmsg => rfl
  | ok execution =>
      cases outcome : stepDone (dbStep execution).1 with
      | error error => simp [Except.map, outcome]
      | ok done => simp [Except.map, outcome]

/-- The only text that a change compiles. -/
theorem Change.run_statement {Db : Type} (sqlite : Sqlite Db) (authorizer : Action → Bool)
    (change : Change) (accepted : change.Accepted) (expr : Bytes) (db : Db) :
    change.run sqlite authorizer expr db
      = .ok (runStatement sqlite authorizer
          (statement (updateHead change.table change.stmt) expr) db) := by
  have update (tbl : Table) (stmt : Bytes) :=
    congrArg (@Except.ok Fault _) (dbUpdateExpr_statement sqlite authorizer tbl stmt expr db)
  cases change with
  | karma value =>
      have bounds : 0 ≤ value ∧ value ≤ 100 := accepted
      rw [Change.run, dbKarmaSongExpr, if_pos bounds]
      exact update .song _
  | addTag tbl tag =>
      have valid : validateTag tag = .ok () := accepted
      rw [Change.run, dbAddTagExpr, valid]
      exact update tbl _
  | love tbl on => exact update tbl _
  | kill tbl kkill => exact update tbl _
  | rate tbl rating => exact update tbl _
  | rateAbsolute tbl rating => exact update tbl _
  | count tbl plays => exact update tbl _

/-- The columns that the functions read: those of `db_list_*`, `db_listinfo_*`, `db_list_*_tag`
and `db_remove_*_tag`. -/
inductive Selection where
  | list
  | listinfo
  | listTag
  | removeTag
  deriving DecidableEq, Repr

def Selection.what : Selection → Table → Bytes
  | .list, .song => lit "id, uri"
  | .list, .album => lit "id, name, artist"
  | .list, _ => lit "id, name"
  | .listinfo, .song => lit "id, play_count, love, kill, rating, karma, last_played, uri"
  | .listinfo, .album => lit "id, play_count, name, artist, love, kill, rating"
  | .listinfo, _ => lit "id, play_count, name, love, kill, rating"
  | .listTag, .song => lit "id, uri, tags"
  | .listTag, .album => lit "id, name, artist, tags"
  | .listTag, _ => lit "id, name, tags"
  | .removeTag, _ => lit "id, tags"

theorem isHead_select (selection : Selection) (tbl : Table) :
    IsHead (selectHead (selection.what tbl) tbl) := by
  cases selection <;> cases tbl <;> decide

theorem where_decimalTokens (value : Int) : .word (lit "where") ∉ decimalTokens value := by
  intro member
  exact absurd (word_decimalTokens value (lit "where") member) (by decide)

/-- An update that sets a column to an expression with a number. -/
theorem isHead_number (tbl : Table) (stmt : Bytes) (value : Int)
    (known : ∀ tbl : Table, (scan .between (updateHead tbl stmt)).2 = .between ∧
      .word (lit "where") ∉ (scan .between (updateHead tbl stmt)).1) :
    IsHead (updateHead tbl (stmt ++ decimal value ++ lit ")")) := by
  have before : scan .between (updateHead tbl stmt)
      = ((scan .between (updateHead tbl stmt)).1, .between) := Prod.ext rfl (known tbl).1
  have whole := scan_then before (scan_decimal value)
  have text : updateHead tbl stmt ++ (decimal value ++ lit ")")
      = updateHead tbl (stmt ++ decimal value ++ lit ")") := by
    simp only [updateHead, List.append_assoc]
  rw [text] at whole
  refine isHead_of_scan whole rfl ?_
  simp [(known tbl).2, where_decimalTokens]

/-- A tag that has no quote in it stays in its literal. -/
theorem scan_addTag (tbl : Table) (tag : Bytes) (plain : apostrophe ∉ tag) :
    scan .between (Change.addTag tbl tag).stmt
      = ([.word (lit "tags"), .symbol 61, .word (lit "tags"), .symbol 124, .symbol 124],
          .quoted (tag ++ [colon])) := by
  have before : scan .between (lit "tags = tags || ")
      = ([.word (lit "tags"), .symbol 61, .word (lit "tags"), .symbol 124, .symbol 124],
          .between) := rfl
  have kept : apostrophe ∉ tag ++ [colon] := by
    simpa [plain] using (show apostrophe ≠ colon by decide)
  have whole := scan_then before (scan_quoted (tag ++ [colon]))
  have text : lit "tags = tags || " ++ quoted (tag ++ [colon]) = (Change.addTag tbl tag).stmt := by
    calc
      _ = lit "tags = tags || " ++ (apostrophe :: (tag ++ [colon] ++ [apostrophe])) := by
        rw [quoted, doubled_plain _ kept]
      _ = (lit "tags = tags || " ++ [apostrophe]) ++ tag ++ ([colon] ++ [apostrophe]) := by
        simp only [List.append_assoc, List.cons_append, List.nil_append]
      _ = _ := rfl
  rw [text] at whole
  exact whole

theorem isHead_addTag (tbl : Table) (tag : Bytes) (plain : apostrophe ∉ tag) :
    IsHead (updateHead tbl (Change.addTag tbl tag).stmt) := by
  have before : scan .between (lit "update " ++ tbl.name ++ lit " set ")
      = ([.word (lit "update"), .word tbl.name, .word (lit "set")], .between) := by
    cases tbl <;> rfl
  refine isHead_of_scan (scan_then before (scan_addTag tbl tag plain)) rfl ?_
  cases tbl <;> simp [Table.name] <;> decide

/-- The texts that the server puts in front of an expression. -/
inductive IsServerHead : Bytes → Prop where
  | update (change : Change) (plain : ∀ tbl tag, change = .addTag tbl tag → apostrophe ∉ tag) :
      IsServerHead (updateHead change.table change.stmt)
  | select (selection : Selection) (tbl : Table) :
      IsServerHead (selectHead (selection.what tbl) tbl)

theorem IsServerHead.isHead {head : Bytes} (server : IsServerHead head) : IsHead head := by
  cases server with
  | select selection tbl => exact isHead_select selection tbl
  | update change plain =>
      cases change with
      | love tbl on => cases tbl <;> cases on <;> decide
      | kill tbl kkill => cases tbl <;> cases kkill <;> decide
      | rate tbl rating =>
          refine isHead_number tbl (lit "rating = rating + (") rating ?_
          rintro (_ | _ | _ | _) <;> decide
      | rateAbsolute tbl rating =>
          refine isHead_number tbl (lit "rating = (") rating ?_
          rintro (_ | _ | _ | _) <;> decide
      | count tbl plays =>
          refine isHead_number tbl (lit "play_count = play_count + (") plays ?_
          rintro (_ | _ | _ | _) <;> decide
      | karma value =>
          refine isHead_number .song (lit "karma = (") value ?_
          rintro (_ | _ | _ | _) <;> decide
      | addTag tbl tag => exact isHead_addTag tbl tag (plain tbl tag rfl)

end Mpdcron.Stats
