import Mathlib.Logic.Function.Basic
import Mpdcron.Stats.Command
import Mpdcron.Stats.DbProcess
import Mpdcron.Stats.Engine

/-! A small SQLite: it runs the statements of the commands, where the expression is a comparison
of the id with a number, and refuses all other texts. It does what an engine is documented to
do. -/

namespace Mpdcron.Stats

open CString SqlText SqlRow

structure Small where
  tables : Database
  changed : Int

/-! ### Reading a statement -/

def readTable (name : Bytes) : Option Table :=
  [Table.song, .artist, .album, .genre].find? fun table => table.name = name

theorem readTable_name (table : Table) : readTable table.name = some table := by
  cases table <;> rfl

/-- `update table set assignment` -/
def readUpdate : List SqlText.Token → Option (Table × Assignment)
  | .word update :: .word name :: .word set :: tokens =>
      if update = lit "update" ∧ set = lit "set" then do
        let table ← readTable name
        let assignment ← readAssignment tokens
        if [assignment.column] ⊆ table.writtenNames ∧ assignment.columns ⊆ table.columnNames then
          some (table, assignment)
        else none
      else none
  | _ => none

/-- `name, name from table` -/
def readNames : List SqlText.Token → Option (Table × List Bytes)
  | [.word name, .word source, .word table] =>
      if source = lit "from" then (readTable table).map fun table => (table, [name]) else none
  | .word name :: .symbol 44 :: tokens =>
      (readNames tokens).map fun (table, names) => (table, name :: names)
  | _ => none

def readSelect : List SqlText.Token → Option (Table × List Bytes)
  | .word select :: tokens =>
      if select = lit "select" then
        (readNames tokens).filter fun (table, names) => names ⊆ table.columnNames
      else none
  | _ => none

/-- `id = number` -/
def readId : List SqlText.Token → Option Int
  | .word name :: .symbol 61 :: tokens => if name = lit "id" then readNumber tokens else none
  | _ => none

/-! ### Running it -/

/-- What an expression says of a row; one that is not read says nothing. -/
def smallHolds (expr : Bytes) (row : Int) : Bool :=
  match (lex expr).bind readId with
  | none => false
  | some id => decide (row = id)

def assignedRow (table : Table) (assignment : Assignment) (selected : Int → Bool)
    (row : Keyed.Row Bytes (Data table)) : Keyed.Row Bytes (Data table) :=
  if selected row.id then (assignment.apply (rowLayout table) row).getD row else row

theorem apply_skeleton (table : Table) (assignment : Assignment)
    (row next : Keyed.Row Bytes (Data table))
    (applied : assignment.apply (rowLayout table) row = some next) :
    next.id = row.id ∧ next.key = row.key := by
  rcases Option.bind_eq_some_iff.mp applied with ⟨value, _, set⟩
  rcases Option.map_eq_some_iff.mp set with ⟨data, _, rfl⟩
  exact ⟨rfl, rfl⟩

theorem assignedRow_skeleton (table : Table) (assignment : Assignment) (selected : Int → Bool)
    (row : Keyed.Row Bytes (Data table)) :
    (assignedRow table assignment selected row).id = row.id ∧
      (assignedRow table assignment selected row).key = row.key := by
  rw [assignedRow]
  split
  · cases applied : assignment.apply (rowLayout table) row with
    | none => exact ⟨rfl, rfl⟩
    | some next => exact apply_skeleton table assignment row next applied
  · exact ⟨rfl, rfl⟩

def Small.update (db : Small) (table : Table) (assignment : Assignment) (selected : Int → Bool) :
    Small :=
  { tables := Function.update db.tables table
      ((db.tables table).mapRows (assignedRow table assignment selected)
        (fun row => (assignedRow_skeleton table assignment selected row).1)
        (fun row => (assignedRow_skeleton table assignment selected row).2))
    changed := ((db.tables table).select selected).length }

def Small.rows (db : Small) (table : Table) (names : List Bytes) (selected : Int → Bool) :
    List Columns :=
  ((db.tables table).select selected).map fun row =>
    names.map fun name => columnOf ((rowLayout table).get row name)

def rowsExecution {Db : Type} (db : Db) : List Columns → Execution Db
  | [] => .done db
  | columns :: rows => .row columns db (rowsExecution db rows)

theorem rowsExecution_spec {Db : Type} (db : Db) (rows : List Columns) :
    (rowsExecution db rows).rows = rows ∧ (rowsExecution db rows).failure = none ∧
      (rowsExecution db rows).final = db := by
  induction rows with
  | nil => exact ⟨rfl, rfl, rfl⟩
  | cons columns rows ih => exact ⟨congrArg _ ih.1, ih.2.1, ih.2.2⟩

/-- The part of a statement in front of `where`. -/
def frontTokens (tokens : List SqlText.Token) : List SqlText.Token :=
  tokens.takeWhile (· ≠ .word (lit "where"))

def smallRun (authorizer : Action → Bool) (db : Small) (selected : Int → Bool) :
    Option (Table × Assignment) → Option (Table × List Bytes) → Except Bytes (Execution Small)
  | some (table, assignment), _ =>
      if authorizer .update ∧ authorizer .read then .ok (.done (db.update table assignment selected))
      else .error (lit "not authorized")
  | none, some (table, names) =>
      if authorizer .select ∧ authorizer .read then
        .ok (rowsExecution db (db.rows table names selected))
      else .error (lit "not authorized")
  | none, none => .error (lit "syntax error")

def smallPrepare (authorizer : Action → Bool) (sql : Bytes) (db : Small) :
    Except Bytes (Execution Small) :=
  match lex sql with
  | none => .error (lit "unrecognized token")
  | some tokens =>
      match readId (whereTokens tokens) with
      | none => .error (lit "syntax error")
      | some id =>
          smallRun authorizer db (fun row => decide (row = id))
            (readUpdate (frontTokens tokens)) (readSelect (frontTokens tokens))

def smallSqlite : Sqlite Small where
  prepare := smallPrepare
  changes db := db.changed
  reset _ db := .ok db
  runMaint authorizer _ db :=
    if authorizer .other then .done db else .failed (lit "not authorized") db
  setAuthorizer _ _ := .ok ()

/-! ### It does what is documented -/

theorem columnNames_read (table : Table) :
    ∀ name ∈ table.columnNames, IsColumn name ∧ name ≠ lit "where" := by
  have checked : table.columnNames.all (fun name => !name.isEmpty && name.all isWordChar
      && !name.all isDigit && decide (name ≠ lit "where")) = true := by
    cases table <;> decide +kernel
  intro name member
  have column := List.all_eq_true.mp checked name member
  simp only [Bool.and_eq_true, Bool.not_eq_true', List.isEmpty_eq_false_iff, List.all_eq_true,
    decide_eq_true_eq] at column
  exact ⟨⟨⟨column.1.1.1, column.1.1.2⟩, column.1.2⟩, column.2⟩

theorem lex_idExpr (id : Int) :
    lex (idExpr id) = some (.word (lit "id") :: .symbol 61 :: decimalTokens id) := by
  have front : lex (lit "id =") = some [.word (lit "id"), .symbol 61] := rfl
  exact lex_blank front (lex_decimal id)

theorem readId_idExpr (id : Int) : (lex (idExpr id)).bind readId = some id := by
  rw [lex_idExpr, Option.bind_some, readId, if_pos rfl, readNumber_tokens]

theorem smallHolds_idExpr (id row : Int) :
    smallHolds (idExpr id) row = decide (row = id) := by
  rw [smallHolds, readId_idExpr]

theorem frontTokens_eq (tokens later : List SqlText.Token) (other : .word (lit "where") ∉ tokens) :
    frontTokens (tokens ++ .word (lit "where") :: later ++ [.symbol 59]) = tokens := by
  rw [frontTokens, List.append_assoc, List.cons_append,
    Delimited.takeWhile_front _ tokens _ other]

theorem semicolon_decimalTokens (value : Int) : .symbol 59 ∉ decimalTokens value := by
  cases value <;> simp [decimalTokens]

/-- A statement that has these tokens in front is read by them. -/
theorem smallPrepare_front (authorizer : Action → Bool) (head : Bytes) (id : Int) (db : Small)
    (tokens : List SqlText.Token) (complete : lex head = some tokens)
    (other : .word (lit "where") ∉ tokens) :
    smallPrepare authorizer (statement head (idExpr id)) db
      = smallRun authorizer db (smallHolds (idExpr id)) (readUpdate tokens) (readSelect tokens) := by
  have within : .symbol 59 ∉ SqlText.Token.word (lit "id") :: .symbol 61 :: decimalTokens id := by
    simpa using semicolon_decimalTokens id
  have read : readId (SqlText.Token.word (lit "id") :: .symbol 61 :: decimalTokens id) = some id := by
    have whole := readId_idExpr id
    rwa [lex_idExpr] at whole
  have selected : smallHolds (idExpr id) = fun row => decide (row = id) := by
    funext row
    exact smallHolds_idExpr id row
  rw [smallPrepare, lex_where complete (lex_idExpr id)]
  simp only [whereTokens_eq tokens _ other within, read, frontTokens_eq tokens _ other, selected]

theorem lex_updateHead (table : Table) (assignment : Assignment)
    (columns : assignment.columns ⊆ table.columnNames) :
    lex (updateHead table assignment.sql)
      = some (.word (lit "update") :: .word table.name :: .word (lit "set") :: assignment.tokens) := by
  have front : lex (lit "update " ++ table.name ++ lit " set")
      = some [.word (lit "update"), .word table.name, .word (lit "set")] := by
    cases table <;> rfl
  have words (name : Bytes) (member : name ∈ assignment.columns) : IsWord name :=
    (columnNames_read table name (columns member)).1.1
  have whole := lex_blank front (assignment.lex_sql words)
  have text : lit "update " ++ table.name ++ lit " set" ++ [32] ++ assignment.sql
      = updateHead table assignment.sql := by
    simp only [updateHead, List.append_assoc]
    rfl
  rw [text] at whole
  exact whole

theorem where_updateTokens (table : Table) (assignment : Assignment)
    (columns : assignment.columns ⊆ table.columnNames) :
    .word (lit "where") ∉ SqlText.Token.word (lit "update") :: .word table.name ::
      .word (lit "set") :: assignment.tokens := by
  intro member
  simp only [List.mem_cons, SqlText.Token.word.injEq] at member
  rcases member with same | same | same | inside
  · exact absurd same (by decide)
  · cases table <;> exact absurd same (by decide)
  · exact absurd same (by decide)
  · rcases assignment.word_tokens _ inside with named | number
    · exact (columnNames_read table _ (columns named)).2 rfl
    · exact absurd number (by decide)

theorem smallPrepare_update (authorizer : Action → Bool) (table : Table) (assignment : Assignment)
    (id : Int) (db : Small) (written : assignment.column ∈ table.writtenNames)
    (columns : assignment.columns ⊆ table.columnNames) :
    smallPrepare authorizer (statement (updateHead table assignment.sql) (idExpr id)) db
      = if authorizer .update ∧ authorizer .read then
          .ok (.done (db.update table assignment (smallHolds (idExpr id))))
        else .error (lit "not authorized") := by
  have read : readUpdate (.word (lit "update") :: .word table.name :: .word (lit "set") ::
      assignment.tokens) = some (table, assignment) := by
    have value := readAssignment_tokens assignment
      fun name member => (columnNames_read table name (columns member)).1
    simp [readUpdate, readTable_name, value, written, columns]
  rw [smallPrepare_front authorizer _ id db _ (lex_updateHead table assignment columns)
    (where_updateTokens table assignment columns), read, smallRun]

def nameTokens : List Bytes → List SqlText.Token
  | [] => []
  | [name] => [.word name]
  | name :: names => .word name :: .symbol 44 :: nameTokens names

theorem lex_nameList (names : List Bytes) (nonempty : names ≠ [])
    (words : ∀ name ∈ names, IsWord name) : lex (nameList names) = some (nameTokens names) := by
  induction names with
  | nil => exact absurd rfl nonempty
  | cons name names ih =>
      have word := words name List.mem_cons_self
      cases names with
      | nil => exact lex_word name word
      | cons next names =>
          have comma : scan (.word name) [44] = ([.word name, .symbol 44], .between) := rfl
          have first := lex_of_scan (scan_then (scan_word name word) comma) rfl
          have later := ih (List.cons_ne_nil _ _)
            fun other member => words other (List.mem_cons_of_mem _ member)
          have whole := lex_blank first later
          have text : name ++ [44] ++ [32] ++ nameList (next :: names)
              = nameList (name :: next :: names) := by
            change _ = name ++ lit ", " ++ nameList (next :: names)
            rw [List.append_assoc name]
            rfl
          rw [text] at whole
          exact whole

theorem readNames_tokens (table : Table) (names : List Bytes) (nonempty : names ≠ []) :
    readNames (nameTokens names ++ [.word (lit "from"), .word table.name]) = some (table, names) := by
  induction names with
  | nil => exact absurd rfl nonempty
  | cons name names ih =>
      cases names with
      | nil => simp [nameTokens, readNames, readTable_name]
      | cons next names =>
          have later := ih (List.cons_ne_nil _ _)
          simp [nameTokens, readNames, later]

theorem word_nameTokens (names : List Bytes) (text : Bytes) (member : .word text ∈ nameTokens names) :
    text ∈ names := by
  induction names with
  | nil => cases member
  | cons name names ih =>
      cases names with
      | nil => simpa [nameTokens] using member
      | cons next names =>
          simp only [nameTokens, List.mem_cons, SqlText.Token.word.injEq, reduceCtorEq, false_or] at member
          rcases member with rfl | later
          · exact List.mem_cons_self
          · exact List.mem_cons_of_mem _ (ih later)

theorem smallPrepare_select (authorizer : Action → Bool) (table : Table) (names : List Bytes)
    (id : Int) (db : Small) (nonempty : names ≠ []) (columns : names ⊆ table.columnNames) :
    smallPrepare authorizer (statement (selectHead (nameList names) table) (idExpr id)) db
      = if authorizer .select ∧ authorizer .read then
          .ok (rowsExecution db (db.rows table names (smallHolds (idExpr id))))
        else .error (lit "not authorized") := by
  have words (name : Bytes) (member : name ∈ names) : IsWord name :=
    (columnNames_read table name (columns member)).1.1
  have keyword : lex (lit "select") = some [.word (lit "select")] := rfl
  have source : lex (lit "from " ++ table.name) = some [.word (lit "from"), .word table.name] := by
    cases table <;> rfl
  have complete := lex_blank (lex_blank keyword (lex_nameList names nonempty words)) source
  have text : lit "select" ++ [32] ++ nameList names ++ [32] ++ (lit "from " ++ table.name)
      = selectHead (nameList names) table := by
    simp only [selectHead, List.append_assoc]
    rfl
  rw [text, List.singleton_append, List.cons_append] at complete
  have other : .word (lit "where") ∉ SqlText.Token.word (lit "select") ::
      (nameTokens names ++ [.word (lit "from"), .word table.name]) := by
    intro member
    simp only [List.mem_cons, List.mem_append, SqlText.Token.word.injEq, List.not_mem_nil, or_false] at member
    rcases member with same | named | same | same
    · exact absurd same (by decide)
    · exact (columnNames_read table _ (columns (word_nameTokens names _ named))).2 rfl
    · exact absurd same (by decide)
    · cases table <;> exact absurd same (by decide)
  have update : readUpdate (.word (lit "select") ::
      (nameTokens names ++ [.word (lit "from"), .word table.name])) = none := by
    rw [readUpdate.eq_def]
    split
    · rename_i read
      rw [(List.cons.inj read).1.symm |> SqlText.Token.word.inj, if_neg]
      exact fun wrong => absurd wrong.1 (by decide)
    · rfl
  have read : readSelect (.word (lit "select") ::
      (nameTokens names ++ [.word (lit "from"), .word table.name])) = some (table, names) := by
    simp [readSelect, readNames_tokens table names nonempty, columns]
  rw [smallPrepare_front authorizer _ id db _ complete other, update, read, smallRun]

theorem Small.update_becomes (db : Small) (table : Table) (assignment : Assignment)
    (selected : Int → Bool) :
    (db.tables table).Becomes selected (assignment.apply (rowLayout table))
      ((db.update table assignment selected).tables table) := by
  rw [Small.update]
  dsimp only
  rw [Function.update_self]
  apply Keyed.Table.mapRows_becomes
  · intro row chosen value applied
    rw [assignedRow, if_pos chosen, applied, Option.getD_some]
  · intro row kept
    rw [assignedRow, if_neg (by simp [kept])]

/-- `id = number` is the only expression that is read. -/
def smallEngine : Engine smallSqlite where
  contents db := db.tables
  RowExpression expr := ∃ id : Int, expr = idExpr id
  holds _ _ expr row := smallHolds expr row
  compiles authorizer _ _ _ _ := authorizer .update ∧ authorizer .read
  update_compiles := by
    rintro authorizer table assignment _ db ⟨id, rfl⟩ _ written columns
    have prepared := smallPrepare_update authorizer table assignment id db written columns
    rw [Prepares, smallSqlite]
    dsimp only
    rw [prepared]
    by_cases allowed : authorizer .update ∧ authorizer .read
    · simp [allowed]
    · simp only [if_neg allowed]
      exact iff_of_false (fun ⟨_, wrong⟩ => by cases wrong) allowed
  update_done := by
    rintro authorizer table assignment _ db execution next ⟨id, rfl⟩ written columns prepared done
    have same := (smallPrepare_update authorizer table assignment id db written columns).symm.trans
      prepared
    split at same
    · cases same
      cases done
      refine ⟨db.update_becomes table assignment _, fun other different => ?_, rfl⟩
      exact Function.update_of_ne different _ _
    · cases same
  select_done := by
    rintro authorizer table names _ db execution ⟨id, rfl⟩ nonempty columns prepared _
    have same := (smallPrepare_select authorizer table names id db nonempty columns).symm.trans
      prepared
    split at same
    · cases same
      have spec := rowsExecution_spec db (db.rows table names (smallHolds (idExpr id)))
      rw [spec.1, spec.2.2]
      exact ⟨List.Perm.refl _, rfl⟩
    · cases same
  id_expression id := ⟨id, rfl⟩
  id_holds _ _ id row := smallHolds_idExpr id row
  reset_kept := by
    rintro stmt db next same
    cases same
    rfl

theorem small_change (change : Change) (accepted : change.Accepted) (plain : change.Plain) (id : Int)
    (db : Small) :
    change.run smallSqlite (fun _ => true) (idExpr id) db
      = .ok (.ok (db.update change.table change.assignment (smallHolds (idExpr id))).changed,
          db.update change.table change.assignment (smallHolds (idExpr id))) := by
  have prepared := smallPrepare_update (fun _ => true) change.table change.assignment id db
    change.written change.known
  rw [if_pos ⟨rfl, rfl⟩] at prepared
  rw [change.run_statement smallSqlite _ accepted, change.stmt_eq plain, runStatement]
  simp only [smallSqlite, prepared]
  rfl

def smallHost : Host Small where
  sqlite := smallSqlite
  passwords := []
  strftime _ := none

def smallState (db : Small) : State Small where
  perm _ := 0
  output _ := []
  flushes _ := 0
  currentCommand := none
  authorizer := none
  db := db

/-- The song is played, which creates its row. -/
def firstPlay : ProcessCall :=
  { song := plainSong (lit "a.ogg") (lit "A"), increment := true, percentPlayed := -1, now := 0 }

def playedOnce : Small where
  tables table := (Database.empty table).upsertAny (firstPlay.upsertOf table)
  changed := 1

def playedRow : Keyed.Row Bytes (Data .song) where
  id := 1
  key := lit "a.ogg"
  data := freshSong firstPlay.song (lit "A") none true (-1) 0

theorem playedOnce_row : (playedOnce.tables .song).find (lit "a.ogg") = some playedRow := by
  decide +kernel

end Mpdcron.Stats
