import Mpdcron.Stats.Atomicity

/-! The prepared statements of `stats-sqlite.c`, which keep the error of a step that failed: what
a failed call of `db_process` leaves for the next. -/

namespace Mpdcron.Stats

open CString Player Script

/-! ### The statements -/

/-- The statements of `db_stmt`. -/
inductive PreparedStmt where
  | has (table : Table)
  | insert (table : Table)
  | update (table : Table)
  | updateSongPlayed
  deriving DecidableEq, Repr

def PreparedStmt.table : PreparedStmt → Table
  | .has table | .insert table | .update table => table
  | .updateSongPlayed => .song

/-- `SQL_UPDATE_SONG_PLAYED` or `SQL_UPDATE_SONG` for a song. -/
def updateStmt (percentPlayed : Int) : Table → PreparedStmt
  | .song => if (played percentPlayed).isSome then .updateSongPlayed else .update .song
  | table => .update table

def preparedFor (percentPlayed : Int) : DbStmt → PreparedStmt
  | ⟨table, .select _⟩ => .has table
  | ⟨table, .insert _ _⟩ => .insert table
  | ⟨table, .update _ _ _⟩ => updateStmt percentPlayed table

/-- The database, and the statements whose last step failed. -/
structure Connected where
  db : Database
  pending : PreparedStmt → Bool

/-- What makes `db_process` return false: `sqlite3_reset`, `sqlite3_step`, or an id below -1. -/
inductive StmtError where
  | reset (stmt : PreparedStmt)
  | step (stmt : PreparedStmt)
  | id
  deriving DecidableEq, Repr

/-- `sqlite3_reset`, `sqlite3_step` and, after a select, `sqlite3_column_int`. The reset returns the
error of the last step if that failed, and resets the statement all the same; `fails` are the
statements whose step fails. -/
def execPrepared (percentPlayed : Int) (fails : PreparedStmt → Bool) (stmt : DbStmt)
    (state : Connected) : Except StmtError (Option Int) × Connected :=
  let prepared := preparedFor percentPlayed stmt
  if state.pending prepared then
    (.error (.reset prepared),
      { state with pending := Function.update state.pending prepared false })
  else
    match if fails prepared then none else dbExec stmt state.db with
    | none =>
        (.error (.step prepared),
          { state with pending := Function.update state.pending prepared true })
    | some (answer, db) =>
        match columnInt.answer answer with
        | none => (.error .id, state)
        | some selected => (.ok selected, { state with db := db })

def ProcessCall.attempt (call : ProcessCall) (fails : PreparedStmt → Bool) (state : Connected) :
    Except StmtError Unit × Connected :=
  (dbProcess call).attempt (execPrepared call.percentPlayed fails) state

/-- What a call returns, and its effect on the database, while the storage works. -/
def ProcessCall.outcome (call : ProcessCall) (state : Connected) : Bool × Database :=
  let (result, after) := call.attempt (fun _ => false) state
  (result.isOk, after.db)

/-! ### A call that fails -/

theorem execPrepared_ok (percentPlayed : Int) (fails : PreparedStmt → Bool) (stmt : DbStmt)
    (state : Connected) (answer : Option Int) (after : Connected)
    (executed : execPrepared percentPlayed fails stmt state = (.ok answer, after)) :
    after.pending = state.pending := by
  rw [execPrepared] at executed
  split at executed
  · cases executed
  · split at executed
    · cases executed
    · split at executed
      · cases executed
      · cases executed
        rfl

theorem execPrepared_step (percentPlayed : Int) (fails : PreparedStmt → Bool) (stmt : DbStmt)
    (state : Connected) (prepared : PreparedStmt) (after : Connected)
    (executed : execPrepared percentPlayed fails stmt state = (.error (.step prepared), after)) :
    state.pending prepared = false ∧
      after.pending = Function.update state.pending prepared true := by
  rw [execPrepared] at executed
  split at executed
  next => cases executed
  next free =>
    split at executed
    · cases executed
      exact ⟨Bool.eq_false_iff.mpr free, rfl⟩
    · split at executed
      · cases executed
      · cases executed

/-- A call that a step ends leaves the error in its statement, which had none. -/
theorem attempt_failed (call : ProcessCall) (fails : PreparedStmt → Bool) (state after : Connected)
    (prepared : PreparedStmt)
    (failed : call.attempt fails state = (.error (.step prepared), after)) :
    state.pending prepared = false ∧
      after.pending = Function.update state.pending prepared true := by
  rcases attempt_error (execPrepared call.percentPlayed fails)
      (fun current => current.pending = state.pending)
      (fun stmt store answer final kept executed =>
        (execPrepared_ok _ fails stmt store answer final executed).trans kept)
      (dbProcess call) state _ after rfl failed with ⟨stmt, before, kept, executed⟩
  have step := execPrepared_step _ fails stmt before prepared after executed
  rwa [kept] at step

/-! ### The next call -/

/-- A statement does nothing but return its pending error. -/
def blocked (percentPlayed : Int) (pending : PreparedStmt → Bool) (table : Table)
    (stmt : Keyed.Stmt Bytes (Data table)) (rows : Keyed.Table Bytes (Data table)) :
    Option (Option Int × Keyed.Table Bytes (Data table)) :=
  if pending (preparedFor percentPlayed ⟨table, stmt⟩) then none
  else Keyed.execRead columnInt stmt rows

theorem attempt_eq_run (percentPlayed : Int) (pending : PreparedStmt → Bool)
    (program : DbScript Unit) : ∀ db : Database,
    let out := program.attempt (execPrepared percentPlayed fun _ => false) ⟨db, pending⟩
    let plain := program.run (execAt (blocked percentPlayed pending)) db
    (out.1.isOk, out.2.db) = (plain.1.isSome, plain.2) := by
  have reads : intExec = readAs columnInt.answer dbExec := (readAs_execAt _ _).symm
  induction program with
  | ret value => exact fun db => rfl
  | step stmt next ih =>
      intro db
      by_cases error : pending (preparedFor percentPlayed stmt) = true
      · have stops : execPrepared percentPlayed (fun _ => false) stmt ⟨db, pending⟩ =
            (.error (.reset (preparedFor percentPlayed stmt)),
              ⟨db, Function.update pending (preparedFor percentPlayed stmt) false⟩) := if_pos error
        have none : execAt (blocked percentPlayed pending) stmt db = none := by
          rw [execAt, blocked, if_pos error]
          rfl
        simp only [Script.attempt, stops, run, none]
        rfl
      · have same : execAt (blocked percentPlayed pending) stmt db = intExec stmt db := by
          rw [intExec, execAt, execAt, blocked, if_neg error]
        have goesOn : execPrepared percentPlayed (fun _ => false) stmt ⟨db, pending⟩ =
            match dbExec stmt db with
            | none => (.error (.step (preparedFor percentPlayed stmt)),
                ⟨db, Function.update pending (preparedFor percentPlayed stmt) true⟩)
            | some (answer, after) =>
                match columnInt.answer answer with
                | none => (.error .id, ⟨db, pending⟩)
                | some selected => (.ok selected, ⟨after, pending⟩) := if_neg error
        simp only [Script.attempt, goesOn, run, same, reads, readAs]
        cases dbExec stmt db with
        | none => rfl
        | some result =>
            rcases result with ⟨answer, after⟩
            dsimp only [Option.bind_some]
            cases columnInt.answer answer with
            | none => rfl
            | some selected => exact ih selected after

/-- The statement that writes the row of a key, if the call comes to it. -/
def ProcessCall.writeStmt (call : ProcessCall) (db : Database) (table : Table) (key : Bytes) :
    Option PreparedStmt :=
  ((db table).selected columnInt key).map fun
    | none => .insert table
    | some _ => updateStmt call.percentPlayed table

/-- The errors as failures of a select or a write of a table. -/
def ProcessCall.blocks (call : ProcessCall) (db : Database) (pending : PreparedStmt → Bool)
    (table : Table) : Phase → Bool
  | .select => pending (.has table)
  | .write => (call.keyOf table).any fun key => (call.writeStmt db table key).any pending

theorem run_visitAny_blocked (call : ProcessCall) (db : Database) (pending : PreparedStmt → Bool)
    (table : Table) :
    (Keyed.visitAny (call.upsertOf table)).run (blocked call.percentPlayed pending table) (db table)
      = (Keyed.visitAny (call.upsertOf table)).run
        (fun stmt rows => if call.blocks db pending table (phaseOf stmt) then none
          else Keyed.execRead columnInt stmt rows) (db table) := by
  have isKey := call.upsertOf_key table
  cases isOp : call.upsertOf table with
  | none => rfl
  | some op =>
      rw [isOp, Option.map_some] at isKey
      have selects : pending (preparedFor call.percentPlayed ⟨table, .select op.key⟩) =
          call.blocks db pending table (phaseOf (.select op.key : Keyed.Stmt Bytes (Data table))) :=
        rfl
      simp only [Keyed.visitAny, Keyed.Upsert.visit, Keyed.Upsert.writing, run, blocked, selects]
      by_cases stops : call.blocks db pending table
          (phaseOf (.select op.key : Keyed.Stmt Bytes (Data table))) = true
      · rw [if_pos stops]
      · rw [if_neg stops, Keyed.Upsert.execRead_select]
        cases read : (db table).selected columnInt op.key with
        | none => rfl
        | some selected =>
            have writes : pending (preparedFor call.percentPlayed ⟨table, op.write selected⟩)
                = call.blocks db pending table (phaseOf (op.write selected)) := by
              cases selected <;>
                simp [Keyed.Upsert.write, phaseOf, preparedFor, ProcessCall.blocks,
                  ProcessCall.writeStmt, ← isKey, read]
            simp only [Option.map_some, writes]

theorem outcome_eq (call : ProcessCall) (db : Database) (pending : PreparedStmt → Bool) :
    call.outcome ⟨db, pending⟩ = match stopsAt (call.blocks db pending) call db with
      | none => (true, call.visited db)
      | some stop => (false, fun table =>
          if table ∈ doneBefore stop then call.visited db table else db table) := by
  have same : (dbProcess call).run (execAt (blocked call.percentPlayed pending)) db =
      (dbProcess call).run (dbExecFailing (call.blocks db pending)) db := by
    rw [dbProcess_eq]
    apply run_chain_congr _ _ _ visitOrder db visitOrder_nodup
    intro table _
    exact run_visitAny_blocked call db pending table
  have plain := attempt_eq_run call.percentPlayed pending (dbProcess call) db
  rw [same, run_dbProcess_failing] at plain
  rw [ProcessCall.outcome, ProcessCall.attempt]
  refine plain.trans ?_
  cases stopsAt (call.blocks db pending) call db <;> rfl

/-! ### What one more error changes -/

/-- The call runs the statement, if no error ends it before. -/
def ProcessCall.uses (call : ProcessCall) (db : Database) (stmt : PreparedStmt) : Bool :=
  (call.keyOf stmt.table).any fun key =>
    stmt = .has stmt.table ∨ call.writeStmt db stmt.table key = some stmt

@[simp] theorem updateStmt_table (percentPlayed : Int) (table : Table) :
    (updateStmt percentPlayed table).table = table := by
  cases table with
  | song =>
      rw [updateStmt]
      split <;> rfl
  | _ => rfl

theorem writeStmt_table {call : ProcessCall} {db : Database} {table : Table} {key : Bytes}
    {stmt : PreparedStmt} (writes : call.writeStmt db table key = some stmt) : stmt.table = table := by
  rcases Option.map_eq_some_iff.mp writes with ⟨selected, _, rfl⟩
  cases selected with
  | none => rfl
  | some id => exact updateStmt_table call.percentPlayed table

/-- One more error fails the call at its own table, if the call runs its statement. -/
theorem failsAt_update (call : ProcessCall) (db : Database) (pending : PreparedStmt → Bool)
    (stmt : PreparedStmt) (table : Table) :
    failsAt (call.blocks db (Function.update pending stmt true)) call db table =
      (failsAt (call.blocks db pending) call db table
        || call.uses db stmt && decide (table = stmt.table)) := by
  rw [failsAt, failsAt, ProcessCall.uses]
  by_cases here : table = stmt.table
  · subst here
    cases keyed : call.keyOf stmt.table with
    | none => rfl
    | some key =>
        simp only [ProcessCall.blocks, keyed, Option.any_some, Function.update_apply, decide_true,
          Bool.and_true]
        by_cases selects : stmt = .has stmt.table
        · rw [if_pos selects.symm]
          simp [← selects]
        · rw [if_neg (Ne.symm selects)]
          cases writes : call.writeStmt db stmt.table key with
          | none => simp [selects]
          | some write =>
              by_cases same : write = stmt
              · simp [same]
              · simp [same, selects]
  · have selects : PreparedStmt.has table ≠ stmt := by
      intro same
      exact here (congrArg PreparedStmt.table same)
    have writes (key : Bytes) : (call.writeStmt db table key).any (Function.update pending stmt true)
        = (call.writeStmt db table key).any pending := by
      cases write : call.writeStmt db table key with
      | none => rfl
      | some other =>
          have differs : other ≠ stmt := by
            rintro rfl
            exact here (writeStmt_table write).symm
          rw [Option.any_some, Option.any_some, Function.update_of_ne differs]
    simp only [ProcessCall.blocks, Function.update_of_ne selects, writes, here, decide_false,
      Bool.and_false, Bool.or_false]

/-- The first of two tables in the order of the visits. -/
theorem find_visitOrder_or (fails : Table → Bool) (here : Table) :
    visitOrder.find? (fun table => fails table || decide (table = here)) =
      match visitOrder.find? fails with
      | none => some here
      | some stop => some (if here ∈ doneBefore stop then here else stop) := by
  simp only [visitOrder, List.find?]
  cases fails .song <;> cases fails .artist <;> cases fails .album <;> cases fails .genre <;>
    cases here <;> decide

theorem doneBefore_first (here stop table : Table) :
    table ∈ doneBefore (if here ∈ doneBefore stop then here else stop) ↔
      table ∈ doneBefore here ∧ table ∈ doneBefore stop := by
  cases here <;> cases stop <;> cases table <;> decide

theorem stopsAt_update (call : ProcessCall) (db : Database) (pending : PreparedStmt → Bool)
    (stmt : PreparedStmt) :
    stopsAt (call.blocks db (Function.update pending stmt true)) call db =
      if call.uses db stmt then
        match stopsAt (call.blocks db pending) call db with
        | none => some stmt.table
        | some stop => some (if stmt.table ∈ doneBefore stop then stmt.table else stop)
      else stopsAt (call.blocks db pending) call db := by
  have fails := funext (failsAt_update call db pending stmt)
  rw [stopsAt, stopsAt, fails]
  cases call.uses db stmt with
  | false => simp
  | true =>
      rw [if_pos rfl]
      simp only [Bool.true_and]
      exact find_visitOrder_or _ stmt.table

/-- One more error goes unnoticed if and only if the call does not run its statement, or fails all
the same and writes nothing new in between. -/
theorem outcome_update_iff (call : ProcessCall) (db : Database) (pending : PreparedStmt → Bool)
    (stmt : PreparedStmt) :
    call.outcome ⟨db, Function.update pending stmt true⟩ = call.outcome ⟨db, pending⟩ ↔
      (call.uses db stmt → ∃ stop, stopsAt (call.blocks db pending) call db = some stop ∧
        ∀ table ∈ doneBefore stop, table ∉ doneBefore stmt.table → Leaves call db table) := by
  rw [outcome_eq, outcome_eq, stopsAt_update]
  cases uses : call.uses db stmt with
  | false => simp
  | true =>
      rw [if_pos rfl]
      cases stops : stopsAt (call.blocks db pending) call db with
      | none => simp
      | some stop =>
          have leaves (table : Table) (done : table ∈ doneBefore stop) :=
            visited_eq_self (doneBefore_succeeds stops done)
          simp only [Prod.mk.injEq, true_and, forall_const, Option.some.injEq, exists_eq_left',
            doneBefore_first]
          constructor
          · intro same table done apart
            have here := congrFun same table
            rw [if_neg (not_and_of_not_left _ apart), if_pos done] at here
            exact (leaves table done).mp here.symm
          · intro kept
            funext table
            by_cases done : table ∈ doneBefore stop
            · by_cases apart : table ∈ doneBefore stmt.table
              · rw [if_pos ⟨apart, done⟩, if_pos done]
              · rw [if_neg (not_and_of_not_left _ apart), if_pos done,
                  (leaves table done).mpr (kept table done apart)]
            · rw [if_neg (not_and_of_not_right _ done), if_neg done]

/-- A call that a failing step ends, with the database as it was, leaves the next call what it was
if and only if that call does not run the statement, or fails all the same. -/
theorem failedPlay_unnoticed_iff (first second : ProcessCall) (fails : PreparedStmt → Bool)
    (state after : Connected) (stmt : PreparedStmt)
    (failed : first.attempt fails state = (.error (.step stmt), after))
    (kept : after.db = state.db) :
    second.outcome after = second.outcome state ↔
      (second.uses state.db stmt → ∃ stop,
        stopsAt (second.blocks state.db state.pending) second state.db = some stop ∧
        ∀ table ∈ doneBefore stop, table ∉ doneBefore stmt.table →
          Leaves second state.db table) := by
  have left : after = ⟨state.db, Function.update state.pending stmt true⟩ := by
    rw [← kept, ← (attempt_failed first fails state after stmt failed).2]
  rw [left]
  exact outcome_update_iff second state.db state.pending stmt

/-! ### A full disk -/

def playOf (uri artist : Bytes) : ProcessCall := ⟨plainSong uri artist, true, 100, 0⟩

/-- A database that has a song, and no errors. -/
def oneSong : Connected :=
  ⟨((playOf (lit "b.ogg") (lit "B")).outcome ⟨Database.empty, fun _ => false⟩).2, fun _ => false⟩

/-- A new song cannot be inserted; the song that is there is updated by another statement. -/
theorem failedPlay_unnoticed_iff_update :
    let first := (playOf (lit "a.ogg") (lit "A")).attempt (· = .insert .song) oneSong
    (playOf (lit "b.ogg") (lit "B")).outcome first.2
      = (playOf (lit "b.ogg") (lit "B")).outcome oneSong := by
  have kept : ((playOf (lit "a.ogg") (lit "A")).attempt (· = .insert .song) oneSong).2.db
      = oneSong.db := by
    funext table
    cases table <;> rfl
  have other : (playOf (lit "b.ogg") (lit "B")).uses oneSong.db (.insert .song) = false := by decide
  apply (failedPlay_unnoticed_iff (playOf (lit "a.ogg") (lit "A")) (playOf (lit "b.ogg") (lit "B"))
    (· = .insert .song) oneSong _ (.insert .song) rfl kept).mpr
  intro uses
  exact absurd uses (Bool.eq_false_iff.mp other)

/-- The disk is full when a song is inserted: the next new song fails too, with room again. -/
theorem fullDisk_fails_next :
    let start : Connected := ⟨Database.empty, fun _ => false⟩
    let first := (playOf (lit "a.ogg") (lit "A")).attempt (· = .insert .song) start
    first.1 = .error (.step (.insert .song)) ∧ first.2.db = start.db ∧
      ((playOf (lit "b.ogg") (lit "B")).outcome first.2).1 = false ∧
      ((playOf (lit "b.ogg") (lit "B")).outcome start).1 = true := by
  refine ⟨rfl, ?_, rfl, rfl⟩
  funext table
  cases table <;> rfl

end Mpdcron.Stats
