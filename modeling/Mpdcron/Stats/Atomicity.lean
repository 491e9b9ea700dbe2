import Mpdcron.Stats.DbProcess

/-! `db_process` when one of its statements fails. The daemon runs it outside of a transaction, so
what came before the failure stays. -/

namespace Mpdcron.Stats

open CString Player Script

inductive Phase where
  | select
  | write
  deriving DecidableEq, Repr

def phaseOf {κ α : Type} : Keyed.Stmt κ α → Phase
  | .select _ => .select
  | .insert _ _ => .write
  | .update _ _ _ => .write

/-- Statements of which some fail: `sqlite3_reset`, `sqlite3_bind` or `sqlite3_step` returns an
error and the statement does nothing. -/
abbrev dbExecFailing (fails : Table → Phase → Bool) :
    DbStmt → Database → Option (Option Int × Database) :=
  execAt fun table stmt rows =>
    if fails table (phaseOf stmt) then none else Keyed.execRead columnInt stmt rows

/-- One of the statements on this table fails, or the row of the key cannot be met by the `int` that
was read for it. -/
def failsAt (fails : Table → Phase → Bool) (call : ProcessCall) (db : Database) (table : Table) :
    Bool :=
  (call.keyOf table).any fun key =>
    fails table .select || fails table .write ||
      (db table).access columnInt key = .failed

/-- The table where the call ends early. -/
def stopsAt (fails : Table → Phase → Bool) (call : ProcessCall) (db : Database) : Option Table :=
  visitOrder.find? (failsAt fails call db)

/-- The row has the columns already that the call writes. -/
def Unchanged (call : ProcessCall) : (table : Table) → Data table → Prop
  | .song, data =>
      call.increment = false ∧ call.info = some (SongData.info data) ∧
        ∀ percent, played call.percentPlayed = some percent →
          SongData.lastPlayed data = some call.now ∧
            (SongData.karma data).towards percent = SongData.karma data
  | .artist, _ => call.increment = false
  | .album, data => call.increment = false ∧ AlbumData.artist data = call.song.artist
  | .genre, _ => call.increment = false

theorem count_eq_self (increment : Bool) (counters : Counters) :
    counters.count increment = counters ↔ increment = false := by
  cases increment with
  | false => simp [Counters.count, incrementBy]
  | true =>
      have more : counters.playCount + 1 ≠ counters.playCount := by omega
      constructor
      · intro same
        exact absurd (congrArg Counters.playCount same) more
      · exact fun impossible => by cases impossible

theorem change_eq_self (call : ProcessCall) (table : Table)
    (op : Keyed.Upsert Bytes (Data table)) (isOp : call.upsertOf table = some op)
    (data : Data table) : op.change data = data ↔ Unchanged call table data := by
  rcases call.upsertOf_spec table op isOp with ⟨tags, key, accepted, rfl⟩
  cases table with
  | song =>
      rcases data with ⟨counters, info, lastPlayed, karma⟩
      have counted := count_eq_self call.increment counters
      simp only [Unchanged, ProcessCall.info, accepted, Option.map_some, Option.some.injEq,
        ProcessCall.changeData, changeSong]
      cases played call.percentPlayed with
      | none => simp [counted]
      | some percent =>
          simp only [SongData.mk.injEq, counted, Option.some.injEq, forall_eq']
          constructor
          · exact fun ⟨counted, info, last, karma⟩ => ⟨counted, info, last.symm, karma⟩
          · exact fun ⟨counted, info, last, karma⟩ => ⟨counted, info, last.symm, karma⟩
  | artist => exact count_eq_self call.increment data
  | album =>
      rcases data with ⟨counters, artist⟩
      simp only [Unchanged, ProcessCall.changeData, changeAlbum, AlbumData.mk.injEq, count_eq_self]
      exact and_congr_right fun _ => eq_comm
  | genre => exact count_eq_self call.increment data

/-- The call leaves the table as it is, if it comes to its end there: it has no row to write, the
`int` of the row's id is no row's, or the row has nothing to change. -/
def Leaves (call : ProcessCall) (db : Database) (table : Table) : Prop :=
  ∀ key, call.keyOf table = some key → (db table).access columnInt key = .missed ∨
    ∃ data, (db table).get key = some data ∧ Unchanged call table data

theorem leaves_iff (call : ProcessCall) (db : Database) (table : Table)
    (next : Keyed.Table Bytes (Data table))
    (upserted : (db table).upsertAnyRead columnInt (call.upsertOf table) = some next) :
    next = db table ↔ Leaves call db table := by
  rw [Leaves, ← call.upsertOf_key]
  cases isOp : call.upsertOf table with
  | none =>
      rw [isOp] at upserted
      cases upserted
      simp
  | some op =>
      rw [isOp, Keyed.Table.upsertAnyRead, Keyed.Table.upsertRead] at upserted
      simp only [Option.map_some, Option.some.injEq, forall_eq']
      cases access : (db table).access columnInt op.key with
      | reached =>
          rw [access] at upserted
          cases upserted
          simp only [reduceCtorEq, false_or]
          simp only [Keyed.Table.upsert_eq_self, change_eq_self call table op isOp]
      | missed =>
          rw [access] at upserted
          cases upserted
          simp
      | failed =>
          rw [access] at upserted
          cases upserted

/-- What a call does with a table, unless it ends early there. -/
def effectAt (fails : Table → Phase → Bool) (call : ProcessCall) (db : Database) (table : Table) :
    Option (Keyed.Table Bytes (Data table)) :=
  if failsAt fails call db table then none
  else (db table).upsertAnyRead columnInt (call.upsertOf table)

theorem run_visitAny_failing (fails : Table → Phase → Bool) (call : ProcessCall) (db : Database)
    (table : Table) :
    (Keyed.visitAny (call.upsertOf table)).run
        (fun stmt rows =>
          if fails table (phaseOf stmt) then none else Keyed.execRead columnInt stmt rows) (db table)
      = outcomeOf (db table) (effectAt fails call db table) := by
  rw [effectAt, failsAt, ← call.upsertOf_key]
  cases isOp : call.upsertOf table with
  | none => rfl
  | some op =>
      have whole := op.run_visit_read columnInt (db table)
      have selecting : phaseOf (.select op.key : Keyed.Stmt Bytes (Data table)) = .select := rfl
      have writing (selected : Option Int) : phaseOf (op.write selected) = .write := by
        cases selected <;> rfl
      rw [Keyed.Table.upsertAnyRead]
      simp only [Keyed.Upsert.visit, Keyed.Upsert.writing, run] at whole
      simp only [Keyed.visitAny, Keyed.Upsert.visit, Keyed.Upsert.writing, run, selecting, writing,
        Option.map_some, Option.any_some]
      cases fails table .select with
      | true => rfl
      | false =>
          rw [Keyed.Upsert.execRead_select] at whole ⊢
          cases fails table .write with
          | false =>
              have once : (if (db table).access columnInt op.key = .failed then none
                  else (db table).upsertRead columnInt op) = (db table).upsertRead columnInt op := by
                split
                next failed => rw [Keyed.Table.upsertRead, failed]
                next => rfl
              simpa [once] using whole
          | true => cases (db table).selected columnInt op.key <;> rfl

theorem isNone_effectAt (fails : Table → Phase → Bool) (call : ProcessCall) (db : Database)
    (table : Table) : (effectAt fails call db table).isNone = failsAt fails call db table := by
  rw [effectAt]
  cases failing : failsAt fails call db table with
  | true => rfl
  | false =>
      rw [failsAt, ← call.upsertOf_key] at failing
      cases isOp : call.upsertOf table with
      | none => rfl
      | some op =>
          rw [isOp] at failing
          simp only [Option.map_some, Option.any_some, Bool.or_eq_false_iff, decide_eq_false_iff_not]
            at failing
          rw [if_neg Bool.false_ne_true, Keyed.Table.upsertAnyRead, Keyed.Table.upsertRead]
          cases access : (db table).access columnInt op.key with
          | failed => exact absurd access failing.2
          | _ => rfl

/-- Where a call has come past a table, it has not failed there. -/
theorem doneBefore_succeeds {fails : Table → Phase → Bool} {call : ProcessCall} {db : Database}
    {stop table : Table} (stops : stopsAt fails call db = some stop)
    (done : table ∈ doneBefore stop) : failsAt fails call db table = false := by
  rcases List.find?_eq_some_iff_append.mp stops with ⟨_, before, later, order, earlier⟩
  have nodup := visitOrder_nodup
  rw [order] at nodup
  have apart (table : Table) (member : table ∈ before) : table ≠ stop :=
    (List.nodup_append.mp nodup).2.2 table member stop List.mem_cons_self
  have isBefore : doneBefore stop = before := by
    rw [doneBefore, order, List.takeWhile_append_of_pos (by simpa using apart)]
    simp
  rw [isBefore] at done
  simpa using earlier table done

/-- What a call makes of a table, if it comes to its end there. -/
def ProcessCall.visited (call : ProcessCall) (db : Database) (table : Table) :
    Keyed.Table Bytes (Data table) :=
  ((db table).upsertAnyRead columnInt (call.upsertOf table)).getD (db table)

/-- Up to the table where it ends early a call does what it does without a failure. -/
theorem run_dbProcess_failing (fails : Table → Phase → Bool) (call : ProcessCall)
    (db : Database) :
    (dbProcess call).run (dbExecFailing fails) db = match stopsAt fails call db with
      | none => (some (), call.visited db)
      | some stop => (none, fun table =>
          if table ∈ doneBefore stop then call.visited db table else db table) := by
  have order := funext (isNone_effectAt fails call db)
  have done (table : Table) (succeeds : failsAt fails call db table = false) :
      (effectAt fails call db table).getD (db table) = call.visited db table := by
    rw [effectAt, succeeds]
    rfl
  rw [run_dbProcess_outcomes _ call db _ (run_visitAny_failing fails call db), order]
  change (match stopsAt fails call db with | none => _ | some stop => _) = _
  cases stops : stopsAt fails call db with
  | none =>
      have all : (fun table => (effectAt fails call db table).getD (db table)) = call.visited db := by
        funext table
        apply done
        simpa using List.find?_eq_none.mp stops table (mem_visitOrder table)
      exact congrArg (Prod.mk (some ())) all
  | some stop =>
      have part : (fun table =>
            if table ∈ doneBefore stop then (effectAt fails call db table).getD (db table)
            else db table)
          = fun table => if table ∈ doneBefore stop then call.visited db table else db table := by
        funext table
        split
        next member => exact done table (doneBefore_succeeds stops member)
        next => rfl
      exact congrArg (Prod.mk none) part

/-- The call leaves the table as it is if there is nothing new to write. -/
theorem visited_eq_self {fails : Table → Phase → Bool} {call : ProcessCall} {db : Database}
    {table : Table} (succeeds : failsAt fails call db table = false) :
    call.visited db table = db table ↔ Leaves call db table := by
  have some := isNone_effectAt fails call db table
  rw [succeeds, effectAt, succeeds, if_neg Bool.false_ne_true, Option.isNone_eq_false_iff,
    Option.isSome_iff_exists] at some
  rcases some with ⟨next, upserted⟩
  rw [ProcessCall.visited, upserted, Option.getD_some]
  exact leaves_iff call db table next upserted

/-- A call that returns false has changed nothing if and only if there was nothing new to write in
the tables before the one where it ends. -/
theorem dbProcess_atomic_iff (call : ProcessCall) (db : Database)
    (fails : Table → Phase → Bool) :
    (((dbProcess call).run (dbExecFailing fails) db).1 = none →
        ((dbProcess call).run (dbExecFailing fails) db).2 = db) ↔
      ∀ stop, stopsAt fails call db = some stop → ∀ table ∈ doneBefore stop,
        Leaves call db table := by
  rw [run_dbProcess_failing]
  cases stops : stopsAt fails call db with
  | none => simp
  | some stop =>
      have leaves (table : Table) (done : table ∈ doneBefore stop) :=
        visited_eq_self (doneBefore_succeeds stops done)
      simp only [forall_const, Option.some.injEq, forall_eq']
      constructor
      · intro same table done
        have here := congrFun same table
        rw [if_pos done] at here
        exact (leaves table done).mp here
      · intro kept
        funext table
        split
        next done => exact (leaves table done).mpr (kept table done)
        next => rfl

/-- The disk is full when the artist of a new song is inserted: the song stays. -/
theorem failed_artist_leaves_song :
    ¬(let call : ProcessCall := ⟨plainSong (lit "a.ogg") (lit "A"), true, 100, 0⟩
      let after := (dbProcess call).run
        (dbExecFailing fun table phase => table = .artist ∧ phase = .write) Database.empty
      after.1 = none → after.2 = Database.empty) := by
  intro atomic
  have songs := congrArg (fun db : Database => (db .song).rows.length) (atomic rfl)
  revert songs
  decide

end Mpdcron.Stats
