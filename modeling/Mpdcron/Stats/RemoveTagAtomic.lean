import Mpdcron.Stats.Session

/-! `db_remove_*_tag_expr` when a statement fails: which rows stay changed. -/

namespace Mpdcron.Stats

open CString SqlText SqlRow Transaction

/-! ### What the loop writes -/

/-- A table with new tags in one row. -/
def setTags (table : Table) (id : Int) (tags : Bytes) (rows : Keyed.Table Bytes (Data table)) :
    Keyed.Table Bytes (Data table) :=
  rows.mapRows (fun row => if isRow id row.id then withTags table tags row else row)
    (fun row => by split <;> rfl) (fun row => by split <;> rfl)

/-- And in the rows of the loop, one after the other. -/
def setAllTags (table : Table) (ids : List (Int × Bytes)) (rows : Keyed.Table Bytes (Data table)) :
    Keyed.Table Bytes (Data table) :=
  ids.foldl (fun rows entry => setTags table entry.1 entry.2 rows) rows

/-- The update of a row has one result. -/
theorem becomes_setTags {table : Table} {id : Int} {tags : Bytes}
    {rows next : Keyed.Table Bytes (Data table)}
    (becomes : rows.Becomes (isRow id) (fun row => some (withTags table tags row)) next) :
    next = setTags table id tags rows := by
  apply Keyed.Table.ext
  change next.rows
    = rows.rows.map fun row => if isRow id row.id then withTags table tags row else row
  rw [Keyed.Table.Becomes] at becomes
  generalize rows.rows = before at becomes ⊢
  generalize next.rows = after at becomes ⊢
  induction becomes with
  | nil => rfl
  | cons head _ ih =>
      rw [List.map_cons, ih]
      congr 1
      split_ifs with chosen
      · exact head.changed chosen _ rfl
      · exact head.kept (Bool.eq_false_iff.mpr chosen)

/-! ### A plan -/

namespace Plan

variable (plan : Plan)

/-- The statement that fails first, of those from `made` on. -/
def FirstFailure (made index : Nat) : Prop :=
  (∀ earlier < index, plan.statement (made + earlier) = .done) ∧
    plan.statement (made + index) ≠ .done

/-- A statement in front of the loop takes back a transaction that was open before. -/
def reverts : Bool :=
  (plan.maint .pragmaSyncOff).takesBack || (plan.maint .beginTransaction).takesBack

/-- Whether the loop runs in a transaction. -/
def inTransaction (opened : Bool) : Bool :=
  (plan.maint .beginTransaction).isDone || (opened && !plan.reverts)

/-- The statement that fails, or one behind the loop, takes the transaction back. -/
def undoes (index : Nat) : Bool :=
  (plan.statement index).takesBack || (plan.maint .endTransaction).takesBack ||
    (!(plan.maint .endTransaction).isDone && (plan.maint .pragmaSyncOn).takesBack)

variable {α : Type} (connection : Connection α)

/-- The connection in front of the loop. -/
def begun : Connection α :=
  plan.maintained .beginTransaction (plan.maintained .pragmaSyncOff connection)

/-- And behind it. -/
def ended : Connection α :=
  plan.maintained .pragmaSyncOn (plan.maintained .endTransaction connection)

end Plan

section

variable {α : Type} (plan : Plan) (connection : Connection α)

theorem maintained_failed {stmt : Maint} (failed : (plan.maint stmt).isDone = false) :
    plan.maintained stmt connection = connection.fail (plan.maint stmt).takesBack := by
  rcases failed_of_not_done failed with ⟨errmsg, rolledBack, ending⟩
  rw [Plan.maintained.eq_def, ending]
  rfl

theorem maintained_sync {stmt : Maint} (pragma : stmt = .pragmaSyncOn ∨ stmt = .pragmaSyncOff) :
    plan.maintained stmt connection = connection.fail (plan.maint stmt).takesBack := by
  cases ending : plan.maint stmt with
  | done =>
      rw [Plan.maintained.eq_def, ending]
      rcases pragma with rfl | rfl
      · rfl
      · rfl
  | failed errmsg rolledBack =>
      rw [Plan.maintained.eq_def, ending]
      rfl

theorem maintained_begin (done : (plan.maint .beginTransaction).isDone = true) :
    plan.maintained .beginTransaction connection
      = if connection.opened then connection else connection.start := by
  rw [Plan.maintained.eq_def, isDone_iff.mp done]

theorem maintained_end (done : (plan.maint .endTransaction).isDone = true) :
    plan.maintained .endTransaction connection
      = if connection.opened then connection.commit else connection := by
  rw [Plan.maintained.eq_def, isDone_iff.mp done]

/-- The connection in front of the loop: what it has committed, whether a transaction is open, and
what the loop reads. -/
theorem begun_spec : (plan.begun connection).committed = connection.committed ∧
    (plan.begun connection).opened = plan.inTransaction connection.opened ∧
    (plan.begun connection).current
      = if connection.opened && plan.reverts then connection.committed
        else connection.current := by
  rw [Plan.begun, maintained_sync plan connection (Or.inr rfl), Plan.inTransaction, Plan.reverts]
  generalize (plan.maint .pragmaSyncOff).takesBack = unsynced
  cases done : (plan.maint .beginTransaction).isDone with
  | true =>
      rw [maintained_begin plan _ done, takesBack_done done, Connection.opened_fail]
      rcases connection with ⟨committed, pending⟩
      cases pending <;> cases unsynced <;> exact ⟨rfl, rfl, rfl⟩
  | false =>
      rw [maintained_failed plan _ done]
      generalize (plan.maint .beginTransaction).takesBack = unbegun
      rcases connection with ⟨committed, pending⟩
      cases pending <;> cases unsynced <;> cases unbegun <;> exact ⟨rfl, rfl, rfl⟩

/-- What is read behind the loop. -/
theorem ended_current (rolledBack : Bool) :
    (plan.ended (connection.fail rolledBack)).current
      = if connection.opened && (rolledBack || (plan.maint .endTransaction).takesBack ||
          (!(plan.maint .endTransaction).isDone && (plan.maint .pragmaSyncOn).takesBack)) then
        connection.committed
      else connection.current := by
  rw [Plan.ended, maintained_sync plan _ (Or.inl rfl)]
  generalize (plan.maint .pragmaSyncOn).takesBack = unsynced
  cases done : (plan.maint .endTransaction).isDone with
  | true =>
      rw [maintained_end plan _ done, takesBack_done done]
      rcases connection with ⟨committed, pending⟩
      cases pending <;> cases rolledBack <;> cases unsynced <;> rfl
  | false =>
      rw [maintained_failed plan _ done]
      generalize (plan.maint .endTransaction).takesBack = unended
      rcases connection with ⟨committed, pending⟩
      cases pending <;> cases rolledBack <;> cases unended <;> cases unsynced <;> rfl

end

/-! ### The statements of the loop -/

section Loop

variable {α : Type} {base : Sqlite α} (engine : Engine base) {authorizer : Action → Bool}
  (plan : Plan)

include engine in
/-- An update that is to fail changes nothing but what SQLite takes back. -/
theorem sqlUpdateEntry_failed (writes : engine.WritesTags authorizer) (table : Table) (id : Int)
    (tags : Bytes) (noNul : (0 : UInt8) ∉ tags) (session : Session α)
    (failed : (plan.statement session.stepped).isDone = false) :
    ∃ error next, sqlUpdateEntry (planned base plan) authorizer table
        (lit "tags = " ++ escapeString tags) (lit "id = " ++ decimal id) session
          = (.error error, next) ∧
      next.connection = session.connection.fail (plan.statement session.stepped).takesBack := by
  have known := tagsBecome_known tags table
  have prepares := (engine.update_compiles authorizer table (tagsBecome tags) (idExpr id)
    session.connection.current (engine.id_expression id) (tagsBecome_noNul tags noNul) known.1
    known.2).mpr (writes.compiles table id _)
  rw [sqlUpdateEntry, sqlUpdateEntry_text]
  rcases failed_of_not_done failed with ⟨errmsg, rolledBack, ending⟩
  rw [ending]
  rcases prepare_failed base authorizer ending _ with
    ⟨message, prepared, unprepared⟩ | ⟨prepared, -⟩
  · have kept : rolledBack = false := Bool.eq_false_iff.mpr fun taken =>
      unprepared taken prepares
    rw [prepared, kept]
    exact ⟨prepareError message, session, rfl, rfl⟩
  · rw [prepared]
    exact ⟨stepError errmsg, session.failed rolledBack, rfl, rfl⟩

/-- One that is not writes the tags of its row. -/
theorem sqlUpdateEntry_done (writes : engine.WritesTags authorizer) (table : Table) (id : Int)
    (tags : Bytes) (noNul : (0 : UInt8) ∉ tags) (session : Session α)
    (done : plan.statement session.stepped = .done) :
    ∃ next, sqlUpdateEntry (planned base plan) authorizer table
        (lit "tags = " ++ escapeString tags) (lit "id = " ++ decimal id) session
          = (.ok (), session.wrote next) ∧
      engine.contents next table
        = setTags table id tags (engine.contents session.connection.current table) := by
  rcases sqlUpdateEntry_tags engine writes table id tags noNul session.connection.current with
    ⟨next, updated, becomes, -⟩
  refine ⟨next, ?_, becomes_setTags becomes⟩
  rw [sqlUpdateEntry, sqlUpdateEntry_text] at updated ⊢
  rw [prepare_done done]
  cases prepared : base.prepare authorizer
      (SqlText.statement (updateHead table (tagsBecome tags).sql) (idExpr id))
      session.connection.current with
  | error errmsg =>
      rw [prepared] at updated
      cases updated
  | ok execution =>
      rw [prepared] at updated
      have ran := Prod.mk.inj updated
      simp only [Except.map, dbStep_map, ran.1, ran.2]

/-- What the turns of some rows make of a connection. -/
structure Turns (table : Table) (ids : List (Int × Bytes)) (start last : Connection α) : Prop where
  opened : last.opened = start.opened
  committed : start.opened = true → last.committed = start.committed
  current : engine.contents last.current table
    = setAllTags table ids (engine.contents start.current table)

theorem turns_nil (table : Table) (connection : Connection α) :
    Turns engine table [] connection connection :=
  ⟨rfl, fun _ => rfl, rfl⟩

theorem turns_cons {table : Table} {id : Int} {tags : Bytes} {ids : List (Int × Bytes)}
    {start last : Connection α} {next : α}
    (first : engine.contents next table
      = setTags table id tags (engine.contents start.current table))
    (later : Turns engine table ids (start.write next) last) :
    Turns engine table ((id, tags) :: ids) start last where
  opened := later.opened.trans (start.opened_write next)
  committed isOpen := by
    have stillOpen := (start.opened_write next).trans isOpen
    exact (later.committed stillOpen).trans (start.committed_write_opened next isOpen)
  current := by
    rw [later.current, Connection.current_write, first]
    rfl

theorem firstFailure_zero {made : Nat} (failed : (plan.statement made).isDone = false) :
    plan.FirstFailure made 0 := by
  refine ⟨fun earlier small => absurd small (Nat.not_lt_zero earlier), ?_⟩
  intro done
  rw [Nat.add_zero] at done
  rw [done] at failed
  cases failed

theorem firstFailure_succ {made index : Nat} (done : plan.statement made = .done)
    (later : plan.FirstFailure (made + 1) index) : plan.FirstFailure made (index + 1) := by
  have shift (turn : Nat) : made + 1 + turn = made + (turn + 1) := by omega
  refine ⟨?_, shift index ▸ later.2⟩
  intro earlier small
  cases earlier with
  | zero => exact done
  | succ earlier => exact shift earlier ▸ later.1 earlier (Nat.lt_of_succ_lt_succ small)

/-- The loop ends at the first statement that fails, and the turns before it are made. -/
theorem removeTagLoop_planned (writes : engine.WritesTags authorizer) (table : Table)
    (ids : List (Int × Bytes)) : (∀ entry ∈ ids, (0 : UInt8) ∉ entry.2) →
    ∀ (changes : Int) (session : Session α),
    (∃ total next, removeTagLoop (planned base plan) authorizer table [] ids changes session
        = (.ok total, next) ∧ ∀ index < ids.length,
          plan.statement (session.stepped + index) = .done) ∨
      ∃ index error next last, index < ids.length ∧ plan.FirstFailure session.stepped index ∧
        removeTagLoop (planned base plan) authorizer table [] ids changes session
          = (.error error, next) ∧
        Turns engine table (ids.take index) session.connection last ∧
        next.connection
          = last.fail (plan.statement (session.stepped + index)).takesBack := by
  induction ids with
  | nil =>
      intro _ changes session
      exact Or.inl ⟨changes, session, rfl, fun index small => absurd small (Nat.not_lt_zero index)⟩
  | cons entry ids ih =>
      intro noNul changes session
      rcases entry with ⟨id, tags⟩
      rw [List.forall_mem_cons] at noNul
      rw [removeTagLoop, List.append_nil]
      cases ending : (plan.statement session.stepped).isDone with
      | false =>
          rcases sqlUpdateEntry_failed engine plan writes table id tags noNul.1 session ending with
            ⟨error, next, failed, left⟩
          rw [failed]
          exact Or.inr ⟨0, error, next, session.connection, Nat.succ_pos _,
            firstFailure_zero plan ending, rfl, turns_nil engine table session.connection, left⟩
      | true =>
          have done := isDone_iff.mp ending
          rcases sqlUpdateEntry_done engine plan writes table id tags noNul.1 session done with
            ⟨middle, updated, wrote⟩
          have shift (turn : Nat) :
              (session.wrote middle).stepped + turn = session.stepped + (turn + 1) := by
            dsimp only [Session.wrote]
            omega
          rw [updated]
          dsimp only
          rcases ih noNul.2 (changes + (planned base plan).changes (session.wrote middle))
            (session.wrote middle) with
            ⟨total, next, ran, all⟩ | ⟨index, error, next, last, small, first, ran, turns, left⟩
          · refine Or.inl ⟨total, next, ran, ?_⟩
            intro index small
            cases index with
            | zero => exact done
            | succ index => exact shift index ▸ all index (Nat.lt_of_succ_lt_succ small)
          · exact Or.inr ⟨index + 1, error, next, last, Nat.succ_lt_succ small,
              firstFailure_succ plan done first, ran, turns_cons engine wrote turns,
              shift index ▸ left⟩

end Loop

/-! ### Atomicity -/

section Atomic

variable {α : Type} {base : Sqlite α} (engine : Engine base)

/-- Updates of single rows do not fail on their own, and a query changes no table, whatever its
expression and however it ends. -/
structure Engine.Steady (authorizer : Action → Bool) : Prop extends engine.WritesTags authorizer where
  selects : ∀ table expr db execution,
    base.prepare authorizer (selectText (lit "id, tags") table expr) db = .ok execution →
      engine.contents execution.final = engine.contents db

variable (authorizer : Action → Bool) (plan : Plan) (table : Table) (expr tag : Bytes)
  (session : Session α)

/-- A call that returns false has changed no row of the table. -/
def RemovesAtomically : Prop :=
  ∀ error next, removeTagFunction (planned base plan) authorizer table expr tag session
      = .ok (.error error, next) →
    engine.contents next.connection.current table
      = engine.contents session.connection.current table

/-- The turns before the one that fails are taken back with their transaction, or have changed
nothing. Where a transaction is open already, `committed` is what is left when it is taken back. -/
def TurnsKept (plan : Plan) (table : Table) (ids : List (Int × Bytes)) (opened : Bool)
    (made index : Nat) (committed before : Keyed.Table Bytes (Data table)) : Prop :=
  if plan.inTransaction opened && plan.undoes (made + index) then committed = before
  else
    setAllTags table (ids.take index) (if opened && plan.reverts then committed else before) = before

/-- The ids and the new tags that the query gives. -/
def Lists (base : Sqlite α) (authorizer : Action → Bool) (table : Table) (expr tag : Bytes) (db : α)
    (ids : List (Int × Bytes)) : Prop :=
  ∃ after, dbSelect base authorizer (readRemoved tag) (selectText (lit "id, tags") table expr) db
    = .ok (.ok ids, after)

/-- A query that fails takes nothing of the table back, and neither do the turns that come before
the first one that fails leave something behind. -/
structure KeepsTable : Prop where
  query : (plan.statement session.stepped).takesBack = true →
    Prepares base authorizer (selectText (lit "id, tags") table expr) session.connection.current →
    engine.contents session.connection.committed table
      = engine.contents session.connection.current table
  turns : plan.statement session.stepped = .done → ∀ ids,
    Lists base authorizer table expr tag session.connection.current ids →
    ∀ index < ids.length, plan.FirstFailure (session.stepped + 1) index →
      TurnsKept plan table ids session.connection.opened (session.stepped + 1) index
        (engine.contents session.connection.committed table)
        (engine.contents session.connection.current table)

end Atomic

/-- What is done with the result of the query. -/
def removeListed {Db : Type} (sqlite : Sqlite Db) (authorizer : Action → Bool) (table : Table)
    (suffix : Bytes) : Except GError (List (Int × Bytes)) × Db → Except GError Int × Db
  | (.error error, db) => (.error error, db)
  | (.ok ids, db) => removeTagRows sqlite authorizer table suffix ids db

theorem dbRemoveTagExpr_valid {Db : Type} (sqlite : Sqlite Db) (authorizer : Action → Bool)
    (table : Table) (suffix expr tag : Bytes) (db : Db) (valid : validateTag tag = .ok ()) :
    dbRemoveTagExpr sqlite authorizer table suffix expr tag db
      = (dbSelect sqlite authorizer (readRemoved tag) (selectText (lit "id, tags") table expr) db).map
          (removeListed sqlite authorizer table suffix) := by
  rw [dbRemoveTagExpr, valid]
  change (dbSelect sqlite authorizer (readRemoved tag) (selectText (lit "id, tags") table expr) db
    >>= _) = _
  cases dbSelect sqlite authorizer (readRemoved tag) (selectText (lit "id, tags") table expr) db with
  | error fault => rfl
  | ok selected =>
      rcases selected with ⟨ending, after⟩
      cases ending <;> rfl

section Query

variable {α : Type} {base : Sqlite α} {engine : Engine base} {authorizer : Action → Bool}
  {plan : Plan}

/-- A query changes no table. -/
theorem dbSelect_kept (steady : engine.Steady authorizer) {table : Table} {expr tag : Bytes} {db : α}
    {ending : Except GError (List (Int × Bytes))} {after : α}
    (selected : dbSelect base authorizer (readRemoved tag) (selectText (lit "id, tags") table expr) db
      = .ok (ending, after)) : engine.contents after = engine.contents db := by
  rw [dbSelect] at selected
  cases prepared : base.prepare authorizer (selectText (lit "id, tags") table expr) db with
  | error errmsg =>
      rw [prepared] at selected
      cases selected
      rfl
  | ok execution =>
      rw [prepared] at selected
      have kept := steady.selects table expr db execution prepared
      dsimp only at selected
      rw [stepRows_eq] at selected
      cases rows : execution.rows.mapM (readRemoved tag) with
      | error fault =>
          rw [rows] at selected
          cases selected
      | ok items =>
          rw [rows] at selected
          have same : (collected execution (items.reverse ++ [])).2 = after :=
            congrArg Prod.snd (Except.ok.inj selected)
          rw [← kept, ← same, collected]
          cases execution.failure <;> rfl

/-- The new tags that a query gives are C strings. The induction is on the execution, with what was
read before. -/
theorem stepRows_noNul {tag : Bytes} (execution : Execution α) :
    ∀ values : List (Int × Bytes), (∀ entry ∈ values, (0 : UInt8) ∉ entry.2) → ∀ ids after,
      stepRows (readRemoved tag) execution values = .ok (.ok ids, after) →
        ∀ entry ∈ ids, (0 : UInt8) ∉ entry.2 := by
  induction execution with
  | done db =>
      intro values noNul ids after stepped
      cases stepped
      exact noNul
  | failed errmsg db =>
      intro values _ ids after stepped
      cases stepped
  | busy next ih => exact ih
  | row columns db next ih =>
      intro values noNul ids after stepped
      rw [stepRows] at stepped
      cases read : readRemoved tag columns with
      | error fault =>
          rw [read] at stepped
          cases stepped
      | ok entry =>
          rw [read] at stepped
          have first := readRemoved_noNul tag columns entry read
          exact ih _ (List.forall_mem_cons.mpr ⟨first, noNul⟩) ids after stepped

theorem listed_noNul {table : Table} {expr tag : Bytes} {db : α} {ids : List (Int × Bytes)}
    {after : α} (listed : dbSelect base authorizer (readRemoved tag)
      (selectText (lit "id, tags") table expr) db = .ok (.ok ids, after)) :
    ∀ entry ∈ ids, (0 : UInt8) ∉ entry.2 := by
  rw [dbSelect] at listed
  cases prepared : base.prepare authorizer (selectText (lit "id, tags") table expr) db with
  | error errmsg =>
      rw [prepared] at listed
      cases listed
  | ok execution =>
      rw [prepared] at listed
      exact stepRows_noNul execution [] (List.forall_mem_nil _) ids after listed

variable (base authorizer) in
theorem dbSelect_planned {session : Session α} (done : plan.statement session.stepped = .done)
    {γ : Type} (read : Columns → Except Fault γ) (sql : Bytes) :
    (∃ errmsg, base.prepare authorizer sql session.connection.current = .error errmsg ∧
        dbSelect (planned base plan) authorizer read sql session
          = .ok (.error (prepareError errmsg), session)) ∨
      dbSelect (planned base plan) authorizer read sql session
        = (dbSelect base authorizer read sql session.connection.current).map fun ended =>
            (ended.1, session.wrote ended.2) := by
  rw [dbSelect, prepare_done done, dbSelect]
  cases base.prepare authorizer sql session.connection.current with
  | error errmsg => exact Or.inl ⟨errmsg, rfl, rfl⟩
  | ok execution =>
      right
      exact stepRows_map session.wrote read execution []

/-- What stands around the loop, on the connection. -/
theorem removeTagRows_planned (table : Table) (suffix : Bytes) (ids : List (Int × Bytes))
    (session : Session α) :
    removeTagRows (planned base plan) authorizer table suffix ids session
      = let removed := removeTagLoop (planned base plan) authorizer table suffix ids 0
          { connection := plan.begun session.connection, stepped := session.stepped }
        (removed.1,
          { connection := plan.ended removed.2.connection, stepped := removed.2.stepped }) := by
  rw [removeTagRows, dbSetSync, dbStartTransaction, dbEndTransaction, dbSetSync]
  simp only [dbRunStmt_planned]
  rfl

/-- Only one statement is the first to fail. -/
theorem firstFailure_unique {made index other : Nat} (first : plan.FirstFailure made index)
    (second : plan.FirstFailure made other) : index = other := by
  rcases Nat.lt_trichotomy index other with earlier | same | later
  · exact absurd (second.1 index earlier) first.2
  · exact same
  · exact absurd (first.1 other later) second.2

/-- A query leaves the tables of a connection as they are, committed or not. -/
theorem write_kept {connection : Connection α} {next : α}
    (kept : engine.contents next = engine.contents connection.current) :
    engine.contents (connection.write next).committed = engine.contents connection.committed ∧
      (connection.write next).opened = connection.opened ∧
      engine.contents (connection.write next).current = engine.contents connection.current := by
  refine ⟨?_, connection.opened_write next, by rw [Connection.current_write, kept]⟩
  cases opened : connection.opened with
  | true => rw [connection.committed_write_opened next opened]
  | false =>
      rw [connection.committed_write_closed next opened, kept, connection.current_closed opened]

/-- A loop that ends at a turn leaves the table alone exactly when the turns before it are kept from
it. -/
theorem ended_kept_iff {table : Table} {ids : List (Int × Bytes)} {connection last : Connection α}
    {after : α} (kept : engine.contents after = engine.contents connection.current) (made index : Nat)
    (turns : Turns engine table (ids.take index) (plan.begun (connection.write after)) last) :
    engine.contents (plan.ended (last.fail (plan.statement (made + index)).takesBack)).current table
        = engine.contents connection.current table ↔
      TurnsKept plan table ids connection.opened made index
        (engine.contents connection.committed table)
        (engine.contents connection.current table) := by
  rcases begun_spec plan (connection.write after) with ⟨committed, opened, current⟩
  rcases write_kept kept with ⟨wroteCommitted, wroteOpened, wroteCurrent⟩
  rw [wroteOpened] at opened current
  have lastOpened : last.opened = plan.inTransaction connection.opened :=
    turns.opened.trans opened
  rw [ended_current, TurnsKept, Plan.undoes, lastOpened]
  cases undone : plan.inTransaction connection.opened && ((plan.statement (made + index)).takesBack ||
      (plan.maint .endTransaction).takesBack ||
      (!(plan.maint .endTransaction).isDone && (plan.maint .pragmaSyncOn).takesBack)) with
  | true =>
      have begun : (plan.begun (connection.write after)).opened = true :=
        opened.trans (Bool.and_eq_true_iff.mp undone).1
      rw [if_pos rfl, if_pos rfl, turns.committed begun, committed, wroteCommitted]
  | false =>
      rw [if_neg Bool.false_ne_true, if_neg Bool.false_ne_true, turns.current, current]
      cases connection.opened && plan.reverts with
      | true => rw [if_pos rfl, if_pos rfl, wroteCommitted]
      | false => rw [if_neg Bool.false_ne_true, if_neg Bool.false_ne_true, wroteCurrent]

/-- A call that returns false is judged by the table it leaves. -/
theorem removesAtomically_false {table : Table} {expr tag : Bytes} {session next : Session α}
    {error : GError} (ran : removeTagFunction (planned base plan) authorizer table expr tag session
      = .ok (.error error, next)) :
    RemovesAtomically engine authorizer plan table expr tag session ↔
      engine.contents next.connection.current table
        = engine.contents session.connection.current table := by
  constructor
  · intro atomic
    exact atomic error next ran
  · intro kept later after again
    cases ran.symm.trans again
    exact kept

variable {table : Table} (expr tag : Bytes) (session : Session α)

variable (base authorizer plan) in
theorem removeTagFunction_valid (other : table ≠ .album) (valid : validateTag tag = .ok ()) :
    removeTagFunction (planned base plan) authorizer table expr tag session
      = (dbSelect (planned base plan) authorizer (readRemoved tag)
          (selectText (lit "id, tags") table expr) session).map
            (removeListed (planned base plan) authorizer table []) := by
  rw [removeTagFunction_eq, removeTagSuffix_nil table other,
    dbRemoveTagExpr_valid _ _ _ _ _ _ _ valid]

/-- The plan has the query fail. -/
theorem atomically_unqueried (other : table ≠ .album) (valid : validateTag tag = .ok ())
    {errmsg : Bytes} {rolledBack : Bool}
    (failed : plan.statement session.stepped = .failed errmsg rolledBack) :
    RemovesAtomically engine authorizer plan table expr tag session ↔
      KeepsTable engine authorizer plan table expr tag session := by
  have ran := removeTagFunction_valid base authorizer plan expr tag session other valid
  rw [dbSelect] at ran
  have turns : plan.statement session.stepped ≠ .done := by
    rw [failed]
    intro done
    cases done
  rcases prepare_failed base authorizer failed
    (selectText (lit "id, tags") table expr) with
    ⟨message, prepared, unprepared⟩ | ⟨prepared, prepares⟩
  · rw [prepared] at ran
    rw [removesAtomically_false ran]
    refine iff_of_true rfl ⟨fun taken compiles => ?_, fun done => absurd done turns⟩
    rw [failed] at taken
    exact absurd compiles (unprepared taken)
  · rw [prepared] at ran
    rw [removesAtomically_false ran]
    change engine.contents (session.connection.fail rolledBack).current table = _ ↔ _
    rw [Connection.current_fail]
    cases rolledBack with
    | false =>
        rw [Bool.and_false, if_neg Bool.false_ne_true]
        refine iff_of_true rfl ⟨fun taken => ?_, fun done => absurd done turns⟩
        rw [failed] at taken
        cases taken
    | true =>
        rw [Bool.and_true]
        constructor
        · intro kept
          refine ⟨fun _ _ => ?_, fun done => absurd done turns⟩
          cases opened : session.connection.opened with
          | true =>
              rw [opened, if_pos rfl] at kept
              exact kept
          | false => rw [session.connection.current_closed opened]
        · intro keeps
          have kept := keeps.query (by rw [failed]; rfl) prepares
          split_ifs
          · exact kept
          · rfl

/-- Nothing is listed where the query is no list. -/
theorem atomically_unlisted (queried : plan.statement session.stepped = .done)
    (atomic : RemovesAtomically engine authorizer plan table expr tag session)
    (none : ∀ ids, ¬Lists base authorizer table expr tag session.connection.current ids) :
    RemovesAtomically engine authorizer plan table expr tag session ↔
      KeepsTable engine authorizer plan table expr tag session := by
  refine iff_of_true atomic ⟨fun taken => ?_, fun _ ids lists => absurd lists (none ids)⟩
  rw [queried] at taken
  cases taken

/-- The plan has a list, and the loop over it. -/
theorem atomically_listed (steady : engine.Steady authorizer) (other : table ≠ .album)
    (valid : validateTag tag = .ok ()) (queried : plan.statement session.stepped = .done)
    {ids : List (Int × Bytes)} {after : α}
    (listed : dbSelect base authorizer (readRemoved tag) (selectText (lit "id, tags") table expr)
      session.connection.current = .ok (.ok ids, after))
    (selected : dbSelect (planned base plan) authorizer (readRemoved tag)
      (selectText (lit "id, tags") table expr) session = .ok (.ok ids, session.wrote after)) :
    RemovesAtomically engine authorizer plan table expr tag session ↔
      KeepsTable engine authorizer plan table expr tag session := by
  have ran := removeTagFunction_valid base authorizer plan expr tag session other valid
  rw [selected, Except.map, removeListed, removeTagRows_planned] at ran
  dsimp only [Session.wrote] at ran
  have kept := dbSelect_kept steady listed
  have others : ∀ list, Lists base authorizer table expr tag session.connection.current list →
      list = ids := by
    intro list lists
    rcases lists with ⟨twin, again⟩
    cases listed.symm.trans again
    rfl
  have untaken : (plan.statement session.stepped).takesBack = false := by rw [queried]; rfl
  rcases removeTagLoop_planned engine plan steady.toWritesTags table ids (listed_noNul listed) 0
    { connection := plan.begun (session.connection.write after), stepped := session.stepped + 1 }
    with
    ⟨total, next, looped, all⟩ | ⟨index, error, next, last, small, first, looped, turns, left⟩
  · rw [looped] at ran
    have atomic : RemovesAtomically engine authorizer plan table expr tag session := by
      intro error next again
      cases ran.symm.trans again
    refine iff_of_true atomic ⟨fun taken => ?_, fun _ list lists index small first => ?_⟩
    · rw [untaken] at taken
      cases taken
    · rw [others list lists] at small
      exact absurd (all index small) first.2
  · have failed : removeTagFunction (planned base plan) authorizer table expr tag session
        = .ok (.error error, { connection := plan.ended next.connection, stepped := next.stepped }) :=
      ran.trans (by rw [looped])
    rw [removesAtomically_false failed, left, ended_kept_iff kept (session.stepped + 1) index turns]
    constructor
    · intro turnsKept
      refine ⟨fun taken => ?_, fun _ list lists other small again => ?_⟩
      · rw [untaken] at taken
        cases taken
      · rw [others list lists, firstFailure_unique again first]
        exact turnsKept
    · intro keeps
      exact keeps.turns queried ids ⟨after, listed⟩ index small first

theorem atomically_queried (steady : engine.Steady authorizer) (other : table ≠ .album)
    (valid : validateTag tag = .ok ()) (queried : plan.statement session.stepped = .done) :
    RemovesAtomically engine authorizer plan table expr tag session ↔
      KeepsTable engine authorizer plan table expr tag session := by
  have ran := removeTagFunction_valid base authorizer plan expr tag session other valid
  rcases dbSelect_planned base authorizer queried (readRemoved tag)
    (selectText (lit "id, tags") table expr) with ⟨errmsg, refused, selected⟩ | selected
  · rw [selected] at ran
    refine atomically_unlisted expr tag session queried ((removesAtomically_false ran).mpr rfl) ?_
    intro ids lists
    rcases lists with ⟨after, listed⟩
    rw [dbSelect, refused] at listed
    cases listed
  · rcases found : dbSelect base authorizer (readRemoved tag) (selectText (lit "id, tags") table expr)
      session.connection.current with fault | ⟨ending, after⟩
    · rw [selected, found] at ran
      have atomic : RemovesAtomically engine authorizer plan table expr tag session := by
        intro error next again
        cases ran.symm.trans again
      refine atomically_unlisted expr tag session queried atomic ?_
      intro ids lists
      rcases lists with ⟨after, listed⟩
      cases found.symm.trans listed
    · cases ending with
      | error error =>
          rw [selected, found] at ran
          have kept := dbSelect_kept steady found
          have same : engine.contents (session.connection.write after).current table
              = engine.contents session.connection.current table := by
            rw [Connection.current_write, kept]
          refine atomically_unlisted expr tag session queried
            ((removesAtomically_false ran).mpr same) ?_
          intro ids lists
          rcases lists with ⟨twin, listed⟩
          cases found.symm.trans listed
      | ok ids =>
          rw [found] at selected
          exact atomically_listed expr tag session steady other valid queried found selected

end Query

/-- A removal of a tag that fails changes nothing exactly when no turn has changed anything before
the one that fails, or the transaction is taken back by SQLite: the function itself ends it with
`END TRANSACTION` either way. -/
theorem removesAtomically_iff {α : Type} {base : Sqlite α} (engine : Engine base)
    {authorizer : Action → Bool} (steady : engine.Steady authorizer) (plan : Plan) {table : Table}
    (other : table ≠ .album) (expr tag : Bytes) (session : Session α) :
    RemovesAtomically engine authorizer plan table expr tag session ↔
      (validateTag tag = .ok () → KeepsTable engine authorizer plan table expr tag session) := by
  cases valid : validateTag tag with
  | error error =>
      have ran : removeTagFunction (planned base plan) authorizer table expr tag session
          = .ok (.error error, session) := by
        rw [removeTagFunction_eq, dbRemoveTagExpr, valid]
      rw [removesAtomically_false ran]
      refine iff_of_true rfl fun accepted => ?_
      cases accepted
  | ok =>
      refine Iff.trans ?_ (forall_prop_of_true rfl).symm
      cases queried : plan.statement session.stepped with
      | failed errmsg rolledBack =>
          exact atomically_unqueried expr tag session other valid queried
      | done => exact atomically_queried expr tag session steady other valid queried

/-! ### Two songs -/

/-- The query of the expression `1`, which is true of every row. -/
def everySong : Bytes := selectText (lit "id, tags") .song (lit "1")

def listingPrepare (authorizer : Action → Bool) (sql : Bytes) (db : Small) :
    Except Bytes (Execution Small) :=
  if sql = everySong then
    .ok (rowsExecution db (db.rows .song [lit "id", lit "tags"] fun _ => true))
  else smallPrepare authorizer sql db

/-- The small SQLite with this one query more. -/
def listingSqlite : Sqlite Small := { smallSqlite with prepare := listingPrepare }

theorem statement_ne_everySong (head : Bytes) (id : Int) :
    SqlText.statement head (idExpr id) ≠ everySong := by
  intro same
  have equals : (61 : UInt8) ∈ SqlText.statement head (idExpr id) := by
    have inside : (61 : UInt8) ∈ lit "id = " := by decide
    simp [SqlText.statement, idExpr, inside]
  rw [same] at equals
  exact absurd equals (by decide +kernel)

theorem listingPrepare_statement (authorizer : Action → Bool) (head : Bytes) (id : Int) (db : Small) :
    listingSqlite.prepare authorizer (SqlText.statement head (idExpr id)) db
      = smallSqlite.prepare authorizer (SqlText.statement head (idExpr id)) db :=
  if_neg (statement_ne_everySong head id)

def listingEngine : Engine listingSqlite where
  contents := smallEngine.contents
  RowExpression := smallEngine.RowExpression
  holds := smallEngine.holds
  compiles := smallEngine.compiles
  update_compiles := by
    intro authorizer table assignment expr db isExpr noNul written columns
    rcases isExpr with ⟨id, rfl⟩
    rw [Prepares, listingPrepare_statement]
    exact smallEngine.update_compiles authorizer table assignment _ db ⟨id, rfl⟩ noNul written columns
  update_done := by
    intro authorizer table assignment expr db execution next isExpr written columns prepared done
    rcases isExpr with ⟨id, rfl⟩
    rw [listingPrepare_statement] at prepared
    exact smallEngine.update_done authorizer table assignment _ db execution next ⟨id, rfl⟩ written
      columns prepared done
  select_done := by
    intro authorizer table names expr db execution isExpr nonempty columns prepared finished
    rcases isExpr with ⟨id, rfl⟩
    rw [listingPrepare_statement] at prepared
    exact smallEngine.select_done authorizer table names _ db execution ⟨id, rfl⟩ nonempty columns
      prepared finished
  id_expression := smallEngine.id_expression
  id_holds := smallEngine.id_holds
  reset_kept := smallEngine.reset_kept

theorem frontTokens_query (table : Table) (expr : Bytes) (tokens : List SqlText.Token)
    (read : lex (selectText (lit "id, tags") table expr) = some tokens) :
    frontTokens tokens = [.word (lit "select"), .word (lit "id"), .symbol 44, .word (lit "tags"),
      .word (lit "from"), .word table.name] := by
  have front : scan .between (lit "select id, tags from " ++ table.name ++ lit " where ")
      = ([.word (lit "select"), .word (lit "id"), .symbol 44, .word (lit "tags"),
          .word (lit "from"), .word table.name, .word (lit "where")], .between) := by
    cases table <;> rfl
  have text : selectText (lit "id, tags") table expr
      = lit "select id, tags from " ++ table.name ++ lit " where " ++ (expr ++ lit " ;") := by
    simp only [selectText, List.append_assoc]
    rfl
  have whole := scan_then front (rfl : scan .between (expr ++ lit " ;") = (_, _))
  rw [← text] at whole
  rcases Option.map_eq_some_iff.mp read with ⟨last, _, same⟩
  rw [whole] at same
  rw [← same]
  cases table <;> rfl

/-- A query changes nothing, whatever its expression is. -/
theorem smallPrepare_query (authorizer : Action → Bool) (table : Table) (expr : Bytes) (db : Small)
    (execution : Execution Small)
    (prepared : smallPrepare authorizer (selectText (lit "id, tags") table expr) db = .ok execution) :
    execution.final = db := by
  rw [smallPrepare] at prepared
  split at prepared
  · cases prepared
  · rename_i tokens read
    split at prepared
    · cases prepared
    · rw [frontTokens_query table expr tokens read] at prepared
      have update : readUpdate [.word (lit "select"), .word (lit "id"), .symbol 44,
          .word (lit "tags"), .word (lit "from"), .word table.name] = none := rfl
      have select : readSelect [.word (lit "select"), .word (lit "id"), .symbol 44,
          .word (lit "tags"), .word (lit "from"), .word table.name]
            = some (table, [lit "id", lit "tags"]) := by
        cases table <;> rfl
      rw [update, select, smallRun] at prepared
      split at prepared
      · cases prepared
        exact (rowsExecution_spec db _).2.2
      · cases prepared

theorem listingEngine_steady : listingEngine.Steady (fun _ => true) where
  updates := by
    intro table tags id db execution prepared
    rw [listingPrepare_statement] at prepared
    exact (smallEngine_healthy rfl rfl).updates table tags id db execution prepared
  compiles := fun _ _ _ => ⟨rfl, rfl⟩
  selects := by
    intro table expr db execution prepared
    change smallEngine.contents execution.final = smallEngine.contents db
    simp only [listingSqlite, listingPrepare] at prepared
    split at prepared
    · cases prepared
      rw [(rowsExecution_spec db _).2.2]
    · rw [smallPrepare_query _ table expr db execution prepared]

/-- Two songs with the same tag. -/
def taggedTwice : Small where
  tables := Function.update Database.empty .song
    { rows :=
        [withTags .song (lit ":live:") playedRow,
          withTags .song (lit ":live:") { playedRow with id := 2, key := lit "b.ogg" }]
      ordered := by decide +kernel
      unique := by decide +kernel }
  changed := 1

/-- The update of the second row that is found fails; `rolledBack` says whether it takes the
transaction back. -/
def secondFails (rolledBack : Bool) : Plan where
  prepare _ := none
  step index := if index = 2 then .failed (lit "disk I/O error") rolledBack else .done
  reset _ := none
  runMaint _ := .done

theorem secondFails_first (rolledBack : Bool) : (secondFails rolledBack).FirstFailure 1 1 := by
  refine ⟨fun earlier small => ?_, fun done => by cases done⟩
  rw [Nat.lt_one_iff.mp small]
  rfl

def freshSession (db : Small) : Session Small := { connection := Connection.closed db, stepped := 0 }

/-- Where SQLite takes the transaction back, both rows keep the tag. -/
theorem removesAtomically_rolledBack :
    RemovesAtomically listingEngine (fun _ => true) (secondFails true) .song (lit "1") (lit "live")
      (freshSession taggedTwice) := by
  refine (removesAtomically_iff listingEngine listingEngine_steady (secondFails true) (by decide)
    (lit "1") (lit "live") (freshSession taggedTwice)).mpr fun _ => ?_
  refine ⟨fun taken => (by cases taken), fun _ ids _ index _ first => ?_⟩
  rw [firstFailure_unique first (secondFails_first true)]
  exact rfl

theorem taggedTwice_lists :
    Lists listingSqlite (fun _ => true) .song (lit "1") (lit "live") taggedTwice
      [(2, lit ":"), (1, lit ":")] := by
  have prepared : listingSqlite.prepare (fun _ => true) everySong taggedTwice
      = .ok (rowsExecution taggedTwice
          (taggedTwice.rows .song [lit "id", lit "tags"] fun _ => true)) := by
    change listingPrepare (fun _ => true) everySong taggedTwice = _
    rw [listingPrepare, if_pos rfl]
  have entries : ((taggedTwice.tables .song).select fun _ => true).map
      (removedEntry .song (lit "live")) = [(1, lit ":"), (2, lit ":")] := by
    decide +kernel
  have spec := rowsExecution_spec taggedTwice
    (taggedTwice.rows .song [lit "id", lit "tags"] fun _ => true)
  have read : (taggedTwice.rows .song [lit "id", lit "tags"] fun _ => true).mapM
      (readRemoved (lit "live")) = .ok [(1, lit ":"), (2, lit ":")] := by
    rw [Small.rows, readRemoved_rows, entries]
  refine ⟨taggedTwice, ?_⟩
  change dbSelect listingSqlite _ _ everySong _ = _
  rw [dbSelect, prepared]
  dsimp only
  rw [stepRows_eq, spec.1, read, Except.map, collected, spec.2.1, spec.2.2]
  rfl

/-- Where it does not, `END TRANSACTION` commits the update of the first row that is found. -/
theorem not_removesAtomically_committed :
    ¬RemovesAtomically listingEngine (fun _ => true) (secondFails false) .song (lit "1") (lit "live")
      (freshSession taggedTwice) := by
  have valid : validateTag (lit "live") = .ok () := rfl
  have other : Table.song ≠ .album := by decide
  have queried : (secondFails false).statement (freshSession taggedTwice).stepped = .done := rfl
  rw [atomically_queried (lit "1") (lit "live") (freshSession taggedTwice) listingEngine_steady other
    valid queried]
  intro keeps
  have kept := keeps.turns rfl _ taggedTwice_lists 1 (by decide) (secondFails_first false)
  have tags : (setAllTags .song [(2, lit ":")] (taggedTwice.tables .song)).rows.map
      (fun row => (countersOf .song row.data).tags)
        = (taggedTwice.tables .song).rows.map (fun row => (countersOf .song row.data).tags) :=
    congrArg (fun rows : Keyed.Table Bytes (Data .song) =>
      rows.rows.map fun row => (countersOf .song row.data).tags) kept
  exact absurd tags (by decide +kernel)

end Mpdcron.Stats
