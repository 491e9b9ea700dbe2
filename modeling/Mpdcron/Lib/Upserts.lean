import Mpdcron.Lib.Keyed
import Mpdcron.Lib.Script

/-! Select, then insert or update: the program that upserts a row of a keyed table in two
statements, and what it does when it does not keep every id. -/

namespace Keyed

open Script

variable {κ α : Type} [DecidableEq κ]

inductive Stmt (κ α : Type) where
  | select (key : κ)
  | insert (key : κ) (data : α)
  | update (id : Int) (key : κ) (change : α → α)

/-- A select answers with the id of the row; a row whose key is taken fails an insert or update. -/
def exec : Stmt κ α → Table κ α → Option (Option Int × Table κ α)
  | .select key, table => some ((table.find key).map Row.id, table)
  | .insert key data, table => (table.insert key data).map fun table => (none, table)
  | .update id key change, table => (table.update id key change).map fun table => (none, table)

/-- The statement that writes, after what the select answered. -/
def Upsert.write (op : Upsert κ α) : Option Int → Stmt κ α
  | none => .insert op.key op.fresh
  | some id => .update id op.key op.change

def Upsert.writing (op : Upsert κ α) (selected : Option Int) :
    Script (Stmt κ α) (Option Int) Unit :=
  .step (op.write selected) fun _ => .ret ()

def Upsert.visit (op : Upsert κ α) : Script (Stmt κ α) (Option Int) Unit :=
  .step (.select op.key) op.writing

theorem Upsert.exec_write (op : Upsert κ α) (table : Table κ α) :
    exec (op.write ((table.find op.key).map Row.id)) table = some (none, table.upsert op) := by
  rw [Table.upsert]
  cases found : table.find op.key with
  | none =>
      rw [Option.map_none, Upsert.write, exec, table.insert_free op.key op.fresh found]
      rfl
  | some row =>
      rw [Option.map_some, Upsert.write, exec, table.update_found op.key op.change row found]
      rfl

theorem Upsert.run_visit (op : Upsert κ α) (table : Table κ α) :
    op.visit.run exec table = (some (), table.upsert op) := by
  have written := op.exec_write table
  simp only [Upsert.visit, run, exec.eq_1, Upsert.writing, written]

omit [DecidableEq κ] in
theorem Upsert.steady_visit (op : Upsert κ α) : Steady 2 op.visit := fun _ _ => trivial

/-! ### Ids that are read -/

/-- What a program makes of the id of a row: it stops, it takes it for no row, or it goes on with an
id. -/
abbrev Reading := Int → Option (Option Int)

def Reading.answer (reading : Reading) : Option Int → Option (Option Int)
  | none => some none
  | some id => reading id

abbrev execRead (reading : Reading) : Stmt κ α → Table κ α → Option (Option Int × Table κ α) :=
  readAs reading.answer exec

/-- Which row an update meets by the id that was read for a key: its own or a new one, no row at
all, or that of another key, if the program comes to it. -/
inductive Access where
  | reached
  | missed
  | failed
  deriving DecidableEq, Repr

variable (reading : Reading)

/-- The row of this id, read back among these ids. -/
def Reading.access (ids : List Int) (id : Int) : Access :=
  match reading id with
  | some (some read) => if read = id then .reached else if read ∈ ids then .failed else .missed
  | _ => .failed

/-- A key without a row has none that is in the way. -/
def Table.access (table : Table κ α) (key : κ) : Access :=
  match table.find key with
  | none => .reached
  | some row => reading.access (table.rows.map Row.id) row.id

def Table.upsertRead (table : Table κ α) (op : Upsert κ α) : Option (Table κ α) :=
  match table.access reading op.key with
  | .reached => some (table.upsert op)
  | .missed => some table
  | .failed => none

/-- What the select answers, as the program reads it. -/
def Table.selected (table : Table κ α) (key : κ) : Option (Option Int) :=
  reading.answer ((table.find key).map Row.id)

theorem Table.update_other (table : Table κ α) (key : κ) (change : α → α) (row other : Row κ α)
    (found : table.find key = some row) (member : other ∈ table.rows) (differs : other.id ≠ row.id) :
    table.update other.id key change = none := by
  rcases Table.find_eq_some.mp found with ⟨inTable, rfl⟩
  refine dif_neg fun unique => ?_
  have changed : Row.change other.id row.key change other ∈
      table.rows.map (Row.change other.id row.key change) := List.mem_map_of_mem member
  have kept : Row.change other.id row.key change row ∈
      table.rows.map (Row.change other.id row.key change) := List.mem_map_of_mem inTable
  rw [Row.change, if_pos rfl] at changed
  rw [Row.change, if_neg (Ne.symm differs)] at kept
  -- both rows have the key now
  have same := List.inj_on_of_nodup_map unique changed kept rfl
  have ids : other.id = row.id := (Row.mk.inj same).1
  exact differs ids

theorem Table.update_absent (table : Table κ α) (id : Int) (key : κ) (change : α → α)
    (absent : id ∉ table.rows.map Row.id) : table.update id key change = some table := by
  have same : table.rows.map (Row.change id key change) = table.rows := by
    conv_rhs => rw [← List.map_id table.rows]
    apply List.map_congr_left
    intro row member
    have differs : row.id ≠ id := by
      rintro rfl
      exact absent (List.mem_map_of_mem member)
    rw [Row.change, if_neg differs]
    rfl
  have unique := table.unique
  rw [← same] at unique
  simp only [Table.update, dif_pos unique]
  exact congrArg some (Table.ext same)

/-- The write after its select. -/
theorem Upsert.exec_write_read (op : Upsert κ α) (table : Table κ α) :
    ((table.selected reading op.key).bind fun selected => execRead reading (op.write selected) table)
      = (table.upsertRead reading op).map fun after => (none, after) := by
  have quiet (stmt : Stmt κ α) (after : Option (Table κ α))
      (executed : exec stmt table = after.map fun after => (none, after)) :
      execRead reading stmt table = after.map fun after => (none, after) := by
    rw [execRead, readAs, executed]
    cases after <;> rfl
  have written := op.exec_write table
  rw [Table.selected, Table.upsertRead, Table.access]
  cases found : table.find op.key with
  | none =>
      rw [found] at written
      exact quiet _ (some (table.upsert op)) written
  | some row =>
      rw [found] at written
      simp only [Option.map_some, Reading.answer, Reading.access]
      cases read : reading row.id with
      | none => rfl
      | some selected =>
          rw [Option.bind_some]
          cases selected with
          | none =>
              have taken := table.insert_taken op.key op.fresh row found
              exact quiet _ none (by rw [Upsert.write, exec, taken])
          | some id =>
              dsimp only
              by_cases same : id = row.id
              · rw [if_pos same, same]
                exact quiet _ (some (table.upsert op)) written
              · rw [if_neg same]
                by_cases known : id ∈ table.rows.map Row.id
                · rw [if_pos known]
                  rcases List.mem_map.mp known with ⟨other, member, rfl⟩
                  have failed := table.update_other op.key op.change row other found member same
                  exact quiet _ none (by rw [Upsert.write, exec, failed])
                · rw [if_neg known]
                  have missed := table.update_absent id op.key op.change known
                  exact quiet _ (some table) (by rw [Upsert.write, exec, missed])

theorem Upsert.execRead_select (key : κ) (table : Table κ α) :
    execRead reading (.select key) table
      = (table.selected reading key).map fun selected => (selected, table) := rfl

theorem Upsert.run_visit_read (op : Upsert κ α) (table : Table κ α) :
    op.visit.run (execRead reading) table = outcomeOf table (table.upsertRead reading op) := by
  have written := op.exec_write_read reading table
  rw [Upsert.visit, run, Upsert.execRead_select]
  cases read : table.selected reading op.key with
  | none =>
      rw [read] at written
      rw [Option.map_eq_none_iff.mp written.symm]
      rfl
  | some selected =>
      rw [read, Option.bind_some] at written
      simp only [Option.map_some, Upsert.writing, run, written]
      cases table.upsertRead reading op <;> rfl

/-! ### Ids after an upsert -/

theorem Table.id_eq (table : Table κ α) (key : κ) :
    (table.find key).map Row.id
      = (table.skeleton.find? fun entry => entry.2 = key).map Prod.fst := by
  rw [Table.find, Table.skeleton, List.find?_map, Option.map_map]
  rfl

/-- An upsert leaves the ids of the keys that the table has, and of the other keys. -/
theorem Table.id_upsert (table : Table κ α) (op : Upsert κ α) (key : κ)
    (old : key ≠ op.key ∨ table.find op.key ≠ none) :
    ((table.upsert op).find key).map Row.id = (table.find key).map Row.id := by
  by_cases taken : table.find op.key = none
  · have differs : op.key ≠ key := fun same => old.elim (fun apart => apart same.symm) fun h => h taken
    have upserted : table.upsert op = table.append op.key op.fresh := by
      rw [Table.upsert, taken]
    rw [Table.id_eq, upserted, table.skeleton_append op.key op.fresh taken, List.find?_append,
      Table.id_eq]
    simp [differs]
  · rw [Table.id_eq, table.skeleton_upsert_taken op taken, Table.id_eq]

/-- The row of another key stays. -/
theorem Table.find_upsert_of_ne (table : Table κ α) (op : Upsert κ α) (key : κ)
    (differs : key ≠ op.key) : (table.upsert op).find key = table.find key := by
  have id := table.id_upsert op key (.inl differs)
  have data := table.get_upsert op key
  rw [if_neg differs, Table.get, Table.get] at data
  cases found : table.find key with
  | none =>
      rw [found] at data
      exact Option.map_eq_none_iff.mp data
  | some row =>
      rw [found] at id data
      rcases Option.map_eq_some_iff.mp id with ⟨after, foundAfter, sameId⟩
      rw [foundAfter] at data
      have keyed := (Table.find_eq_some.mp foundAfter).2.trans (Table.find_eq_some.mp found).2.symm
      have sameData := Option.some.inj data
      rw [foundAfter]
      cases row
      cases after
      simp only at sameId keyed sameData
      rw [sameId, keyed, sameData]

theorem Table.find_upsertAll_of_ne (key : κ) (ops : List (Upsert κ α)) :
    ∀ table : Table κ α, (∀ op ∈ ops, op.key ≠ key) → (table.upsertAll ops).find key = table.find key := by
  induction ops with
  | nil => exact fun table _ => rfl
  | cons op ops ih =>
      intro table differ
      have first := table.find_upsert_of_ne op key (Ne.symm (differ op List.mem_cons_self))
      rw [Table.upsertAll, List.foldl_cons, ← Table.upsertAll, ← first]
      exact ih (table.upsert op) fun other member => differ other (List.mem_cons_of_mem _ member)

/-- No id of a table is below 0, and none is above a bound. -/
def Table.IdsWithin (table : Table κ α) (bound : Int) : Prop :=
  ∀ row ∈ table.rows, 0 ≤ row.id ∧ row.id ≤ bound

omit [DecidableEq κ] in
theorem Table.IdsWithin.nextId {table : Table κ α} {bound : Int} (within : table.IdsWithin bound)
    (low : 0 ≤ bound) : 0 ≤ table.nextId ∧ table.nextId ≤ bound + 1 := by
  rw [Table.nextId]
  cases last : (table.rows.map Row.id).getLast? with
  | none =>
      rw [Option.map_none, Option.getD_none]
      omega
  | some id =>
      rcases List.mem_map.mp (List.mem_of_getLast? last) with ⟨row, member, rfl⟩
      have bounds := within row member
      rw [Option.map_some, Option.getD_some]
      omega

/-- An upsert adds one id at most. -/
theorem Table.IdsWithin.upsert {table : Table κ α} {bound : Int} (within : table.IdsWithin bound)
    (low : 0 ≤ bound) (op : Upsert κ α) : (table.upsert op).IdsWithin (bound + 1) := by
  intro row member
  have listed : (row.id, row.key) ∈ (table.upsert op).skeleton :=
    List.mem_map_of_mem (f := fun row => (row.id, row.key)) member
  have old (entry : Int × κ) (known : entry ∈ table.skeleton) :
      0 ≤ entry.1 ∧ entry.1 ≤ bound + 1 := by
    rcases List.mem_map.mp known with ⟨before, inTable, rfl⟩
    have bounds := within before inTable
    dsimp only
    omega
  by_cases taken : table.find op.key = none
  · have upserted : table.upsert op = table.append op.key op.fresh := by
      rw [Table.upsert, taken]
    rw [upserted, table.skeleton_append op.key op.fresh taken, List.mem_append,
      List.mem_singleton] at listed
    rcases listed with known | added
    · exact old _ known
    · have new : row.id = table.nextId := congrArg Prod.fst added
      rw [new]
      exact within.nextId low
  · rw [table.skeleton_upsert_taken op taken] at listed
    exact old _ listed

theorem Table.upsertRead_cases {table after : Table κ α} {op : Upsert κ α}
    (upserted : table.upsertRead reading op = some after) :
    after = table.upsert op ∨ after = table ∧ table.find op.key ≠ none := by
  rw [Table.upsertRead] at upserted
  cases access : table.access reading op.key with
  | reached =>
      rw [access] at upserted
      exact .inl (Option.some.inj upserted).symm
  | missed =>
      rw [access] at upserted
      refine .inr ⟨(Option.some.inj upserted).symm, fun free => ?_⟩
      rw [Table.access, free] at access
      cases access
  | failed =>
      rw [access] at upserted
      cases upserted

/-- The write of one program between the select and the write of another. -/
theorem Upsert.exec_write_after (op other : Upsert κ α) (table after : Table κ α)
    (between : table.upsertRead reading other = some after) :
    ((table.selected reading op.key).bind fun selected => execRead reading (op.write selected) after)
      = if op.key = other.key ∧ table.find op.key = none then none
        else (after.upsertRead reading op).map fun last => (none, last) := by
  have shapes := Table.upsertRead_cases reading between
  split
  next race =>
    rcases race with ⟨same, free⟩
    have upserted : after = table.upsert other := by
      rcases shapes with upserted | ⟨_, taken⟩
      · exact upserted
      · exact absurd (same ▸ free) taken
    have selected : table.selected reading op.key = some none := by
      rw [Table.selected, free]
      rfl
    rw [selected, Option.bind_some, Upsert.write, execRead, readAs, exec, upserted]
    cases found : (table.upsert other).find op.key with
    | some row => rw [(table.upsert other).insert_taken op.key op.fresh row found]; rfl
    | none => exact absurd (same ▸ found) (table.find_upsert_self other)
  next safe =>
    have selected : table.selected reading op.key = after.selected reading op.key := by
      rw [Table.selected, Table.selected]
      congr 1
      rcases shapes with rfl | ⟨rfl, _⟩
      · apply Eq.symm
        apply table.id_upsert other op.key
        by_cases same : op.key = other.key
        · exact .inr fun free => safe ⟨same, by rw [same]; exact free⟩
        · exact .inl same
      · rfl
    rw [selected, op.exec_write_read reading after]

/-! ### A table that a program may not visit -/

/-- An upsert where the program has one for the table. -/
def Table.upsertAny (table : Table κ α) : Option (Upsert κ α) → Table κ α
  | none => table
  | some op => table.upsert op

def Table.upsertAnyRead (table : Table κ α) : Option (Upsert κ α) → Option (Table κ α)
  | none => some table
  | some op => table.upsertRead reading op

def visitAny : Option (Upsert κ α) → Script (Stmt κ α) (Option Int) Unit
  | none => .ret ()
  | some op => op.visit

/-- How many statements that is. -/
def visitCount : Option (Upsert κ α) → Nat
  | none => 0
  | some _ => 2

theorem run_visitAny (op : Option (Upsert κ α)) (table : Table κ α) :
    (visitAny op).run exec table = (some (), table.upsertAny op) := by
  cases op with
  | none => rfl
  | some op => exact op.run_visit table

theorem run_visitAny_read (op : Option (Upsert κ α)) (table : Table κ α) :
    (visitAny op).run (execRead reading) table = outcomeOf table (table.upsertAnyRead reading op) := by
  cases op with
  | none => rfl
  | some op => exact op.run_visit_read reading table

end Keyed
