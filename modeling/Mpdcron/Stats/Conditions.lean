import Mpdcron.Stats.SmallSqlite

/-! Expressions that compare columns with texts: what SQLite is documented to make of them, and a
small SQLite that reads them. -/

namespace Mpdcron.Stats

open CString SqlText SqlRow

/-- The columns of type `TEXT`. -/
def Table.textNames : Table → List Bytes
  | .song =>
      [lit "tags", lit "uri", lit "artist", lit "album", lit "title", lit "track", lit "name",
        lit "genre", lit "date", lit "composer", lit "performer", lit "disc", lit "mb_artistid",
        lit "mb_albumid", lit "mb_trackid"]
  | .album => [lit "tags", lit "artist", lit "name"]
  | _ => [lit "tags", lit "name"]

def textOf (table : Table) (row : Keyed.Row Bytes (Data table)) (column : Bytes) : Option Bytes :=
  match (rowLayout table).get row column with
  | some (.text text) => some text
  | _ => none

/-- A condition on text columns of a table, whose texts are C strings. SQLite takes expressions up
to a depth of 1000. -/
structure Compares (table : Table) (condition : Condition) : Prop where
  nonempty : condition ≠ []
  few : condition.length < 500
  columns : ∀ comparison ∈ condition, comparison.1 ∈ table.textNames
  noNul : ∀ comparison ∈ condition, (0 : UInt8) ∉ comparison.2

/-- A text column is equal to a literal where it has the same bytes. -/
structure Engine.ReadsConditions {Db : Type} {sqlite : Sqlite Db} (engine : Engine sqlite) :
    Prop where
  expression : ∀ table condition, Compares table condition →
    engine.RowExpression (conditionText condition)
  holds : ∀ db table condition row, Compares table condition →
    row ∈ (engine.contents db table).rows →
    (engine.holds db table (conditionText condition) row.id = true ↔
      condition.Holds (textOf table row))
  compiles : ∀ authorizer table columns condition db, Compares table condition →
    columns ⊆ table.columnNames → authorizer .update = true → authorizer .read = true →
    engine.compiles authorizer table columns (conditionText condition) db

/-- A change with such a condition does not fail once it is compiled; a tag that closes the literal
could. -/
def Engine.Reliable {Db : Type} {sqlite : Sqlite Db} (_ : Engine sqlite)
    (authorizer : Action → Bool) : Prop :=
  ∀ (change : Change) condition db execution, change.Accepted → change.Plain →
    Compares change.table condition →
    sqlite.prepare authorizer
        (statement (updateHead change.table change.stmt) (conditionText condition)) db
      = .ok execution → ∃ next, dbStep execution = (.done, next)

/-! ### A small SQLite that reads them -/

/-- An expression over the rows of a table: `id = number`, or a condition on texts. -/
inductive RowCondition where
  | id (id : Int)
  | texts (condition : Condition)
  deriving DecidableEq, Repr

def readRowCondition (tokens : List SqlText.Token) : Option RowCondition :=
  match readId tokens with
  | some id => some (.id id)
  | none => (readCondition tokens).map .texts

def RowCondition.holds (condition : RowCondition) (db : Small) (table : Table) (id : Int) : Bool :=
  match condition with
  | .id other => decide (id = other)
  | .texts condition =>
      (db.tables table).rows.any fun row =>
        row.id = id && condition.all fun (column, text) => textOf table row column = some text

theorem textNames_read (table : Table) :
    ∀ name ∈ table.textNames, name ∈ table.columnNames ∧ name ≠ lit "id" := by
  cases table <;> decide +kernel

theorem Compares.read {table : Table} {condition : Condition} (compares : Compares table condition) :
    lex (conditionText condition) = some (conditionTokens condition) ∧
      readRowCondition (conditionTokens condition) = some (.texts condition) := by
  have columns (column text : Bytes) (member : (column, text) ∈ condition) :
      IsWord column ∧ column ≠ lit "id" := by
    have known := textNames_read table column (compares.columns _ member)
    exact ⟨(columnNames_read table column known.1).1.1, known.2⟩
  refine ⟨lex_condition condition compares.nonempty fun column text member =>
    (columns column text member).1, ?_⟩
  have notId : readId (conditionTokens condition) = none := by
    match condition, compares.nonempty, columns with
    | [(column, text)], _, columns => exact if_neg (columns column text List.mem_cons_self).2
    | (column, text) :: next :: condition, _, columns =>
        exact if_neg (columns column text List.mem_cons_self).2
  rw [readRowCondition, notId, readCondition_tokens condition compares.nonempty]
  rfl

end Mpdcron.Stats
