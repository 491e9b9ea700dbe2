import Mpdcron.Stats.DbProcess
import Mathlib.Algebra.Order.Ring.Int
import Mathlib.Data.List.Count
import Mathlib.Data.List.Perm.Basic

/-! What a sequence of `db_process` calls makes of the play counters. -/

namespace Mpdcron.Stats

open CString Player Script

/-- The counters of a row before its first play. -/
def noCounters : Counters := freshCounters false

def Counters.plus (plays : Int) (counters : Counters) : Counters :=
  { counters with playCount := counters.playCount + plays }

theorem Counters.plus_plus (counters : Counters) (first second : Int) :
    (counters.plus first).plus second = counters.plus (first + second) := by
  simp only [Counters.plus, Int.add_assoc]

theorem Counters.plus_zero (counters : Counters) : counters.plus 0 = counters := by
  simp only [Counters.plus, Int.add_zero]

theorem Counters.count_false (counters : Counters) : counters.count false = counters :=
  counters.plus_zero

theorem freshCounters_eq (increment : Bool) : freshCounters increment = noCounters.count increment := by
  simp [freshCounters, noCounters, Counters.count, incrementBy]

/-- The row that an upsert writes has counted the call, over nothing if the row is new. -/
theorem apply_counters (call : ProcessCall) (table : Table)
    (op : Keyed.Upsert Bytes (Data table)) (isOp : call.upsertOf table = some op)
    (data : Option (Data table)) :
    (Keyed.Upsert.apply data op).map (countersOf table)
      = some (((data.map (countersOf table)).getD noCounters).plus (incrementBy call.increment)) := by
  have fresh : freshCounters call.increment = noCounters.plus (incrementBy call.increment) :=
    freshCounters_eq call.increment
  rcases call.upsertOf_spec table op isOp with ⟨tags, key, _, rfl⟩
  cases data with
  | none => cases table <;> exact congrArg some fresh
  | some data =>
      cases table with
      | song =>
          simp only [Keyed.Upsert.apply, Option.map_some, countersOf, ProcessCall.changeData,
            changeSong]
          cases played call.percentPlayed <;> rfl
      | artist => rfl
      | album => rfl
      | genre => rfl

/-- The counters of a key after one more call. -/
def countCall (table : Table) (key : Bytes) (counters : Option Counters) (call : ProcessCall) :
    Option Counters :=
  if call.keyOf table = some key then
    some ((counters.getD noCounters).plus (incrementBy call.increment))
  else counters

theorem upsertsOf_counters (calls : List ProcessCall) (table : Table) (key : Bytes) :
    ∀ data : Option (Data table),
    (((upsertsOf calls table).filter fun op => op.key = key).foldl Keyed.Upsert.apply data).map
        (countersOf table)
      = calls.foldl (countCall table key) (data.map (countersOf table)) := by
  induction calls with
  | nil => exact fun data => rfl
  | cons call calls ih =>
      intro data
      have keyed := call.upsertOf_key table
      rw [List.foldl_cons, countCall, ← keyed, upsertsOf, List.filterMap_cons]
      cases isOp : call.upsertOf table with
      | none => exact ih data
      | some op =>
          by_cases mine : op.key = key
          · rw [List.filter_cons_of_pos (by simpa using mine), List.foldl_cons,
              ← apply_counters call table op isOp data]
            simpa [mine, upsertsOf] using ih (Keyed.Upsert.apply data op)
          · rw [List.filter_cons_of_neg (by simpa using mine)]
            simpa [mine, upsertsOf] using ih data

/-- How often a key has been counted. -/
def plays (calls : List ProcessCall) (table : Table) (key : Bytes) : Nat :=
  calls.countP fun call => call.increment ∧ call.keyOf table = some key

theorem plays_cons (call : ProcessCall) (calls : List ProcessCall) (table : Table) (key : Bytes) :
    (plays (call :: calls) table key : Int)
      = (if call.keyOf table = some key then incrementBy call.increment else 0)
        + plays calls table key := by
  by_cases mine : call.keyOf table = some key
  · cases increment : call.increment <;>
      simp [plays, mine, increment, incrementBy, Int.add_comm]
  · simp [plays, mine]

theorem plays_none (calls : List ProcessCall) (table : Table) (key : Bytes)
    (none : ¬∃ call ∈ calls, call.keyOf table = some key) : plays calls table key = 0 := by
  rw [plays, List.countP_eq_zero]
  intro call member counted
  exact none ⟨call, member, (of_decide_eq_true counted).2⟩

theorem countCalls (table : Table) (key : Bytes) (calls : List ProcessCall) :
    ∀ counters : Option Counters,
    calls.foldl (countCall table key) counters
      = if ∃ call ∈ calls, call.keyOf table = some key then
          some ((counters.getD noCounters).plus (plays calls table key))
        else counters := by
  induction calls with
  | nil => exact fun counters => by simp
  | cons call calls ih =>
      intro counters
      rw [List.foldl_cons, ih, countCall, plays_cons]
      by_cases mine : call.keyOf table = some key
      · have first : ∃ other ∈ call :: calls, other.keyOf table = some key :=
          ⟨call, List.mem_cons_self, mine⟩
        rw [if_pos mine, if_pos first, if_pos mine, ← Counters.plus_plus]
        by_cases later : ∃ other ∈ calls, other.keyOf table = some key
        · rw [if_pos later]
          rfl
        · rw [if_neg later, plays_none calls table key later]
          exact congrArg some (Counters.plus_zero _).symm
      · rw [if_neg mine, if_neg mine, Int.zero_add]
        simp only [List.exists_mem_cons_iff, mine, false_or]

/-- The counters of a key after calls on any database. -/
theorem counters_upsertAll (db : Database) (calls : List ProcessCall) (table : Table)
    (key : Bytes) :
    ((db.upsertAll calls table).get key).map (countersOf table)
      = if ∃ call ∈ calls, call.keyOf table = some key then
          some (((((db table).get key).map (countersOf table)).getD noCounters).plus
            (plays calls table key))
        else ((db table).get key).map (countersOf table) := by
  rw [Database.upsertAll, Keyed.Table.get_upsertAll, upsertsOf_counters, countCalls]

/-- The counters of a key when the database was empty before the calls. -/
theorem counters_fromEmpty (calls : List ProcessCall) (table : Table) (key : Bytes) :
    ((Database.empty.upsertAll calls table).get key).map (countersOf table)
      = if ∃ call ∈ calls, call.keyOf table = some key then
          some (noCounters.plus (plays calls table key))
        else none :=
  counters_upsertAll Database.empty calls table key

theorem key_fromEmpty (calls : List ProcessCall) (table : Table) (key : Bytes) :
    key ∈ ((Database.empty.upsertAll calls table).rows.map Keyed.Row.key) ↔
      ∃ call ∈ calls, call.keyOf table = some key := by
  have counters := counters_fromEmpty calls table key
  have absent : (Database.empty.upsertAll calls table).get key = none ↔
      key ∉ (Database.empty.upsertAll calls table).rows.map Keyed.Row.key :=
    Keyed.Table.get_eq_none.trans Keyed.Table.find_eq_none
  rw [← not_iff_not, ← absent]
  constructor
  · intro none keyed
    rw [if_pos keyed, none] at counters
    cases counters
  · intro none
    rw [if_neg none] at counters
    exact Option.map_eq_none_iff.mp counters

theorem plays_perm {calls others : List ProcessCall} (same : others.Perm calls) (table : Table)
    (key : Bytes) : plays others table key = plays calls table key :=
  same.countP_eq _

/-- The rows of a database that was empty are those of the keys of the calls, each counts the calls
that increment it, in whatever order they come, and a rejected song leaves no trace. -/
theorem play_counts (calls : List ProcessCall) :
    ∃ db : Database, (dbProcesses calls).run dbExec .empty = (some (), db) ∧
      (∀ table key, ((db table).rows.map Keyed.Row.key).count key
        = if ∃ call ∈ calls, call.keyOf table = some key then 1 else 0) ∧
      (∀ table, ∀ row ∈ (db table).rows,
        (countersOf table row.data).playCount = plays calls table row.key) ∧
      (∀ others : List ProcessCall, others.Perm calls →
        ∃ other : Database, (dbProcesses others).run dbExec .empty = (some (), other) ∧
          ∀ table key, ((other table).get key).map (fun data => (countersOf table data).playCount)
            = ((db table).get key).map fun data => (countersOf table data).playCount) ∧
      (∀ (call : ProcessCall) (start : Database), songCheckTags call.song.toSong = none →
        (dbProcess call).run dbExec start = (some (), start)) := by
  refine ⟨Database.empty.upsertAll calls, run_dbProcesses calls _, ?_, ?_, ?_, ?_⟩
  · intro table key
    rw [List.Nodup.count (Keyed.Table.unique _)]
    exact if_congr (key_fromEmpty calls table key) rfl rfl
  · intro table row member
    have counters := counters_fromEmpty calls table row.key
    have keyed := (key_fromEmpty calls table row.key).mp (List.mem_map_of_mem member)
    rw [Keyed.Table.get_of_mem member, if_pos keyed] at counters
    have same := Option.some.inj counters
    rw [same]
    simp [Counters.plus, noCounters, freshCounters, incrementBy]
  · intro others same
    refine ⟨Database.empty.upsertAll others, run_dbProcesses others _, ?_⟩
    intro table key
    have keyed : (∃ call ∈ others, call.keyOf table = some key) ↔
        ∃ call ∈ calls, call.keyOf table = some key := by
      simp only [same.mem_iff]
    have counters : ((Database.empty.upsertAll others table).get key).map (countersOf table)
        = ((Database.empty.upsertAll calls table).get key).map (countersOf table) := by
      rw [counters_fromEmpty, counters_fromEmpty, plays_perm same]
      exact if_congr keyed rfl rfl
    have counts := congrArg (Option.map Counters.playCount) counters
    rw [Option.map_map, Option.map_map] at counts
    exact counts
  · intro call start rejected
    rw [run_dbProcess]
    congr 1
    funext table
    rw [upsertOf_rejected call rejected]
    rfl

end Mpdcron.Stats
