import Mpdcron.Lib.UpsertTurns
import Mpdcron.Stats.Walrus

/-! Two processes that run `db_process` on one database file, statement by statement in any
order. -/

namespace Mpdcron.Stats

open CString Player Script

/-- The tables that the statements of a call are about. -/
def ProcessCall.visits (call : ProcessCall) : List Table :=
  visitOrder.flatMap fun table => List.replicate (Keyed.visitCount (call.upsertOf table)) table

theorem follows_dbProcess (call : ProcessCall) :
    Follows call.visits (dbProcess call) fun table => Keyed.visitAny (call.upsertOf table) := by
  rw [dbProcess_eq]
  apply follows_chain _ visitOrder _ visitOrder_nodup
  · exact fun table absent => absurd (mem_visitOrder table) absent
  · intro table _
    cases call.upsertOf table with
    | none => trivial
    | some op => exact op.steady_visit

theorem count_visits (call : ProcessCall) (table : Table) :
    call.visits.count table = Keyed.visitCount (call.upsertOf table) := by
  cases table <;> simp [ProcessCall.visits, visitOrder, List.count_replicate]

/-- The turns of two calls on a table, in the order in which their statements come. -/
def turnsOn (schedule : List Side) (calls : Side → ProcessCall) (table : Table) : List Side :=
  turnsAt table (weave schedule fun side => (calls side).visits)

theorem count_turnsOn (schedule : List Side) (calls : Side → ProcessCall) (table : Table)
    (side : Side) :
    (turnsOn schedule calls table).count side
      = Keyed.visitCount ((calls side).upsertOf table) := by
  rw [turnsOn, count_turnsAt, count_weave, count_visits]

/-- Both calls return true if there is no race and each upsert comes to its end, and every table is
as after the upserts one after the other. -/
theorem completes_calls (schedule : List Side) (calls : Side → ProcessCall)
    (db final : Database) :
    Completes intExec schedule (fun side => dbProcess (calls side)) db final ↔
      ∀ table,
        ¬Keyed.Race (turnsOn schedule calls table) ((calls .left).upsertOf table)
            ((calls .right).upsertOf table) (db table) ∧
          Keyed.settled columnInt (turnsOn schedule calls table) ((calls .left).upsertOf table)
            ((calls .right).upsertOf table) (db table) = some (final table) := by
  rw [completes_iff_each _ schedule _ _ _ db final fun side => follows_dbProcess (calls side)]
  apply forall_congr'
  intro table
  rw [← Keyed.completes_visits columnInt _ _ _ (count_turnsOn schedule calls table .left)
    (count_turnsOn schedule calls table .right), ← both_eta (partsAt _ table)]
  rfl

/-- The database after one call and then the other, if both return true. -/
def serial (db : Database) (first second : ProcessCall) : Option Database :=
  match (dbProcess first).run intExec db with
  | (none, _) => none
  | (some (), between) =>
      match (dbProcess second).run intExec between with
      | (none, _) => none
      | (some (), after) => some after

/-- And every table of it. -/
def serialOn (db : Database) (first second : ProcessCall) (table : Table) :
    Option (Keyed.Table Bytes (Data table)) :=
  (db table).upsertBoth columnInt (first.upsertOf table) (second.upsertOf table)

theorem serial_eq_some (db final : Database) (first second : ProcessCall) :
    serial db first second = some final ↔
      ∀ table, serialOn db first second table = some (final table) := by
  have one := run_dbProcess_int_iff first db
  simp only [serialOn, Keyed.Table.upsertBoth, Option.bind_eq_some_iff]
  rw [serial]
  rcases ran : (dbProcess first).run intExec db with ⟨_ | _, between⟩
  · refine iff_of_false (Option.some_ne_none final).symm fun both => ?_
    choose between upserted _ using both
    rw [(one between).mpr upserted] at ran
    cases ran
  · have upserted := (one between).mp ran
    have two := run_dbProcess_int_iff second between
    simp only [upserted, Option.some.injEq, exists_eq_left']
    rw [← two final]
    rcases (dbProcess second).run intExec between with ⟨_ | _, after⟩ <;> simp

/-- The row of this key is the same whichever of the two calls writes it last. The insert of a
played song binds its clock as an `int`, the update does not. -/
def SameColumns (daemon eugene : ProcessCall) (new : Prop) : Table → Prop
  | .song => daemon.info = eugene.info ∧
      (new → (played daemon.percentPlayed).isSome → wrapInt daemon.now = daemon.now)
  | .artist => True
  | .album => daemon.song.artist = eugene.song.artist
  | .genre => True

theorem count_count (counters : Counters) (first second : Bool) :
    (counters.count first).count second = (counters.count second).count first := by
  simp only [Counters.count, Int.add_right_comm]

/-- Two writers of a song row agree where they write the same columns; a row that both would
insert has the clock of the insert too. -/
theorem song_comm (daemon : ProcessCall) (now : Int) (song : TaggedSong) (key otherKey : Bytes)
    (tags otherTags : Bytes × Option Bytes) (op other : Keyed.Upsert Bytes SongData)
    (isOp : op = ⟨key, daemon.freshData tags .song, daemon.changeData tags .song⟩)
    (isOther : other = ⟨otherKey, (walrusCall now song).freshData otherTags .song,
      (walrusCall now song).changeData otherTags .song⟩) (data : Option SongData) :
    other.apply (op.apply data) = op.apply (other.apply data) ↔
      songInfo song otherTags.1 otherTags.2 = songInfo daemon.song tags.1 tags.2 ∧
        (data = none → (played daemon.percentPlayed).isSome → wrapInt daemon.now = daemon.now) := by
  have unplayed : played (-1) = none := by decide
  subst isOp isOther
  cases data with
  | none =>
      cases isPlayed : played daemon.percentPlayed with
      | none =>
          simp [Keyed.Upsert.apply, ProcessCall.freshData, ProcessCall.changeData, changeSong,
            freshSong, isPlayed, unplayed, walrusCall, freshCounters_eq, Counters.count_false]
      | some percent =>
          simp [Keyed.Upsert.apply, ProcessCall.freshData, ProcessCall.changeData, changeSong,
            freshSong, isPlayed, unplayed, walrusCall, freshCounters_eq, Counters.count_false]
  | some data =>
      cases isPlayed : played daemon.percentPlayed with
      | none =>
          simp [Keyed.Upsert.apply, ProcessCall.changeData, changeSong, isPlayed, unplayed,
            walrusCall, Counters.count_false]
      | some percent =>
          simp [Keyed.Upsert.apply, ProcessCall.changeData, changeSong, isPlayed, unplayed,
            walrusCall, Counters.count_false]

theorem apply_comm (daemon : ProcessCall) (now : Int) (song : TaggedSong) (table : Table)
    (op other : Keyed.Upsert Bytes (Data table)) (isOp : daemon.upsertOf table = some op)
    (isOther : (walrusCall now song).upsertOf table = some other) (data : Option (Data table)) :
    other.apply (op.apply data) = op.apply (other.apply data) ↔
      SameColumns daemon (walrusCall now song) (data = none) table := by
  rcases daemon.upsertOf_spec table op isOp with ⟨tags, key, accepted, written⟩
  rcases (walrusCall now song).upsertOf_spec table other isOther
    with ⟨otherTags, otherKey, otherAccepted, otherWritten⟩
  cases table with
  | song =>
      have columns : SameColumns daemon (walrusCall now song) (data = none) .song ↔
          songInfo song otherTags.1 otherTags.2 = songInfo daemon.song tags.1 tags.2 ∧
            (data = none → (played daemon.percentPlayed).isSome →
              wrapInt daemon.now = daemon.now) := by
        rw [SameColumns, ProcessCall.info, ProcessCall.info, accepted, otherAccepted,
          Option.map_some, Option.map_some, Option.some.injEq, eq_comm]
        rfl
      rw [columns]
      exact song_comm daemon now song key otherKey tags otherTags op other written otherWritten data
  | album =>
      subst written otherWritten
      cases data with
      | none =>
          simp [Keyed.Upsert.apply, ProcessCall.freshData, ProcessCall.changeData, SameColumns,
            changeAlbum, freshAlbum, walrusCall, freshCounters_eq, Counters.count_false, eq_comm]
      | some data =>
          simp [Keyed.Upsert.apply, ProcessCall.changeData, SameColumns, changeAlbum, count_count,
            eq_comm]
  | _ =>
      -- the rows of artists and genres hold nothing but counters
      subst written otherWritten
      cases data with
      | none =>
          simp [Keyed.Upsert.apply, ProcessCall.freshData, ProcessCall.changeData, SameColumns,
            walrusCall, freshCounters_eq, Counters.count_false]
      | some data =>
          simp [Keyed.Upsert.apply, ProcessCall.changeData, SameColumns, count_count]

/-- Both calls look for the same new row before one of them inserts it. -/
def RaceOn (schedule : List Side) (calls : Side → ProcessCall) (db : Database) (table : Table) :
    Prop :=
  (turnsOn schedule calls table)[0]? ≠ (turnsOn schedule calls table)[1]? ∧
    ∃ key, (calls .left).keyOf table = some key ∧ (calls .right).keyOf table = some key ∧
      key ∉ (db table).rows.map Keyed.Row.key

theorem raceOn_iff (schedule : List Side) (calls : Side → ProcessCall) (db : Database)
    (table : Table) :
    RaceOn schedule calls db table ↔
      Keyed.Race (turnsOn schedule calls table) ((calls .left).upsertOf table)
        ((calls .right).upsertOf table) (db table) := by
  rw [RaceOn, ← ProcessCall.upsertOf_key, ← ProcessCall.upsertOf_key]
  cases (calls .left).upsertOf table with
  | none => simp [Keyed.Race]
  | some left =>
      cases (calls .right).upsertOf table with
      | none => simp [Keyed.Race]
      | some right =>
          simp only [Keyed.Race, Option.map_some, Option.some.injEq, existsAndEq, true_and,
            Keyed.Table.find_eq_none]
          exact and_congr_right fun _ => and_congr_left fun _ => eq_comm

/-- Both calls would insert the same row. -/
def SameInsert (daemon eugene : ProcessCall) : Table → Prop
  | .song => daemon.increment = false ∧ daemon.info = eugene.info ∧
      played daemon.percentPlayed = none
  | .artist => daemon.increment = false
  | .album => daemon.increment = false ∧ daemon.song.artist = eugene.song.artist
  | .genre => daemon.increment = false

theorem freshCounters_inj (increment : Bool) :
    freshCounters increment = freshCounters false ↔ increment = false := by
  cases increment <;> decide

theorem fresh_eq_iff (daemon : ProcessCall) (now : Int) (song : TaggedSong) (table : Table)
    (op other : Keyed.Upsert Bytes (Data table)) (isOp : daemon.upsertOf table = some op)
    (isOther : (walrusCall now song).upsertOf table = some other) :
    op.fresh = other.fresh ↔ SameInsert daemon (walrusCall now song) table := by
  have unplayed : played (-1) = none := by decide
  rcases daemon.upsertOf_spec table op isOp with ⟨tags, key, accepted, rfl⟩
  rcases (walrusCall now song).upsertOf_spec table other isOther
    with ⟨otherTags, otherKey, otherAccepted, rfl⟩
  have accepted' : songCheckTags song.toSong = some otherTags := otherAccepted
  cases table with
  | song =>
      simp only [ProcessCall.freshData, freshSong, SongData.mk.injEq, SameInsert, ProcessCall.info,
        accepted, accepted', walrusCall, unplayed, freshCounters_inj, Option.map_some,
        Option.map_none, Option.some.injEq, Option.map_eq_none_iff]
      constructor
      · rintro ⟨counters, info, last, -⟩
        exact ⟨counters, info, last⟩
      · rintro ⟨counters, info, last⟩
        exact ⟨counters, info, last, by rw [last]⟩
  | album =>
      simp only [ProcessCall.freshData, freshAlbum, AlbumData.mk.injEq, SameInsert, walrusCall,
        freshCounters_inj]
  | artist => exact freshCounters_inj daemon.increment
  | genre => exact freshCounters_inj daemon.increment

/-- What the calls do to the table is the same in either order. They do not both insert a row of
their own, and the id of a new row is not read for the other. Where they write one row they write
the same columns, or insert the same row if the second does not find it again. -/
def OrderFree (daemon eugene : ProcessCall) (db : Database) (table : Table) : Prop :=
  ∀ key, daemon.keyOf table = some key → ∀ other, eugene.keyOf table = some other →
    if key = other then
      match (db table).access columnInt key, (db table).accessAfter columnInt key key with
      | .reached, .reached =>
          SameColumns daemon eugene (key ∉ (db table).rows.map Keyed.Row.key) table
      | .reached, .missed => SameInsert daemon eugene table
      | _, _ => True
    else
      ¬(key ∉ (db table).rows.map Keyed.Row.key ∧ other ∉ (db table).rows.map Keyed.Row.key) ∧
        (db table).accessAfter columnInt key other = (db table).access columnInt other ∧
        (db table).accessAfter columnInt other key = (db table).access columnInt key

theorem orderFree_iff (daemon : ProcessCall) (now : Int) (song : TaggedSong) (db : Database)
    (table : Table) :
    OrderFree daemon (walrusCall now song) db table ↔
      serialOn db daemon (walrusCall now song) table
        = serialOn db (walrusCall now song) daemon table := by
  rw [OrderFree, serialOn, serialOn, ← ProcessCall.upsertOf_key, ← ProcessCall.upsertOf_key]
  cases isOp : daemon.upsertOf table with
  | none => simp [Keyed.Table.upsertBoth, Keyed.Table.upsertAnyRead]
  | some op =>
      cases isOther : (walrusCall now song).upsertOf table with
      | none => simp [Keyed.Table.upsertBoth, Keyed.Table.upsertAnyRead]
      | some other =>
          simp only [Option.map_some, Option.some.injEq, forall_eq']
          by_cases same : op.key = other.key
          · have swapped := (db table).upsertBoth_comm_of_eq columnInt op other same
            rw [apply_comm daemon now song table op other isOp isOther,
              fresh_eq_iff daemon now song table op other isOp isOther, Keyed.Table.get_eq_none,
              Keyed.Table.find_eq_none] at swapped
            rw [if_pos same]
            exact swapped.symm
          · rw [if_neg same, (db table).upsertBoth_comm_of_ne columnInt op other same,
              Keyed.Table.find_eq_none, Keyed.Table.find_eq_none]

/-- The call that has the last turn on the table. -/
def lastOn (schedule : List Side) (calls : Side → ProcessCall) (table : Table) : Side :=
  if (turnsOn schedule calls table).getLast? = some .right then .right else .left

/-- Each call meets its row on the table, or none; the last one comes after the row of the other. -/
def EndsOn (schedule : List Side) (calls : Side → ProcessCall) (db : Database) (table : Table) :
    Prop :=
  let last := lastOn schedule calls table
  (∀ key, (calls last.other).keyOf table = some key →
      (db table).access columnInt key ≠ .failed) ∧
    ∀ key, (calls last).keyOf table = some key →
      match (calls last.other).keyOf table with
      | none => (db table).access columnInt key ≠ .failed
      | some first => (db table).accessAfter columnInt first key ≠ .failed

theorem serialOn_isSome (db : Database) (first second : ProcessCall) (table : Table) :
    (serialOn db first second table).isSome ↔
      (∀ key, first.keyOf table = some key → (db table).access columnInt key ≠ .failed) ∧
        ∀ key, second.keyOf table = some key →
          match first.keyOf table with
          | none => (db table).access columnInt key ≠ .failed
          | some first => (db table).accessAfter columnInt first key ≠ .failed := by
  have ends (op : Keyed.Upsert Bytes (Data table)) :
      ((db table).upsertRead columnInt op).isSome ↔
        (db table).access columnInt op.key ≠ .failed := by
    rw [Keyed.Table.upsertRead]
    cases (db table).access columnInt op.key <;> simp
  rw [serialOn, ← first.upsertOf_key, ← second.upsertOf_key]
  cases first.upsertOf table with
  | none =>
      cases second.upsertOf table with
      | none => simp [Keyed.Table.upsertBoth, Keyed.Table.upsertAnyRead]
      | some op => simp [Keyed.Table.upsertBoth, Keyed.Table.upsertAnyRead, ends]
  | some op =>
      cases second.upsertOf table with
      | none => simp [Keyed.Table.upsertBoth, Keyed.Table.upsertAnyRead, ends]
      | some other => simp [(db table).upsertBoth_isSome columnInt]

section Settled

variable (schedule : List Side) (daemon : ProcessCall) (now : Int) (song : TaggedSong)
  (db : Database) (table : Table)

/-- How the calls leave the table when they do not race. -/
def settledOn : Option (Keyed.Table Bytes (Data table)) :=
  Keyed.settled columnInt (turnsOn schedule (both daemon (walrusCall now song)) table)
    (daemon.upsertOf table) ((walrusCall now song).upsertOf table) (db table)

theorem settledOn_eq :
    settledOn schedule daemon now song db table
      = if (turnsOn schedule (both daemon (walrusCall now song)) table).getLast? = some .right then
          serialOn db daemon (walrusCall now song) table
        else serialOn db (walrusCall now song) daemon table := rfl

theorem settledOn_isSome :
    (settledOn schedule daemon now song db table).isSome ↔
      EndsOn schedule (both daemon (walrusCall now song)) db table := by
  rw [settledOn_eq, EndsOn, lastOn]
  split
  next => exact serialOn_isSome db daemon (walrusCall now song) table
  next => exact serialOn_isSome db (walrusCall now song) daemon table

theorem settledOn_daemon_first :
    serialOn db daemon (walrusCall now song) table = settledOn schedule daemon now song db table ↔
      OrderFree daemon (walrusCall now song) db table ∨
        (turnsOn schedule (both daemon (walrusCall now song)) table).getLast? = some .right := by
  rw [orderFree_iff, settledOn_eq]
  split
  next last => simp [last]
  next last => simp [last]

theorem settledOn_eugene_first :
    serialOn db (walrusCall now song) daemon table = settledOn schedule daemon now song db table ↔
      OrderFree daemon (walrusCall now song) db table ∨
        (turnsOn schedule (both daemon (walrusCall now song)) table).getLast? = some .left := by
  rw [orderFree_iff, settledOn_eq]
  cases last : (turnsOn schedule (both daemon (walrusCall now song)) table).getLast? with
  | none =>
      -- the table has no turns, so neither call visits it
      have none := List.getLast?_eq_none_iff.mp last
      have count := count_turnsOn schedule (both daemon (walrusCall now song)) table .left
      rw [none, List.count_nil] at count
      have absent : daemon.upsertOf table = Option.none := by
        cases isOp : daemon.upsertOf table with
        | none => rfl
        | some op =>
            simp only [both, isOp] at count
            cases count
      rw [serialOn, serialOn, absent]
      cases upserted : (walrusCall now song).upsertOf table <;>
        simp [Keyed.Table.upsertBoth, Keyed.Table.upsertAnyRead]
  | some side =>
      cases side with
      | left => simp
      | right => simp [eq_comm]

end Settled

/-- A call of the daemon and one of eugene on the same file, whose statements come in any order,
return true and leave what the calls leave one after the other if and only if no new row is
selected twice before its insert, each call meets its rows, and the tables whose order can be told
agree on the call that came last. -/
theorem writers_serializable_iff (schedule : List Side) (daemon : ProcessCall) (now : Int)
    (song : TaggedSong) (db : Database) :
    (let eugene := walrusCall now song
      let after := interleave intExec schedule (both (dbProcess daemon) (dbProcess eugene)) db
      after.1 = (fun _ => some ()) ∧
        (serial db daemon eugene = some after.2 ∨ serial db eugene daemon = some after.2)) ↔
    let calls := both daemon (walrusCall now song)
    (∀ table, ¬RaceOn schedule calls db table ∧ EndsOn schedule calls db table) ∧
      ∃ last, ∀ table, OrderFree daemon (walrusCall now song) db table ∨
        (turnsOn schedule calls table).getLast? = some last := by
  dsimp only
  have programs : (fun side => dbProcess (both daemon (walrusCall now song) side))
      = both (dbProcess daemon) (dbProcess (walrusCall now song)) := by
    funext side
    cases side <;> rfl
  have completes (final : Database) :
      interleave intExec schedule (both (dbProcess daemon) (dbProcess (walrusCall now song))) db
          = (fun _ => some (), final) ↔
        ∀ table, ¬RaceOn schedule (both daemon (walrusCall now song)) db table ∧
          settledOn schedule daemon now song db table = some (final table) := by
    have whole := completes_calls schedule (both daemon (walrusCall now song)) db final
    simp only [programs, ← raceOn_iff] at whole
    exact whole
  have first (final : Database)
      (settles : ∀ table, settledOn schedule daemon now song db table = some (final table)) :
      serial db daemon (walrusCall now song) = some final ↔
        ∀ table, OrderFree daemon (walrusCall now song) db table ∨
          (turnsOn schedule (both daemon (walrusCall now song)) table).getLast? = some .right := by
    rw [serial_eq_some]
    simp only [← settles, settledOn_daemon_first]
  have second (final : Database)
      (settles : ∀ table, settledOn schedule daemon now song db table = some (final table)) :
      serial db (walrusCall now song) daemon = some final ↔
        ∀ table, OrderFree daemon (walrusCall now song) db table ∨
          (turnsOn schedule (both daemon (walrusCall now song)) table).getLast? = some .left := by
    rw [serial_eq_some]
    simp only [← settles, settledOn_eugene_first]
  constructor
  · rintro ⟨returned, order⟩
    have done := (completes _).mp (Prod.ext returned rfl)
    have settles := fun table => (done table).2
    refine ⟨fun table => ⟨(done table).1, (settledOn_isSome ..).mp ?_⟩, ?_⟩
    · rw [settles table]
      rfl
    · rcases order with daemonFirst | eugeneFirst
      · exact ⟨.right, (first _ settles).mp daemonFirst⟩
      · exact ⟨.left, (second _ settles).mp eugeneFirst⟩
  · rintro ⟨safe, last, order⟩
    have ends (table : Table) := Option.isSome_iff_exists.mp
      ((settledOn_isSome schedule daemon now song db table).mpr (safe table).2)
    choose final settles using ends
    have done := (completes final).mpr fun table => ⟨(safe table).1, settles table⟩
    rw [done]
    refine ⟨rfl, ?_⟩
    cases last with
    | left => exact .inr ((second final settles).mpr order)
    | right => exact .inl ((first final settles).mpr order)

/-- Eugene inserts the song between the select and the insert of the daemon, which loses the play. -/
theorem insert_race_loses_play :
    ¬(let daemon : ProcessCall := ⟨plainSong (lit "a.ogg") (lit "A"), true, 100, 0⟩
      let eugene := walrusCall 0 (plainSong (lit "a.ogg") (lit "A"))
      let after := interleave intExec [.left, .right, .right, .left]
        (both (dbProcess daemon) (dbProcess eugene)) Database.empty
      after.1 = (fun _ => some ()) ∧
        (serial .empty daemon eugene = some after.2 ∨
          serial .empty eugene daemon = some after.2)) := by
  rintro ⟨returned, _⟩
  have daemonReturned := congrFun returned .left
  revert daemonReturned
  decide

end Mpdcron.Stats
