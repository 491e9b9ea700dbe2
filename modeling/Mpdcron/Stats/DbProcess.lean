import Mpdcron.Lib.Decimal
import Mpdcron.Stats.Database

/-! `db_process` of `stats-sqlite.c`, and that it upserts one row in each table it visits. -/

namespace Mpdcron.Stats

open CString Player Script

/-- The arguments of a call of `db_process`, and the clock while it runs. -/
structure ProcessCall where
  song : TaggedSong
  increment : Bool
  percentPlayed : Int
  now : Int
  deriving DecidableEq, Repr

/-- `id == -1` inserts the row and any other `id` updates it. -/
def insertOrUpdate (has insert : DbScript (Option Int)) (update : Int → DbScript (Option Int)) :
    DbScript Unit := do
  match ← has with
  | none => let _ ← insert
  | some id => let _ ← update id

/-- It returns true unless a statement fails; a song without the required tags is no failure. -/
def dbProcess (call : ProcessCall) : DbScript Unit :=
  let { song, increment, percentPlayed, now } := call
  match songCheckTags song.toSong with
  | none => pure ()
  | some (artist, title) => do
      insertOrUpdate (dbHasSong song.uri)
        (dbInsertSong song artist title increment percentPlayed now)
        fun id => dbUpdateSong song artist title id increment percentPlayed now
      insertOrUpdate (dbHasArtist artist) (dbInsertArtist artist increment)
        fun id => dbUpdateArtist artist id increment
      if let some album := song.album then
        insertOrUpdate (dbHasAlbum album) (dbInsertAlbum song album increment)
          fun id => dbUpdateAlbum song album id increment
      if let some genre := song.genre then
        insertOrUpdate (dbHasGenre genre) (dbInsertGenre genre increment)
          fun id => dbUpdateGenre genre id increment

/-- What a call does with the row of a table. -/
def ProcessCall.upsert (call : ProcessCall) (artist : Bytes) (title : Option Bytes) :
    (table : Table) → Option (Keyed.Upsert Bytes (Data table))
  | .song => some
      { key := call.song.uri
        fresh := freshSong call.song artist title call.increment call.percentPlayed call.now
        change := changeSong call.song artist title call.increment call.percentPlayed call.now }
  | .artist => some
      { key := artist
        fresh := freshCounters call.increment
        change := Counters.count call.increment }
  | .album => call.song.album.map fun album =>
      { key := album
        fresh := freshAlbum call.song call.increment
        change := changeAlbum call.song call.increment }
  | .genre => call.song.genre.map fun genre =>
      { key := genre
        fresh := freshCounters call.increment
        change := Counters.count call.increment }

/-- Nothing where `song_check_tags` rejects the song. -/
def ProcessCall.upsertOf (call : ProcessCall) (table : Table) :
    Option (Keyed.Upsert Bytes (Data table)) :=
  (songCheckTags call.song.toSong).bind fun (artist, title) => call.upsert artist title table

/-- The tables in the order in which they are visited. -/
def visitOrder : List Table := [.song, .artist, .album, .genre]

theorem insertOrUpdate_eq (table : Table) (op : Keyed.Upsert Bytes (Data table)) :
    insertOrUpdate (.call ⟨table, .select op.key⟩) (.call ⟨table, .insert op.key op.fresh⟩)
      (fun id => .call ⟨table, .update id op.key op.change⟩) = lift table op.visit := by
  apply congrArg (Script.step _)
  funext answer
  cases answer <;> rfl

/-- `db_process` visits the four tables, one after the other. -/
theorem dbProcess_eq (call : ProcessCall) :
    dbProcess call = chain (fun table => Keyed.visitAny (call.upsertOf table)) visitOrder := by
  rcases call with ⟨song, increment, percentPlayed, now⟩
  simp only [dbProcess, visitOrder, chain, ProcessCall.upsertOf]
  cases songCheckTags song.toSong with
  | none => rfl
  | some tags =>
      rcases tags with ⟨artist, title⟩
      have songs := insertOrUpdate_eq .song
        ⟨song.uri, freshSong song artist title increment percentPlayed now,
          changeSong song artist title increment percentPlayed now⟩
      have artists := insertOrUpdate_eq .artist
        ⟨artist, freshCounters increment, Counters.count increment⟩
      have albums (album : Bytes) := insertOrUpdate_eq .album
        ⟨album, freshAlbum song increment, changeAlbum song increment⟩
      have genres (genre : Bytes) := insertOrUpdate_eq .genre
        ⟨genre, freshCounters increment, Counters.count increment⟩
      have last (program : DbScript Unit) : program.bind (fun _ => .ret ()) = program :=
        bind_ret program
      simp only [Option.bind_some, ProcessCall.upsert, Keyed.visitAny, bind_eq, dbHasSong,
        dbInsertSong, dbUpdateSong, songs, dbHasArtist, dbInsertArtist, dbUpdateArtist, artists,
        dbHasAlbum, dbInsertAlbum, dbUpdateAlbum, albums, dbHasGenre, dbInsertGenre,
        dbUpdateGenre, genres]
      cases song.album with
      | none =>
          cases song.genre with
          | none => rfl
          | some genre => simp only [Option.map_none, Option.map_some, lift, ret_bind, last]
      | some album =>
          cases song.genre with
          | none => rfl
          | some genre => simp only [Option.map_some, last]

theorem visitOrder_nodup : visitOrder.Nodup := by decide

theorem mem_visitOrder (table : Table) : table ∈ visitOrder := by
  cases table <;> decide

/-- Without a failure a call upserts its row in every table that it visits. -/
theorem run_dbProcess (call : ProcessCall) (db : Database) :
    (dbProcess call).run dbExec db
      = (some (), fun table => (db table).upsertAny (call.upsertOf table)) := by
  rw [dbProcess_eq]
  apply run_chain _ _ visitOrder db _ visitOrder_nodup
  · exact fun table _ => Keyed.run_visitAny (call.upsertOf table) (db table)
  · exact fun table absent => absurd (mem_visitOrder table) absent

/-- The tables that a call has done with when it comes to this one. -/
def doneBefore (table : Table) : List Table := visitOrder.takeWhile (· ≠ table)

/-- A call does with each table what its statements for that table do there, up to the first table
where it fails. -/
theorem run_dbProcess_outcomes
    (exec : ∀ table, Keyed.Stmt Bytes (Data table) → Keyed.Table Bytes (Data table) →
      Option (Option Int × Keyed.Table Bytes (Data table)))
    (call : ProcessCall) (db : Database) (effect : ∀ table, Option (Keyed.Table Bytes (Data table)))
    (runs : ∀ table, (Keyed.visitAny (call.upsertOf table)).run (exec table) (db table)
      = outcomeOf (db table) (effect table)) :
    (dbProcess call).run (execAt exec) db = match visitOrder.find? fun table => (effect table).isNone with
      | none => (some (), fun table => (effect table).getD (db table))
      | some stop => (none, fun table =>
          if table ∈ doneBefore stop then (effect table).getD (db table) else db table) := by
  rw [dbProcess_eq, run_chain_outcomes exec _ visitOrder db effect visitOrder_nodup fun table _ =>
    runs table]
  cases visitOrder.find? fun table => (effect table).isNone with
  | some stop => rfl
  | none =>
      have all : doneAt effect visitOrder db = fun table => (effect table).getD (db table) :=
        funext fun table => if_pos (mem_visitOrder table)
      exact congrArg (Prod.mk (some ())) all

/-- Calls one after the other, up to the first that fails. -/
def dbProcesses : List ProcessCall → DbScript Unit
  | [] => pure ()
  | call :: calls => do
      dbProcess call
      dbProcesses calls

/-- What calls do with the rows of a table. -/
def upsertsOf (calls : List ProcessCall) (table : Table) :
    List (Keyed.Upsert Bytes (Data table)) :=
  calls.filterMap fun call => call.upsertOf table

def Database.upsertAll (db : Database) (calls : List ProcessCall) : Database :=
  fun table => (db table).upsertAll (upsertsOf calls table)

theorem run_dbProcesses (calls : List ProcessCall) : ∀ db : Database,
    (dbProcesses calls).run dbExec db = (some (), db.upsertAll calls) := by
  induction calls with
  | nil => exact fun db => rfl
  | cons call calls ih =>
      intro db
      rw [dbProcesses, bind_eq, run_bind, run_dbProcess]
      dsimp only
      rw [ih]
      congr 1
      funext table
      simp only [Database.upsertAll, upsertsOf, List.filterMap_cons]
      cases call.upsertOf table <;> rfl

/-- The key of the row that a call is about: the `uri`, the artist that `song_check_tags` returns,
and the tags `ALBUM` and `GENRE`. -/
def ProcessCall.keyOf (call : ProcessCall) (table : Table) : Option Bytes :=
  (songCheckTags call.song.toSong).bind fun (artist, _) =>
    match table with
    | .song => some call.song.uri
    | .artist => some artist
    | .album => call.song.album
    | .genre => call.song.genre

theorem ProcessCall.upsertOf_key (call : ProcessCall) (table : Table) :
    (call.upsertOf table).map Keyed.Upsert.key = call.keyOf table := by
  rw [ProcessCall.upsertOf, ProcessCall.keyOf]
  cases songCheckTags call.song.toSong with
  | none => rfl
  | some tags =>
      cases table with
      | song => rfl
      | artist => rfl
      | album => cases album : call.song.album <;> simp [ProcessCall.upsert, album]
      | genre => cases genre : call.song.genre <;> simp [ProcessCall.upsert, genre]

/-- The row of a table that a call inserts. -/
def ProcessCall.freshData (call : ProcessCall) (tags : Bytes × Option Bytes) :
    (table : Table) → Data table
  | .song => freshSong call.song tags.1 tags.2 call.increment call.percentPlayed call.now
  | .artist => freshCounters call.increment
  | .album => freshAlbum call.song call.increment
  | .genre => freshCounters call.increment

/-- What a call makes of the row that is there. -/
def ProcessCall.changeData (call : ProcessCall) (tags : Bytes × Option Bytes) :
    (table : Table) → Data table → Data table
  | .song => changeSong call.song tags.1 tags.2 call.increment call.percentPlayed call.now
  | .artist => Counters.count call.increment
  | .album => changeAlbum call.song call.increment
  | .genre => Counters.count call.increment

/-- All that a call does in a table, beside its key. -/
theorem ProcessCall.upsertOf_spec (call : ProcessCall) (table : Table)
    (op : Keyed.Upsert Bytes (Data table)) (isOp : call.upsertOf table = some op) :
    ∃ tags key, songCheckTags call.song.toSong = some tags ∧
      op = ⟨key, call.freshData tags table, call.changeData tags table⟩ := by
  rw [ProcessCall.upsertOf, Option.bind_eq_some_iff] at isOp
  rcases isOp with ⟨tags, accepted, isOp⟩
  cases table with
  | song => exact ⟨tags, call.song.uri, accepted, (Option.some.inj isOp).symm⟩
  | artist => exact ⟨tags, tags.1, accepted, (Option.some.inj isOp).symm⟩
  | album =>
      rcases Option.map_eq_some_iff.mp isOp with ⟨album, _, same⟩
      exact ⟨tags, album, accepted, same.symm⟩
  | genre =>
      rcases Option.map_eq_some_iff.mp isOp with ⟨genre, _, same⟩
      exact ⟨tags, genre, accepted, same.symm⟩

/-- The columns of the song row that the call writes. -/
def ProcessCall.info (call : ProcessCall) : Option SongInfo :=
  (songCheckTags call.song.toSong).map fun (artist, title) => songInfo call.song artist title

/-- A song that `song_check_tags` rejects changes nothing. -/
theorem upsertOf_rejected (call : ProcessCall) (rejected : songCheckTags call.song.toSong = none)
    (table : Table) : call.upsertOf table = none := by
  rw [ProcessCall.upsertOf, rejected]
  rfl

/-! ### Ids that are read as an `int` -/

theorem columnInt_fits (id : Int) (low : 0 ≤ id) (high : id ≤ intMax) :
    columnInt id = some (some id) := by
  have same : wrapInt id = id := (wrapInt_eq_iff id).mpr ⟨by rw [intMin]; omega, high⟩
  rw [columnInt, same, if_neg (by omega), if_neg (by omega)]

/-- A call that returns true has come to its end on every table. -/
theorem run_dbProcess_int_iff (call : ProcessCall) (db after : Database) :
    (dbProcess call).run intExec db = (some (), after) ↔
      ∀ table, (db table).upsertAnyRead columnInt (call.upsertOf table) = some (after table) := by
  rw [run_dbProcess_outcomes _ call db _ fun table =>
    Keyed.run_visitAny_read columnInt (call.upsertOf table) (db table)]
  cases stops : visitOrder.find? fun table =>
      ((db table).upsertAnyRead columnInt (call.upsertOf table)).isNone with
  | some stop =>
      have failed := List.find?_some stops
      constructor
      · intro returned
        cases returned
      · intro all
        rw [all stop] at failed
        cases failed
  | none =>
      have ends (table : Table) := List.find?_eq_none.mp stops table (mem_visitOrder table)
      simp only [Prod.mk.injEq, true_and, funext_iff]
      apply forall_congr'
      intro table
      have here := ends table
      cases upserted : (db table).upsertAnyRead columnInt (call.upsertOf table) with
      | none =>
          rw [upserted] at here
          exact absurd rfl here
      | some next => rw [Option.getD_some, Option.some.injEq]

/-- The song comes first, so its row is written whatever becomes of the other tables. -/
theorem run_dbProcess_song (call : ProcessCall) (db : Database) :
    ((dbProcess call).run intExec db).2 .song
      = ((db .song).upsertAnyRead columnInt (call.upsertOf .song)).getD (db .song) := by
  rw [run_dbProcess_outcomes _ call db _ fun table =>
    Keyed.run_visitAny_read columnInt (call.upsertOf table) (db table)]
  cases stops : visitOrder.find? fun table =>
      ((db table).upsertAnyRead columnInt (call.upsertOf table)).isNone with
  | none => rfl
  | some stop =>
      have failed := List.find?_some stops
      cases stop with
      | song =>
          have nothing := Option.isNone_iff_eq_none.mp failed
          rw [nothing]
          rfl
      | artist | album | genre => rfl

/-- Every row that the call finds has an id that comes back as it is. -/
def ProcessCall.Meets (call : ProcessCall) (db : Database) : Prop :=
  ∀ table key, call.keyOf table = some key → (db table).access columnInt key = .reached

theorem Database.empty_hasRoom (count : Nat) (small : count ≤ intMax) : Database.empty.HasRoom count :=
  ⟨small, fun _ _ member => nomatch member⟩

theorem Database.HasRoom.access {db : Database} {count : Nat} (room : db.HasRoom count)
    (table : Table) (key : Bytes) : (db table).access columnInt key = .reached := by
  rw [Keyed.Table.access]
  cases found : (db table).find key with
  | none => rfl
  | some row =>
      have bounds := room.2 table row (Keyed.Table.find_eq_some.mp found).1
      simp [Keyed.Reading.access, columnInt_fits row.id bounds.1 (by omega)]

theorem Database.HasRoom.meets {db : Database} {count : Nat} (room : db.HasRoom count)
    (call : ProcessCall) : call.Meets db := fun table key _ => room.access table key

/-- The rows that the call meets are all that it needs to do what it does with whole ids. -/
theorem run_dbProcess_meets (call : ProcessCall) (db : Database) (meets : call.Meets db) :
    (dbProcess call).run intExec db
      = (some (), fun table => (db table).upsertAny (call.upsertOf table)) := by
  rw [dbProcess_eq]
  apply run_chain _ _ visitOrder db _ visitOrder_nodup
  · intro table _
    have keyed := call.upsertOf_key table
    rw [Keyed.run_visitAny_read]
    cases isOp : call.upsertOf table with
    | none => rfl
    | some op =>
        rw [isOp] at keyed
        rw [Keyed.Table.upsertAnyRead, Keyed.Table.upsertRead, meets table op.key keyed.symm]
        rfl
  · exact fun table absent => absurd (mem_visitOrder table) absent

/-- Each call meets the rows that it finds where the calls before it have come to. -/
def Meeting : List ProcessCall → Database → Prop
  | [], _ => True
  | call :: calls, db =>
      call.Meets db ∧ Meeting calls fun table => (db table).upsertAny (call.upsertOf table)

/-- Where there is room for a row of each call, all of them meet their rows. -/
theorem Database.HasRoom.meeting (calls : List ProcessCall) : ∀ db : Database,
    db.HasRoom calls.length → Meeting calls db := by
  induction calls with
  | nil => exact fun db _ => trivial
  | cons call calls ih =>
      intro db room
      refine ⟨room.meets call, ih _ ?_⟩
      have small : (calls.length : Int) + 1 ≤ intMax := by
        simpa using room.1
      refine ⟨by omega, fun table row member => ?_⟩
      have within : (db table).IdsWithin (intMax - (calls.length + 1)) := by
        intro row inTable
        have bounds := room.2 table row inTable
        rw [List.length_cons] at bounds
        omega
      dsimp only at member
      cases isOp : call.upsertOf table with
      | none =>
          rw [isOp] at member
          have bounds := within row member
          omega
      | some op =>
          rw [isOp] at member
          have bounds := within.upsert (by omega) op row member
          omega

theorem run_dbProcesses_meeting (calls : List ProcessCall) : ∀ db : Database, Meeting calls db →
    (dbProcesses calls).run intExec db = (some (), db.upsertAll calls) := by
  induction calls with
  | nil => exact fun db _ => rfl
  | cons call calls ih =>
      intro db meeting
      rw [dbProcesses, bind_eq, run_bind, run_dbProcess_meets call db meeting.1]
      dsimp only
      rw [ih _ meeting.2]
      congr 1
      funext table
      simp only [Database.upsertAll, upsertsOf, List.filterMap_cons]
      cases call.upsertOf table <;> rfl

end Mpdcron.Stats
