import Mpdcron.Lib.Upserts
import Mpdcron.Player.Song
import Mpdcron.Stats.Sqlite

/-! The four tables of the statistics database and the prepared statements of `stats-sqlite.c`
that read and write one row of them. -/

namespace Mpdcron.Stats

open CString Player Script

/-- What `db_process` asks of a song beside the fields that the modules read. -/
structure TaggedSong extends Song where
  lastModified : Int
  name : Option Bytes
  genre : Option Bytes
  date : Option Bytes
  composer : Option Bytes
  performer : Option Bytes
  disc : Option Bytes
  musicbrainzArtistid : Option Bytes
  musicbrainzAlbumid : Option Bytes
  deriving DecidableEq, Repr

/-- A song with an artist and no other tag. -/
def plainSong (uri artist : Bytes) : TaggedSong where
  uri := uri
  id := 0
  duration := 0
  artist := some artist
  title := none
  album := none
  track := none
  musicbrainzTrackid := none
  lastModified := 0
  name := none
  genre := none
  date := none
  composer := none
  performer := none
  disc := none
  musicbrainzArtistid := none
  musicbrainzAlbumid := none

/-- The columns that all four tables have beside `id` and the unique key. -/
structure Counters where
  playCount : Int
  love : Int
  kill : Int
  rating : Int
  tags : Bytes
  deriving DecidableEq, Repr

/-- `CONSTRAINT karma_percent CHECK (karma >= 0 AND karma <= 100)` -/
def Karma : Type := { karma : Int // 0 ≤ karma ∧ karma ≤ 100 }
  deriving DecidableEq

/-- `DB_KARMA_DEFAULT` -/
def dbKarmaDefault : Karma := ⟨50, by decide⟩

/-- `(karma + percent + 1) / 2`, rounded up to be able to reach 100. -/
def Karma.towards (karma percent : Karma) : Karma :=
  ⟨(karma.val + percent.val + 1).tdiv 2, by
    have karmaBounds := karma.property
    have percentBounds := percent.property
    rw [Int.tdiv_eq_ediv_of_nonneg (by omega)]
    omega⟩

/-- The columns of `song` that are written anew at every update, without the `uri`. -/
structure SongInfo where
  duration : Int
  lastModified : Int
  artist : Option Bytes
  album : Option Bytes
  title : Option Bytes
  track : Option Bytes
  name : Option Bytes
  genre : Option Bytes
  date : Option Bytes
  composer : Option Bytes
  performer : Option Bytes
  disc : Option Bytes
  mbArtistid : Option Bytes
  mbAlbumid : Option Bytes
  mbTrackid : Option Bytes
  deriving DecidableEq, Repr

structure SongData where
  counters : Counters
  info : SongInfo
  lastPlayed : Option Int
  karma : Karma
  deriving DecidableEq

structure AlbumData where
  counters : Counters
  artist : Option Bytes
  deriving DecidableEq, Repr

abbrev Data : Table → Type
  | .song => SongData
  | .artist => Counters
  | .album => AlbumData
  | .genre => Counters

/-- The key is the `uri` of a song and the `name` of the others. -/
abbrev Database := (table : Table) → Keyed.Table Bytes (Data table)

/-- As `db_sql_create` leaves it. -/
def Database.empty : Database := fun _ => .empty

abbrev DbStmt := Σ table : Table, Keyed.Stmt Bytes (Data table)

/-- A function that runs statements and fails with one of them; its answer is the `id` that a
select found. -/
abbrev DbScript := Script DbStmt (Option Int)

/-- `sqlite3_step` on the statements of `db_sql`, with the ids as the tables have them. -/
abbrev dbExec : DbStmt → Database → Option (Option Int × Database) :=
  execAt fun _ => Keyed.exec

/-- `id = sqlite3_column_int(...)` in `db_has_*`, and what the callers make of the `int`: below -1
it is an error, and -1 is no row. -/
def columnInt : Keyed.Reading := fun id =>
  if wrapInt id < -1 then none else if wrapInt id = -1 then some none else some (some (wrapInt id))

/-- The statements of `db_sql` as `stats-sqlite.c` runs them, which reads an id as an `int`. -/
abbrev intExec : DbStmt → Database → Option (Option Int × Database) :=
  execAt fun _ => Keyed.execRead columnInt

/-- An `int` can hold the id of every row, also after this many more, and none is below 0. -/
def Database.HasRoom (db : Database) (count : Nat) : Prop :=
  count ≤ intMax ∧ ∀ table, ∀ row ∈ (db table).rows, 0 ≤ row.id ∧ row.id + count ≤ intMax

/-- What `db_has_song` returns: the `id` of the row, or that there is none; it fails with its
statement. Whether an id is cut on its way is up to what runs the statement. -/
def dbHasSong (uri : Bytes) : DbScript (Option Int) := .call ⟨.song, .select uri⟩

def dbHasArtist (name : Bytes) : DbScript (Option Int) := .call ⟨.artist, .select name⟩

def dbHasAlbum (name : Bytes) : DbScript (Option Int) := .call ⟨.album, .select name⟩

def dbHasGenre (name : Bytes) : DbScript (Option Int) := .call ⟨.genre, .select name⟩

/-- `increment ? 1 : 0` -/
def incrementBy (increment : Bool) : Int := if increment then 1 else 0

/-- The columns of `values (?, ..., 0, 0, 0, ':')`. -/
def freshCounters (increment : Bool) : Counters :=
  { playCount := incrementBy increment, love := 0, kill := 0, rating := 0, tags := lit ":" }

/-- `play_count = play_count + ?` -/
def Counters.count (increment : Bool) (counters : Counters) : Counters :=
  { counters with playCount := counters.playCount + incrementBy increment }

/-- `percent_played >= 0 && percent_played <= 100` -/
def played (percentPlayed : Int) : Option Karma :=
  if range : 0 ≤ percentPlayed ∧ percentPlayed ≤ 100 then some ⟨percentPlayed, range⟩ else none

def songInfo (song : TaggedSong) (artist : Bytes) (title : Option Bytes) : SongInfo :=
  { duration := toInt song.duration
    lastModified := wrapInt song.lastModified
    artist := some artist
    album := song.album
    title := title
    track := song.track
    name := song.name
    genre := song.genre
    date := song.date
    composer := song.composer
    performer := song.performer
    disc := song.disc
    mbArtistid := song.musicbrainzArtistid
    mbAlbumid := song.musicbrainzAlbumid
    mbTrackid := song.musicbrainzTrackid }

/-- The row of `SQL_INSERT_SONG`; `time(NULL)` is bound as an `int`. -/
def freshSong (song : TaggedSong) (artist : Bytes) (title : Option Bytes) (increment : Bool)
    (percentPlayed now : Int) : SongData :=
  { counters := freshCounters increment
    info := songInfo song artist title
    lastPlayed := (played percentPlayed).map fun _ => wrapInt now
    karma := match played percentPlayed with
      | none => dbKarmaDefault
      | some percent => dbKarmaDefault.towards percent }

/-- The sets of `SQL_UPDATE_SONG` and `SQL_UPDATE_SONG_PLAYED`; `strftime('%s')` is the clock of
SQLite. -/
def changeSong (song : TaggedSong) (artist : Bytes) (title : Option Bytes) (increment : Bool)
    (percentPlayed now : Int) (data : SongData) : SongData :=
  let data := { data with
    counters := data.counters.count increment
    info := songInfo song artist title }
  match played percentPlayed with
  | none => data
  | some percent => { data with lastPlayed := some now, karma := data.karma.towards percent }

def freshAlbum (song : TaggedSong) (increment : Bool) : AlbumData :=
  { counters := freshCounters increment, artist := song.artist }

def changeAlbum (song : TaggedSong) (increment : Bool) (data : AlbumData) : AlbumData :=
  { counters := data.counters.count increment, artist := song.artist }

def dbInsertSong (song : TaggedSong) (artist : Bytes) (title : Option Bytes) (increment : Bool)
    (percentPlayed now : Int) : DbScript (Option Int) :=
  .call ⟨.song, .insert song.uri (freshSong song artist title increment percentPlayed now)⟩

def dbUpdateSong (song : TaggedSong) (artist : Bytes) (title : Option Bytes) (id : Int)
    (increment : Bool) (percentPlayed now : Int) : DbScript (Option Int) :=
  .call ⟨.song, .update id song.uri (changeSong song artist title increment percentPlayed now)⟩

def dbInsertArtist (artist : Bytes) (increment : Bool) : DbScript (Option Int) :=
  .call ⟨.artist, .insert artist (freshCounters increment)⟩

def dbUpdateArtist (artist : Bytes) (id : Int) (increment : Bool) : DbScript (Option Int) :=
  .call ⟨.artist, .update id artist (Counters.count increment)⟩

def dbInsertAlbum (song : TaggedSong) (album : Bytes) (increment : Bool) : DbScript (Option Int) :=
  .call ⟨.album, .insert album (freshAlbum song increment)⟩

def dbUpdateAlbum (song : TaggedSong) (album : Bytes) (id : Int) (increment : Bool) :
    DbScript (Option Int) :=
  .call ⟨.album, .update id album (changeAlbum song increment)⟩

def dbInsertGenre (genre : Bytes) (increment : Bool) : DbScript (Option Int) :=
  .call ⟨.genre, .insert genre (freshCounters increment)⟩

def dbUpdateGenre (genre : Bytes) (id : Int) (increment : Bool) : DbScript (Option Int) :=
  .call ⟨.genre, .update id genre (Counters.count increment)⟩

def countersOf : (table : Table) → Data table → Counters
  | .song, data => SongData.counters data
  | .artist, data => data
  | .album, data => AlbumData.counters data
  | .genre, data => data

end Mpdcron.Stats
