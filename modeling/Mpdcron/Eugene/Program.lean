import Mpdcron.Eugene.Calls
import Mpdcron.Eugene.Quote
import Mpdcron.Stats.Atomicity

/-! The eugene program: `load_current_song` of `eugene-utils.c`, the commands of `eugene-*.c` and
`run_cmd` of `eugene-main.c`, against the daemon that it is connected to. -/

namespace Mpdcron.Eugene.Program

open CString Mpdcron.Stats Mpdcron.EugeneUtils

/-- How eugene or the daemon can end before the command does. -/
inductive Abort where
  | daemon (fault : Fault)
  | parse (fault : Fault)
  | doubleFree
  deriving DecidableEq, Repr

/-- What a run of eugene meets: the daemon, as whose client, Mpd and the database file. -/
structure Site (Db : Type) where
  host : Host Db
  client : Nat
  strptime : Bytes → Int
  /-- `int changes;` of the commands. -/
  changes : Int
  /-- `mpdcron_connection_new` leaves no error. -/
  connects : Bool
  /-- `MPDCRON_PASSWORD` -/
  password : Option Bytes
  /-- Nothing where Mpd fails or no song is playing. -/
  currentSong : Option TaggedSong
  /-- `EUGENE_NODB` is set. -/
  nodb : Bool
  /-- What `db_init` returns. -/
  dbInit : Bool
  fails : Table → Phase → Bool
  now : Int
  contents : Db → Database
  store : Database → Db → Db

/-- The exit status, and what is printed on standard output if it is 0. -/
structure Finished (Db : Type) where
  ret : Int
  printed : Option Answer
  st : State Db

section Program

variable {Db : Type} (site : Site Db)

abbrev Work (Db : Type) := State Db → Except Abort (Finished Db)

/-! ### The connection -/

/-- What the daemon has written since. -/
def Site.answered (before after : State Db) : Bytes :=
  (after.output site.client).drop (before.output site.client).length

/-- One call: the line is read by the daemon, and its answer by the parse function. -/
def exchange (call : Call) (st : State Db) : Except Abort (Except GError Answer × State Db) :=
  match commandProcess site.host site.client call.request.line st with
  | .error fault => .error (.daemon fault)
  | .ok (_, after) =>
      match call.parse site.strptime site.changes
          { input := streamLines (site.answered st after), error := none } with
      | .error fault => .error (.parse fault)
      | .ok (result, _) => .ok (result, after)

def failed (st : State Db) : Except Abort (Finished Db) := .ok ⟨1, none, st⟩

/-- A call and what is printed of it. -/
def request (call : Call) : Work Db := fun st => do
  let (result, st) ← exchange site call st
  match result with
  | .error _ => failed st
  | .ok answer => return ⟨0, some answer, st⟩

/-! ### The current song -/

def loadCurrentSong (st : State Db) : Except Abort (Option TaggedSong × State Db) :=
  match site.currentSong with
  | none => .ok (none, st)
  | some song =>
      if site.nodb then .ok (some song, st)
      -- `dbpath` is freed where the error is printed and behind it
      else if ¬site.dbInit then .error .doubleFree
      else
        let call : ProcessCall := { song, increment := false, percentPlayed := -1, now := site.now }
        let tables := ((dbProcess call).run (dbExecFailing site.fails) (site.contents st.db)).2
        .ok (some song, { st with db := site.store tables st.db })

def currentUri (song : TaggedSong) : Option SongExpr := some (.byUri song.uri)

def currentArtist (song : TaggedSong) : Option SongExpr := song.artist.map .byName

def currentAlbum (song : TaggedSong) : Option SongExpr := song.album.map .byName

def currentAlbumArtist (song : TaggedSong) : Option SongExpr := do
  let artist ← song.artist
  let album ← song.album
  return .byAlbum album artist

def currentGenre (song : TaggedSong) : Option SongExpr := song.genre.map .byName

/-- The functions of the commands: the call for the expression of the command line or, where there
is none, for the current song, which may have no tag of this kind. -/
def onExpr (call : Bytes → Call) (current : TaggedSong → Option SongExpr) (expr : Option Bytes) :
    Work Db := fun st =>
  match expr with
  | some expr => request site (call expr) st
  | none => do
      match ← loadCurrentSong site st with
      | (none, st) => failed st
      | (some song, st) =>
          match current song with
          | none => failed st
          | some expr => request site (call expr.text) st

/-! ### The functions of the commands -/

def rateAlbum (rating : Bytes) := onExpr site (.rate .album · rating) currentAlbum
/-- The variables that the options set. -/
structure Options where
  artist : Bool
  album : Bool
  genre : Bool
  deriving DecidableEq, Repr

/-- `--artist`, `--album` and `--genre`, or the variable of one of them. -/
inductive OptionName where
  | artist
  | album
  | genre
  deriving DecidableEq, Repr

/-- What `g_option_context_parse` makes of the arguments of a command: the options among them, and
the others in their order. -/
structure CommandLine where
  given : List OptionName
  args : List Bytes
  deriving DecidableEq, Repr

/-- The variable of each option in the entries of a command. -/
abbrev OptionEntries := OptionName → OptionName

def optionEntries : OptionEntries := id

/-- In `cmd_hate` the entry of `--genre` has the variable of `--album`. -/
def hateEntries : OptionEntries
  | .artist => .artist
  | .album => .album
  | .genre => .album

def CommandLine.options (line : CommandLine) (entries : OptionEntries) : Options where
  artist := line.given.any fun name => entries name = .artist
  album := line.given.any fun name => entries name = .album
  genre := line.given.any fun name => entries name = .genre

/-- Connects and authenticates. -/
def session (work : Work Db) : Work Db := fun st =>
  if ¬site.connects then failed st
  else
    match site.password with
    | none => work st
    | some password => do
        let (result, st) ← exchange site (.password password) st
        match result with
        | .error _ => failed st
        | .ok _ => work st

end Program

end Mpdcron.Eugene.Program
