import Mpdcron.Eugene.AnyAnswer
import Mpdcron.Eugene.Requests
import Mpdcron.Eugene.ResponseRoundTrip

/-! The functions of `eugene-connection.c` as calls: what each sends, which parse function reads its
answer, and what the function of `stats-sqlite.c` that it stands for returns. -/

namespace Mpdcron.Eugene

open CString
open Mpdcron.Stats

def mpdcronParseSingle (conn : Connection) : Bool × Connection :=
  match conn.input with
  | [] => (false,
      { input := [], error := some ⟨errorEof, lit "EOF while trying to read a line"⟩ })
  | line :: input =>
      match mpdcronParserFeed (upToNul line) with
      | .success => (true, { input := input, error := none })
      | .error server _ message =>
          (false, { input := input, error := some ⟨server, printed message⟩ })
      | .malformed => (false,
          { input := input
            error := some ⟨errorMalformed,
              lit "Malformed line `" ++ upToNul line ++ lit "' received from server"⟩ })
      | .pair key _ => (false,
          { input := input
            error := some ⟨errorMalformed,
              lit "Received unexpected name/value pair `" ++ key ++ lit "'"⟩ })

def welcomeMessage : Bytes := lit "OK MPDCRON "

/-- `PROTOCOL_VERSION` -/
def protocolVersion : Bytes := lit "0.1"

def greeting : Bytes := lit "OK MPDCRON " ++ protocolVersion ++ [newline]

/-- The value of `strtol` in an `unsigned`. -/
def toUnsigned (value : Int) : Nat := (clampLong value % 2 ^ 32).toNat

/-- `conn->version`, or the error that is set. -/
def mpdcronParseWelcome (output : Bytes) : Except GError (Nat × Nat × Nat) :=
  if welcomeMessage <+: output then
    let tmp := output.drop welcomeMessage.length
    let (major, test) := strtol tmp
    if test = tmp then
      .error ⟨errorMalformed, lit "Malformed version number in connect message"⟩
    else
      match test with
      | 46 :: test =>
          let (minor, test) := strtol test
          match test with
          | 46 :: test => .ok (toUnsigned major, toUnsigned minor, toUnsigned (strtol test).1)
          | _ => .ok (toUnsigned major, toUnsigned minor, 0)
      | _ => .ok (toUnsigned major, 0, 0)
  else .error ⟨errorMalformed, lit "Malformed connect message received"⟩

inductive Form where
  | list
  | listinfo
  | listtags
  deriving DecidableEq, Repr

/-- A call of one of the functions, with its arguments. -/
inductive Call where
  | password (password : Bytes)
  | songs (form : Form) (expr : Bytes)
  | albums (form : Form) (expr : Bytes)
  | artists (form : Form) (expr : Bytes)
  | genres (form : Form) (expr : Bytes)
  | love (tbl : Table) (love : Bool) (expr : Bytes)
  | kill (tbl : Table) (kkill : Bool) (expr : Bytes)
  | rate (tbl : Table) (expr rating : Bytes)
  | rateAbsolute (tbl : Table) (expr rating : Bytes)
  | count (tbl : Table) (expr count : Bytes)
  | karma (expr karma : Bytes)
  | addtag (tbl : Table) (expr tag : Bytes)
  | rmtag (tbl : Table) (expr tag : Bytes)
  deriving DecidableEq, Repr

def Call.request : Call → ClientRequest
  | .password secret => mpdcronPassword secret
  | .songs .list expr => mpdcronListExpr expr
  | .songs .listinfo expr => mpdcronListinfoExpr expr
  | .songs .listtags expr => mpdcronListtagsExpr expr
  | .albums .list expr => mpdcronListAlbumExpr expr
  | .albums .listinfo expr => mpdcronListinfoAlbumExpr expr
  | .albums .listtags expr => mpdcronListtagsAlbumExpr expr
  | .artists .list expr => mpdcronListArtistExpr expr
  | .artists .listinfo expr => mpdcronListinfoArtistExpr expr
  | .artists .listtags expr => mpdcronListtagsArtistExpr expr
  | .genres .list expr => mpdcronListGenreExpr expr
  | .genres .listinfo expr => mpdcronListinfoGenreExpr expr
  | .genres .listtags expr => mpdcronListtagsGenreExpr expr
  | .love .song on expr => mpdcronLoveExpr on expr
  | .love .album on expr => mpdcronLoveAlbumExpr on expr
  | .love .artist on expr => mpdcronLoveArtistExpr on expr
  | .love .genre on expr => mpdcronLoveGenreExpr on expr
  | .kill .song kkill expr => mpdcronKillExpr kkill expr
  | .kill .album kkill expr => mpdcronKillAlbumExpr kkill expr
  | .kill .artist kkill expr => mpdcronKillArtistExpr kkill expr
  | .kill .genre kkill expr => mpdcronKillGenreExpr kkill expr
  | .rate .song expr rating => mpdcronRateExpr expr rating
  | .rate .album expr rating => mpdcronRateAlbumExpr expr rating
  | .rate .artist expr rating => mpdcronRateArtistExpr expr rating
  | .rate .genre expr rating => mpdcronRateGenreExpr expr rating
  | .rateAbsolute .song expr rating => mpdcronRateAbsoluteExpr expr rating
  | .rateAbsolute .album expr rating => mpdcronRateAbsoluteAlbumExpr expr rating
  | .rateAbsolute .artist expr rating => mpdcronRateAbsoluteArtistExpr expr rating
  | .rateAbsolute .genre expr rating => mpdcronRateAbsoluteGenreExpr expr rating
  | .count .song expr plays => mpdcronCountExpr expr plays
  | .count .album expr plays => mpdcronCountAlbumExpr expr plays
  | .count .artist expr plays => mpdcronCountArtistExpr expr plays
  | .count .genre expr plays => mpdcronCountGenreExpr expr plays
  | .karma expr percent => mpdcronKarmaExpr expr percent
  | .addtag .song expr tag => mpdcronAddtagExpr expr tag
  | .addtag .album expr tag => mpdcronAddtagAlbumExpr expr tag
  | .addtag .artist expr tag => mpdcronAddtagArtistExpr expr tag
  | .addtag .genre expr tag => mpdcronAddtagGenreExpr expr tag
  | .rmtag .song expr tag => mpdcronRmtagExpr expr tag
  | .rmtag .album expr tag => mpdcronRmtagAlbumExpr expr tag
  | .rmtag .artist expr tag => mpdcronRmtagArtistExpr expr tag
  | .rmtag .genre expr tag => mpdcronRmtagGenreExpr expr tag

/-- What a function returns through its arguments. -/
inductive Answer where
  | authenticated
  | changes (changes : Int)
  | songs (values : List MpdcronSong)
  | entities (values : List MpdcronEntity)
  deriving DecidableEq, Repr

/-- A caller that sees `false` prints `conn->error->message`. -/
def callerSees {α : Type} (answer : α → Answer) :
    Except Fault (Bool × α × Connection) → Except Fault (Except GError Answer × Connection)
  | .error fault => .error fault
  | .ok (true, value, conn) => .ok (.ok (answer value), conn)
  | .ok (false, _, conn) =>
      match conn.error with
      | none => .error .nullPointer
      | some error => .ok (.error error, conn)

/-- The parse function of the call; `changes` is what the variable of the caller holds before. -/
def Call.parse (strptime : Bytes → Int) (changes : Int) (call : Call) (conn : Connection) :
    Except Fault (Except GError Answer × Connection) :=
  match call with
  | .password _ => callerSees (fun _ => .authenticated)
      (.ok ((mpdcronParseSingle conn).1, (), (mpdcronParseSingle conn).2))
  | .songs _ _ => callerSees .songs (mpdcronParseSongs strptime conn [])
  | .albums _ _ => callerSees .entities (mpdcronParseAlbums conn [])
  | .artists _ _ => callerSees .entities (mpdcronParseArtists conn [])
  | .genres _ _ => callerSees .entities (mpdcronParseGenres conn [])
  | .love _ _ _ | .kill _ _ _ | .rate _ _ _ | .rateAbsolute _ _ _ | .count _ _ _ | .karma _ _
  | .addtag _ _ _ | .rmtag _ _ _ => callerSees .changes (mpdcronParseChanges conn changes)

/-! ### The same call in the daemon -/

section Local

variable {Db : Type}

/-- An answer or an error, the permissions granted and the database afterwards. -/
abbrev Performed (Db : Type) := Except Fault (Except GError Answer × Nat × Db)

def performedChanges (result : Except Fault (Except GError Int × Db)) : Performed Db :=
  result.map fun (changes, db) => (changes.map .changes, 0, db)

/-- The client's list is in the reverse order of the daemon's. -/
def performedList {α β : Type} (answer : List β → Answer) (item : α → β)
    (result : Except Fault (Except GError (List α) × Db)) : Performed Db :=
  result.map fun (items, db) => (items.map fun items => answer (items.map item).reverse, 0, db)

/-- A function whose number is given as a text. -/
def performedNumber (number : Except Bytes Int) (db : Db)
    (update : Int → Except Fault (Except GError Int × Db)) : Performed Db :=
  match number with
  | .error message => .ok (.error ⟨ackErrorArg, message⟩, 0, db)
  | .ok value => performedChanges (update value)

variable (host : Host Db)

def Call.run (allowed : Action → Bool) (call : Call) (db : Db) : Performed Db :=
  match call with
  | .password secret =>
      let perm := (host.passwords.lookup secret).getD 0
      if perm ≠ 0 then .ok (.ok .authenticated, perm, db)
      else .ok (.error ⟨ackErrorPassword, lit "Invalid password"⟩, 0, db)
  | .songs .list expr => performedList .songs songOf (dbListSongExpr host.sqlite allowed expr db)
  | .songs .listinfo expr =>
      performedList .songs songOf (dbListinfoSongExpr host.sqlite allowed expr db)
  | .songs .listtags expr =>
      performedList .songs songOf (dbListSongTagExpr host.sqlite allowed expr db)
  | .albums .list expr =>
      performedList .entities entityOf (dbListAlbumExpr host.sqlite allowed expr db)
  | .albums .listinfo expr =>
      performedList .entities entityOf (dbListinfoAlbumExpr host.sqlite allowed expr db)
  | .albums .listtags expr =>
      performedList .entities entityOf (dbListAlbumTagExpr host.sqlite allowed expr db)
  | .artists .list expr =>
      performedList .entities entityOf (dbListArtistExpr host.sqlite allowed expr db)
  | .artists .listinfo expr =>
      performedList .entities entityOf (dbListinfoArtistExpr host.sqlite allowed expr db)
  | .artists .listtags expr =>
      performedList .entities entityOf (dbListArtistTagExpr host.sqlite allowed expr db)
  | .genres .list expr =>
      performedList .entities entityOf (dbListGenreExpr host.sqlite allowed expr db)
  | .genres .listinfo expr =>
      performedList .entities entityOf (dbListinfoGenreExpr host.sqlite allowed expr db)
  | .genres .listtags expr =>
      performedList .entities entityOf (dbListGenreTagExpr host.sqlite allowed expr db)
  | .love tbl on expr =>
      performedChanges (.ok (dbLoveExpr host.sqlite allowed tbl expr on db))
  | .kill tbl kkill expr =>
      performedChanges (.ok (dbKillExpr host.sqlite allowed tbl expr kkill db))
  | .rate tbl expr rating => performedNumber (numberArg rating) db fun value =>
      .ok (dbRateExpr host.sqlite allowed tbl expr value db)
  | .rateAbsolute tbl expr rating => performedNumber (numberArg rating) db fun value =>
      .ok (dbRateAbsoluteExpr host.sqlite allowed tbl expr value db)
  | .count tbl expr plays => performedNumber (numberArg plays) db fun value =>
      .ok (dbCountExpr host.sqlite allowed tbl expr value db)
  | .karma expr percent => performedNumber (karmaArg percent) db fun value =>
      dbKarmaSongExpr host.sqlite allowed expr value db
  | .addtag tbl expr tag =>
      performedChanges (.ok (dbAddTagExpr host.sqlite allowed tbl expr tag db))
  | .rmtag .song expr tag => performedChanges (dbRemoveSongTagExpr host.sqlite allowed expr tag db)
  | .rmtag .album expr tag => performedChanges (dbRemoveAlbumTagExpr host.sqlite allowed expr tag db)
  | .rmtag .artist expr tag =>
      performedChanges (dbRemoveArtistTagExpr host.sqlite allowed expr tag db)
  | .rmtag .genre expr tag => performedChanges (dbRemoveGenreTagExpr host.sqlite allowed expr tag db)

def Call.permission : Call → Nat
  | .password _ => permissionNone
  | .songs _ _ | .albums _ _ | .artists _ _ | .genres _ _ => permissionSelect
  | .love _ _ _ | .kill _ _ _ | .rate _ _ _ | .rateAbsolute _ _ _ | .count _ _ _ | .karma _ _
  | .addtag _ _ _ | .rmtag _ _ _ => permissionUpdate

def permissionDenied (command : Bytes) : GError :=
  ⟨ackErrorPermission, lit "you don't have permission for \"" ++ command ++ lit "\""⟩

/-- The call by a client with these permissions. The three commands of `misplaced` are not found by
the binary search. -/
def Call.perform (perm : Nat) (call : Call) (db : Db) : Performed Db :=
  if misplaced.contains call.request.command then
    .ok (.error (unknownCommand call.request.command), 0, db)
  else if call.permission ≠ perm &&& call.permission then
    .ok (.error (permissionDenied call.request.command), 0, db)
  else call.run host (commandAuthorizer perm) db

end Local

end Mpdcron.Eugene
