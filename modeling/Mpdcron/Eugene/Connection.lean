import Mpdcron.Lib.Lines
import Mpdcron.Stats.Command

/-! The replies as `eugene-connection.c` reads them. -/

namespace Mpdcron.Eugene

open CString
open Mpdcron.Stats

def errorMalformed : Int := 2
def errorEof : Int := 4
def errorServerUnk : Int := 5

/-- What `mpdcron_parser_feed` returns, with what it leaves in the parser. `position` is
`error.at`. -/
inductive ParserResult where
  | malformed
  | success
  | error (server : Int) (position : Nat) (message : Option Bytes)
  | pair (name value : Bytes)
  deriving DecidableEq, Repr

def strchr (text : Bytes) (ch : UInt8) : Option Bytes :=
  match text.dropWhile (· ≠ ch) with
  | [] => none
  | found => some found

/-- The number behind an `@`, and where it ends. -/
def parsePosition : Bytes → Nat × Bytes
  | 64 :: p => (((clampLong (strtol p).1) % 2 ^ 32).toNat, (strtol p).2)
  | p => (0, p)

/-- Past `{COMMAND}`, where there is one. -/
def skipCommand (p : Bytes) : Bytes :=
  match strchr p 123, strchr p 125 with
  | some _, some q => q.tail
  | _, _ => p

/-- `ACK [ERROR@AT] {COMMAND} MESSAGE` -/
def parseAck (line : Bytes) : ParserResult :=
  match strchr (line.drop 3) 91 with
  | none => .error errorServerUnk 0 none
  | some bracket =>
      let (server, p) := strtol bracket.tail
      let (position, p) := parsePosition p
      match strchr p 93 with
      | none => .malformed
      | some q =>
          let message := (skipCommand q.tail).dropWhile (· = 32)
          .error (wrapInt (clampLong server)) position (if message = [] then none else some message)

def mpdcronParserFeed (line : Bytes) : ParserResult :=
  if line = lit "OK" then .success
  else if lit "ACK" <+: line then parseAck line
  else
    match strchr line colon with
    | none => .malformed
    | some p =>
        if p.tail.head? = some 32 then .pair (line.takeWhile (· ≠ colon)) (p.drop 2) else .malformed

/-- `struct mpdcron_connection`: the lines that are still to be read, and the last error. -/
structure Connection where
  input : List Bytes
  error : Option GError
  deriving DecidableEq, Repr

/-- The lines that `g_data_input_stream_read_line` makes of a stream. -/
def streamLines (stream : Bytes) : List Bytes :=
  let pieces := stream.splitOn newline
  if pieces.getLast? = some [] then pieces.dropLast else pieces

/-- `struct mpdcron_song`; lists that grow at the front. -/
structure MpdcronSong where
  id : Int
  playCount : Int := 0
  uri : Option Bytes := none
  love : Int := 0
  kill : Int := 0
  rating : Int := 0
  karma : Int := 0
  lastPlayed : Int := 0
  tags : List Bytes := []
  deriving DecidableEq, Repr

/-- `struct mpdcron_entity` -/
structure MpdcronEntity where
  id : Int
  playCount : Int := 0
  name : Option Bytes := none
  artist : Option Bytes := none
  love : Int := 0
  kill : Int := 0
  rating : Int := 0
  tags : List Bytes := []
  deriving DecidableEq, Repr

/-- A kind of listed item: a new one for an `id`, and what the other keys set. -/
structure ItemKind (α : Type) where
  new : Int → α
  field : Bytes → Bytes → Option (α → α)

section Parse

variable {α : Type}

/-- What a parse function returns: whether it succeeded, the list, and the connection. -/
abbrev Parsed (α : Type) := Except Fault (Bool × List α × Connection)

def parseFailure (code : Int) (message : Bytes) (values : List α) (input : List Bytes) : Parsed α :=
  .ok (false, values, { input := input, error := some { code := code, message := message } })

/-- The loop of `mpdcron_parse_albums`, `_artists`, `_genres` and `_songs`; `item` is the one
being read. -/
def parseItems (kind : ItemKind α) : List Bytes → Option α → List α → Parsed α
  | [], _, values => parseFailure errorEof (lit "EOF while trying to read a line") values []
  | line :: input, item, values =>
      match mpdcronParserFeed (upToNul line) with
      | .success => .ok (true, item.toList ++ values, { input := input, error := none })
      | .error server _ message => parseFailure server (printed message) values input
      | .malformed => parseFailure errorMalformed
          (lit "Malformed line `" ++ upToNul line ++ lit "' received from server") values input
      | .pair key value =>
          if key = lit "id" then
            parseItems kind input (some (kind.new (atoi value))) (item.toList ++ values)
          else
            match kind.field key value with
            | none => parseFailure errorMalformed
                (lit "Received unexpected name/value pair `" ++ key ++ lit "'") values input
            | some set =>
                match item with
                | none => .error .assertion
                | some item => parseItems kind input (some (set item)) values

end Parse

def newEntity (id : Int) : MpdcronEntity := { id := id }

/-- The keys that all entities have. -/
def entityField (key value : Bytes) : Option (MpdcronEntity → MpdcronEntity) :=
  if key = lit "Love" then some fun entity => { entity with love := atoi value }
  else if key = lit "Kill" then some fun entity => { entity with kill := atoi value }
  else if key = lit "Rating" then some fun entity => { entity with rating := atoi value }
  else if key = lit "Play Count" then some fun entity => { entity with playCount := atoi value }
  else if key = lit "Tag" then some fun entity => { entity with tags := value :: entity.tags }
  else none

def albumField (key value : Bytes) : Option (MpdcronEntity → MpdcronEntity) :=
  if key = lit "Album" then some fun album => { album with name := some value }
  else if key = lit "Artist" then some fun album => { album with artist := some value }
  else entityField key value

def artistField (key value : Bytes) : Option (MpdcronEntity → MpdcronEntity) :=
  if key = lit "Artist" then some fun artist => { artist with name := some value }
  else entityField key value

def genreField (key value : Bytes) : Option (MpdcronEntity → MpdcronEntity) :=
  if key = lit "Genre" then some fun genre => { genre with name := some value }
  else entityField key value

/-- `strptime` stands for `strptime` and `mktime_utc` together. -/
def songField (strptime : Bytes → Int) (key value : Bytes) : Option (MpdcronSong → MpdcronSong) :=
  if key = lit "file" then some fun song => { song with uri := some value }
  else if key = lit "Love" then some fun song => { song with love := atoi value }
  else if key = lit "Kill" then some fun song => { song with kill := atoi value }
  else if key = lit "Rating" then some fun song => { song with rating := atoi value }
  else if key = lit "Play Count" then some fun song => { song with playCount := atoi value }
  else if key = lit "Karma" then some fun song => { song with karma := atoi value }
  else if key = lit "Last Played" then some fun song => { song with lastPlayed := strptime value }
  else if key = lit "Tag" then some fun song => { song with tags := value :: song.tags }
  else none

def albumKind : ItemKind MpdcronEntity := { new := newEntity, field := albumField }

def artistKind : ItemKind MpdcronEntity := { new := newEntity, field := artistField }

def genreKind : ItemKind MpdcronEntity := { new := newEntity, field := genreField }

def songKind (strptime : Bytes → Int) : ItemKind MpdcronSong :=
  { new := fun id => { id := id }, field := songField strptime }

def mpdcronParseAlbums (conn : Connection) (values : List MpdcronEntity) : Parsed MpdcronEntity :=
  parseItems albumKind conn.input none values

def mpdcronParseArtists (conn : Connection) (values : List MpdcronEntity) : Parsed MpdcronEntity :=
  parseItems artistKind conn.input none values

def mpdcronParseGenres (conn : Connection) (values : List MpdcronEntity) : Parsed MpdcronEntity :=
  parseItems genreKind conn.input none values

def mpdcronParseSongs (strptime : Bytes → Int) (conn : Connection) (values : List MpdcronSong) :
    Parsed MpdcronSong :=
  parseItems (songKind strptime) conn.input none values

example : mpdcronParserFeed (lit "ACK [101] \x7baddtag\x7d Invalid tag `a:b'")
    = .error 101 0 (some (lit "Invalid tag `a:b'")) := by decide +kernel

end Mpdcron.Eugene
