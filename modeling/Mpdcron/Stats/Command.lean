import Mathlib.Logic.Function.Basic
import Mpdcron.Stats.Sqlite
import Mpdcron.Stats.Tokenizer

/-! `stats-command.c`: the commands and `command_process`. A client is known by the number of
its connection. -/

namespace Mpdcron.Stats

open CString

/-- What `command_process` reads and changes: the permissions of the clients, what was
scheduled for writing to each and how often it was flushed, the static `current_command`, the
client that the installed authorizer was given, and the database. -/
structure State (Db : Type) where
  perm : Nat → Nat
  output : Nat → Bytes
  flushes : Nat → Nat
  currentCommand : Option Bytes
  authorizer : Option Nat
  db : Db

/-- What the commands use beside their state. `strftime` is the time that
`handle_listinfo` prints: `none` where `gmtime` fails or the text does not fit. -/
structure Host (Db : Type) where
  sqlite : Sqlite Db
  passwords : List (Bytes × Nat)
  strftime : Int → Option Bytes

inductive CommandReturn where
  | error
  | ok
  deriving DecidableEq, Repr

def permissionNone : Nat := 0
def permissionSelect : Nat := 1
def permissionUpdate : Nat := 2

def ackErrorArg : Int := 1
def ackErrorPassword : Int := 2
def ackErrorPermission : Int := 3
def ackErrorUnknown : Int := 4

def commandArgvMax : Nat := 16

/-- `command_authorizer` for a client with these permissions -/
def commandAuthorizer (perm : Nat) : Action → Bool
  | .read => true
  | .select => true
  | .function name => name ≠ lit "load_extension"
  | .update => perm &&& permissionUpdate ≠ 0
  | .other => false

section Commands

variable {Db : Type}

/-- What the installed authorizer allows; it reads the client's permissions when asked. -/
def State.allowed (st : State Db) : Action → Bool :=
  match st.authorizer with
  | none => fun _ => true
  | some client => commandAuthorizer (st.perm client)

def State.scheduleWrite (client : Nat) (text : Bytes) (st : State Db) : State Db :=
  { st with output := Function.update st.output client (st.output client ++ text) }

def State.flushWrite (client : Nat) (st : State Db) : State Db :=
  { st with flushes := Function.update st.flushes client (st.flushes client + 1) }

def commandOk (client : Nat) (st : State Db) : State Db :=
  (st.scheduleWrite client (lit "OK\n")).flushWrite client

def commandPuts (client : Nat) (message : Bytes) (st : State Db) : State Db :=
  st.scheduleWrite client (message ++ [newline])

/-- The line of an error answer, without its newline. -/
def ackLine (error : Int) (command message : Bytes) : Bytes :=
  lit "ACK [" ++ decimal error ++ lit "] \x7b" ++ command ++ lit "\x7d " ++ message

def commandError (client : Nat) (error : Int) (message : Bytes) (st : State Db) :
    Except Fault (State Db) :=
  match st.currentCommand with
  | none => .error .assertion
  | some command =>
      .ok (State.flushWrite client
        { st.scheduleWrite client (ackLine error command message ++ [newline]) with
          currentCommand := none })

abbrev Handler (Db : Type) :=
  Nat → List Bytes → State Db → Except Fault (CommandReturn × State Db)

/-- How a handler ends once the database function has returned. -/
def answer {α : Type} (print : α → State Db → Except Fault (State Db)) (client : Nat)
    (result : Except GError α × Db) (st : State Db) : Except Fault (CommandReturn × State Db) :=
  match result.1 with
  | .error error => do
      let st ← commandError client error.code error.message { st with db := result.2 }
      return (.error, st)
  | .ok value => do
      let st ← print value { st with db := result.2 }
      return (.ok, commandOk client st)

def answerChanges (client : Nat) (result : Except GError Int × Db) (st : State Db) :
    Except Fault (CommandReturn × State Db) :=
  answer (fun changes st => .ok (commandPuts client (lit "changes: " ++ decimal changes) st))
    client result st

/-- A handler that takes an expression; `flag` is the command that sets the function's flag. -/
def handleFlag (flag : Bytes)
    (update : (Action → Bool) → Bytes → Bool → Db → Except GError Int × Db) : Handler Db
  | client, [name, expr], st =>
      answerChanges client (update st.allowed expr (name = flag) st.db) st
  | _, _, _ => .error .assertion

/-- The number in `argv[2]`, or the message for what is wrong with it: `errno`, then
`endptr`, then the range of an `int`. -/
def numberArg (argument : Bytes) : Except Bytes Int :=
  let (value, endptr) := strtol argument
  if clampLong value ≠ value then
    .error (lit "Failed to convert to number: " ++ lit "Numerical result out of range")
  else if endptr = argument then .error (lit "No digits found")
  else if value > intMax ∨ value < intMin then
    .error (lit "Number too " ++ lit (if value > intMax then "big" else "small"))
  else .ok value

/-- A handler that takes an expression and a number. -/
def handleNumber (update : (Action → Bool) → Bytes → Int → Db → Except GError Int × Db) :
    Handler Db
  | client, [_, expr, number], st =>
      match numberArg number with
      | .error message => do return (.error, ← commandError client ackErrorArg message st)
      | .ok value => answerChanges client (update st.allowed expr value st.db) st
  | _, _, _ => .error .assertion

/-- The number in `argv[2]` as `handle_karma` checks it. -/
def karmaArg (argument : Bytes) : Except Bytes Int :=
  let (value, endptr) := strtol argument
  if clampLong value ≠ value then
    .error (lit "Failed to convert to number: " ++ lit "Numerical result out of range")
  else if endptr = argument then .error (lit "No digits found")
  else if value ≥ 100 ∨ value ≤ 0 then
    .error (lit "Karma '" ++ decimal value ++ lit "' should be a percentage between 0 and 100")
  else .ok value

/-- A handler that takes an expression and a tag. -/
def handleTag
    (update : (Action → Bool) → Bytes → Bytes → Db → Except Fault (Except GError Int × Db)) :
    Handler Db
  | client, [_, expr, tag], st => do
      let result ← update st.allowed expr tag st.db
      answerChanges client result st
  | _, _, _ => .error .assertion

/-- The lines of one listed item after another. -/
def printItems {α : Type} (lines : α → Except Fault (List Bytes)) (client : Nat) :
    List α → State Db → Except Fault (State Db)
  | [], st => .ok st
  | item :: items, st => do
      let texts ← lines item
      printItems lines client items (texts.foldl (fun st text => commandPuts client text st) st)

/-- A handler that takes an expression and lists what it selects. -/
def handleSelect {α : Type} (lines : α → Except Fault (List Bytes))
    (select : (Action → Bool) → Bytes → Db → Except Fault (Except GError (List α) × Db)) :
    Handler Db
  | client, [_, expr], st => do
      let result ← select st.allowed expr st.db
      answer (printItems lines client) client result st
  | _, _, _ => .error .assertion

/-- What `printf` makes of a string argument. -/
def printed (text : Option Bytes) : Bytes := text.getD (lit "(null)")

def numberLine (key : String) (value : Int) : Bytes := lit key ++ lit ": " ++ decimal value

def textLine (key : String) (value : Option Bytes) : Bytes := lit key ++ lit ": " ++ printed value

/-- The loop over `tags`, which reads the array even when it is NULL. -/
def tagLines (tags : Option (List Bytes)) : Except Fault (List Bytes) :=
  match tags with
  | none => .error .nullPointer
  | some tags => .ok ((tags.filter (· ≠ [])).map fun tag => textLine "Tag" (some tag))

def songLines (song : DbSongData) : List Bytes :=
  [numberLine "id" song.id, textLine "file" song.uri]

def genericLines (key : String) (data : DbGenericData) : List Bytes :=
  [numberLine "id" data.id, textLine key data.name]

def albumLines (data : DbGenericData) : List Bytes :=
  [numberLine "id" data.id, textLine "Album" data.name, textLine "Artist" data.artist]

def countLines (data : DbGenericData) : List Bytes :=
  [numberLine "Play Count" data.playCount, numberLine "Love" data.love,
    numberLine "Kill" data.kill, numberLine "Rating" data.rating]

def songCountLines (song : DbSongData) : List Bytes :=
  [numberLine "Play Count" song.playCount, numberLine "Love" song.love,
    numberLine "Kill" song.kill, numberLine "Rating" song.rating, numberLine "Karma" song.karma]

def lastPlayedLines (strftime : Int → Option Bytes) (lastPlayed : Int) :
    Except Fault (List Bytes) :=
  if lastPlayed = 0 then .ok []
  else
    match strftime lastPlayed with
    | none => .error .undefinedText
    | some text => .ok [textLine "Last Played" (some text)]

variable (host : Host Db)

def handleKill : Handler Db :=
  handleFlag (lit "kill") (dbKillSongExpr host.sqlite)

def handleKillAlbum : Handler Db :=
  handleFlag (lit "kill_album") (dbKillAlbumExpr host.sqlite)

def handleKillArtist : Handler Db :=
  handleFlag (lit "kill_artist") (dbKillArtistExpr host.sqlite)

def handleKillGenre : Handler Db :=
  handleFlag (lit "kill_genre") (dbKillGenreExpr host.sqlite)

def handleList : Handler Db :=
  handleSelect (fun song => .ok (songLines song)) (dbListSongExpr host.sqlite)

def handleListAlbum : Handler Db :=
  handleSelect (fun data => .ok (albumLines data)) (dbListAlbumExpr host.sqlite)

def handleListArtist : Handler Db :=
  handleSelect (fun data => .ok (genericLines "Artist" data)) (dbListArtistExpr host.sqlite)

def handleListGenre : Handler Db :=
  handleSelect (fun data => .ok (genericLines "Genre" data)) (dbListGenreExpr host.sqlite)

def handleListinfo : Handler Db :=
  handleSelect
    (fun song => do
      return songLines song ++ songCountLines song ++ (← lastPlayedLines host.strftime song.lastPlayed))
    (dbListinfoSongExpr host.sqlite)

def handleListinfoAlbum : Handler Db :=
  handleSelect (fun data => .ok (albumLines data ++ countLines data))
    (dbListinfoAlbumExpr host.sqlite)

def handleListinfoArtist : Handler Db :=
  handleSelect (fun data => .ok (genericLines "Artist" data ++ countLines data))
    (dbListinfoArtistExpr host.sqlite)

def handleListinfoGenre : Handler Db :=
  handleSelect (fun data => .ok (genericLines "Genre" data ++ countLines data))
    (dbListinfoGenreExpr host.sqlite)

def handleLove : Handler Db :=
  handleFlag (lit "love") (dbLoveSongExpr host.sqlite)

def handleLoveAlbum : Handler Db :=
  handleFlag (lit "love_album") (dbLoveAlbumExpr host.sqlite)

def handleLoveArtist : Handler Db :=
  handleFlag (lit "love_artist") (dbLoveArtistExpr host.sqlite)

def handleLoveGenre : Handler Db :=
  handleFlag (lit "love_genre") (dbLoveGenreExpr host.sqlite)

def handleRate : Handler Db := handleNumber (dbRateSongExpr host.sqlite)

def handleRateAlbum : Handler Db := handleNumber (dbRateAlbumExpr host.sqlite)

def handleRateArtist : Handler Db := handleNumber (dbRateArtistExpr host.sqlite)

def handleRateGenre : Handler Db := handleNumber (dbRateGenreExpr host.sqlite)

def handleRateAbsolute : Handler Db := handleNumber (dbRateAbsoluteSongExpr host.sqlite)

def handleRateAbsoluteAlbum : Handler Db := handleNumber (dbRateAbsoluteAlbumExpr host.sqlite)

def handleRateAbsoluteArtist : Handler Db := handleNumber (dbRateAbsoluteArtistExpr host.sqlite)

def handleRateAbsoluteGenre : Handler Db := handleNumber (dbRateAbsoluteGenreExpr host.sqlite)

def handleAddtag : Handler Db :=
  handleTag fun allowed expr tag db => .ok (dbAddSongTagExpr host.sqlite allowed expr tag db)

def handleAddtagAlbum : Handler Db :=
  handleTag fun allowed expr tag db => .ok (dbAddAlbumTagExpr host.sqlite allowed expr tag db)

def handleAddtagArtist : Handler Db :=
  handleTag fun allowed expr tag db => .ok (dbAddArtistTagExpr host.sqlite allowed expr tag db)

def handleAddtagGenre : Handler Db :=
  handleTag fun allowed expr tag db => .ok (dbAddGenreTagExpr host.sqlite allowed expr tag db)

def handleRmtag : Handler Db := handleTag (dbRemoveSongTagExpr host.sqlite)

def handleRmtagAlbum : Handler Db := handleTag (dbRemoveAlbumTagExpr host.sqlite)

def handleRmtagArtist : Handler Db := handleTag (dbRemoveArtistTagExpr host.sqlite)

def handleRmtagGenre : Handler Db := handleTag (dbRemoveGenreTagExpr host.sqlite)

def handleListtags : Handler Db :=
  handleSelect (fun song => do return songLines song ++ (← tagLines song.tags))
    (dbListSongTagExpr host.sqlite)

def handleListtagsAlbum : Handler Db :=
  handleSelect (fun data => do return albumLines data ++ (← tagLines data.tags))
    (dbListAlbumTagExpr host.sqlite)

def handleListtagsArtist : Handler Db :=
  handleSelect (fun data => do return genericLines "Artist" data ++ (← tagLines data.tags))
    (dbListArtistTagExpr host.sqlite)

def handleListtagsGenre : Handler Db :=
  handleSelect (fun data => do return genericLines "Genre" data ++ (← tagLines data.tags))
    (dbListGenreTagExpr host.sqlite)

def handleCount : Handler Db := handleNumber (dbCountSongExpr host.sqlite)

def handleCountAlbum : Handler Db := handleNumber (dbCountAlbumExpr host.sqlite)

def handleCountArtist : Handler Db := handleNumber (dbCountArtistExpr host.sqlite)

def handleCountGenre : Handler Db := handleNumber (dbCountGenreExpr host.sqlite)

def handleKarma : Handler Db
  | client, [_, expr, number], st =>
      match karmaArg number with
      | .error message => do return (.error, ← commandError client ackErrorArg message st)
      | .ok karma => do
          let result ← dbKarmaSongExpr host.sqlite st.allowed expr karma st.db
          answerChanges client result st
  | _, _, _ => .error .assertion

/-- `client->perm |= perm` -/
def State.grant (client perm : Nat) (st : State Db) : State Db :=
  { st with perm := Function.update st.perm client (st.perm client ||| perm) }

def handlePassword : Handler Db
  | client, _ :: password :: _, st =>
      let perm := (host.passwords.lookup password).getD 0
      if perm ≠ 0 then .ok (.ok, commandOk client (st.grant client perm))
      else do
        let st ← commandError client ackErrorPassword (lit "Invalid password") st
        return (.error, st)
  | _, _, _ => .error .nullPointer

/-- `struct command` -/
structure Command (Db : Type) where
  cmd : Bytes
  permission : Nat
  min : Int
  max : Int
  handler : Handler Db

def commands : List (Command Db) :=
  [⟨lit "addtag", permissionUpdate, 2, 2, handleAddtag host⟩,
    ⟨lit "addtag_album", permissionUpdate, 2, 2, handleAddtagAlbum host⟩,
    ⟨lit "addtag_artist", permissionUpdate, 2, 2, handleAddtagArtist host⟩,
    ⟨lit "addtag_genre", permissionUpdate, 2, 2, handleAddtagGenre host⟩,
    ⟨lit "count", permissionUpdate, 2, 2, handleCount host⟩,
    ⟨lit "count_album", permissionUpdate, 2, 2, handleCountAlbum host⟩,
    ⟨lit "count_artist", permissionUpdate, 2, 2, handleCountArtist host⟩,
    ⟨lit "count_genre", permissionUpdate, 2, 2, handleCountGenre host⟩,
    ⟨lit "hate", permissionUpdate, 1, 1, handleLove host⟩,
    ⟨lit "hate_album", permissionUpdate, 1, 1, handleLoveAlbum host⟩,
    ⟨lit "hate_artist", permissionUpdate, 1, 1, handleLoveArtist host⟩,
    ⟨lit "hate_genre", permissionUpdate, 1, 1, handleLoveGenre host⟩,
    ⟨lit "karma", permissionUpdate, 2, 2, handleKarma host⟩,
    ⟨lit "kill", permissionUpdate, 1, 1, handleKill host⟩,
    ⟨lit "kill_album", permissionUpdate, 1, 1, handleKillAlbum host⟩,
    ⟨lit "kill_artist", permissionUpdate, 1, 1, handleKillArtist host⟩,
    ⟨lit "kill_genre", permissionUpdate, 1, 1, handleKillGenre host⟩,
    ⟨lit "list", permissionSelect, 1, 1, handleList host⟩,
    ⟨lit "list_album", permissionSelect, 1, 1, handleListAlbum host⟩,
    ⟨lit "list_artist", permissionSelect, 1, 1, handleListArtist host⟩,
    ⟨lit "list_genre", permissionSelect, 1, 1, handleListGenre host⟩,
    ⟨lit "listinfo", permissionSelect, 1, 1, handleListinfo host⟩,
    ⟨lit "listinfo_album", permissionSelect, 1, 1, handleListinfoAlbum host⟩,
    ⟨lit "listinfo_artist", permissionSelect, 1, 1, handleListinfoArtist host⟩,
    ⟨lit "listinfo_genre", permissionSelect, 1, 1, handleListinfoGenre host⟩,
    ⟨lit "listtags", permissionSelect, 1, 1, handleListtags host⟩,
    ⟨lit "listtags_album", permissionSelect, 1, 1, handleListtagsAlbum host⟩,
    ⟨lit "listtags_artist", permissionSelect, 1, 1, handleListtagsArtist host⟩,
    ⟨lit "listtags_genre", permissionSelect, 1, 1, handleListtagsGenre host⟩,
    ⟨lit "love", permissionUpdate, 1, 1, handleLove host⟩,
    ⟨lit "love_album", permissionUpdate, 1, 1, handleLoveAlbum host⟩,
    ⟨lit "love_artist", permissionUpdate, 1, 1, handleLoveArtist host⟩,
    ⟨lit "love_genre", permissionUpdate, 1, 1, handleLoveGenre host⟩,
    ⟨lit "password", permissionNone, 1, 1, handlePassword host⟩,
    ⟨lit "rate", permissionUpdate, 2, 2, handleRate host⟩,
    ⟨lit "rate_album", permissionUpdate, 2, 2, handleRateAlbum host⟩,
    ⟨lit "rate_artist", permissionUpdate, 2, 2, handleRateArtist host⟩,
    ⟨lit "rate_genre", permissionUpdate, 2, 2, handleRateGenre host⟩,
    ⟨lit "rate_absolute", permissionUpdate, 2, 2, handleRateAbsolute host⟩,
    ⟨lit "rate_absolute_album", permissionUpdate, 2, 2, handleRateAbsoluteAlbum host⟩,
    ⟨lit "rate_absolute_artist", permissionUpdate, 2, 2, handleRateAbsoluteArtist host⟩,
    ⟨lit "rate_absolute_genre", permissionUpdate, 2, 2, handleRateAbsoluteGenre host⟩,
    ⟨lit "rmtag", permissionUpdate, 2, 2, handleRmtag host⟩,
    ⟨lit "rmtag_album", permissionUpdate, 2, 2, handleRmtagAlbum host⟩,
    ⟨lit "rmtag_artist", permissionUpdate, 2, 2, handleRmtagArtist host⟩,
    ⟨lit "rmtag_genre", permissionUpdate, 2, 2, handleRmtagGenre host⟩,
    ⟨lit "unkill", permissionUpdate, 1, 1, handleKill host⟩,
    ⟨lit "unkill_album", permissionUpdate, 1, 1, handleKillAlbum host⟩,
    ⟨lit "unkill_artist", permissionUpdate, 1, 1, handleKillArtist host⟩,
    ⟨lit "unkill_genre", permissionUpdate, 1, 1, handleKillGenre host⟩]

/-- The binary search of `command_lookup` between `a` and `b`, with `fuel` turns left. -/
def commandLookupLoop (table : List (Command Db)) (name : Bytes) :
    Nat → Nat → Nat → Option (Command Db)
  | 0, _, _ => none
  | fuel + 1, a, b =>
      match table[(a + b) / 2]? with
      | none => none
      | some command =>
          match strcmp name command.cmd with
          | .eq => some command
          | .lt => if a < (a + b) / 2 then commandLookupLoop table name fuel a ((a + b) / 2) else none
          | .gt =>
              if (a + b) / 2 + 1 < b then commandLookupLoop table name fuel ((a + b) / 2 + 1) b
              else none

def commandLookup (name : Bytes) : Option (Command Db) :=
  commandLookupLoop (commands host) name (commands host).length 0 (commands host).length

def commandCheckRequest (command : Command Db) (client permission : Nat) (argv : List Bytes)
    (st : State Db) : Except Fault (Bool × State Db) :=
  let argc : Int := argv.length
  let min := command.min + 1
  let max := command.max + 1
  let name := argv.headD []
  if command.permission ≠ permission &&& command.permission then do
    let st ← commandError client ackErrorPermission
      (lit "you don't have permission for \"" ++ command.cmd ++ lit "\"") st
    return (false, st)
  else if min = 0 then .ok (true, st)
  else if min = max ∧ max ≠ argc then do
    let st ← commandError client ackErrorArg
      (lit "wrong number of arguments for \"" ++ name ++ lit "\"") st
    return (false, st)
  else if argc < min then do
    let st ← commandError client ackErrorArg
      (lit "too few arguments for \"" ++ name ++ lit "\"") st
    return (false, st)
  else if argc > max ∧ max ≠ 0 then do
    let st ← commandError client ackErrorArg
      (lit "too many arguments for \"" ++ name ++ lit "\"") st
    return (false, st)
  else .ok (true, st)

def commandCheckedLookup (client permission : Nat) (argv : List Bytes) (st : State Db) :
    Except Fault (Option (Command Db) × State Db) :=
  let st := { st with currentCommand := some [] }
  match argv with
  | [] => .ok (none, st)
  | name :: _ =>
      match commandLookup host name with
      | none => do
          let st ← commandError client ackErrorUnknown
            (lit "unknown command \"" ++ name ++ lit "\"") st
          return (none, st)
      | some command => do
          let (accepted, st) ← commandCheckRequest command client permission argv
            { st with currentCommand := some command.cmd }
          return (if accepted then some command else none, st)

/-- `command_process` answers with an error of its own and returns. -/
def refuse (client : Nat) (error : Int) (message : Bytes) (st : State Db) :
    Except Fault (CommandReturn × State Db) := do
  let st ← commandError client error message st
  return (.error, { st with currentCommand := none })

/-- The looked-up handler, if there is one. -/
def runHandler (client : Nat) (argv : List Bytes) :
    Option (Command Db) × State Db → Except Fault (CommandReturn × State Db)
  | (none, st) => .ok (.error, st)
  | (some command, st) => command.handler client argv st

/-- `command_process` once the line is tokenized. -/
def processRequest (client : Nat) (argv : List Bytes) (st : State Db) :
    Except Fault (CommandReturn × State Db) :=
  match dbSetAuthorizer host.sqlite false st.db with
  | .error error => refuse client error.code error.message st
  | .ok () =>
      match dbSetAuthorizer host.sqlite true st.db with
      | .error error => refuse client error.code error.message { st with authorizer := none }
      | .ok () => do
          let st := { st with authorizer := some client }
          let looked ← commandCheckedLookup host client (st.perm client) argv st
          let (ret, st) ← runHandler client argv looked
          match dbSetAuthorizer host.sqlite false st.db with
          | .error error => refuse client error.code error.message st
          | .ok () => return (ret, { st with authorizer := none, currentCommand := none })

/-- `error->message` -/
def errorMessage (error : Option Bytes) : Except Fault Bytes :=
  match error with
  | none => .error .nullPointer
  | some message => .ok message

/-- `command_process` once the parameters are cut out of the line. -/
def processParams (client : Nat) (argv : List Nat) (line : Line) (error : Option Bytes)
    (st : State Db) : Except Fault (CommandReturn × State Db) :=
  let words := argv.map (stringAt line.buffer)
  let st := { st with currentCommand := some (words.headD []) }
  if argv.length ≥ commandArgvMax then refuse client ackErrorArg (lit "Too many arguments") st
  else if byteAt line.buffer line.input ≠ 0 then do
    let message ← errorMessage error
    refuse client ackErrorArg message st
  else processRequest host client words st

/-- The error that a failed call of the first tokenizer set. -/
def Token.message : Token → Option Bytes
  | .error message => some message
  | _ => none

def commandProcess (client : Nat) (line : Bytes) (st : State Db) :
    Except Fault (CommandReturn × State Db) :=
  match tokenizerNextWord ⟨line ++ [0], 0⟩ with
  | (.word word, rest) =>
      let (argv, rest, error) := nextParams [word] rest (commandArgvMax - 1)
      processParams host client argv rest error st
  | (token, rest) =>
      let st := { st with currentCommand := some [] }
      if byteAt rest.buffer rest.input = 0 then
        refuse client ackErrorUnknown (lit "No command given") st
      else do
        let message ← errorMessage token.message
        refuse client ackErrorUnknown message st

end Commands

end Mpdcron.Stats
