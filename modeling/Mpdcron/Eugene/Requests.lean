import Mpdcron.Eugene.SendCommand
import Mpdcron.Stats.Lookup
import Mpdcron.Stats.SmallSqlite

/-! The requests of the client in `eugene-connection.c`, and what `command_lookup` makes of
them. -/

namespace Mpdcron.Eugene

open CString
open Mpdcron.Stats

/-- The command and the arguments of a call of `mpdcron_send_command`. -/
structure ClientRequest where
  command : Bytes
  args : List Bytes

def mpdcronSendCommand (command : Bytes) (args : List Bytes) : ClientRequest := ⟨command, args⟩

/-- The line that the server reads. -/
def ClientRequest.line (request : ClientRequest) : Bytes :=
  request.command ++ request.args.flatMap encodeArg

def mpdcronPassword (password : Bytes) : ClientRequest :=
  mpdcronSendCommand (lit "password") [password]

def mpdcronListAlbumExpr (expr : Bytes) : ClientRequest :=
  mpdcronSendCommand (lit "list_album") [expr]

def mpdcronListArtistExpr (expr : Bytes) : ClientRequest :=
  mpdcronSendCommand (lit "list_artist") [expr]

def mpdcronListGenreExpr (expr : Bytes) : ClientRequest :=
  mpdcronSendCommand (lit "list_genre") [expr]

def mpdcronListExpr (expr : Bytes) : ClientRequest := mpdcronSendCommand (lit "list") [expr]

def mpdcronListinfoAlbumExpr (expr : Bytes) : ClientRequest :=
  mpdcronSendCommand (lit "listinfo_album") [expr]

def mpdcronListinfoArtistExpr (expr : Bytes) : ClientRequest :=
  mpdcronSendCommand (lit "listinfo_artist") [expr]

def mpdcronListinfoGenreExpr (expr : Bytes) : ClientRequest :=
  mpdcronSendCommand (lit "listinfo_genre") [expr]

def mpdcronListinfoExpr (expr : Bytes) : ClientRequest := mpdcronSendCommand (lit "listinfo") [expr]

def mpdcronLoveAlbumExpr (love : Bool) (expr : Bytes) : ClientRequest :=
  mpdcronSendCommand (if love then lit "love_album" else lit "hate_album") [expr]

def mpdcronLoveArtistExpr (love : Bool) (expr : Bytes) : ClientRequest :=
  mpdcronSendCommand (if love then lit "love_artist" else lit "hate_artist") [expr]

def mpdcronLoveGenreExpr (love : Bool) (expr : Bytes) : ClientRequest :=
  mpdcronSendCommand (if love then lit "love_genre" else lit "hate_genre") [expr]

def mpdcronLoveExpr (love : Bool) (expr : Bytes) : ClientRequest :=
  mpdcronSendCommand (if love then lit "love" else lit "hate") [expr]

def mpdcronKillAlbumExpr (kkill : Bool) (expr : Bytes) : ClientRequest :=
  mpdcronSendCommand (if kkill then lit "kill_album" else lit "unkill_album") [expr]

def mpdcronKillArtistExpr (kkill : Bool) (expr : Bytes) : ClientRequest :=
  mpdcronSendCommand (if kkill then lit "kill_artist" else lit "unkill_artist") [expr]

def mpdcronKillGenreExpr (kkill : Bool) (expr : Bytes) : ClientRequest :=
  mpdcronSendCommand (if kkill then lit "kill_genre" else lit "unkill_genre") [expr]

def mpdcronKillExpr (kkill : Bool) (expr : Bytes) : ClientRequest :=
  mpdcronSendCommand (if kkill then lit "kill" else lit "unkill") [expr]

def mpdcronRateAlbumExpr (expr rating : Bytes) : ClientRequest :=
  mpdcronSendCommand (lit "rate_album") [expr, rating]

def mpdcronRateArtistExpr (expr rating : Bytes) : ClientRequest :=
  mpdcronSendCommand (lit "rate_artist") [expr, rating]

def mpdcronRateGenreExpr (expr rating : Bytes) : ClientRequest :=
  mpdcronSendCommand (lit "rate_genre") [expr, rating]

def mpdcronRateExpr (expr rating : Bytes) : ClientRequest :=
  mpdcronSendCommand (lit "rate") [expr, rating]

def mpdcronRateAbsoluteAlbumExpr (expr rating : Bytes) : ClientRequest :=
  mpdcronSendCommand (lit "rate_absolute_album") [expr, rating]

def mpdcronRateAbsoluteArtistExpr (expr rating : Bytes) : ClientRequest :=
  mpdcronSendCommand (lit "rate_absolute_artist") [expr, rating]

def mpdcronRateAbsoluteGenreExpr (expr rating : Bytes) : ClientRequest :=
  mpdcronSendCommand (lit "rate_absolute_genre") [expr, rating]

def mpdcronRateAbsoluteExpr (expr rating : Bytes) : ClientRequest :=
  mpdcronSendCommand (lit "rate_absolute") [expr, rating]

def mpdcronAddtagExpr (expr tag : Bytes) : ClientRequest :=
  mpdcronSendCommand (lit "addtag") [expr, tag]

def mpdcronAddtagArtistExpr (expr tag : Bytes) : ClientRequest :=
  mpdcronSendCommand (lit "addtag_artist") [expr, tag]

def mpdcronAddtagAlbumExpr (expr tag : Bytes) : ClientRequest :=
  mpdcronSendCommand (lit "addtag_album") [expr, tag]

def mpdcronAddtagGenreExpr (expr tag : Bytes) : ClientRequest :=
  mpdcronSendCommand (lit "addtag_genre") [expr, tag]

def mpdcronRmtagExpr (expr tag : Bytes) : ClientRequest :=
  mpdcronSendCommand (lit "rmtag") [expr, tag]

def mpdcronRmtagArtistExpr (expr tag : Bytes) : ClientRequest :=
  mpdcronSendCommand (lit "rmtag_artist") [expr, tag]

def mpdcronRmtagAlbumExpr (expr tag : Bytes) : ClientRequest :=
  mpdcronSendCommand (lit "rmtag_album") [expr, tag]

def mpdcronRmtagGenreExpr (expr tag : Bytes) : ClientRequest :=
  mpdcronSendCommand (lit "rmtag_genre") [expr, tag]

def mpdcronListtagsExpr (expr : Bytes) : ClientRequest := mpdcronSendCommand (lit "listtags") [expr]

def mpdcronListtagsAlbumExpr (expr : Bytes) : ClientRequest :=
  mpdcronSendCommand (lit "listtags_album") [expr]

def mpdcronListtagsArtistExpr (expr : Bytes) : ClientRequest :=
  mpdcronSendCommand (lit "listtags_artist") [expr]

def mpdcronListtagsGenreExpr (expr : Bytes) : ClientRequest :=
  mpdcronSendCommand (lit "listtags_genre") [expr]

def mpdcronCountAlbumExpr (expr count : Bytes) : ClientRequest :=
  mpdcronSendCommand (lit "count_album") [expr, count]

def mpdcronCountArtistExpr (expr count : Bytes) : ClientRequest :=
  mpdcronSendCommand (lit "count_artist") [expr, count]

def mpdcronCountGenreExpr (expr count : Bytes) : ClientRequest :=
  mpdcronSendCommand (lit "count_genre") [expr, count]

def mpdcronCountExpr (expr count : Bytes) : ClientRequest :=
  mpdcronSendCommand (lit "count") [expr, count]

def mpdcronKarmaExpr (expr karma : Bytes) : ClientRequest :=
  mpdcronSendCommand (lit "karma") [expr, karma]

/-- What the client can send: each of its functions, with any arguments. -/
def clientRequests (flag : Bool) (expr arg : Bytes) : List ClientRequest :=
  [mpdcronPassword expr, mpdcronListAlbumExpr expr, mpdcronListArtistExpr expr,
    mpdcronListGenreExpr expr, mpdcronListExpr expr, mpdcronListinfoAlbumExpr expr,
    mpdcronListinfoArtistExpr expr, mpdcronListinfoGenreExpr expr, mpdcronListinfoExpr expr,
    mpdcronLoveAlbumExpr flag expr, mpdcronLoveArtistExpr flag expr,
    mpdcronLoveGenreExpr flag expr, mpdcronLoveExpr flag expr, mpdcronKillAlbumExpr flag expr,
    mpdcronKillArtistExpr flag expr, mpdcronKillGenreExpr flag expr, mpdcronKillExpr flag expr,
    mpdcronRateAlbumExpr expr arg, mpdcronRateArtistExpr expr arg, mpdcronRateGenreExpr expr arg,
    mpdcronRateExpr expr arg, mpdcronRateAbsoluteAlbumExpr expr arg,
    mpdcronRateAbsoluteArtistExpr expr arg, mpdcronRateAbsoluteGenreExpr expr arg,
    mpdcronRateAbsoluteExpr expr arg, mpdcronAddtagExpr expr arg, mpdcronAddtagArtistExpr expr arg,
    mpdcronAddtagAlbumExpr expr arg, mpdcronAddtagGenreExpr expr arg, mpdcronRmtagExpr expr arg,
    mpdcronRmtagArtistExpr expr arg, mpdcronRmtagAlbumExpr expr arg,
    mpdcronRmtagGenreExpr expr arg, mpdcronListtagsExpr expr, mpdcronListtagsAlbumExpr expr,
    mpdcronListtagsArtistExpr expr, mpdcronListtagsGenreExpr expr, mpdcronCountAlbumExpr expr arg,
    mpdcronCountArtistExpr expr arg, mpdcronCountGenreExpr expr arg, mpdcronCountExpr expr arg,
    mpdcronKarmaExpr expr arg]

/-! ### What the server makes of a request -/

/-- A command and the number of its arguments. -/
def ClientRequest.shape (request : ClientRequest) : Bytes × Int :=
  (request.command, request.args.length)

theorem clientRequests_shape (flag : Bool) (expr arg : Bytes) :
    (clientRequests flag expr arg).map ClientRequest.shape
      = (clientRequests flag [] []).map ClientRequest.shape := rfl

def commandArities : List Int :=
  [2, 2, 2, 2, 2, 2, 2, 2, 1, 1, 1, 1, 2, 1, 1, 1, 1, 1, 1, 1, 1, 1, 1, 1, 1, 1, 1, 1, 1, 1, 1, 1, 1, 1,
    2, 2, 2, 2, 2, 2, 2, 2, 2, 2, 2, 2, 1, 1, 1, 1]

section Requests

variable {Db : Type} (host : Host Db)

theorem commands_arities :
    (commands host).map (fun entry => (entry.cmd, entry.min)) = commandNames.zip commandArities :=
  rfl

theorem shapes_listed : ∀ flag, ∀ shape ∈ (clientRequests flag [] []).map ClientRequest.shape,
    shape ∈ commandNames.zip commandArities := by
  decide +kernel

/-- Each request is for a command of the table, with as many arguments as it takes. -/
theorem clientRequest_entry (flag : Bool) (expr arg : Bytes) (request : ClientRequest)
    (sent : request ∈ clientRequests flag expr arg) :
    ∃ entry ∈ commands host, entry.cmd = request.command ∧ entry.min = request.args.length := by
  have member := List.mem_map_of_mem (f := ClientRequest.shape) sent
  rw [clientRequests_shape] at member
  have listed := shapes_listed flag _ member
  rw [← commands_arities host] at listed
  rcases List.mem_map.mp listed with ⟨entry, inTable, same⟩
  exact ⟨entry, inTable, congrArg Prod.fst same, congrArg Prod.snd same⟩

/-- `IsCommandWord`, computed. -/
def isCommandWord : Bytes → Bool
  | [] => false
  | first :: rest => validWordFirstChar first && rest.all validWordChar

theorem isCommandWord_of (word : Bytes) (check : isCommandWord word) : IsCommandWord word := by
  cases word with
  | nil => cases check
  | cons first rest =>
      rw [isCommandWord, Bool.and_eq_true, List.all_eq_true] at check
      exact ⟨first, rest, rfl, check.1, check.2⟩

theorem commandNames_words : ∀ name ∈ commandNames, isCommandWord name := by decide +kernel

theorem commandArities_few : ∀ entry ∈ commandNames.zip commandArities, entry.2 ≤ 14 := by
  decide +kernel

/-- A request starts with the name of its command. -/
theorem request_word (entry : Command Db) (listed : entry ∈ commands host) (request : ClientRequest)
    (named : entry.cmd = request.command) : IsCommandWord request.command := by
  have inNames : entry.cmd ∈ commandNames := by
    rw [← commands_names host]
    exact List.mem_map_of_mem listed
  exact named ▸ isCommandWord_of _ (commandNames_words _ inNames)

/-- The server cuts the line of a request into the command and its arguments. -/
theorem readRequest_client (entry : Command Db) (listed : entry ∈ commands host)
    (request : ClientRequest) (named : entry.cmd = request.command)
    (fits : entry.min = request.args.length) :
    readRequest request.line = .request (request.command :: request.args) := by
  have word := request_word host entry listed request named
  have inTable : (entry.cmd, entry.min) ∈ commandNames.zip commandArities := by
    rw [← commands_arities host]
    exact List.mem_map_of_mem (f := fun entry : Command Db => (entry.cmd, entry.min)) listed
  have few := commandArities_few _ inTable
  rw [ClientRequest.line, readRequest, readWord_command _ _ word]
  dsimp only
  rw [readParams_fits request.args (commandArgvMax - 1) [request.command]
    (by rw [commandArgvMax]; omega), paramsRequest, if_neg, if_pos rfl]
  · rfl
  · rw [List.singleton_append, List.length_cons, commandArgvMax]
    omega

theorem commandProcess_client (flag : Bool) (expr arg : Bytes) (request : ClientRequest)
    (sent : request ∈ clientRequests flag expr arg)
    (noNul : ∀ given ∈ request.args, (0 : UInt8) ∉ given) (client : Nat) (st : State Db) :
    commandProcess host client request.line st
      = processRequest host client (request.command :: request.args)
          { st with currentCommand := some request.command } := by
  rcases clientRequest_entry host flag expr arg request sent with ⟨entry, listed, named, fits⟩
  have word := request_word host entry listed request named
  have absent : (0 : UInt8) ∉ request.line :=
    request_keeps 0 (by decide) (by decide) (by decide) (by decide) _ _ word noNul
  rw [commandProcess_eq host client _ st absent,
    readRequest_client host entry listed request named fits]
  rfl

/-- What `command_checked_lookup` makes of a request. -/
theorem commandCheckedLookup_client (flag : Bool) (expr arg : Bytes) (request : ClientRequest)
    (sent : request ∈ clientRequests flag expr arg) (client perm : Nat) (st : State Db) :
    if request.command ∈ misplaced then
      commandCheckedLookup host client perm (request.command :: request.args) st
        = .ok (none, (Reply.ofError (unknownCommand request.command) st.db).after client [] st)
    else
      ∃ entry ∈ commands host, entry.cmd = request.command ∧
        (entry.permission = perm &&& entry.permission →
          commandCheckedLookup host client perm (request.command :: request.args) st
            = .ok (some entry, { st with currentCommand := some entry.cmd })) := by
  rcases clientRequest_entry host flag expr arg request sent with ⟨entry, listed, named, fits⟩
  have looked := commandLookup_entry host entry listed
  rw [named] at looked
  split
  · rename_i early
    rw [if_pos early] at looked
    exact commandCheckedLookup_unknown client perm request.command request.args st looked
  · rename_i inOrder
    rw [if_neg inOrder] at looked
    refine ⟨entry, listed, named, fun permitted => ?_⟩
    refine commandCheckedLookup_accepts client perm _ st (List.cons_ne_nil _ _) entry
      ⟨looked, permitted, ?_⟩
    rw [fits, List.length_cons]
    rfl

/-- The binary search agrees with a linear scan at all names but three, and a request of the
client gets to the handler of its command unless it is for one of these. -/
theorem commandLookup_reaches_iff :
    (∀ name, commandLookup host name = linearLookup (commands host) name ↔ name ∉ misplaced) ∧
    ∀ flag expr arg, ∀ request ∈ clientRequests flag expr arg,
      (∀ given ∈ request.args, (0 : UInt8) ∉ given) → ∀ client st,
        commandProcess host client request.line st
            = processRequest host client (request.command :: request.args)
                { st with currentCommand := some request.command } ∧
          ∀ perm st,
            if request.command ∈ misplaced then
              commandCheckedLookup host client perm (request.command :: request.args) st
                = .ok (none,
                    (Reply.ofError (unknownCommand request.command) st.db).after client [] st)
            else
              ∃ entry ∈ commands host, entry.cmd = request.command ∧
                (entry.permission = perm &&& entry.permission →
                  commandCheckedLookup host client perm (request.command :: request.args) st
                    = .ok (some entry, { st with currentCommand := some entry.cmd })) := by
  constructor
  · exact commandLookup_linear_iff host
  · intro flag expr arg request sent noNul client st
    constructor
    · exact commandProcess_client host flag expr arg request sent noNul client st
    · intro perm st
      exact commandCheckedLookup_client host flag expr arg request sent client perm st

end Requests

/-- `rate_album` of the client: the server does not know the command. -/
def rateAlbum : ClientRequest := mpdcronRateAlbumExpr (lit "id=1") (lit "10")

theorem commandLookup_reaches_rateAlbum :
    commandCheckedLookup smallHost 0 255 (rateAlbum.command :: rateAlbum.args)
        (smallState playedOnce)
      = .ok (none, (Reply.ofError (unknownCommand rateAlbum.command) playedOnce).after 0 []
          (smallState playedOnce)) := by
  have reaches := (commandLookup_reaches_iff smallHost).2 true (lit "id=1") (lit "10") rateAlbum
    (List.mem_of_getElem? (i := 17) rfl) (by decide) 0 (smallState playedOnce)
  have looked := reaches.2 255 (smallState playedOnce)
  rw [if_pos (by decide)] at looked
  exact looked

/-- The entry is in the table and the client has every permission, but the command is unknown. -/
theorem rateAlbum_unknown :
    commandLookup smallHost rateAlbum.command = none ∧
    (linearLookup (commands smallHost) rateAlbum.command).map Command.cmd
      = some rateAlbum.command ∧
    (commandProcess smallHost 0 rateAlbum.line
        { smallState playedOnce with perm := fun _ => 255 }).toOption.map
        (fun answered => (answered.1, answered.2.output 0))
      = some (.error, lit "ACK [4] \x7b\x7d unknown command \"rate_album\"\n") := by
  refine ⟨?_, ?_, ?_⟩
  · rw [commandLookup_eq, if_pos (by decide)]
  · decide +kernel
  · decide +kernel

end Mpdcron.Eugene
