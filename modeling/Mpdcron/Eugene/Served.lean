import Mpdcron.Eugene.ErrorTexts

/-! A call over the wire is the call in the daemon: one line of a client, from `command_process` to
the parse function. -/

namespace Mpdcron.Eugene

open CString
open Mpdcron.Stats

/-- The arguments can be sent: `mpdcron_send_command` writes them into one line. -/
def Call.Plain (call : Call) : Prop := ∀ arg ∈ call.request.args, Text arg

instance (call : Call) : Decidable call.Plain := List.decidableBAll _ _

def Form.index : Form → Fin 3
  | .list => 0
  | .listinfo => 1
  | .listtags => 2

section Handlers

variable {Db : Type} (host : Host Db) (strptime : Bytes → Int)

def songExchange (form : Form) : Exchange Db MpdcronSong :=
  (songExchanges host strptime).get form.index

def albumExchange (form : Form) : Exchange Db MpdcronEntity := (albumExchanges host).get form.index

def artistExchange (form : Form) : Exchange Db MpdcronEntity := (artistExchanges host).get form.index

def genreExchange (form : Form) : Exchange Db MpdcronEntity := (genreExchanges host).get form.index

/-- The handler of the command that the call is for. -/
def Call.handler : Call → Handler Db
  | .password _ => handlePassword host
  | .songs form _ => (songExchange host strptime form).handler
  | .albums form _ => (albumExchange host form).handler
  | .artists form _ => (artistExchange host form).handler
  | .genres form _ => (genreExchange host form).handler
  | .love .song _ _ => handleLove host
  | .love .album _ _ => handleLoveAlbum host
  | .love .artist _ _ => handleLoveArtist host
  | .love .genre _ _ => handleLoveGenre host
  | .kill .song _ _ => handleKill host
  | .kill .album _ _ => handleKillAlbum host
  | .kill .artist _ _ => handleKillArtist host
  | .kill .genre _ _ => handleKillGenre host
  | .rate .song _ _ => handleRate host
  | .rate .album _ _ => handleRateAlbum host
  | .rate .artist _ _ => handleRateArtist host
  | .rate .genre _ _ => handleRateGenre host
  | .rateAbsolute .song _ _ => handleRateAbsolute host
  | .rateAbsolute .album _ _ => handleRateAbsoluteAlbum host
  | .rateAbsolute .artist _ _ => handleRateAbsoluteArtist host
  | .rateAbsolute .genre _ _ => handleRateAbsoluteGenre host
  | .count .song _ _ => handleCount host
  | .count .album _ _ => handleCountAlbum host
  | .count .artist _ _ => handleCountArtist host
  | .count .genre _ _ => handleCountGenre host
  | .karma _ _ => handleKarma host
  | .addtag .song _ _ => handleAddtag host
  | .addtag .album _ _ => handleAddtagAlbum host
  | .addtag .artist _ _ => handleAddtagArtist host
  | .addtag .genre _ _ => handleAddtagGenre host
  | .rmtag .song _ _ => handleRmtag host
  | .rmtag .album _ _ => handleRmtagAlbum host
  | .rmtag .artist _ _ => handleRmtagArtist host
  | .rmtag .genre _ _ => handleRmtagGenre host

/-- The entry of `commands` that the call is for. -/
def Call.entry (call : Call) : Command Db :=
  ⟨call.request.command, call.permission, call.request.args.length, call.request.args.length,
    call.handler host strptime⟩

/-- Where a table's entry stands among those of a command. -/
def tableOffset : Table → Nat
  | .song => 0
  | .album => 1
  | .artist => 2
  | .genre => 3

/-- Where the entry stands in `commands`. -/
def Call.index : Call → Nat
  | .password _ => 33
  | .songs form _ => 17 + 4 * form.index
  | .albums form _ => 18 + 4 * form.index
  | .artists form _ => 19 + 4 * form.index
  | .genres form _ => 20 + 4 * form.index
  | .love tbl true _ => 29 + tableOffset tbl
  | .love tbl false _ => 8 + tableOffset tbl
  | .kill tbl true _ => 13 + tableOffset tbl
  | .kill tbl false _ => 46 + tableOffset tbl
  | .rate tbl _ _ => 34 + tableOffset tbl
  | .rateAbsolute tbl _ _ => 38 + tableOffset tbl
  | .count tbl _ _ => 4 + tableOffset tbl
  | .karma _ _ => 12
  | .addtag tbl _ _ => tableOffset tbl
  | .rmtag tbl _ _ => 42 + tableOffset tbl

theorem Call.entry_at (call : Call) :
    (commands host)[call.index]? = some (call.entry host strptime) := by
  cases call with
  | password secret => rfl
  | songs form expr | albums form expr | artists form expr | genres form expr => cases form <;> rfl
  | love tbl on expr | kill tbl on expr => cases tbl <;> cases on <;> rfl
  | rate tbl expr text | rateAbsolute tbl expr text | count tbl expr text | addtag tbl expr text
  | rmtag tbl expr text => cases tbl <;> rfl
  | karma expr text => rfl

end Handlers

/-- The rows of the SELECT can be printed and read again. -/
def Exchange.Sound {Db α : Type} (exchange : Exchange Db α) (host : Host Db)
    (allowed : Action → Bool) (expr : Bytes) (db : Db) : Prop :=
  ∀ execution, host.sqlite.prepare allowed (selectText exchange.what exchange.tbl expr) db
      = .ok execution → execution.failure = none →
    ∀ row ∈ execution.rows, SoundRow exchange.shown row

/-! ### Results and replies -/

section Replies

variable {Db : Type} {host : Host Db} (strptime : Bytes → Int)

/-- The errors that the call returns in the daemon are single lines. -/
def Call.ErrorTexts (host : Host Db) (call : Call) (allowed : Action → Bool) (db : Db) : Prop :=
  ∀ error grant next, call.run host allowed db = .ok (.error error, grant, next) →
    Text error.message

/-- What the call returns in the daemon goes through the reply to the client. -/
def Call.Passes (host : Host Db) (call : Call) (allowed : Action → Bool) (db : Db)
    (reply : Reply Db) : Prop :=
  ∃ result, call.run host allowed db = .ok (result, reply.grant, reply.db) ∧
    ∀ command, IsCommandText command →
      call.Reads strptime (sent (reply.lines ++ [reply.finalLine command])) result

theorem Call.passes_error (call : Call) (allowed : Action → Bool) (error : GError) (db next : Db)
    (run : call.run host allowed db = .ok (.error error, 0, next)) (sendable : Sendable error) :
    call.Passes strptime host allowed db (Reply.ofError error next) :=
  ⟨.error error, run, fun command isText =>
    call.reads_error strptime command isText error sendable⟩

/-- The call reads its answer with `mpdcron_parse_changes`. -/
def Call.CountsChanges (call : Call) : Prop :=
  ∀ changes conn, call.parse strptime changes conn = callerSees .changes (mpdcronParseChanges conn changes)

theorem parseChanges_answer (value : Int) (range : IntRange value) (changes : Int)
    (rest : List Bytes) :
    parseChanges ((lit "changes: " ++ decimal value) :: lit "OK" :: rest) changes
      = .ok (true, value, { input := rest, error := none }) := by
  obtain ⟨whole, pair, -⟩ := parseItems_pair (lit "changes") (decimal value) (by decide)
    (decimal_oneLine value) (decimal_noNul value)
  have line : lit "changes: " ++ decimal value = lit "changes" ++ lit ": " ++ decimal value := rfl
  rw [line, parseChanges, whole, pair]
  dsimp only
  rw [if_pos rfl, atoi_decimal value range.low range.high]
  rfl

theorem Call.reads_changes (call : Call) (counts : call.CountsChanges strptime) (value : Int)
    (range : IntRange value) :
    call.Reads strptime (sent [lit "changes: " ++ decimal value, lit "OK"])
      (.ok (.changes value)) := by
  have plain : ∀ line ∈ [lit "changes: " ++ decimal value, lit "OK"], newline ∉ line := by
    have fixed : newline ∉ lit "changes: " := by decide
    simp only [List.forall_mem_cons]
    exact ⟨by simp [fixed, decimal_oneLine value], by decide, List.forall_mem_nil _⟩
  intro changes more
  rw [counts, streamLines_sent _ more plain, mpdcronParseChanges]
  dsimp only [List.cons_append, List.nil_append]
  rw [parseChanges_answer value range changes]
  rfl

/-- A function that counts changes. -/
theorem Call.passes_changes (call : Call) (counts : call.CountsChanges strptime)
    (allowed : Action → Bool) (db : Db) (result : Except GError Int × Db)
    (run : call.run host allowed db = performedChanges (.ok result))
    (texts : call.ErrorTexts host allowed db)
    (sendable : ∀ error, result.1 = .error error → Text error.message → Sendable error)
    (range : ∀ changes, result.1 = .ok changes → IntRange changes) (reply : Reply Db)
    (replied : Reply.ofResult changesLines result = .ok reply) :
    call.Passes strptime host allowed db reply := by
  rcases result with ⟨outcome, next⟩
  cases outcome with
  | error error =>
      cases replied
      have sent := sendable error rfl (texts error 0 next run)
      exact call.passes_error strptime allowed error db next run sent
  | ok changes =>
      cases replied
      exact ⟨.ok (.changes changes), run, fun command isText =>
        call.reads_changes strptime counts changes (range changes rfl)⟩

/-- A function whose number is given as a text. -/
theorem Call.passes_number (call : Call) (counts : call.CountsChanges strptime)
    (allowed : Action → Bool) (db : Db) (check : Bytes → Except Bytes Int) (name expr text : Bytes)
    (update : (Action → Bool) → Bytes → Int → Db → Except Fault (Except GError Int × Db))
    (run : call.run host allowed db = performedNumber (check text) db fun value =>
      update allowed expr value db)
    (checked : ∀ message, check text = .error message → Sendable ⟨ackErrorArg, message⟩)
    (texts : call.ErrorTexts host allowed db)
    (sendable : ∀ value error next, update allowed expr value db = .ok (.error error, next) →
      Text error.message → Sendable error)
    (range : ∀ changes grant next, call.run host allowed db = .ok (.ok (.changes changes), grant, next)
      → IntRange changes)
    (reply : Reply Db) (replied : numberReply check update allowed [name, expr, text] db = .ok reply) :
    call.Passes strptime host allowed db reply := by
  rw [numberReply] at replied
  cases given : check text with
  | error message =>
      rw [given] at replied run
      cases replied
      exact call.passes_error strptime allowed ⟨ackErrorArg, message⟩ db db run (checked message given)
  | ok value =>
      rw [given] at replied run
      dsimp only [performedNumber] at replied run
      cases updated : update allowed expr value db with
      | error fault =>
          rw [updated] at replied
          cases replied
      | ok result =>
          rw [updated] at replied run
          refine call.passes_changes strptime counts allowed db result run texts
            (fun error failed => ?_) (fun changes counted => ?_) reply replied
          · rcases result with ⟨outcome, next⟩
            cases failed
            exact sendable value error next updated
          · rcases result with ⟨outcome, next⟩
            cases counted
            exact range changes 0 next run

/-- Where `st` stands is left out: a listing looks at the permissions and the database only. -/
def listingState (perm : Nat) (command : Bytes) (db : Db) : State Db where
  perm _ := perm
  output _ := []
  flushes _ := 0
  currentCommand := some command
  authorizer := some 0
  db := db

/-- Rows that can be printed are replied, and the rows that are printed are the rows that are
read. -/
theorem Exchange.replied {α β : Type} (exchange : Exchange Db β)
    (trips : exchange.RoundTrips host) (lines : α → Except Fault (List Bytes)) (read : Columns → α)
    (handled : exchange.handler = handleSelect lines fun allowed expr db =>
      dbListExpr host.sqlite allowed exchange.what exchange.tbl read expr db)
    (perm : Nat) (name expr command : Bytes) (db : Db) (execution : Execution Db)
    (prepared : host.sqlite.prepare (commandAuthorizer perm)
      (selectText exchange.what exchange.tbl expr) db = .ok execution)
    (finished : execution.failure = none)
    (sound : ∀ row ∈ execution.rows, SoundRow exchange.shown row) :
    ∃ reply, Listing.reply host.sqlite ⟨exchange.what, exchange.tbl, fun row => lines (read row)⟩
        (commandAuthorizer perm) [name, expr] db = .ok reply ∧
      ∀ more, exchange.parse
          { input := streamLines (sent (reply.lines ++ [reply.finalLine command]) ++ more)
            error := none } []
        = .ok (true, execution.rows.map exchange.row, { input := streamLines more, error := none }) := by
  obtain ⟨after, answer, handler, output, parsed⟩ := trips 0 name expr command
    (listingState perm command db) execution rfl prepared finished sound
  have replies := handleSelect_replies host.sqlite exchange.what exchange.tbl read lines 0
    [name, expr] (listingState perm command db) command rfl
  have allowed : (listingState perm command db).allowed = commandAuthorizer perm := rfl
  have given : (listingState perm command db).db = db := rfl
  rw [← handled, handler, allowed, given] at replies
  cases replied : Listing.reply host.sqlite
      ⟨exchange.what, exchange.tbl, fun row => lines (read row)⟩ (commandAuthorizer perm)
      [name, expr] db with
  | error fault =>
      rw [replied] at replies
      cases replies
  | ok reply =>
      rw [replied] at replies
      have written : after = reply.after 0 command (listingState perm command db) :=
        congrArg Prod.snd (Except.ok.inj replies)
      have bytes : sent (reply.lines ++ [reply.finalLine command]) = answer := by
        rw [written] at output
        have own : (reply.after 0 command (listingState perm command db)).output 0
            = [] ++ sent (reply.lines ++ [reply.finalLine command]) :=
          Function.update_self 0 _ (listingState perm command db).output
        rw [own] at output
        exact output
      refine ⟨reply, rfl, fun more => ?_⟩
      have read := parsed more []
      rwa [List.append_nil, ← bytes] at read

/-- A listing. -/
theorem Call.passes_listing {α β : Type} (call : Call) (exchange : Exchange Db β)
    (trips : exchange.RoundTrips host) (lines : α → Except Fault (List Bytes)) (read : Columns → α)
    (item : α → β) (answer : List β → Answer) (perm : Nat) (name expr : Bytes) (db : Db)
    (texts : call.ErrorTexts host (commandAuthorizer perm) db)
    (handled : exchange.handler = handleSelect lines fun allowed expr db =>
      dbListExpr host.sqlite allowed exchange.what exchange.tbl read expr db)
    (rows : ∀ row, exchange.row row = item (read row))
    (parses : ∀ changes conn, call.parse strptime changes conn
      = callerSees answer (exchange.parse conn []))
    (run : call.run host (commandAuthorizer perm) db = performedList answer item
      (dbListExpr host.sqlite (commandAuthorizer perm) exchange.what exchange.tbl read expr db))
    (sound : exchange.Sound host (commandAuthorizer perm) expr db) :
    ∃ reply, Listing.reply host.sqlite ⟨exchange.what, exchange.tbl, fun row => lines (read row)⟩
        (commandAuthorizer perm) [name, expr] db = .ok reply ∧
      call.Passes strptime host (commandAuthorizer perm) db reply := by
  rw [dbListExpr_eq] at run
  cases prepared : host.sqlite.prepare (commandAuthorizer perm)
      (selectText exchange.what exchange.tbl expr) db with
  | error errmsg =>
      rw [prepared] at run
      refine ⟨_, by rw [Listing.reply, prepared], ?_⟩
      exact call.passes_error strptime _ _ db db run (prepareError_sendable errmsg (texts _ _ _ run))
  | ok execution =>
      rw [prepared] at run
      dsimp only at run
      rw [collected] at run
      cases failure : execution.failure with
      | some errmsg =>
          rw [failure] at run
          refine ⟨_, by rw [Listing.reply, prepared]; dsimp only; rw [failure], ?_⟩
          exact call.passes_error strptime _ _ db execution.final run
            (stepError_sendable errmsg (texts _ _ _ run))
      | none =>
          have replies := fun command => exchange.replied trips lines read handled perm name expr
            command db execution prepared failure (sound execution prepared failure)
          obtain ⟨reply, replied, -⟩ := replies []
          refine ⟨reply, replied, .ok (answer (execution.rows.map exchange.row)), ?_,
            fun command isText changes more => ?_⟩
          · have shown : ((execution.rows.map read).reverse.map item).reverse
                = execution.rows.map exchange.row := by
              rw [List.map_reverse, List.reverse_reverse, List.map_map]
              exact List.map_congr_left fun row _ => (rows row).symm
            have after : reply.grant = 0 ∧ reply.db = execution.final := by
              rw [Listing.reply, prepared] at replied
              dsimp only at replied
              rw [failure] at replied
              cases printed : execution.rows.reverse.mapM fun row => lines (read row) with
              | error fault =>
                  rw [printed] at replied
                  cases replied
              | ok items =>
                  rw [printed] at replied
                  cases replied
                  exact ⟨rfl, rfl⟩
            rw [failure] at run
            rw [run, ← shown, after.1, after.2]
            rfl
          · obtain ⟨same, again, reads⟩ := replies command
            cases replied.symm.trans again
            rw [parses, reads more]
            rfl

end Replies

/-! ### Each call -/

section Calls

variable {Db : Type} (host : Host Db) (strptime : Bytes → Int)

/-- What a call that counts changes returns fits where it is printed. -/
def Call.Counted (allowed : Action → Bool) (call : Call) (db : Db) : Prop :=
  ∀ changes grant next,
    call.run host allowed db = .ok (.ok (.changes changes), grant, next) → IntRange changes

/-- Rows that are printed in whole lines, or a count that is an `int`. -/
def Call.Printable (allowed : Action → Bool) (call : Call) (db : Db) : Prop :=
  match call with
  | .songs form expr => (songExchange host strptime form).Sound host allowed expr db
  | .albums form expr => (albumExchange host form).Sound host allowed expr db
  | .artists form expr => (artistExchange host form).Sound host allowed expr db
  | .genres form expr => (genreExchange host form).Sound host allowed expr db
  | _ => call.Counted host allowed db

/-- What a call of a client with these permissions returns fits where it is printed, an error in
one line. -/
structure Call.Sound (perm : Nat) (call : Call) (db : Db) : Prop where
  printable : call.Printable host strptime (commandAuthorizer perm) db
  errors : ∀ error grant next, call.perform host perm db = .ok (.error error, grant, next) →
    Text error.message

/-- The handler of the call replies what the call returns in the daemon. -/
def Call.Answers (perm : Nat) (call : Call) (db : Db) : Prop :=
  ∃ replier, Replies (call.handler host strptime) replier ∧
    (∀ reply, replier (commandAuthorizer perm) (call.request.command :: call.request.args) db
        = .ok reply → call.Passes strptime host (commandAuthorizer perm) db reply) ∧
    ∀ result, call.run host (commandAuthorizer perm) db = .ok result → ∃ reply,
      replier (commandAuthorizer perm) (call.request.command :: call.request.args) db = .ok reply

variable {host strptime}

theorem Call.listing_answers {α β : Type} (call : Call) (exchange : Exchange Db β)
    (trips : exchange.RoundTrips host) (lines : α → Except Fault (List Bytes)) (read : Columns → α)
    (item : α → β) (answer : List β → Answer) (perm : Nat) (expr : Bytes) (db : Db)
    (texts : call.ErrorTexts host (commandAuthorizer perm) db) (args : call.request.args = [expr])
    (handler : call.handler host strptime = exchange.handler)
    (handled : exchange.handler = handleSelect lines fun allowed expr db =>
      dbListExpr host.sqlite allowed exchange.what exchange.tbl read expr db)
    (rows : ∀ row, exchange.row row = item (read row))
    (parses : ∀ changes conn, call.parse strptime changes conn
      = callerSees answer (exchange.parse conn []))
    (run : call.run host (commandAuthorizer perm) db = performedList answer item
      (dbListExpr host.sqlite (commandAuthorizer perm) exchange.what exchange.tbl read expr db))
    (sound : exchange.Sound host (commandAuthorizer perm) expr db) :
    call.Answers host strptime perm db := by
  obtain ⟨reply, replied, passes⟩ := call.passes_listing strptime exchange trips lines read item
    answer perm call.request.command expr db texts handled rows parses run sound
  rw [← args] at replied
  refine ⟨Listing.reply host.sqlite ⟨exchange.what, exchange.tbl, fun row => lines (read row)⟩, ?_,
    fun other again => ?_, fun result ran => ⟨reply, replied⟩⟩
  · rw [handler, handled]
    exact handleSelect_replies host.sqlite _ _ read lines
  · cases replied.symm.trans again
    exact passes

theorem songs_answer (inverse : TimeInverse host.strftime strptime) (form : Form) (expr : Bytes)
    (perm : Nat) (db : Db)
    (texts : (Call.songs form expr).ErrorTexts host (commandAuthorizer perm) db)
    (sound : (Call.songs form expr).Printable host strptime (commandAuthorizer perm) db) :
    (Call.songs form expr).Answers host strptime perm db := by
  have trips := songs_roundTrip inverse (songExchange host strptime form) (List.get_mem _ _)
  cases form with
  | list | listinfo | listtags =>
      exact Call.listing_answers _ _ trips _ _ songOf .songs perm expr db texts rfl rfl rfl
        (fun _ => rfl) (fun _ _ => rfl) rfl sound

theorem albums_answer (form : Form) (expr : Bytes) (perm : Nat) (db : Db)
    (texts : (Call.albums form expr).ErrorTexts host (commandAuthorizer perm) db)
    (sound : (Call.albums form expr).Printable host strptime (commandAuthorizer perm) db) :
    (Call.albums form expr).Answers host strptime perm db := by
  have trips := albums_roundTrip (albumExchange host form) (List.get_mem _ _)
  cases form with
  | list | listinfo | listtags =>
      exact Call.listing_answers _ _ trips _ _ entityOf .entities perm expr db texts rfl rfl rfl
        (fun _ => rfl) (fun _ _ => rfl) rfl sound

theorem artists_answer (form : Form) (expr : Bytes) (perm : Nat) (db : Db)
    (texts : (Call.artists form expr).ErrorTexts host (commandAuthorizer perm) db)
    (sound : (Call.artists form expr).Printable host strptime (commandAuthorizer perm) db) :
    (Call.artists form expr).Answers host strptime perm db := by
  have trips := artists_roundTrip (artistExchange host form) (List.get_mem _ _)
  cases form with
  | list | listinfo | listtags =>
      exact Call.listing_answers _ _ trips _ _ entityOf .entities perm expr db texts rfl rfl rfl
        (fun _ => rfl) (fun _ _ => rfl) rfl sound

theorem genres_answer (form : Form) (expr : Bytes) (perm : Nat) (db : Db)
    (texts : (Call.genres form expr).ErrorTexts host (commandAuthorizer perm) db)
    (sound : (Call.genres form expr).Printable host strptime (commandAuthorizer perm) db) :
    (Call.genres form expr).Answers host strptime perm db := by
  have trips := genres_roundTrip (genreExchange host form) (List.get_mem _ _)
  cases form with
  | list | listinfo | listtags =>
      exact Call.listing_answers _ _ trips _ _ entityOf .entities perm expr db texts rfl rfl rfl
        (fun _ => rfl) (fun _ _ => rfl) rfl sound

theorem ofResult_changes (result : Except GError Int × Db) :
    ∃ reply, Reply.ofResult changesLines result = .ok reply := by
  rcases result with ⟨error | changes, next⟩
  · exact ⟨_, rfl⟩
  · exact ⟨_, rfl⟩

theorem Call.flag_answers (call : Call) (counts : call.CountsChanges strptime) (perm : Nat)
    (expr flag : Bytes) (on : Bool) (db : Db) (args : call.request.args = [expr])
    (named : decide (call.request.command = flag) = on)
    (update : (Action → Bool) → Bytes → Bool → Db → Except GError Int × Db)
    (handler : call.handler host strptime = handleFlag flag update)
    (run : call.run host (commandAuthorizer perm) db
      = performedChanges (.ok (update (commandAuthorizer perm) expr on db)))
    (texts : call.ErrorTexts host (commandAuthorizer perm) db)
    (sendable : ∀ error, (update (commandAuthorizer perm) expr on db).1 = .error error →
      Text error.message → Sendable error)
    (counted : call.Counted host (commandAuthorizer perm) db) :
    call.Answers host strptime perm db := by
  refine ⟨flagReply flag update, handler ▸ handleFlag_replies flag update, fun reply replied => ?_,
    fun result ran => ?_⟩
  · rw [args, flagReply, named] at replied
    refine call.passes_changes strptime counts _ db _ run texts sendable (fun changes done => ?_)
      reply replied
    generalize update (commandAuthorizer perm) expr on db = result at run done
    rcases result with ⟨outcome, next⟩
    cases done
    exact counted changes 0 next run
  · rw [args, flagReply]
    exact ofResult_changes _

theorem Call.number_answers (call : Call) (counts : call.CountsChanges strptime) (perm : Nat)
    (expr text : Bytes) (db : Db) (args : call.request.args = [expr, text])
    (check : Bytes → Except Bytes Int)
    (update : (Action → Bool) → Bytes → Int → Db → Except Fault (Except GError Int × Db))
    (replies : Replies (call.handler host strptime) (numberReply check update))
    (run : call.run host (commandAuthorizer perm) db = performedNumber (check text) db fun value =>
      update (commandAuthorizer perm) expr value db)
    (checked : ∀ message, check text = .error message → Sendable ⟨ackErrorArg, message⟩)
    (texts : call.ErrorTexts host (commandAuthorizer perm) db)
    (sendable : ∀ value error next,
      update (commandAuthorizer perm) expr value db = .ok (.error error, next) →
        Text error.message → Sendable error)
    (counted : call.Counted host (commandAuthorizer perm) db) :
    call.Answers host strptime perm db := by
  refine ⟨numberReply check update, replies, fun reply replied => ?_, fun result ran => ?_⟩
  · rw [args] at replied
    exact call.passes_number strptime counts _ db check _ expr text update run checked texts sendable
      counted reply replied
  · rw [args, numberReply]
    cases given : check text with
    | error message => exact ⟨_, rfl⟩
    | ok value =>
        rw [given] at run
        dsimp only [performedNumber] at run ⊢
        cases updated : update (commandAuthorizer perm) expr value db with
        | error fault =>
            rw [updated] at run
            cases run.symm.trans ran
        | ok outcome => exact ofResult_changes outcome

theorem Call.tag_answers (call : Call) (counts : call.CountsChanges strptime) (perm : Nat)
    (expr tag : Bytes) (db : Db) (args : call.request.args = [expr, tag])
    (update : (Action → Bool) → Bytes → Bytes → Db → Except Fault (Except GError Int × Db))
    (handler : call.handler host strptime = handleTag update)
    (run : call.run host (commandAuthorizer perm) db
      = performedChanges (update (commandAuthorizer perm) expr tag db))
    (texts : call.ErrorTexts host (commandAuthorizer perm) db)
    (sendable : ∀ error next,
      update (commandAuthorizer perm) expr tag db = .ok (.error error, next) →
        Text error.message → Sendable error)
    (counted : call.Counted host (commandAuthorizer perm) db) :
    call.Answers host strptime perm db := by
  refine ⟨tagReply update, handler ▸ handleTag_replies update, fun reply replied => ?_,
    fun result ran => ?_⟩
  · rw [args, tagReply] at replied
    cases updated : update (commandAuthorizer perm) expr tag db with
    | error fault =>
        rw [updated] at replied
        cases replied
    | ok result =>
        rw [updated] at replied run
        rcases result with ⟨outcome, next⟩
        refine call.passes_changes strptime counts _ db (outcome, next) run texts
          (fun error failed => ?_) (fun changes done => ?_) reply replied
        · cases failed
          exact sendable error next updated
        · cases done
          exact counted changes 0 next run
  · rw [args, tagReply]
    cases updated : update (commandAuthorizer perm) expr tag db with
    | error fault =>
        rw [updated] at run
        cases run.symm.trans ran
    | ok outcome => exact ofResult_changes outcome

theorem password_answers (secret : Bytes) (perm : Nat) (db : Db) :
    (Call.password secret).Answers host strptime perm db := by
  have args : (Call.password secret).request.command :: (Call.password secret).request.args
      = [lit "password", secret] := rfl
  refine ⟨passwordReply host, handlePassword_replies host, ?_, fun result ran => ?_⟩
  · intro reply replied
    rw [args, passwordReply] at replied
    by_cases known : (host.passwords.lookup secret).getD 0 ≠ 0
    · rw [if_pos known] at replied
      cases replied
      refine ⟨.ok .authenticated, if_pos known, fun command isText changes more => ?_⟩
      have plain : ∀ line ∈ [lit "OK"], newline ∉ line := by decide
      have read := streamLines_sent [lit "OK"] more plain
      dsimp only [Reply.finalLine, List.nil_append]
      rw [read]
      rfl
    · rw [if_neg known] at replied
      cases replied
      exact Call.passes_error strptime _ _ ⟨ackErrorPassword, lit "Invalid password"⟩ db db
        (if_neg known) (Opens.sendable_whole (by decide) _ ⟨by decide, by decide⟩)
  · rw [args, passwordReply]
    split
    · exact ⟨_, rfl⟩
    · exact ⟨_, rfl⟩

/-- Every call of the client is answered with what it returns in the daemon. -/
theorem Call.answers (inverse : TimeInverse host.strftime strptime) (call : Call)
    (plain : call.Plain) (perm : Nat) (db : Db)
    (texts : call.ErrorTexts host (commandAuthorizer perm) db)
    (printable : call.Printable host strptime (commandAuthorizer perm) db) :
    call.Answers host strptime perm db := by
  have update (tbl : Table) (stmt expr : Bytes) (error : GError) (next : Db)
      (failed : (Except.ok (dbUpdateExpr host.sqlite (commandAuthorizer perm) tbl stmt expr db) :
        Except Fault _) = .ok (.error error, next)) (text : Text error.message) : Sendable error :=
    dbUpdateExpr_sendable _ _ tbl stmt expr db error (congrArg Prod.fst (Except.ok.inj failed)) text
  cases call with
  | password secret => exact password_answers secret perm db
  | songs form expr => exact songs_answer inverse form expr perm db texts printable
  | albums form expr => exact albums_answer form expr perm db texts printable
  | artists form expr => exact artists_answer form expr perm db texts printable
  | genres form expr => exact genres_answer form expr perm db texts printable
  | love tbl on expr | kill tbl on expr =>
      have sendable := dbUpdateExpr_sendable host.sqlite (commandAuthorizer perm) tbl
      cases tbl <;> cases on <;>
        exact Call.flag_answers _ (fun _ _ => rfl) perm expr _ _ db rfl rfl _ rfl rfl texts
          (sendable _ expr db) printable
  | rate tbl expr text | rateAbsolute tbl expr text | count tbl expr text =>
      cases tbl <;>
        exact Call.number_answers _ (fun _ _ => rfl) perm expr text db rfl numberArg _
          (handleNumber_replies _) rfl (numberArg_sendable text) texts
          (fun value => update _ _ expr) printable
  | karma expr text =>
      refine Call.number_answers _ (fun _ _ => rfl) perm expr text db rfl karmaArg _
        (handleKarma_replies host) rfl (karmaArg_sendable text) texts
        (fun value error next failed => ?_) printable
      rw [dbKarmaSongExpr] at failed
      split at failed
      · exact update _ _ expr error next failed
      · cases failed
  | addtag tbl expr tag =>
      have line : Text tag := by
        refine plain tag ?_
        cases tbl <;> exact List.mem_of_getElem? (i := 1) rfl
      have sendable (error : GError) (next : Db)
          (failed : (Except.ok (dbAddTagExpr host.sqlite (commandAuthorizer perm) tbl expr tag db) :
            Except Fault _) = .ok (.error error, next)) : Text error.message → Sendable error :=
        dbAddTagExpr_sendable _ _ tbl expr tag line db error
          (congrArg Prod.fst (Except.ok.inj failed))
      exact Call.tag_answers _ (fun _ _ => rfl) perm expr tag db (by cases tbl <;> rfl)
        (fun allowed expr tag db => .ok (dbAddTagExpr host.sqlite allowed tbl expr tag db))
        (by cases tbl <;> rfl) rfl texts sendable printable
  | rmtag tbl expr tag =>
      have line : Text tag := by
        refine plain tag ?_
        cases tbl <;> exact List.mem_of_getElem? (i := 1) rfl
      cases tbl <;>
        exact Call.tag_answers _ (fun _ _ => rfl) perm expr tag db rfl _ rfl rfl texts
          (fun error next => dbRemoveTagExpr_sendable _ _ _ _ expr tag line db next error) printable

/-! ### One line -/

theorem misplaced_unknown (name : Bytes) (late : name ∈ misplaced) :
    commandLookup host name = none := by
  rw [commandLookup_eq, if_pos late]

theorem Call.entry_looked (call : Call) (inOrder : call.request.command ∉ misplaced) :
    commandLookup host call.request.command = some (call.entry host strptime) := by
  have listed := List.mem_of_getElem? (call.entry_at host strptime)
  have looked := commandLookup_entry host (call.entry host strptime) listed
  rwa [if_neg (by exact inOrder)] at looked

/-- No handler runs: what `command_checked_lookup` has answered is all. -/
theorem processRequest_unlooked (authorizes : Authorizes host) (client : Nat) (argv : List Bytes)
    (error : GError) (command : Bytes) (st : State Db)
    (looked : commandCheckedLookup host client (st.perm client) argv
        { st with authorizer := some client }
      = .ok (none, (Reply.ofError error st.db).after client command
          { st with authorizer := some client })) :
    processRequest host client argv st
      = .ok ((Reply.ofError error st.db).returned client command none st) := by
  rw [processRequest, authorizes.set, authorizes.set]
  dsimp only at looked ⊢
  rw [looked]
  dsimp only [bind, Except.bind, runHandler]
  rw [authorizes.set]
  rfl

theorem commandCheckedLookup_denied (client perm : Nat) (name : Bytes) (args : List Bytes)
    (entry : Command Db) (found : commandLookup host name = some entry)
    (denied : entry.permission ≠ perm &&& entry.permission) (st : State Db) :
    commandCheckedLookup host client perm (name :: args) st
      = .ok (none, (Reply.ofError (permissionDenied entry.cmd) st.db).after client entry.cmd st) := by
  let current : State Db := { st with currentCommand := some entry.cmd }
  have answered : commandError client ackErrorPermission
      (lit "you don't have permission for \"" ++ entry.cmd ++ lit "\"") current
      = .ok ((Reply.ofError (permissionDenied entry.cmd) st.db).after client entry.cmd current) :=
    commandError_eq client (permissionDenied entry.cmd) current entry.cmd st.db rfl
  have refused : commandCheckRequest entry client perm (name :: args) current
      = .ok (false, (Reply.ofError (permissionDenied entry.cmd) st.db).after client entry.cmd st) := by
    rw [commandCheckRequest, if_pos denied, answered]
    rfl
  rw [commandCheckedLookup, found]
  dsimp only
  rw [refused]
  rfl

/-- What one line of a client does: the call, seen from the daemon and from the client. -/
structure Call.Served (host : Host Db) (strptime : Bytes → Int) (call : Call) (client : Nat)
    (st after : State Db) (result : Except GError Answer) (grant : Nat) (lines : List Bytes) :
    Prop where
  performed : call.perform host (st.perm client) st.db = .ok (result, grant, after.db)
  perm : after.perm = Function.update st.perm client (st.perm client ||| grant)
  output : after.output = Function.update st.output client (st.output client ++ sent lines)
  reads : call.Reads strptime (sent lines) result

theorem commandNames_text : ∀ name ∈ commandNames, ∀ ch ∈ name,
    isAlpha ch = true ∨ isDigit ch = true ∨ ch = 95 := by
  decide +kernel

/-- Any daemon has the command of a call in its table. -/
theorem Call.command_text (host : Host Db) (call : Call) :
    IsCommandText call.request.command := by
  have listed := List.mem_of_getElem? (call.entry_at host (fun _ => 0))
  have named : (call.entry host (fun _ => 0)).cmd ∈ commandNames := by
    rw [← commands_names host]
    exact List.mem_map_of_mem listed
  exact commandNames_text _ named

/-- The errors in front of a call are single lines. -/
theorem Call.perform_texts (host : Host Db) (call : Call) (perm : Nat) (db next : Db)
    (texts : call.permission = perm &&& call.permission →
      call.ErrorTexts host (commandAuthorizer perm) db)
    (error : GError) (grant : Nat)
    (performed : call.perform host perm db = .ok (.error error, grant, next)) :
    Text error.message := by
  have isText := call.command_text host
  have text : Text call.request.command :=
    ⟨isText.notMem _ newline (by decide), isText.notMem _ 0 (by decide)⟩
  rw [Call.perform] at performed
  by_cases late : misplaced.contains call.request.command = true
  · rw [if_pos late] at performed
    cases performed
    exact (unknownCommand_sendable _ text).text
  · rw [if_neg late] at performed
    by_cases permitted : call.permission = perm &&& call.permission
    · rw [if_neg (not_not_intro permitted)] at performed
      exact texts permitted error grant next performed
    · rw [if_pos permitted] at performed
      cases performed
      exact (permissionDenied_sendable _ text).text

theorem password_sound (host : Host Db) (strptime : Bytes → Int) (secret : Bytes) (perm : Nat)
    (db : Db) : (Call.password secret).Sound host strptime perm db where
  printable := by
    intro changes grant next ran
    rw [Call.run] at ran
    split at ran
    · cases ran
    · cases ran
  errors error grant next := by
    refine Call.perform_texts host _ perm db next (fun _ error grant next ran => ?_) error grant
    rw [Call.run] at ran
    split at ran
    · cases ran
    · cases ran
      decide

theorem Call.line_text (host : Host Db) (call : Call) (plain : call.Plain) :
    Text call.request.line := by
  have listed := List.mem_of_getElem? (call.entry_at host (fun _ => 0))
  have word := request_word host _ listed call.request rfl
  have oneLine := request_keeps newline (by decide) (by decide) (by decide) (by decide) _ _ word
    fun arg given => (plain arg given).1
  have noNul := request_keeps 0 (by decide) (by decide) (by decide) (by decide) _ _ word
    fun arg given => (plain arg given).2
  exact ⟨oneLine, noNul⟩

/-- The daemon cuts the line into the command and its arguments. -/
theorem Call.processed (call : Call) (plain : call.Plain) (client : Nat) (st : State Db) :
    commandProcess host client call.request.line st
      = processRequest host client (call.request.command :: call.request.args)
          { st with currentCommand := some call.request.command } := by
  have listed := List.mem_of_getElem? (call.entry_at host (fun _ => 0))
  rw [commandProcess_eq host client _ st (call.line_text host plain).2,
    readRequest_client host _ listed call.request rfl rfl]
  rfl

section Lines

variable (authorizes : Authorizes host) (inverse : TimeInverse host.strftime strptime) (call : Call)
variable (plain : call.Plain) (client : Nat) (st : State Db)
variable (sound : call.Sound host strptime (st.perm client) st.db)

include authorizes inverse plain sound

/-- A line of a call: what the daemon does with it if the call returns. -/
theorem Call.line_cases :
    (∃ result after ret, commandProcess host client call.request.line st = .ok (ret, after) ∧
      ∃ grant lines, call.Served host strptime client st after result grant lines) ∨
    ∃ fault, commandProcess host client call.request.line st = .error fault ∧
      ∀ result, call.perform host (st.perm client) st.db ≠ .ok result := by
  have isText := call.command_text host
  have text : Text call.request.command :=
    ⟨isText.notMem _ newline (by decide), isText.notMem _ 0 (by decide)⟩
  let current : State Db := { st with currentCommand := some call.request.command }
  rw [call.processed plain client st]
  by_cases late : call.request.command ∈ misplaced
  · have unknown : commandLookup host call.request.command = none := misplaced_unknown _ late
    have looked := commandCheckedLookup_unknown client (st.perm client) call.request.command
      call.request.args { current with authorizer := some client } unknown
    rw [processRequest_unlooked authorizes client _ _ [] current looked]
    have empty : IsCommandText [] := List.forall_mem_nil _
    exact Or.inl ⟨_, _, _, rfl, 0, _, if_pos (List.contains_iff_mem.mpr late), rfl, rfl,
      call.reads_error strptime [] empty _ (unknownCommand_sendable _ text)⟩
  · have looked : commandLookup host call.request.command = some (call.entry host strptime) :=
      call.entry_looked late
    have notListed : ¬misplaced.contains call.request.command := by
      rwa [List.contains_iff_mem]
    by_cases permitted : call.permission = st.perm client &&& call.permission
    · have performs : call.perform host (st.perm client) st.db
          = call.run host (commandAuthorizer (st.perm client)) st.db := by
        rw [Call.perform, if_neg notListed, if_neg (not_not_intro permitted)]
      obtain ⟨replier, replies, passes, returns⟩ := call.answers inverse plain (st.perm client) st.db
        (fun error grant next ran => sound.errors error grant next (performs.trans ran))
        sound.printable
      have accepted : Accepted host (st.perm client) (call.request.command :: call.request.args)
          (call.entry host strptime) := ⟨looked, permitted, rfl⟩
      rw [processRequest_accepted authorizes client _ current (List.cons_ne_nil _ _)
        (call.entry host strptime) accepted replier replies]
      have given : replier (commandAuthorizer (current.perm client))
          (call.request.command :: call.request.args) current.db
        = replier (commandAuthorizer (st.perm client))
          (call.request.command :: call.request.args) st.db := rfl
      rw [given]
      cases replied : replier (commandAuthorizer (st.perm client))
          (call.request.command :: call.request.args) st.db with
      | error fault =>
          refine Or.inr ⟨fault, rfl, fun result performed => ?_⟩
          obtain ⟨reply, again⟩ := returns result (performs.symm.trans performed)
          cases replied.symm.trans again
      | ok reply =>
          obtain ⟨result, run, reads⟩ := passes reply replied
          exact Or.inl ⟨result, _, _, rfl, reply.grant, _, performs.trans run, rfl, rfl,
            reads _ isText⟩
    · have denied := commandCheckedLookup_denied client (st.perm client) _ call.request.args
        (call.entry host strptime) looked permitted { current with authorizer := some client }
      rw [processRequest_unlooked authorizes client _ _ _ current denied]
      refine Or.inl ⟨_, _, _, rfl, 0, _, ?_, rfl, rfl,
        call.reads_error strptime _ isText _ (permissionDenied_sendable _ text)⟩
      rw [Call.perform, if_neg notListed, if_pos permitted]
      rfl

theorem Call.served (after : State Db) (ret : CommandReturn)
    (processed : commandProcess host client call.request.line st = .ok (ret, after)) :
    ∃ result grant lines, call.Served host strptime client st after result grant lines := by
  obtain ⟨result, last, answer, again, grant, lines, served⟩ | ⟨fault, stopped, -⟩ :=
    call.line_cases authorizes inverse plain client st sound
  · cases processed.symm.trans again
    exact ⟨result, grant, lines, served⟩
  · cases processed.symm.trans stopped

/-- The line of a call that returns is answered. -/
theorem Call.returns (result : Except GError Answer) (grant : Nat) (next : Db)
    (performed : call.perform host (st.perm client) st.db = .ok (result, grant, next)) :
    ∃ after ret lines, commandProcess host client call.request.line st = .ok (ret, after) ∧
      call.Served host strptime client st after result grant lines ∧ after.db = next := by
  obtain ⟨other, after, ret, processed, granted, lines, served⟩ | ⟨fault, -, never⟩ :=
    call.line_cases authorizes inverse plain client st sound
  · cases performed.symm.trans served.performed
    exact ⟨after, ret, lines, processed, served, rfl⟩
  · exact absurd performed (never _)

end Lines

end Calls

end Mpdcron.Eugene
