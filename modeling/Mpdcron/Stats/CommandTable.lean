import Mpdcron.Lib.Decimal
import Mpdcron.Stats.Reply

/-! The entries of `commands` by what they do: the listings, the removals of a tag, the
other updates, and `password`. -/

namespace Mpdcron.Stats

open CString

section Kinds

variable {Db : Type}

/-- The messages of SQLite are single lines. -/
structure QuietErrors (sqlite : Sqlite Db) : Prop where
  prepare : ∀ allowed sql db errmsg, sqlite.prepare allowed sql db = .error errmsg →
    newline ∉ errmsg
  step : ∀ allowed sql db execution errmsg, sqlite.prepare allowed sql db = .ok execution →
    execution.failure = some errmsg → newline ∉ errmsg

/-- The reply to an update: the number of changes, or an error in one line. -/
def Reply.Plain (reply : Reply Db) : Prop :=
  (reply.error = none ∧ ∃ changes, reply.lines = [lit "changes: " ++ decimal changes]) ∨
    ∃ error, reply.error = some error ∧ reply.lines = [] ∧ newline ∉ error.message

/-- An update with `arity` arguments always replies, and grants nothing. -/
structure AnswersChanges (host : Host Db) (arity : Nat) (replier : Replier Db) : Prop where
  noGrant : ∀ allowed argv db reply, replier allowed argv db = .ok reply → reply.grant = 0
  answers : QuietErrors host.sqlite → ∀ allowed argv db, argv.length = arity + 1 →
    (∀ word ∈ argv, newline ∉ word) → ∃ reply, replier allowed argv db = .ok reply ∧ reply.Plain

variable (host : Host Db)

def listings : List (Bytes × Listing) :=
  [(lit "list", ⟨lit "id, uri", .song, fun row => .ok (songLines (readListSong row))⟩),
    (lit "list_album",
      ⟨lit "id, name, artist", .album, fun row => .ok (albumLines (readListAlbum row))⟩),
    (lit "list_artist",
      ⟨lit "id, name", .artist, fun row => .ok (genericLines "Artist" (readListGeneric row))⟩),
    (lit "list_genre",
      ⟨lit "id, name", .genre, fun row => .ok (genericLines "Genre" (readListGeneric row))⟩),
    (lit "listinfo",
      ⟨lit "id, play_count, love, kill, rating, karma, last_played, uri", .song, fun row => do
        return songLines (readListinfoSong row) ++ songCountLines (readListinfoSong row)
          ++ (← lastPlayedLines host.strftime (readListinfoSong row).lastPlayed)⟩),
    (lit "listinfo_album",
      ⟨lit "id, play_count, name, artist, love, kill, rating", .album, fun row =>
        .ok (albumLines (readListinfoAlbum row) ++ countLines (readListinfoAlbum row))⟩),
    (lit "listinfo_artist",
      ⟨lit "id, play_count, name, love, kill, rating", .artist, fun row =>
        .ok (genericLines "Artist" (readListinfoGeneric row) ++ countLines (readListinfoGeneric row))⟩),
    (lit "listinfo_genre",
      ⟨lit "id, play_count, name, love, kill, rating", .genre, fun row =>
        .ok (genericLines "Genre" (readListinfoGeneric row) ++ countLines (readListinfoGeneric row))⟩),
    (lit "listtags",
      ⟨lit "id, uri, tags", .song, fun row => do
        return songLines (readTagsSong row) ++ (← tagLines (readTagsSong row).tags)⟩),
    (lit "listtags_album",
      ⟨lit "id, name, artist, tags", .album, fun row => do
        return albumLines (readTagsAlbum row) ++ (← tagLines (readTagsAlbum row).tags)⟩),
    (lit "listtags_artist",
      ⟨lit "id, name, tags", .artist, fun row => do
        return genericLines "Artist" (readTagsGeneric row) ++ (← tagLines (readTagsGeneric row).tags)⟩),
    (lit "listtags_genre",
      ⟨lit "id, name, tags", .genre, fun row => do
        return genericLines "Genre" (readTagsGeneric row) ++ (← tagLines (readTagsGeneric row).tags)⟩)]

/-- The removals of a tag: the command, its table and what follows the literal in the
statement. -/
def removals : List (Bytes × Table × Bytes) :=
  [(lit "rmtag", .song, []), (lit "rmtag_album", .album, lit "'"),
    (lit "rmtag_artist", .artist, []), (lit "rmtag_genre", .genre, [])]

def removalReply (tbl : Table) (suffix : Bytes) : Replier Db :=
  tagReply fun allowed expr tag db => dbRemoveTagExpr host.sqlite allowed tbl suffix expr tag db

def listingNames : List Bytes :=
  [lit "list", lit "list_album", lit "list_artist", lit "list_genre", lit "listinfo",
    lit "listinfo_album", lit "listinfo_artist", lit "listinfo_genre", lit "listtags",
    lit "listtags_album", lit "listtags_artist", lit "listtags_genre"]

theorem listings_names : (listings host).map Prod.fst = listingNames := rfl

theorem listing_named (cmd : Bytes) (listing : Listing) (listed : (cmd, listing) ∈ listings host) :
    cmd ∈ listingNames :=
  listings_names host ▸ List.mem_map_of_mem listed

theorem removal_named (cmd : Bytes) (tbl : Table) (suffix : Bytes)
    (listed : (cmd, tbl, suffix) ∈ removals) : cmd ∈ removals.map Prod.fst :=
  List.mem_map_of_mem listed

/-- The commands that are neither a listing, a removal nor `password`. -/
def IsUpdate (cmd : Bytes) : Prop :=
  cmd ∉ listingNames ∧ cmd ∉ removals.map Prod.fst ∧ cmd ≠ lit "password"

instance (cmd : Bytes) : Decidable (IsUpdate cmd) := instDecidableAnd

/-- An entry of `commands` and what its handler replies. -/
inductive CommandKind : Command Db → Replier Db → Prop where
  | listing (cmd : Bytes) (listing : Listing) (handler : Handler Db)
      (listed : (cmd, listing) ∈ listings host)
      (replies : Replies handler (listing.reply host.sqlite)) :
      CommandKind ⟨cmd, permissionSelect, 1, 1, handler⟩ (listing.reply host.sqlite)
  | removal (cmd : Bytes) (tbl : Table) (suffix : Bytes) (handler : Handler Db)
      (listed : (cmd, tbl, suffix) ∈ removals)
      (replies : Replies handler (removalReply host tbl suffix)) :
      CommandKind ⟨cmd, permissionUpdate, 2, 2, handler⟩ (removalReply host tbl suffix)
  | update (cmd : Bytes) (arity : Nat) (handler : Handler Db) (replier : Replier Db)
      (other : IsUpdate cmd) (replies : Replies handler replier)
      (answers : AnswersChanges host arity replier) :
      CommandKind ⟨cmd, permissionUpdate, arity, arity, handler⟩ replier
  | password : CommandKind ⟨lit "password", permissionNone, 1, 1, handlePassword host⟩
      (passwordReply host)

variable {host}

theorem CommandKind.replies (entry : Command Db) (replier : Replier Db)
    (kind : CommandKind host entry replier) : Replies entry.handler replier := by
  cases kind with
  | listing cmd listing handler listed replies => exact replies
  | removal cmd tbl suffix handler listed replies => exact replies
  | update cmd arity handler replier other replies => exact replies
  | password => exact handlePassword_replies host

theorem CommandKind.arity (entry : Command Db) (replier : Replier Db)
    (kind : CommandKind host entry replier) :
    ∃ arity : Nat, entry.min = arity ∧ entry.max = arity := by
  cases kind with
  | listing => exact ⟨1, rfl, rfl⟩
  | removal => exact ⟨2, rfl, rfl⟩
  | update cmd arity => exact ⟨arity, rfl, rfl⟩
  | password => exact ⟨1, rfl, rfl⟩

theorem changes_plain (result : Except GError Int × Db)
    (quiet : ∀ error, result.1 = .error error → newline ∉ error.message) :
    ∃ reply, Reply.ofResult changesLines result = .ok reply ∧ reply.Plain := by
  rcases result with ⟨value, db⟩
  cases value with
  | ok changes => exact ⟨_, rfl, Or.inl ⟨rfl, changes, rfl⟩⟩
  | error error => exact ⟨_, rfl, Or.inr ⟨error, rfl, rfl, quiet error rfl⟩⟩

theorem changes_noGrant (result : Except GError Int × Db) (reply : Reply Db)
    (replied : Reply.ofResult changesLines result = .ok reply) : reply.grant = 0 := by
  rcases result with ⟨value, db⟩
  cases value <;> cases replied <;> rfl

theorem prefixed_quiet (text : String) (errmsg : Bytes) (fixed : newline ∉ lit text)
    (quiet : newline ∉ errmsg) : newline ∉ lit text ++ errmsg := by
  simp [fixed, quiet]

theorem dbStep_failure (execution : Execution Db) (errmsg : Bytes)
    (failed : (dbStep execution).1 = .failed errmsg) : execution.failure = some errmsg := by
  induction execution with
  | done db => cases failed
  | failed message db =>
      cases failed
      rfl
  | row columns db next => cases failed
  | busy next ih => exact ih failed

theorem sqlUpdateEntry_quiet (sqlite : Sqlite Db) (quiet : QuietErrors sqlite)
    (allowed : Action → Bool) (tbl : Table) (stmt expr : Bytes) (db : Db) (error : GError)
    (failed : (sqlUpdateEntry sqlite allowed tbl stmt expr db).1 = .error error) :
    newline ∉ error.message := by
  rw [sqlUpdateEntry] at failed
  cases prepared : sqlite.prepare allowed (lit "update " ++ tbl.name ++ lit " set " ++ stmt
      ++ lit " where " ++ expr ++ lit " ;") db with
  | error errmsg =>
      rw [prepared] at failed
      cases failed
      exact prefixed_quiet _ errmsg (by decide) (quiet.prepare _ _ _ _ prepared)
  | ok execution =>
      rw [prepared] at failed
      dsimp only at failed
      cases stepped : (dbStep execution).1 with
      | done =>
          rw [stepped] at failed
          cases failed
      | row =>
          rw [stepped] at failed
          cases failed
          decide
      | failed errmsg =>
          rw [stepped] at failed
          cases failed
          have message := quiet.step _ _ _ _ errmsg prepared (dbStep_failure execution errmsg stepped)
          exact prefixed_quiet _ errmsg (by decide) message

theorem dbUpdateExpr_quiet (sqlite : Sqlite Db) (quiet : QuietErrors sqlite)
    (allowed : Action → Bool) (tbl : Table) (stmt expr : Bytes) (db : Db) (error : GError)
    (failed : (dbUpdateExpr sqlite allowed tbl stmt expr db).1 = .error error) :
    newline ∉ error.message := by
  have entry := sqlUpdateEntry_quiet sqlite quiet allowed tbl stmt expr db
  rw [dbUpdateExpr] at failed
  cases updated : sqlUpdateEntry sqlite allowed tbl stmt expr db with
  | mk outcome after =>
      rw [updated] at failed entry
      cases outcome with
      | error error' =>
          cases failed
          exact entry error rfl
      | ok done => cases failed

theorem flag_answers (host : Host Db) (flag : Bytes) (tbl : Table) (stmt : Bool → Bytes) :
    AnswersChanges host 1 (flagReply flag fun allowed expr on db =>
      dbUpdateExpr host.sqlite allowed tbl (stmt on) expr db) where
  noGrant := by
    intro allowed argv db reply replied
    match argv with
    | [name, expr] => exact changes_noGrant _ reply replied
    | [] => cases replied
    | [name] => cases replied
    | name :: expr :: more :: rest => cases replied
  answers := by
    intro quiet allowed argv db arity plain
    rcases List.length_eq_two.mp arity with ⟨name, expr, rfl⟩
    exact changes_plain _ fun error failed =>
      dbUpdateExpr_quiet host.sqlite quiet allowed tbl _ expr db error failed

theorem number_answers (host : Host Db) (check : Bytes → Except Bytes Int)
    (update : (Action → Bool) → Bytes → Int → Db → Except Fault (Except GError Int × Db))
    (stmt : Int → Bytes) (tbl : Table)
    (updates : ∀ allowed expr number value db, check number = .ok value →
      update allowed expr value db = .ok (dbUpdateExpr host.sqlite allowed tbl (stmt value) expr db))
    (checks : ∀ number message, check number = .error message → newline ∉ message) :
    AnswersChanges host 2 (numberReply check update) where
  noGrant := by
    intro allowed argv db reply replied
    match argv with
    | [name, expr, number] =>
        rw [numberReply] at replied
        cases checked : check number with
        | error message =>
            rw [checked] at replied
            cases replied
            rfl
        | ok value =>
            rw [checked] at replied
            dsimp only at replied
            rw [updates allowed expr number value db checked] at replied
            exact changes_noGrant _ reply replied
    | [] => cases replied
    | [name] => cases replied
    | [name, expr] => cases replied
    | name :: expr :: number :: more :: rest => cases replied
  answers := by
    intro quiet allowed argv db arity plain
    rcases List.length_eq_three.mp arity with ⟨name, expr, number, rfl⟩
    rw [numberReply]
    cases checked : check number with
    | error message =>
        exact ⟨_, rfl, Or.inr ⟨_, rfl, rfl, checks number message checked⟩⟩
    | ok value =>
        dsimp only
        rw [updates allowed expr number value db checked]
        exact changes_plain _ fun error failed =>
          dbUpdateExpr_quiet host.sqlite quiet allowed tbl _ expr db error failed

theorem numberArg_quiet (number message : Bytes) (failed : numberArg number = .error message) :
    newline ∉ message := by
  rw [numberArg] at failed
  dsimp only at failed
  split at failed
  · cases failed
    decide
  · split at failed
    · cases failed
      decide
    · split at failed
      · cases failed
        split <;> decide
      · cases failed

theorem karmaArg_quiet (number message : Bytes) (failed : karmaArg number = .error message) :
    newline ∉ message := by
  rw [karmaArg] at failed
  dsimp only at failed
  split at failed
  · cases failed
    decide
  · split at failed
    · cases failed
      decide
    · split at failed
      · cases failed
        have value := decimal_oneLine (strtol number).1
        have fixed : newline ∉ lit "Karma '" ∧
          newline ∉ lit "' should be a percentage between 0 and 100" := by decide
        simp [value, fixed]
      · cases failed

theorem karmaArg_percentage (number : Bytes) (value : Int) (accepted : karmaArg number = .ok value) :
    0 ≤ value ∧ value ≤ 100 := by
  rw [karmaArg] at accepted
  dsimp only at accepted
  split at accepted
  · cases accepted
  · split at accepted
    · cases accepted
    · split at accepted
      · cases accepted
      · cases accepted
        omega

theorem validateTag_quiet (tag : Bytes) (plain : newline ∉ tag) (error : GError)
    (failed : validateTag tag = .error error) : newline ∉ error.message := by
  rw [validateTag] at failed
  split at failed
  · cases failed
    have fixed : newline ∉ lit "Invalid tag `" ∧ newline ∉ lit "'" := by decide
    simp [fixed, plain]
  · cases failed

theorem dbAddTagExpr_quiet (sqlite : Sqlite Db) (quiet : QuietErrors sqlite)
    (allowed : Action → Bool) (tbl : Table) (expr tag : Bytes) (plain : newline ∉ tag) (db : Db)
    (error : GError) (failed : (dbAddTagExpr sqlite allowed tbl expr tag db).1 = .error error) :
    newline ∉ error.message := by
  rw [dbAddTagExpr] at failed
  cases valid : validateTag tag with
  | error error' =>
      rw [valid] at failed
      cases failed
      exact validateTag_quiet tag plain error valid
  | ok done =>
      rw [valid] at failed
      exact dbUpdateExpr_quiet sqlite quiet allowed tbl _ expr db error failed

theorem tagReply_noGrant
    (update : (Action → Bool) → Bytes → Bytes → Db → Except Fault (Except GError Int × Db))
    (allowed : Action → Bool) (argv : List Bytes) (db : Db) (reply : Reply Db)
    (replied : tagReply update allowed argv db = .ok reply) : reply.grant = 0 := by
  match argv with
  | [name, expr, tag] =>
      rw [tagReply] at replied
      cases updated : update allowed expr tag db with
      | error fault =>
          rw [updated] at replied
          cases replied
      | ok result =>
          rw [updated] at replied
          exact changes_noGrant result reply replied
  | [] => cases replied
  | [name] => cases replied
  | [name, expr] => cases replied
  | name :: expr :: tag :: more :: rest => cases replied

theorem addtag_answers (host : Host Db) (tbl : Table) :
    AnswersChanges host 2 (tagReply fun allowed expr tag db =>
      .ok (dbAddTagExpr host.sqlite allowed tbl expr tag db)) where
  noGrant := tagReply_noGrant _
  answers := by
    intro quiet allowed argv db arity plain
    rcases List.length_eq_three.mp arity with ⟨name, expr, tag, rfl⟩
    exact changes_plain _ fun error failed =>
      dbAddTagExpr_quiet host.sqlite quiet allowed tbl expr tag (plain tag (by simp)) db error failed

variable (host)

theorem flag_kind (cmd flag : Bytes) (tbl : Table) (stmt : Bool → Bytes) (other : IsUpdate cmd) :
    ∃ replier, CommandKind host ⟨cmd, permissionUpdate, 1, 1,
      handleFlag flag fun allowed expr on db =>
        dbUpdateExpr host.sqlite allowed tbl (stmt on) expr db⟩ replier :=
  ⟨_, .update cmd 1 _ _ other (handleFlag_replies flag _) (flag_answers host flag tbl stmt)⟩

theorem number_kind (cmd : Bytes) (tbl : Table) (stmt : Int → Bytes) (other : IsUpdate cmd) :
    ∃ replier, CommandKind host ⟨cmd, permissionUpdate, 2, 2,
      handleNumber fun allowed expr value db =>
        dbUpdateExpr host.sqlite allowed tbl (stmt value) expr db⟩ replier :=
  ⟨_, .update cmd 2 _ _ other (handleNumber_replies _)
    (number_answers host numberArg _ stmt tbl (fun _ _ _ _ _ _ => rfl) numberArg_quiet)⟩

theorem addtag_kind (cmd : Bytes) (tbl : Table) (other : IsUpdate cmd) :
    ∃ replier, CommandKind host ⟨cmd, permissionUpdate, 2, 2,
      handleTag fun allowed expr tag db =>
        .ok (dbAddTagExpr host.sqlite allowed tbl expr tag db)⟩ replier :=
  ⟨_, .update cmd 2 _ _ other (handleTag_replies _) (addtag_answers host tbl)⟩

theorem karma_kind :
    ∃ replier, CommandKind host ⟨lit "karma", permissionUpdate, 2, 2, handleKarma host⟩ replier := by
  refine ⟨_, .update (lit "karma") 2 _ _ (by decide) (handleKarma_replies host) ?_⟩
  refine number_answers host karmaArg _ (fun karma => lit "karma = (" ++ decimal karma ++ lit ")")
    .song (fun allowed expr number value db accepted => ?_) karmaArg_quiet
  exact if_pos (karmaArg_percentage number value accepted)

theorem listing_kind {α : Type} (cmd what : Bytes) (tbl : Table) (read : Columns → α)
    (lines : α → Except Fault (List Bytes))
    (listed : (cmd, (⟨what, tbl, fun row => lines (read row)⟩ : Listing)) ∈ listings host) :
    ∃ replier, CommandKind host ⟨cmd, permissionSelect, 1, 1,
      handleSelect lines fun allowed expr db =>
        dbListExpr host.sqlite allowed what tbl read expr db⟩ replier :=
  ⟨_, .listing cmd _ _ listed (handleSelect_replies host.sqlite what tbl read lines)⟩

theorem removal_kind (cmd : Bytes) (tbl : Table) (suffix : Bytes)
    (listed : (cmd, tbl, suffix) ∈ removals) :
    ∃ replier, CommandKind host ⟨cmd, permissionUpdate, 2, 2,
      handleTag fun allowed expr tag db =>
        dbRemoveTagExpr host.sqlite allowed tbl suffix expr tag db⟩ replier :=
  ⟨_, .removal cmd tbl suffix _ listed (handleTag_replies _)⟩

theorem commands_kind : ∀ entry ∈ commands host, ∃ replier, CommandKind host entry replier := by
  simp only [commands, List.forall_mem_cons]
  exact ⟨addtag_kind host _ _ (by decide),
    addtag_kind host _ _ (by decide),
    addtag_kind host _ _ (by decide),
    addtag_kind host _ _ (by decide),
    number_kind host _ _ _ (by decide),
    number_kind host _ _ _ (by decide),
    number_kind host _ _ _ (by decide),
    number_kind host _ _ _ (by decide),
    flag_kind host _ _ _ _ (by decide),
    flag_kind host _ _ _ _ (by decide),
    flag_kind host _ _ _ _ (by decide),
    flag_kind host _ _ _ _ (by decide),
    karma_kind host,
    flag_kind host _ _ _ _ (by decide),
    flag_kind host _ _ _ _ (by decide),
    flag_kind host _ _ _ _ (by decide),
    flag_kind host _ _ _ _ (by decide),
    listing_kind host _ _ _ _ _ (by simp [listings]),
    listing_kind host _ _ _ _ _ (by simp [listings]),
    listing_kind host _ _ _ _ _ (by simp [listings]),
    listing_kind host _ _ _ _ _ (by simp [listings]),
    listing_kind host _ _ _ _ _ (by simp [listings]),
    listing_kind host _ _ _ _ _ (by simp [listings]),
    listing_kind host _ _ _ _ _ (by simp [listings]),
    listing_kind host _ _ _ _ _ (by simp [listings]),
    listing_kind host _ _ _ _ _ (by simp [listings]),
    listing_kind host _ _ _ _ _ (by simp [listings]),
    listing_kind host _ _ _ _ _ (by simp [listings]),
    listing_kind host _ _ _ _ _ (by simp [listings]),
    flag_kind host _ _ _ _ (by decide),
    flag_kind host _ _ _ _ (by decide),
    flag_kind host _ _ _ _ (by decide),
    flag_kind host _ _ _ _ (by decide),
    ⟨_, .password⟩,
    number_kind host _ _ _ (by decide),
    number_kind host _ _ _ (by decide),
    number_kind host _ _ _ (by decide),
    number_kind host _ _ _ (by decide),
    number_kind host _ _ _ (by decide),
    number_kind host _ _ _ (by decide),
    number_kind host _ _ _ (by decide),
    number_kind host _ _ _ (by decide),
    removal_kind host _ _ _ (by decide),
    removal_kind host _ _ _ (by decide),
    removal_kind host _ _ _ (by decide),
    removal_kind host _ _ _ (by decide),
    flag_kind host _ _ _ _ (by decide),
    flag_kind host _ _ _ _ (by decide),
    flag_kind host _ _ _ _ (by decide),
    flag_kind host _ _ _ _ (by decide),
    List.forall_mem_nil _⟩

end Kinds

end Mpdcron.Stats
