import Mpdcron.Eugene.Calls
import Mpdcron.Stats.Answers

/-! Each error that the daemon answers to a call of the client is one that the client gets back
whole. -/

namespace Mpdcron.Eugene

open CString
open Mpdcron.Stats

/-- One line of text, as C knows it. -/
def Text (text : Bytes) : Prop := newline ∉ text ∧ (0 : UInt8) ∉ text

instance (text : Bytes) : Decidable (Text text) := instDecidableAnd

theorem Text.append {first second : Bytes} (one : Text first) (two : Text second) :
    Text (first ++ second) := by
  simp [Text, one.1, one.2, two.1, two.2]

theorem Text.behind {front rest : Bytes} (text : Text (front ++ rest)) : Text rest :=
  ⟨fun within => text.1 (List.mem_append_right front within),
    fun within => text.2 (List.mem_append_right front within)⟩

theorem decimal_text (value : Int) : Text (decimal value) :=
  ⟨decimal_oneLine value, decimal_noNul value⟩

/-- An error that an `ACK` line carries whole. -/
structure Sendable (error : GError) : Prop where
  range : IntRange error.code
  nonempty : error.message ≠ []
  notSpace : error.message.head? ≠ some 32
  text : Text error.message

/-- The start of a message that is fixed. -/
def Opens (front : Bytes) : Prop := front ≠ [] ∧ front.head? ≠ some 32 ∧ Text front

instance (front : Bytes) : Decidable (Opens front) := instDecidableAnd

theorem Opens.sendable {front : Bytes} (opens : Opens front) (code : Int) (range : IntRange code)
    (rest : Bytes) (text : Text rest) : Sendable ⟨code, front ++ rest⟩ where
  range := range
  nonempty := by simp [opens.1]
  notSpace := by
    rw [List.head?_append_of_ne_nil _ opens.1]
    exact opens.2.1
  text := opens.2.2.append text

theorem Opens.sendable_whole {message : Bytes} (opens : Opens message) (code : Int)
    (range : IntRange code) : Sendable ⟨code, message⟩ :=
  ⟨range, opens.1, opens.2.1, opens.2.2⟩

theorem prepareError_sendable (errmsg : Bytes) (text : Text (prepareError errmsg).message) :
    Sendable (prepareError errmsg) :=
  Opens.sendable (by decide) _ ⟨by decide, by decide⟩ errmsg text.behind

theorem stepError_sendable (errmsg : Bytes) (text : Text (stepError errmsg).message) :
    Sendable (stepError errmsg) :=
  Opens.sendable (by decide) _ ⟨by decide, by decide⟩ errmsg text.behind

theorem unknownCommand_sendable (name : Bytes) (text : Text name) :
    Sendable (unknownCommand name) := by
  have rest : Text (name ++ lit "\"") := text.append (by decide)
  have opens : Opens (lit "unknown command \"") := by decide
  have sendable := opens.sendable ackErrorUnknown ⟨by decide, by decide⟩ _ rest
  rwa [← List.append_assoc] at sendable

theorem permissionDenied_sendable (name : Bytes) (text : Text name) :
    Sendable (permissionDenied name) := by
  have rest : Text (name ++ lit "\"") := text.append (by decide)
  have opens : Opens (lit "you don't have permission for \"") := by decide
  have sendable := opens.sendable ackErrorPermission ⟨by decide, by decide⟩ _ rest
  rwa [← List.append_assoc] at sendable

/-- The messages of `numberArg` are constants. -/
theorem numberArg_sendable (number message : Bytes) (failed : numberArg number = .error message) :
    Sendable ⟨ackErrorArg, message⟩ := by
  rw [numberArg] at failed
  dsimp only at failed
  have range : IntRange ackErrorArg := ⟨by decide, by decide⟩
  split at failed
  · cases failed
    exact Opens.sendable_whole (by decide) _ range
  · split at failed
    · cases failed
      exact Opens.sendable_whole (by decide) _ range
    · split at failed
      · cases failed
        split
        · exact Opens.sendable_whole (by decide) _ range
        · exact Opens.sendable_whole (by decide) _ range
      · cases failed

theorem karmaArg_sendable (number message : Bytes) (failed : karmaArg number = .error message) :
    Sendable ⟨ackErrorArg, message⟩ := by
  rw [karmaArg] at failed
  dsimp only at failed
  have range : IntRange ackErrorArg := ⟨by decide, by decide⟩
  split at failed
  · cases failed
    exact Opens.sendable_whole (by decide) _ range
  · split at failed
    · cases failed
      exact Opens.sendable_whole (by decide) _ range
    · split at failed
      · cases failed
        rw [List.append_assoc]
        exact Opens.sendable (by decide) _ range _ ((decimal_text _).append (by decide))
      · cases failed

theorem validateTag_sendable (tag : Bytes) (text : Text tag) (error : GError)
    (failed : validateTag tag = .error error) : Sendable error := by
  rw [validateTag] at failed
  split at failed
  · cases failed
    rw [List.append_assoc]
    exact Opens.sendable (by decide) _ ⟨by decide, by decide⟩ _ (text.append (by decide))
  · cases failed

/-! ### The functions on the database: an error in one line -/

section Functions

variable {Db : Type} (sqlite : Sqlite Db) (allowed : Action → Bool)

theorem sqlUpdateEntry_sendable (tbl : Table) (stmt expr : Bytes) (db : Db) (error : GError)
    (failed : (sqlUpdateEntry sqlite allowed tbl stmt expr db).1 = .error error)
    (text : Text error.message) : Sendable error := by
  rw [sqlUpdateEntry] at failed
  cases prepared : sqlite.prepare allowed (lit "update " ++ tbl.name ++ lit " set " ++ stmt
      ++ lit " where " ++ expr ++ lit " ;") db with
  | error errmsg =>
      rw [prepared] at failed
      cases failed
      exact prepareError_sendable errmsg text
  | ok execution =>
      rw [prepared] at failed
      dsimp only at failed
      cases stepped : (dbStep execution).1 with
      | done =>
          rw [stepped] at failed
          cases failed
      | row =>
          rw [stepped] at failed
          cases failed
          exact stepError_sendable _ text
      | failed errmsg =>
          rw [stepped] at failed
          cases failed
          exact stepError_sendable errmsg text

theorem dbUpdateExpr_sendable (tbl : Table) (stmt expr : Bytes) (db : Db) (error : GError)
    (failed : (dbUpdateExpr sqlite allowed tbl stmt expr db).1 = .error error)
    (text : Text error.message) : Sendable error := by
  have entry := sqlUpdateEntry_sendable sqlite allowed tbl stmt expr db
  rw [dbUpdateExpr] at failed
  generalize sqlUpdateEntry sqlite allowed tbl stmt expr db = updated at failed entry
  rcases updated with ⟨outcome, after⟩
  cases outcome with
  | error error' =>
      cases failed
      exact entry error rfl text
  | ok done => cases failed

theorem dbAddTagExpr_sendable (tbl : Table) (expr tag : Bytes) (line : Text tag) (db : Db)
    (error : GError) (failed : (dbAddTagExpr sqlite allowed tbl expr tag db).1 = .error error)
    (text : Text error.message) : Sendable error := by
  rw [dbAddTagExpr] at failed
  cases valid : validateTag tag with
  | error error' =>
      rw [valid] at failed
      cases failed
      exact validateTag_sendable tag line error valid
  | ok done =>
      rw [valid] at failed
      exact dbUpdateExpr_sendable sqlite allowed tbl _ expr db error failed text

theorem removeTagLoop_sendable (tbl : Table) (suffix : Bytes) (ids : List (Int × Bytes)) :
    ∀ (changes : Int) (db : Db) (error : GError),
      (removeTagLoop sqlite allowed tbl suffix ids changes db).1 = .error error →
        Text error.message → Sendable error := by
  induction ids with
  | nil =>
      intro changes db error failed text
      cases failed
  | cons item ids ih =>
      intro changes db error failed text
      rcases item with ⟨id, tags⟩
      have entry := sqlUpdateEntry_sendable sqlite allowed tbl
        (lit "tags = " ++ escapeString tags ++ suffix) (lit "id = " ++ decimal id) db
      rw [removeTagLoop] at failed
      generalize sqlUpdateEntry sqlite allowed tbl _ _ db = updated at failed entry
      rcases updated with ⟨outcome, after⟩
      cases outcome with
      | error error' =>
          cases failed
          exact entry error rfl text
      | ok done => exact ih _ after error failed text

theorem dbRemoveTagExpr_sendable (tbl : Table) (suffix expr tag : Bytes) (line : Text tag)
    (db after : Db) (error : GError)
    (failed : dbRemoveTagExpr sqlite allowed tbl suffix expr tag db = .ok (.error error, after))
    (text : Text error.message) : Sendable error := by
  cases valid : validateTag tag with
  | error error' =>
      rw [dbRemoveTagExpr, valid] at failed
      cases failed
      exact validateTag_sendable tag line error valid
  | ok done =>
      rw [removal_valid sqlite allowed tbl suffix expr tag db valid] at failed
      cases prepared : sqlite.prepare allowed (selectText (lit "id, tags") tbl expr) db with
      | error errmsg =>
          rw [prepared] at failed
          cases failed
          exact prepareError_sendable errmsg text
      | ok execution =>
          rw [prepared] at failed
          dsimp only at failed
          cases items : execution.rows.mapM (readRemoved tag) with
          | error fault =>
              rw [items] at failed
              cases failed
          | ok items' =>
              rw [items] at failed
              cases failure : execution.failure with
              | some errmsg =>
                  rw [failure] at failed
                  cases failed
                  exact stepError_sendable errmsg text
              | none =>
                  rw [failure] at failed
                  have loop := congrArg Prod.fst (Except.ok.inj failed)
                  exact removeTagLoop_sendable sqlite allowed tbl suffix items'.reverse 0 _ error loop
                    text

end Functions

/-! ### What the client makes of such an error -/

/-- The error that a function leaves in the connection. -/
def leftError : Except GError Answer → Option GError
  | .error error => some error
  | .ok _ => none

/-- The client reads `answer` as this result, and goes on behind it. -/
def Call.Reads (strptime : Bytes → Int) (call : Call) (answer : Bytes)
    (result : Except GError Answer) : Prop :=
  ∀ changes more, call.parse strptime changes { input := streamLines (answer ++ more), error := none }
    = .ok (result, { input := streamLines more, error := leftError result })

variable (strptime : Bytes → Int)

theorem parseItems_error {α : Type} (kind : ItemKind α) (line : Bytes) (rest : List Bytes)
    (server : Int) (position : Nat) (message : Bytes)
    (fed : mpdcronParserFeed (upToNul line) = .error server position (some message)) :
    parseItems kind (line :: rest) none []
      = .ok (false, [], { input := rest, error := some ⟨server, message⟩ }) := by
  rw [parseItems, fed]
  rfl

theorem Call.parse_error (call : Call) (changes : Int) (line : Bytes) (rest : List Bytes)
    (server : Int) (position : Nat) (message : Bytes)
    (fed : mpdcronParserFeed (upToNul line) = .error server position (some message)) :
    call.parse strptime changes { input := line :: rest, error := none }
      = .ok (.error ⟨server, message⟩, { input := rest, error := some ⟨server, message⟩ }) := by
  have number : mpdcronParseChanges { input := line :: rest, error := none } changes
      = .ok (false, changes, { input := rest, error := some ⟨server, message⟩ }) := by
    rw [mpdcronParseChanges, parseChanges, fed]
    rfl
  cases call with
  | password secret =>
      rw [Call.parse, mpdcronParseSingle]
      dsimp only
      rw [fed]
      rfl
  | songs form expr =>
      rw [Call.parse, mpdcronParseSongs, parseItems_error _ line rest server position message fed]
      rfl
  | albums form expr =>
      rw [Call.parse, mpdcronParseAlbums, parseItems_error _ line rest server position message fed]
      rfl
  | artists form expr =>
      rw [Call.parse, mpdcronParseArtists, parseItems_error _ line rest server position message fed]
      rfl
  | genres form expr =>
      rw [Call.parse, mpdcronParseGenres, parseItems_error _ line rest server position message fed]
      rfl
  | love tbl on expr | kill tbl on expr | rate tbl expr text | rateAbsolute tbl expr text
  | count tbl expr text | karma expr text | addtag tbl expr tag | rmtag tbl expr tag =>
      rw [Call.parse, number]
      rfl

/-- An error that can be sent is read back as it was. -/
theorem Call.reads_error (call : Call) (command : Bytes) (isText : IsCommandText command)
    (error : GError) (sendable : Sendable error) :
    call.Reads strptime (sent [ackLine error.code command error.message]) (.error error) := by
  have noNewline : newline ∉ command := isText.notMem command newline (by decide)
  have noNul : (0 : UInt8) ∉ command := isText.notMem command 0 (by decide)
  have noBrace : 125 ∉ command := isText.notMem command 125 (by decide)
  have plain : newline ∉ ackLine error.code command error.message :=
    (ackLine_plain error.code command error.message noNewline).mpr sendable.text.1
  have whole : (0 : UInt8) ∉ ackLine error.code command error.message := by
    have number := decimal_noNul error.code
    have fixed : (0 : UInt8) ∉ lit "ACK [" ∧ (0 : UInt8) ∉ lit "] \x7b" ∧ (0 : UInt8) ∉ lit "\x7d " := by
      decide
    simp [ackLine, number, fixed, noNul, sendable.text.2]
  have fed := feed_ackLine error.code sendable.range command error.message noBrace
    sendable.nonempty sendable.notSpace
  rw [← upToNul_eq _ whole] at fed
  intro changes more
  rw [streamLines_sent _ more (List.forall_mem_singleton.mpr plain), List.singleton_append]
  exact call.parse_error strptime changes _ _ error.code 0 error.message fed

end Mpdcron.Eugene
