import Mathlib.Control.Basic
import Mpdcron.Lib.Lines
import Mpdcron.Stats.Command

/-! What each handler answers, as a value: the lines before the last one, the error if there
is one, the permissions granted and the database afterwards. -/

namespace Mpdcron.Stats

open CString

structure Reply (Db : Type) where
  lines : List Bytes
  error : Option GError := none
  grant : Nat := 0
  db : Db

section Replies

variable {Db : Type}

/-- The last line of an answer. -/
def Reply.finalLine (reply : Reply Db) (command : Bytes) : Bytes :=
  match reply.error with
  | none => lit "OK"
  | some error => ackLine error.code command error.message

def Reply.ret (reply : Reply Db) : CommandReturn :=
  match reply.error with
  | none => .ok
  | some _ => .error

/-- The state after a handler of `command` has answered. -/
def Reply.after (reply : Reply Db) (client : Nat) (command : Bytes) (st : State Db) : State Db where
  perm := Function.update st.perm client (st.perm client ||| reply.grant)
  output := Function.update st.output client
    (st.output client ++ sent (reply.lines ++ [reply.finalLine command]))
  flushes := Function.update st.flushes client (st.flushes client + 1)
  currentCommand := reply.error.elim (some command) (fun _ => none)
  authorizer := st.authorizer
  db := reply.db

abbrev Replier (Db : Type) := (Action → Bool) → List Bytes → Db → Except Fault (Reply Db)

/-- A handler answers what `replier` says. -/
def Replies (handler : Handler Db) (replier : Replier Db) : Prop :=
  ∀ (client : Nat) (argv : List Bytes) (st : State Db) (command : Bytes),
    st.currentCommand = some command →
      handler client argv st
        = (replier st.allowed argv st.db).map fun reply => (reply.ret, reply.after client command st)

theorem State.schedule_puts (client : Nat) (st : State Db) (lines : List Bytes) :
    lines.foldl (fun st text => commandPuts client text st) st
      = st.scheduleWrite client (sent lines) := by
  induction lines generalizing st with
  | nil => simp [State.scheduleWrite]
  | cons line lines ih =>
      rw [List.foldl_cons, ih]
      simp [commandPuts, State.scheduleWrite, sent]

theorem printItems_eq {α : Type} (lines : α → Except Fault (List Bytes)) (client : Nat)
    (items : List α) (st : State Db) :
    printItems lines client items st
      = ((items.mapM lines).map List.flatten).map
          fun texts => st.scheduleWrite client (sent texts) := by
  induction items generalizing st with
  | nil => simp [printItems, State.scheduleWrite, Except.map, pure, Except.pure]
  | cons item items ih =>
      rw [printItems, List.mapM_cons]
      cases lines item with
      | error fault => rfl
      | ok texts =>
          change printItems lines client items _ = _
          rw [ih, State.schedule_puts]
          cases items.mapM lines with
          | error fault => rfl
          | ok more => simp [Except.map, bind, Except.bind, pure, Except.pure, State.scheduleWrite,
              sent_append]

/-- What a handler replies once the database function has returned. -/
def Reply.ofResult {α : Type} (texts : α → Except Fault (List Bytes))
    (result : Except GError α × Db) : Except Fault (Reply Db) :=
  match result.1 with
  | .error error => .ok { lines := [], error := some error, db := result.2 }
  | .ok value => (texts value).map fun lines => { lines := lines, db := result.2 }

def Reply.refused (db : Db) (message : Bytes) : Reply Db :=
  { lines := [], error := some { code := ackErrorArg, message := message }, db := db }

theorem commandError_eq (client : Nat) (error : GError) (st : State Db) (command : Bytes) (db : Db)
    (current : st.currentCommand = some command) :
    commandError client error.code error.message { st with db := db }
      = .ok (Reply.after { lines := [], error := some error, db := db } client command st) := by
  rw [commandError, current]
  simp [Reply.after, Reply.finalLine, State.scheduleWrite, State.flushWrite, sent]

theorem commandOk_eq (client : Nat) (st : State Db) (command : Bytes) (db : Db) (lines : List Bytes)
    (current : st.currentCommand = some command) :
    commandOk client (State.scheduleWrite client (sent lines) { st with db := db })
      = Reply.after { lines := lines, db := db } client command st := by
  have ended : sent (lines ++ [lit "OK"]) = sent lines ++ lit "OK\n" := by
    rw [sent_append]; rfl
  simp [commandOk, Reply.after, Reply.finalLine, State.scheduleWrite, State.flushWrite, current,
    ended]

theorem answer_eq {α : Type} (texts : α → Except Fault (List Bytes))
    (print : α → State Db → Except Fault (State Db)) (client : Nat)
    (prints : ∀ value st, print value st
      = (texts value).map fun lines => st.scheduleWrite client (sent lines))
    (result : Except GError α × Db) (st : State Db) (command : Bytes)
    (current : st.currentCommand = some command) :
    answer print client result st = (Reply.ofResult texts result).map
      fun reply => (reply.ret, reply.after client command st) := by
  rcases result with ⟨value, db⟩
  cases value with
  | error error =>
      rw [answer]
      dsimp only
      rw [commandError_eq client error st command db current]
      rfl
  | ok value =>
      rw [answer, Reply.ofResult]
      dsimp only
      rw [prints]
      cases texts value with
      | error fault => rfl
      | ok lines =>
          have done := commandOk_eq client st command db lines current
          simp only [Except.map, bind, Except.bind, pure, Except.pure, done]
          rfl

def changesLines (changes : Int) : Except Fault (List Bytes) :=
  .ok [lit "changes: " ++ decimal changes]

theorem answerChanges_eq (client : Nat) (result : Except GError Int × Db) (st : State Db)
    (command : Bytes) (current : st.currentCommand = some command) :
    answerChanges client result st
      = (Reply.ofResult changesLines result).map
          fun reply => (reply.ret, reply.after client command st) := by
  refine answer_eq _ _ client (fun changes st => ?_) result st command current
  simp [changesLines, commandPuts, Except.map, sent]

def flagReply (flag : Bytes)
    (update : (Action → Bool) → Bytes → Bool → Db → Except GError Int × Db) : Replier Db
  | allowed, [name, expr], db => Reply.ofResult changesLines (update allowed expr (name = flag) db)
  | _, _, _ => .error .assertion

theorem handleFlag_replies (flag : Bytes)
    (update : (Action → Bool) → Bytes → Bool → Db → Except GError Int × Db) :
    Replies (handleFlag flag update) (flagReply flag update) := by
  intro client argv st command current
  match argv with
  | [name, expr] => exact answerChanges_eq client _ st command current
  | [] => rfl
  | [name] => rfl
  | name :: expr :: more :: rest => rfl

/-- A handler that checks `argv[2]` and passes the number on. -/
def numberReply (check : Bytes → Except Bytes Int)
    (update : (Action → Bool) → Bytes → Int → Db → Except Fault (Except GError Int × Db)) :
    Replier Db
  | allowed, [_, expr, number], db =>
      match check number with
      | .error message => .ok (Reply.refused db message)
      | .ok value => update allowed expr value db >>= Reply.ofResult changesLines
  | _, _, _ => .error .assertion

theorem refused_eq (client : Nat) (message : Bytes) (st : State Db) (command : Bytes)
    (current : st.currentCommand = some command) :
    (do
      let st ← commandError client ackErrorArg message st
      return (CommandReturn.error, st))
      = (Except.ok (Reply.refused st.db message) : Except Fault (Reply Db)).map
          fun reply => (reply.ret, reply.after client command st) := by
  have refused := commandError_eq client ⟨ackErrorArg, message⟩ st command st.db current
  dsimp only at refused
  rw [refused]
  rfl

theorem handleNumber_replies
    (update : (Action → Bool) → Bytes → Int → Db → Except GError Int × Db) :
    Replies (handleNumber update)
      (numberReply numberArg fun allowed expr value db => .ok (update allowed expr value db)) := by
  intro client argv st command current
  match argv with
  | [name, expr, number] =>
      rw [handleNumber, numberReply]
      cases numberArg number with
      | error message => exact refused_eq client message st command current
      | ok value => exact answerChanges_eq client _ st command current
  | [] => rfl
  | [name] => rfl
  | [name, expr] => rfl
  | name :: expr :: number :: more :: rest => rfl

theorem handleKarma_replies (host : Host Db) :
    Replies (handleKarma host) (numberReply karmaArg (dbKarmaSongExpr host.sqlite)) := by
  intro client argv st command current
  match argv with
  | [name, expr, number] =>
      rw [handleKarma, numberReply]
      cases karmaArg number with
      | error message => exact refused_eq client message st command current
      | ok karma =>
          dsimp only
          cases dbKarmaSongExpr host.sqlite st.allowed expr karma st.db with
          | error fault => rfl
          | ok result => exact answerChanges_eq client result st command current
  | [] => rfl
  | [name] => rfl
  | [name, expr] => rfl
  | name :: expr :: number :: more :: rest => rfl

def tagReply
    (update : (Action → Bool) → Bytes → Bytes → Db → Except Fault (Except GError Int × Db)) :
    Replier Db
  | allowed, [_, expr, tag], db => update allowed expr tag db >>= Reply.ofResult changesLines
  | _, _, _ => .error .assertion

theorem handleTag_replies
    (update : (Action → Bool) → Bytes → Bytes → Db → Except Fault (Except GError Int × Db)) :
    Replies (handleTag update) (tagReply update) := by
  intro client argv st command current
  match argv with
  | [name, expr, tag] =>
      rw [handleTag, tagReply]
      cases update st.allowed expr tag st.db with
      | error fault => rfl
      | ok result => exact answerChanges_eq client result st command current
  | [] => rfl
  | [name] => rfl
  | [name, expr] => rfl
  | name :: expr :: tag :: more :: rest => rfl

def passwordReply (host : Host Db) : Replier Db
  | _, _ :: password :: _, db =>
      let perm := (host.passwords.lookup password).getD 0
      if perm ≠ 0 then .ok { lines := [], grant := perm, db := db }
      else .ok { lines := [], error := some ⟨ackErrorPassword, lit "Invalid password"⟩, db := db }
  | _, _, _ => .error .nullPointer

theorem handlePassword_replies (host : Host Db) :
    Replies (handlePassword host) (passwordReply host) := by
  intro client argv st command current
  match argv with
  | name :: password :: rest =>
      rw [handlePassword, passwordReply]
      by_cases known : (host.passwords.lookup password).getD 0 ≠ 0
      · rw [if_pos known, if_pos known]
        simp [Except.map, Reply.ret, Reply.after, Reply.finalLine, commandOk, State.grant,
          State.scheduleWrite, State.flushWrite, current, sent, newline, lit]
      · have refused := commandError_eq client ⟨ackErrorPassword, lit "Invalid password"⟩ st command
          st.db current
        dsimp only at refused
        rw [if_neg known, if_neg known, refused]
        rfl
  | [] => rfl
  | [name] => rfl

/-- A listing command: what it selects from which table, and the lines it prints of a row. -/
structure Listing where
  what : Bytes
  tbl : Table
  rowLines : Columns → Except Fault (List Bytes)

/-- A listing prints the rows in the reverse of the order they came in. -/
def Listing.reply (sqlite : Sqlite Db) (listing : Listing) : Replier Db
  | allowed, [_, expr], db =>
      match sqlite.prepare allowed (selectText listing.what listing.tbl expr) db with
      | .error errmsg => .ok { lines := [], error := some (prepareError errmsg), db := db }
      | .ok execution =>
          match execution.failure with
          | some errmsg => .ok { lines := [], error := some (stepError errmsg), db := execution.final }
          | none => (execution.rows.reverse.mapM listing.rowLines).map fun texts =>
              { lines := texts.flatten, db := execution.final }
  | _, _, _ => .error .assertion

theorem dbListExpr_eq {α : Type} (sqlite : Sqlite Db) (allowed : Action → Bool) (what : Bytes)
    (tbl : Table) (read : Columns → α) (expr : Bytes) (db : Db) :
    dbListExpr sqlite allowed what tbl read expr db
      = match sqlite.prepare allowed (selectText what tbl expr) db with
        | .error errmsg => .ok (.error (prepareError errmsg), db)
        | .ok execution => .ok (collected execution (execution.rows.map read).reverse) := by
  rw [dbListExpr, dbSelect]
  cases sqlite.prepare allowed (selectText what tbl expr) db with
  | error errmsg => rfl
  | ok execution =>
      have reads : execution.rows.mapM (fun row => (.ok (read row) : Except Fault α))
          = .ok (execution.rows.map read) := List.mapM_pure
      dsimp only
      rw [stepRows_eq, reads]
      simp [Except.map]

theorem handleSelect_replies {α : Type} (sqlite : Sqlite Db) (what : Bytes) (tbl : Table)
    (read : Columns → α) (lines : α → Except Fault (List Bytes)) :
    Replies
      (handleSelect lines fun allowed expr db => dbListExpr sqlite allowed what tbl read expr db)
      (Listing.reply sqlite ⟨what, tbl, fun row => lines (read row)⟩) := by
  intro client argv st command current
  match argv with
  | [name, expr] =>
      rw [handleSelect, Listing.reply, dbListExpr_eq]
      have answers (result : Except GError (List α) × Db) :=
        answer_eq (fun items => (items.mapM lines).map List.flatten) (printItems lines client) client
          (printItems_eq lines client) result st command current
      cases sqlite.prepare st.allowed (selectText what tbl expr) st.db with
      | error errmsg => exact answers (.error (prepareError errmsg), st.db)
      | ok execution =>
          refine (answers (collected execution (execution.rows.map read).reverse)).trans ?_
          dsimp only
          rw [collected, Reply.ofResult]
          cases execution.failure with
          | some errmsg => rfl
          | none =>
              dsimp only
              rw [← List.map_reverse, List.mapM_map]
              change _ = Except.map _ (Except.map _ (execution.rows.reverse.mapM (lines ∘ read)))
              cases execution.rows.reverse.mapM (lines ∘ read) <;> rfl
  | [] => rfl
  | [name] => rfl
  | name :: expr :: more :: rest => rfl

end Replies

end Mpdcron.Stats
