import Mpdcron.Lib.Triple
import Mpdcron.Stats.Framing

/-! Every line gets one answer exactly when the rows that its SELECT returns can be printed,
and the answers to a sequence of lines come apart again. -/

namespace Mpdcron.Stats

open CString
open Blocks

section Answers

variable {Db : Type}

/-- A reply whose lines are lines of pairs and whose error is a single line. -/
def Reply.Framed (reply : Reply Db) : Prop :=
  LinesFramed reply.lines ∧ ∀ error ∈ reply.error, newline ∉ error.message

theorem Reply.Plain.framed (reply : Reply Db) (plain : reply.Plain) : reply.Framed := by
  rcases plain with ⟨noError, changes, lines⟩ | ⟨error, failed, noLines, quiet⟩
  · have line : LinesFramed [lit "changes: " ++ decimal changes] :=
      List.forall_mem_singleton.mpr (numberLine_framed "changes" (by decide) changes)
    exact ⟨lines ▸ line, by simp [noError]⟩
  · exact ⟨noLines ▸ linesFramed_nil, by simpa [failed] using quiet⟩

theorem Reply.ofError_framed (error : GError) (db : Db) (quiet : newline ∉ error.message) :
    (Reply.ofError error db).Framed :=
  ⟨linesFramed_nil, by simpa [Reply.ofError] using quiet⟩

theorem removeTagLoop_quiet (sqlite : Sqlite Db) (quiet : QuietErrors sqlite)
    (allowed : Action → Bool) (tbl : Table) (suffix : Bytes) (ids : List (Int × Bytes)) :
    ∀ (changes : Int) (db : Db) (error : GError),
      (removeTagLoop sqlite allowed tbl suffix ids changes db).1 = .error error →
        newline ∉ error.message := by
  induction ids with
  | nil => intro changes db error failed; cases failed
  | cons item ids ih =>
      intro changes db error failed
      rcases item with ⟨id, tags⟩
      have entry := sqlUpdateEntry_quiet sqlite quiet allowed tbl
        (lit "tags = " ++ escapeString tags ++ suffix) (lit "id = " ++ decimal id) db
      rw [removeTagLoop] at failed
      generalize sqlUpdateEntry sqlite allowed tbl _ _ db = updated at failed entry
      rcases updated with ⟨outcome, after⟩
      cases outcome with
      | error error' =>
          cases failed
          exact entry error rfl
      | ok done => exact ih _ after error failed

theorem readRemoved_ok (tag : Bytes) (columns : Columns) :
    (∃ item, readRemoved tag columns = .ok item) ↔ columns.text 1 ≠ none := by
  rw [readRemoved]
  cases columns.text 1 with
  | none => simp [removeTag, bind, Except.bind]
  | some tags => simp [removeTag, bind, Except.bind, pure, Except.pure]

theorem removal_valid (sqlite : Sqlite Db) (allowed : Action → Bool) (tbl : Table)
    (suffix expr tag : Bytes) (db : Db) (valid : validateTag tag = .ok ()) :
    dbRemoveTagExpr sqlite allowed tbl suffix expr tag db
      = match sqlite.prepare allowed (selectText (lit "id, tags") tbl expr) db with
        | .error errmsg => .ok (.error (prepareError errmsg), db)
        | .ok execution => (execution.rows.mapM (readRemoved tag)).map fun items =>
            match execution.failure with
            | some errmsg => (.error (stepError errmsg), execution.final)
            | none => removeTagRows sqlite allowed tbl suffix items.reverse execution.final := by
  rw [dbRemoveTagExpr, valid]
  change (dbSelect sqlite allowed (readRemoved tag) (selectText (lit "id, tags") tbl expr) db
    >>= _) = _
  rw [dbSelect]
  cases sqlite.prepare allowed (selectText (lit "id, tags") tbl expr) db with
  | error errmsg => rfl
  | ok execution =>
      dsimp only
      rw [stepRows_eq]
      cases execution.rows.mapM (readRemoved tag) with
      | error fault => rfl
      | ok items =>
          dsimp only [bind, Except.bind, Except.map]
          rw [collected, List.append_nil]
          cases execution.failure <;> rfl

theorem changes_framed (result : Except GError Int × Db)
    (quiet : ∀ error, result.1 = .error error → newline ∉ error.message) :
    ∃ reply, Reply.ofResult changesLines result = .ok reply ∧ reply.Framed := by
  rcases changes_plain result quiet with ⟨reply, replied, plain⟩
  exact ⟨reply, replied, plain.framed⟩

variable (host : Host Db)

/-- What the rows of the SELECT that a request runs must be like: a listing must be able to
print them, a removal needs their tags. -/
def RowsAnswerable (perm : Nat) (db : Db) : List Bytes → Prop
  | [name, expr] => ∀ listing shown execution,
      (listings host).lookup name = some listing → shownColumns.lookup name = some shown →
      host.sqlite.prepare (commandAuthorizer perm) (selectText listing.what listing.tbl expr) db
        = .ok execution → execution.failure = none →
      ∀ row ∈ execution.rows, shown.Framed host.strftime row
  | [name, expr, tag] => ∀ tbl suffix execution,
      removals.lookup name = some (tbl, suffix) → tag ≠ [] → colon ∉ tag →
      host.sqlite.prepare (commandAuthorizer perm) (selectText (lit "id, tags") tbl expr) db
        = .ok execution →
      ∀ row ∈ execution.rows, row.text 1 ≠ none
  | _ => True

/-- If the line is a request that is accepted, its rows are answerable. -/
def Answerable (client : Nat) (line : Bytes) (st : State Db) : Prop :=
  ∀ argv entry, readRequest line = .request argv → Accepted host (st.perm client) argv entry →
    RowsAnswerable host (st.perm client) st.db argv

variable {host}

theorem listing_answers (quiet : QuietErrors host.sqlite)
    (oneLine : ∀ time text, host.strftime time = some text → newline ∉ text) (perm : Nat)
    (name expr : Bytes) (db : Db) (listing : Listing) (listed : (name, listing) ∈ listings host) :
    (∃ reply, listing.reply host.sqlite (commandAuthorizer perm) [name, expr] db = .ok reply ∧
        reply.Framed)
      ↔ RowsAnswerable host perm db [name, expr] := by
  rcases listings_shown host oneLine _ listed with ⟨shown, columns, found, prints⟩
  dsimp only at columns found prints
  have rows : RowsAnswerable host perm db [name, expr] ↔ ∀ execution,
      host.sqlite.prepare (commandAuthorizer perm) (selectText listing.what listing.tbl expr) db
        = .ok execution → execution.failure = none →
      ∀ row ∈ execution.rows, Prints (listing.rowLines row) := by
    simp only [RowsAnswerable, found, columns, Option.some.injEq, prints]
    exact ⟨fun all execution => all listing shown execution rfl rfl,
      fun all listing' shown' execution same same' => by subst same same'; exact all execution⟩
  rw [rows, Listing.reply]
  cases prepared : host.sqlite.prepare (commandAuthorizer perm)
      (selectText listing.what listing.tbl expr) db with
  | error errmsg =>
      have message := quiet.prepare _ _ _ _ prepared
      have framed := Reply.ofError_framed (prepareError errmsg) db
        (prefixed_quiet _ errmsg (by decide) message)
      exact iff_of_true ⟨_, rfl, framed⟩ (by simp)
  | ok execution =>
      dsimp only
      cases failure : execution.failure with
      | some errmsg =>
          have message := quiet.step _ _ _ _ errmsg prepared failure
          have framed := Reply.ofError_framed (stepError errmsg) execution.final
            (prefixed_quiet _ errmsg (by decide) message)
          exact iff_of_true ⟨_, rfl, framed⟩ (by simp [failure])
      | none =>
          have printed := prints_mapM listing.rowLines execution.rows.reverse
          simp only [List.mem_reverse] at printed
          dsimp only
          simp only [Except.ok.injEq, forall_eq', failure, true_implies, ← printed]
          cases execution.rows.reverse.mapM listing.rowLines with
          | error fault => simp [Prints, Except.map]
          | ok texts =>
              simp [Prints, Except.map, Reply.Framed]

theorem rowsAnswerable_removal (perm : Nat) (name expr tag : Bytes) (db : Db) (tbl : Table)
    (suffix : Bytes) (listed : removals.lookup name = some (tbl, suffix)) :
    RowsAnswerable host perm db [name, expr, tag] ↔ (tag ≠ [] → colon ∉ tag →
      ∀ execution, host.sqlite.prepare (commandAuthorizer perm)
        (selectText (lit "id, tags") tbl expr) db = .ok execution →
      ∀ row ∈ execution.rows, row.text 1 ≠ none) := by
  simp only [RowsAnswerable, listed, Option.some.injEq, Prod.mk.injEq]
  constructor
  · intro all nonempty noColon execution
    exact all tbl suffix execution ⟨rfl, rfl⟩ nonempty noColon
  · rintro all _ _ execution ⟨rfl, rfl⟩ nonempty noColon
    exact all nonempty noColon execution

theorem removal_answers (quiet : QuietErrors host.sqlite) (perm : Nat) (name expr tag : Bytes)
    (plain : newline ∉ tag) (db : Db) (tbl : Table) (suffix : Bytes)
    (listed : removals.lookup name = some (tbl, suffix)) :
    (∃ reply, removalReply host tbl suffix (commandAuthorizer perm) [name, expr, tag] db = .ok reply ∧
        reply.Framed)
      ↔ RowsAnswerable host perm db [name, expr, tag] := by
  rw [rowsAnswerable_removal perm name expr tag db tbl suffix listed, removalReply, tagReply]
  cases valid : validateTag tag with
  | error error =>
      have invalid : ¬(tag ≠ [] ∧ colon ∉ tag) := by
        rw [← validateTag_ok, valid]
        exact fun impossible => by cases impossible
      have refused : dbRemoveTagExpr host.sqlite (commandAuthorizer perm) tbl suffix expr tag db
          = .ok (.error error, db) := by rw [dbRemoveTagExpr, valid]
      rw [refused]
      refine iff_of_true (changes_framed (.error error, db) fun error' failed => ?_)
        fun nonempty noColon => ?_
      · cases failed
        exact validateTag_quiet tag plain error valid
      · exact absurd ⟨nonempty, noColon⟩ invalid
  | ok done =>
      rcases (validateTag_ok tag).mp valid with ⟨nonempty, noColon⟩
      rw [removal_valid host.sqlite _ tbl suffix expr tag db valid]
      simp only [ne_eq, nonempty, not_false_eq_true, noColon, true_implies]
      cases prepared : host.sqlite.prepare (commandAuthorizer perm)
          (selectText (lit "id, tags") tbl expr) db with
      | error errmsg =>
          refine iff_of_true (changes_framed (.error (prepareError errmsg), db)
            fun error failed => ?_) (by simp)
          cases failed
          exact prefixed_quiet _ errmsg (by decide) (quiet.prepare _ _ _ _ prepared)
      | ok execution =>
          have reads := Triple.mapM_ok_iff (readRemoved tag) execution.rows
          simp only [readRemoved_ok] at reads
          simp only [Except.ok.injEq, forall_eq', ← ne_eq, ← reads]
          cases execution.rows.mapM (readRemoved tag) with
          | error fault => exact iff_of_false (by rintro ⟨reply, replied, -⟩; cases replied) (by simp)
          | ok items =>
              refine iff_of_true (changes_framed _ fun error failed => ?_) ⟨items, rfl⟩
              cases failure : execution.failure with
              | some errmsg =>
                  rw [failure] at failed
                  cases failed
                  exact prefixed_quiet _ errmsg (by decide) (quiet.step _ _ _ _ _ prepared failure)
              | none =>
                  rw [failure] at failed
                  exact removeTagLoop_quiet host.sqlite quiet _ tbl suffix items.reverse 0 _ error
                    failed

theorem update_answers (perm : Nat) (db : Db) (argv : List Bytes) (other : IsUpdate (argv.headD [])) :
    RowsAnswerable host perm db argv := by
  match argv with
  | [name, expr] =>
      intro listing shown execution found
      rcases List.lookup_eq_some_iff.mp found with ⟨before, after, split, -⟩
      have listed : (name, listing) ∈ listings host := by simp [split]
      exact absurd (listing_named host name listing listed) other.1
  | [name, expr, tag] =>
      intro tbl suffix execution found
      rcases List.lookup_eq_some_iff.mp found with ⟨before, after, split, -⟩
      have listed : (name, tbl, suffix) ∈ removals := by simp [split]
      exact absurd (removal_named name tbl suffix listed) other.2.1
  | [] => trivial
  | [name] => trivial
  | name :: expr :: tag :: more :: rest => trivial

theorem password_answers (perm : Nat) (db : Db) (password : Bytes) :
    RowsAnswerable host perm db [lit "password", password] := by
  intro listing shown execution found
  have known : (listings host).lookup (lit "password") = none := rfl
  rw [known] at found
  cases found

theorem removals_lookup : ∀ entry ∈ removals, removals.lookup entry.1 = some entry.2 := by decide

/-- An accepted request is answered exactly when its rows are answerable. -/
theorem CommandKind.answers_iff (quiet : QuietErrors host.sqlite)
    (oneLine : ∀ time text, host.strftime time = some text → newline ∉ text) (entry : Command Db)
    (replier : Replier Db) (kind : CommandKind host entry replier) (perm : Nat) (argv : List Bytes)
    (accepted : Accepted host perm argv entry) (plain : ∀ word ∈ argv, newline ∉ word) (db : Db) :
    (∃ reply, replier (commandAuthorizer perm) argv db = .ok reply ∧ reply.Framed)
      ↔ RowsAnswerable host perm db argv := by
  have named : entry.cmd = argv.headD [] := (commandLookup_finds host _ entry accepted.found).2
  have arity := accepted.arity
  cases kind with
  | listing cmd listing handler listed replies =>
      have two : argv.length = 2 := by
        dsimp only at arity
        omega
      rcases List.length_eq_two.mp two with ⟨name, expr, rfl⟩
      subst named
      exact listing_answers quiet oneLine perm cmd expr db listing listed
  | removal cmd tbl suffix handler listed replies =>
      have three : argv.length = 3 := by
        dsimp only at arity
        omega
      rcases List.length_eq_three.mp three with ⟨name, expr, tag, rfl⟩
      subst named
      exact removal_answers quiet perm cmd expr tag (plain tag (by simp)) db tbl suffix
        (removals_lookup (cmd, tbl, suffix) listed)
  | update cmd count handler replier other replies answers =>
      have fits : argv.length = count + 1 := by
        dsimp only at arity
        omega
      obtain ⟨reply, replied, framed⟩ :=
        answers.answers quiet (commandAuthorizer perm) argv db fits plain
      exact iff_of_true ⟨reply, replied, framed.framed⟩
        (update_answers perm db argv (named ▸ other))
  | password =>
      have two : argv.length = 2 := by
        dsimp only at arity
        omega
      rcases List.length_eq_two.mp two with ⟨name, password, rfl⟩
      subst named
      refine iff_of_true ?_ (password_answers perm db password)
      rw [passwordReply]
      by_cases known : (host.passwords.lookup password).getD 0 ≠ 0
      · rw [if_pos known]
        exact ⟨_, rfl, linesFramed_nil, by simp⟩
      · rw [if_neg known]
        exact ⟨_, rfl, Reply.ofError_framed ⟨ackErrorPassword, lit "Invalid password"⟩ db (by decide)⟩

theorem Reply.finalLine_plain (reply : Reply Db) (command : Bytes) (plain : newline ∉ command) :
    newline ∉ reply.finalLine command ↔ ∀ error ∈ reply.error, newline ∉ error.message := by
  rw [Reply.finalLine]
  cases reply.error with
  | none => exact iff_of_true (show newline ∉ lit "OK" by decide) (by simp)
  | some error =>
      dsimp only
      rw [ackLine_plain error.code command error.message plain]
      simp

theorem Reply.finalLine_known (reply : Reply Db) (command : Bytes) :
    reply.finalLine command = lit "OK" ∨ lit "ACK [" <+: reply.finalLine command := by
  rw [Reply.finalLine]
  cases reply.error with
  | none => exact Or.inl rfl
  | some error =>
      rcases ackLine_prefix error.code command error.message with ⟨rest, split⟩
      exact Or.inr ⟨rest, split.symm⟩

/-- A last line with a newline in it starts with a line that is no pair. -/
theorem Reply.finalLine_cut (reply : Reply Db) (command : Bytes) (front : List Bytes) (last : Bytes)
    (split : (reply.finalLine command).splitOn newline = front ++ [last])
    (pairs : ∀ line ∈ front, PairLine line) : newline ∉ reply.finalLine command := by
  rcases reply.finalLine_known command with isOk | isAck
  · rw [isOk]
    decide
  · rcases isAck with ⟨rest, isAck⟩
    cases front with
    | nil => exact splitOn_single newline _ last split
    | cons first front =>
        rw [← isAck, splitOn_append newline _ _ (by decide)] at split
        cases pieces : rest.splitOn newline with
        | nil => exact absurd pieces (List.splitOn_ne_nil newline rest)
        | cons piece pieces' =>
            rw [pieces, List.modifyHead_cons, List.cons_append, List.cons.injEq] at split
            have starts : lit "ACK" <+: first :=
              split.1 ▸ List.IsPrefix.trans (by decide : lit "ACK" <+: lit "ACK [")
                (List.prefix_append _ _)
            exact absurd starts (pairs first List.mem_cons_self).notAck

/-- What a reply sends is an answer exactly when its lines are lines of pairs. -/
theorem Reply.sends_answer (reply : Reply Db) (command : Bytes) (plain : newline ∉ command) :
    (∃ lines, Answer lines ∧ sent lines = sent (reply.lines ++ [reply.finalLine command]))
      ↔ reply.Framed := by
  have oneLine := reply.finalLine_plain command plain
  have cut : (reply.lines ++ [reply.finalLine command]).flatMap (·.splitOn newline)
      = reply.lines.flatMap (·.splitOn newline) ++ (reply.finalLine command).splitOn newline := by
    rw [List.flatMap_append, List.flatMap_singleton]
  constructor
  · rintro ⟨lines, answer, same⟩
    rw [sent_eq_iff _ _ (answer.oneLine lines), cut] at same
    rcases answer with ⟨front, last, split, pairs, -⟩
    have nonempty := List.splitOn_ne_nil newline (reply.finalLine command)
    rcases (List.eq_nil_or_concat _).resolve_left nonempty with ⟨init, last', pieces⟩
    rw [List.concat_eq_append] at pieces
    have fronts : front = reply.lines.flatMap (·.splitOn newline) ++ init := by
      rw [split, pieces, ← List.append_assoc] at same
      exact (List.append_inj' same rfl).1
    have inits : ∀ line ∈ init, PairLine line :=
      fun line inInit => pairs line (fronts ▸ List.mem_append_right _ inInit)
    refine ⟨fun text inLines piece inText => ?_,
      oneLine.mp (reply.finalLine_cut command init last' pieces inits)⟩
    have inFront := List.mem_flatMap.mpr ⟨text, inLines, inText⟩
    exact pairs piece (fronts ▸ List.mem_append_left _ inFront)
  · intro framed
    have final : FinalLine (reply.finalLine command) :=
      ⟨reply.finalLine_known command, oneLine.mpr framed.2⟩
    rw [List.splitOn_eq_singleton final.oneLine] at cut
    have answer : Answer (reply.lines.flatMap (·.splitOn newline) ++ [reply.finalLine command]) := by
      refine ⟨_, _, rfl, fun piece inLines => ?_, final⟩
      rcases List.mem_flatMap.mp inLines with ⟨text, inReply, inText⟩
      exact framed.1 text inReply piece inText
    exact ⟨_, answer, (sent_eq_iff _ _ (answer.oneLine _)).mpr cut.symm⟩

variable (host) in
/-- `command_process` returns, and the client gets exactly one answer. -/
def AnswersLine (client : Nat) (line : Bytes) (st : State Db) : Prop :=
  ∃ ret after lines, commandProcess host client line st = .ok (ret, after) ∧ Answer lines ∧
    after.output = Function.update st.output client (st.output client ++ sent lines)

theorem returned_answers (client : Nat) (command : Bytes) (authorizer : Option Nat) (st : State Db)
    (result : Except Fault (Reply Db)) (plain : newline ∉ command) :
    (∃ ret after lines, result.map (fun reply => reply.returned client command authorizer st)
        = .ok (ret, after) ∧ Answer lines ∧
        after.output = Function.update st.output client (st.output client ++ sent lines))
      ↔ ∃ reply, result = .ok reply ∧ reply.Framed := by
  cases result with
  | error fault => simp [Except.map]
  | ok reply =>
      have sends := reply.sends_answer command plain
      simp only [Except.ok.injEq, exists_eq_left', ← sends]
      constructor
      · rintro ⟨ret, after, lines, same, answer, written⟩
        cases same
        have own := congrFun written client
        rw [Function.update_self] at own
        refine ⟨lines, answer, ?_⟩
        simpa [Reply.returned, Reply.after] using own.symm
      · rintro ⟨lines, answer, same⟩
        exact ⟨_, _, lines, rfl, answer, by rw [same]; rfl⟩

/-- One line: it is answered exactly when its rows are answerable. -/
theorem line_answered_iff (authorizes : Authorizes host) (quiet : QuietErrors host.sqlite)
    (oneLine : ∀ time text, host.strftime time = some text → newline ∉ text) (client : Nat)
    (line : Bytes) (noNul : (0 : UInt8) ∉ line) (plain : newline ∉ line) (st : State Db) :
    AnswersLine host client line st ↔ Answerable host client line st := by
  have outcome := commandProcess_outcome authorizes client line noNul st
  have request := readRequest_plain line plain
  rw [AnswersLine]
  generalize commandProcess host client line st = processed at outcome
  cases outcome with
  | refused command error authorizer words left notAccepted =>
      rcases words plain with ⟨command_plain, message_plain⟩
      have answered := returned_answers client command authorizer st
        (.ok (Reply.ofError error st.db)) command_plain
      have framed := Reply.ofError_framed error st.db message_plain
      refine iff_of_true (answered.mpr ⟨_, rfl, framed⟩) fun argv entry tokenized accepted => ?_
      exact absurd accepted (notAccepted argv entry tokenized)
  | replied argv entry tokenized accepted replier kind =>
      rw [tokenized] at request
      have words : ∀ word ∈ argv, newline ∉ word := request
      have named := (commandLookup_finds host _ entry accepted.found).2
      have command_plain : newline ∉ entry.cmd := by
        rw [named]
        cases argv with
        | nil => simp
        | cons name rest => exact words name List.mem_cons_self
      have rows := kind.answers_iff quiet oneLine entry replier _ argv accepted words st.db
      rw [returned_answers client entry.cmd none st _ command_plain, rows]
      constructor
      · intro answerable argv' entry' tokenized' accepted'
        cases tokenized.symm.trans tokenized'
        exact answerable
      · intro answerable
        exact answerable argv entry tokenized accepted

variable (host) in
/-- The lines are processed one after the other, and each gets its answer. -/
inductive Answered : List (Nat × Bytes) → List (List Bytes) → State Db → State Db → Prop where
  | nil (st : State Db) : Answered [] [] st st
  | cons (client : Nat) (line : Bytes) (lines : List (Nat × Bytes)) (answer : List Bytes)
      (answers : List (List Bytes)) (st after final : State Db) (ret : CommandReturn)
      (processed : commandProcess host client line st = .ok (ret, after)) (isAnswer : Answer answer)
      (written : after.output
        = Function.update st.output client (st.output client ++ sent answer))
      (rest : Answered lines answers after final) :
      Answered ((client, line) :: lines) (answer :: answers) st final

variable (host) in
/-- Each line is answerable in the state that it meets. -/
def AllAnswerable : List (Nat × Bytes) → State Db → Prop
  | [], _ => True
  | (client, line) :: lines, st => Answerable host client line st ∧
      ∀ ret after, commandProcess host client line st = .ok (ret, after) → AllAnswerable lines after

/-- The answers to the lines of one client. -/
def ownAnswers (client : Nat) (lines : List (Nat × Bytes)) (answers : List (List Bytes)) :
    List (List Bytes) :=
  ((lines.zip answers).filter fun answered => answered.1.1 = client).map Prod.snd

theorem Answered.answers (lines : List (Nat × Bytes)) (answers : List (List Bytes))
    (st final : State Db) (answered : Answered host lines answers st final) :
    answers.length = lines.length ∧ ∀ answer ∈ answers, Answer answer := by
  induction answered with
  | nil st => exact ⟨rfl, by simp⟩
  | cons client line lines answer answers st after final ret processed isAnswer written rest ih =>
      exact ⟨congrArg Nat.succ ih.1, List.forall_mem_cons.mpr ⟨isAnswer, ih.2⟩⟩

/-- A client has received the answers to its own lines, in their order. -/
theorem Answered.output (lines : List (Nat × Bytes)) (answers : List (List Bytes))
    (st final : State Db) (answered : Answered host lines answers st final) (client : Nat) :
    final.output client = st.output client ++ sent (ownAnswers client lines answers).flatten := by
  induction answered with
  | nil st => exact (List.append_nil _).symm
  | cons sender line lines answer answers st after final ret processed isAnswer written rest ih =>
      rw [ih, written]
      by_cases own : sender = client
      · subst own
        rw [Function.update_self, List.append_assoc, ← sent_append]
        simp [ownAnswers]
      · rw [Function.update_of_ne (Ne.symm own)]
        simp [ownAnswers, own]

theorem Answered.unique (lines : List (Nat × Bytes)) (answers : List (List Bytes))
    (st final : State Db) (answered : Answered host lines answers st final) (client : Nat)
    (others : List (List Bytes)) (otherAnswers : ∀ answer ∈ others, Answer answer)
    (same : sent others.flatten = sent (ownAnswers client lines answers).flatten) :
    others = ownAnswers client lines answers := by
  refine answers_unique others _ otherAnswers (fun answer inOwn => ?_) same
  rcases List.mem_map.mp inOwn with ⟨pair, inZip, rfl⟩
  have inAnswers := (List.of_mem_zip (List.mem_filter.mp inZip).1).2
  exact answered.answers.2 pair.2 inAnswers

theorem lines_answered_iff (authorizes : Authorizes host) (quiet : QuietErrors host.sqlite)
    (oneLine : ∀ time text, host.strftime time = some text → newline ∉ text)
    (lines : List (Nat × Bytes)) :
    ∀ st : State Db, (∀ line ∈ lines, (0 : UInt8) ∉ line.2 ∧ newline ∉ line.2) →
      ((∃ answers final, Answered host lines answers st final) ↔ AllAnswerable host lines st) := by
  induction lines with
  | nil => exact fun st _ => iff_of_true ⟨[], st, .nil st⟩ trivial
  | cons head lines ih =>
      intro st plain
      rcases head with ⟨client, line⟩
      rw [List.forall_mem_cons] at plain
      have first := line_answered_iff authorizes quiet oneLine client line plain.1.1 plain.1.2 st
      rw [AllAnswerable, ← first]
      constructor
      · rintro ⟨answers, final, answered⟩
        cases answered with
        | cons _ _ _ answer answers _ after _ ret processed isAnswer written rest =>
            refine ⟨⟨ret, after, answer, processed, isAnswer, written⟩, ?_⟩
            intro ret' after' processed'
            cases processed.symm.trans processed'
            exact (ih after plain.2).mp ⟨answers, final, rest⟩
      · rintro ⟨⟨ret, after, answer, processed, isAnswer, written⟩, later⟩
        rcases (ih after plain.2).mpr (later ret after processed) with ⟨answers, final, rest⟩
        exact ⟨answer :: answers, final,
          .cons client line lines answer answers st after final ret processed isAnswer written rest⟩

/-- A sequence of lines from any clients gets one answer a line exactly when every line is
answerable, and then what a client received comes apart into its answers in one way. -/
theorem requests_answered_iff (authorizes : Authorizes host) (quiet : QuietErrors host.sqlite)
    (oneLine : ∀ time text, host.strftime time = some text → newline ∉ text)
    (lines : List (Nat × Bytes)) (st : State Db)
    (plain : ∀ line ∈ lines, (0 : UInt8) ∉ line.2 ∧ newline ∉ line.2) :
    ((∃ answers final, Answered host lines answers st final) ↔ AllAnswerable host lines st) ∧
      ∀ answers final, Answered host lines answers st final →
        answers.length = lines.length ∧ ∀ client,
          final.output client
              = st.output client ++ sent (ownAnswers client lines answers).flatten ∧
            ∀ others, (∀ answer ∈ others, Answer answer) →
              sent others.flatten = sent (ownAnswers client lines answers).flatten →
                others = ownAnswers client lines answers := by
  refine ⟨lines_answered_iff authorizes quiet oneLine lines st plain, ?_⟩
  intro answers final answered
  refine ⟨answered.answers.1, fun client => ⟨answered.output lines answers st final client, ?_⟩⟩
  exact answered.unique lines answers st final client

/-- An empty database, where a client adds a row of its own to a SELECT. -/
def unionSqlite : Sqlite Unit where
  prepare _ sql _ :=
    if sql = lit "select id, uri, tags from song where 0 union select 1, 'x', null ;" then
      .ok (.row [⟨1, 1, some (lit "1")⟩, ⟨0, 0, some (lit "x")⟩, .null] () (.done ()))
    else .ok (.done ())
  changes _ := 0
  reset _ _ := .ok ()
  runMaint _ _ _ := .done ()
  setAuthorizer _ _ := .ok ()

def unionHost : Host Unit where
  sqlite := unionSqlite
  passwords := []
  strftime _ := none

def unionStart : State Unit where
  perm _ := permissionSelect
  output _ := []
  flushes _ := 0
  currentCommand := none
  authorizer := none
  db := ()

theorem unionSqlite_quiet : QuietErrors unionSqlite where
  prepare := by
    intro allowed sql db errmsg failed
    simp only [unionSqlite] at failed
    split at failed
    · cases failed
    · cases failed
  step := by
    intro allowed sql db execution errmsg prepared failed
    simp only [unionSqlite] at prepared
    split at prepared
    · cases prepared
      cases failed
    · cases prepared
      cases failed

/-- A client lists the songs, and another one tries to kill them. -/
def songLessLines : List (Nat × Bytes) := [(0, lit "list id"), (1, lit "kill id"), (0, lit "listing")]

theorem requests_answered_songLess :
    AllAnswerable unionHost songLessLines unionStart ∧
      ∃ answers final, Answered unionHost songLessLines answers unionStart final ∧
        ∀ others, (∀ answer ∈ others, Answer answer) →
          sent others.flatten = sent (ownAnswers 0 songLessLines answers).flatten →
            others = ownAnswers 0 songLessLines answers := by
  have authorizes : Authorizes unionHost := fun _ _ => rfl
  have oneLine : ∀ time text, unionHost.strftime time = some text → newline ∉ text := by
    simp [unionHost]
  have iff := requests_answered_iff authorizes unionSqlite_quiet oneLine songLessLines unionStart
    (by decide)
  have listed : Answer [lit "OK"] := Block.singleton _ ⟨by decide, by decide⟩
  have refused : Answer [lit "ACK [3] \x7bkill\x7d you don't have permission for \"kill\""] :=
    Block.singleton _ ⟨Or.inr (by decide), by decide⟩
  have unknown : Answer [lit "ACK [4] \x7b\x7d unknown command \"listing\""] :=
    Block.singleton _ ⟨Or.inr (by decide), by decide⟩
  have run : ∃ answers final, Answered unionHost songLessLines answers unionStart final := by
    refine ⟨_, _, .cons _ _ _ _ _ _ _ _ _ rfl listed ?_ (.cons _ _ _ _ _ _ _ _ _ rfl refused ?_
      (.cons _ _ _ _ _ _ _ _ _ rfl unknown ?_ (.nil _)))⟩
    all_goals rfl
  rcases run with ⟨answers, final, answered⟩
  exact ⟨iff.1.mp ⟨answers, final, answered⟩, answers, final, answered,
    ((iff.2 answers final answered).2 0).2⟩

def unionLine : Bytes := lit "listtags \"0 union select 1, 'x', null\""

/-- This line makes the daemon read a NULL pointer. -/
theorem listtags_null_tags :
    Authorizes unionHost ∧ QuietErrors unionHost.sqlite ∧
      (∀ time text, unionHost.strftime time = some text → newline ∉ text) ∧
      (0 : UInt8) ∉ unionLine ∧ newline ∉ unionLine ∧
      commandProcess unionHost 0 unionLine unionStart = .error .nullPointer ∧
      ¬ AnswersLine unionHost 0 unionLine unionStart := by
  have noNul : (0 : UInt8) ∉ unionLine := by decide
  have tokenized : readRequest unionLine
      = .request [lit "listtags", lit "0 union select 1, 'x', null"] := by decide +kernel
  have faults : commandProcess unionHost 0 unionLine unionStart = .error .nullPointer := by
    rw [commandProcess_eq unionHost 0 unionLine unionStart noNul, tokenized]
    rfl
  refine ⟨fun _ _ => rfl, unionSqlite_quiet, by simp [unionHost], noNul, by decide, faults, ?_⟩
  rintro ⟨ret, after, lines, processed, -⟩
  rw [faults] at processed
  cases processed

end Answers

end Mpdcron.Stats
