import Mpdcron.Stats.CommandTable
import Mpdcron.Stats.Request

/-! `command_process` from the line to the reply, when `sqlite3_set_authorizer` succeeds. -/

namespace Mpdcron.Stats

open CString

theorem strcmp_eq (a b : Bytes) (same : strcmp a b = .eq) : a = b := by
  induction a generalizing b with
  | nil =>
      cases b with
      | nil => rfl
      | cons y b => cases same
  | cons x a ih =>
      cases b with
      | nil => cases same
      | cons y b =>
          rw [strcmp] at same
          by_cases less : x < y
          · rw [if_pos less] at same
            cases same
          · by_cases greater : y < x
            · rw [if_neg less, if_pos greater] at same
              cases same
            · rw [if_neg less, if_neg greater] at same
              have heads : x = y := by
                rw [UInt8.lt_iff_toNat_lt] at less greater
                apply UInt8.toNat_inj.mp
                omega
              rw [heads, ih b same]

section Process

variable {Db : Type}

theorem commandLookupLoop_finds (table : List (Command Db)) (name : Bytes) (fuel : Nat) :
    ∀ (a b : Nat) (entry : Command Db), commandLookupLoop table name fuel a b = some entry →
      entry ∈ table ∧ entry.cmd = name := by
  induction fuel with
  | zero => intro a b entry found; cases found
  | succ fuel ih =>
      intro a b entry found
      rw [commandLookupLoop] at found
      cases middle : table[(a + b) / 2]? with
      | none =>
          rw [middle] at found
          cases found
      | some command =>
          rw [middle] at found
          dsimp only at found
          cases order : strcmp name command.cmd with
          | eq =>
              rw [order] at found
              cases found
              exact ⟨List.mem_of_getElem? middle, (strcmp_eq _ _ order).symm⟩
          | lt =>
              rw [order] at found
              dsimp only at found
              split at found
              · exact ih _ _ _ found
              · cases found
          | gt =>
              rw [order] at found
              dsimp only at found
              split at found
              · exact ih _ _ _ found
              · cases found

variable (host : Host Db)

theorem commandLookup_finds (name : Bytes) (entry : Command Db)
    (found : commandLookup host name = some entry) : entry ∈ commands host ∧ entry.cmd = name :=
  commandLookupLoop_finds _ _ _ _ _ _ found

/-- `sqlite3_set_authorizer` succeeds. -/
def Authorizes : Prop := ∀ install db, host.sqlite.setAuthorizer install db = .ok ()

theorem Authorizes.set (authorizes : Authorizes host) (install : Bool) (db : Db) :
    dbSetAuthorizer host.sqlite install db = .ok () := by
  rw [dbSetAuthorizer, authorizes install db]

/-- The command is found and its checks pass. -/
structure Accepted (perm : Nat) (argv : List Bytes) (entry : Command Db) : Prop where
  found : commandLookup host (argv.headD []) = some entry
  permitted : entry.permission = perm &&& entry.permission
  arity : (argv.length : Int) = entry.min + 1

/-- What `command_process` returns for a reply. -/
def Reply.returned (reply : Reply Db) (client : Nat) (command : Bytes) (authorizer : Option Nat)
    (st : State Db) : CommandReturn × State Db :=
  (reply.ret, { reply.after client command st with
    authorizer := authorizer, currentCommand := none })

def Reply.ofError (error : GError) (db : Db) : Reply Db :=
  { lines := [], error := some error, db := db }

variable {host}

theorem refuse_eq (client : Nat) (error : GError) (st : State Db) (command : Bytes)
    (current : st.currentCommand = some command) :
    refuse client error.code error.message st
      = .ok ((Reply.ofError error st.db).returned client command st.authorizer st) := by
  have answered := commandError_eq client error st command st.db current
  rw [refuse, answered]
  rfl

/-- An error that stands in one line when the command word does. -/
def OneLine (name : Bytes) (command : Bytes) (error : GError) : Prop :=
  newline ∉ name → newline ∉ command ∧ newline ∉ error.message

theorem quoted_quiet (text : String) (name : Bytes) (fixed : newline ∉ lit text)
    (plain : newline ∉ name) : newline ∉ lit text ++ name ++ lit "\"" := by
  have last : newline ∉ lit "\"" := by decide
  simp [fixed, plain, last]

theorem commandCheckRequest_accepts (entry : Command Db) (arity client perm : Nat)
    (argv : List Bytes) (st : State Db) (min : entry.min = arity) (max : entry.max = arity)
    (permitted : entry.permission = perm &&& entry.permission)
    (fits : argv.length = arity + 1) :
    commandCheckRequest entry client perm argv st = .ok (true, st) := by
  rw [commandCheckRequest]
  rw [if_neg (not_not_intro permitted), min, max, fits, if_neg (by omega), if_neg (by simp),
    if_neg (by simp), if_neg (by simp)]

theorem commandCheckRequest_refuses (entry : Command Db) (arity client perm : Nat)
    (argv : List Bytes) (st : State Db) (min : entry.min = arity) (max : entry.max = arity)
    (named : entry.cmd = argv.headD []) (current : st.currentCommand = some entry.cmd)
    (refused : ¬ (entry.permission = perm &&& entry.permission ∧ argv.length = arity + 1)) :
    ∃ error, OneLine (argv.headD []) entry.cmd error ∧
      commandCheckRequest entry client perm argv st
        = .ok (false, (Reply.ofError error st.db).after client entry.cmd st) := by
  have answered (error : GError) := commandError_eq client error st entry.cmd st.db current
  rw [commandCheckRequest]
  by_cases permitted : entry.permission = perm &&& entry.permission
  · have misfits : (arity : Int) + 1 ≠ argv.length := by
      intro fits
      exact refused ⟨permitted, by omega⟩
    rw [if_neg (not_not_intro permitted), min, max, if_neg (by omega), if_pos ⟨rfl, misfits⟩]
    refine ⟨⟨ackErrorArg, lit "wrong number of arguments for \"" ++ argv.headD [] ++ lit "\""⟩,
      fun plain => ⟨named ▸ plain, quoted_quiet _ _ (by decide) plain⟩, ?_⟩
    rw [show commandError client ackErrorArg _ st = _ from answered ⟨ackErrorArg, _⟩]
    rfl
  · rw [if_pos permitted]
    refine ⟨⟨ackErrorPermission, lit "you don't have permission for \"" ++ entry.cmd ++ lit "\""⟩,
      fun plain => ⟨named ▸ plain, quoted_quiet _ _ (by decide) (named ▸ plain)⟩, ?_⟩
    rw [show commandError client ackErrorPermission _ st = _ from answered ⟨ackErrorPermission, _⟩]
    rfl

def unknownCommand (name : Bytes) : GError :=
  ⟨ackErrorUnknown, lit "unknown command \"" ++ name ++ lit "\""⟩

theorem commandCheckedLookup_unknown (client perm : Nat) (name : Bytes) (args : List Bytes)
    (st : State Db) (unknown : commandLookup host name = none) :
    commandCheckedLookup host client perm (name :: args) st
      = .ok (none, (Reply.ofError (unknownCommand name) st.db).after client [] st) := by
  let current : State Db := { st with currentCommand := some [] }
  have answered : commandError client ackErrorUnknown (lit "unknown command \"" ++ name ++ lit "\"")
      current = .ok ((Reply.ofError (unknownCommand name) st.db).after client [] current) :=
    commandError_eq client (unknownCommand name) current [] st.db rfl
  rw [commandCheckedLookup, unknown]
  dsimp only
  rw [answered]
  rfl

theorem commandCheckedLookup_refuses (client perm : Nat) (argv : List Bytes) (st : State Db)
    (given : argv ≠ []) (refused : ∀ entry, ¬ Accepted host perm argv entry) :
    ∃ command error, OneLine (argv.headD []) command error ∧
      commandCheckedLookup host client perm argv st
        = .ok (none, (Reply.ofError error st.db).after client command st) := by
  rcases List.exists_cons_of_ne_nil given with ⟨name, rest, rfl⟩
  cases found : commandLookup host name with
  | none =>
      exact ⟨[], unknownCommand name,
        fun plain => ⟨by simp, quoted_quiet _ name (by decide) plain⟩,
        commandCheckedLookup_unknown client perm name rest st found⟩
  | some entry =>
      rcases commandLookup_finds host name entry found with ⟨listed, named⟩
      rcases commands_kind host entry listed with ⟨replier, kind⟩
      rcases kind.arity with ⟨arity, min, max⟩
      have misfit : ¬ (entry.permission = perm &&& entry.permission ∧
          (name :: rest).length = arity + 1) := by
        rintro ⟨permitted, fits⟩
        exact refused entry ⟨found, permitted, by rw [fits, min]; rfl⟩
      obtain ⟨error, oneLine, answered⟩ := commandCheckRequest_refuses entry arity client perm
        (name :: rest) { st with currentCommand := some entry.cmd } min max named rfl misfit
      refine ⟨entry.cmd, error, oneLine, ?_⟩
      rw [commandCheckedLookup, found]
      dsimp only
      rw [answered]
      rfl

theorem commandCheckedLookup_accepts (client perm : Nat) (argv : List Bytes) (st : State Db)
    (given : argv ≠ []) (entry : Command Db) (accepted : Accepted host perm argv entry) :
    commandCheckedLookup host client perm argv st
      = .ok (some entry, { st with currentCommand := some entry.cmd }) := by
  rcases List.exists_cons_of_ne_nil given with ⟨name, rest, rfl⟩
  have found : commandLookup host name = some entry := accepted.found
  rcases commandLookup_finds host _ entry found with ⟨listed, named⟩
  rcases commands_kind host entry listed with ⟨replier, kind⟩
  rcases kind.arity with ⟨arity, min, max⟩
  have fits : (name :: rest).length = arity + 1 := by
    have counted := accepted.arity
    rw [min] at counted
    exact_mod_cast counted
  have checked := commandCheckRequest_accepts entry arity client perm (name :: rest)
    { st with currentCommand := some entry.cmd } min max accepted.permitted fits
  rw [commandCheckedLookup, found]
  dsimp only
  rw [checked]
  rfl

theorem processRequest_refused (authorizes : Authorizes host) (client : Nat) (argv : List Bytes)
    (st : State Db) (given : argv ≠ [])
    (refused : ∀ entry, ¬ Accepted host (st.perm client) argv entry) :
    ∃ command error, OneLine (argv.headD []) command error ∧
      processRequest host client argv st
        = .ok ((Reply.ofError error st.db).returned client command none st) := by
  obtain ⟨command, error, oneLine, looked⟩ := commandCheckedLookup_refuses client (st.perm client)
    argv { st with authorizer := some client } given refused
  refine ⟨command, error, oneLine, ?_⟩
  rw [processRequest, authorizes.set, authorizes.set]
  dsimp only at looked ⊢
  rw [looked]
  dsimp only [bind, Except.bind, runHandler]
  rw [authorizes.set]
  rfl

theorem processRequest_accepted (authorizes : Authorizes host) (client : Nat) (argv : List Bytes)
    (st : State Db) (given : argv ≠ []) (entry : Command Db)
    (accepted : Accepted host (st.perm client) argv entry) (replier : Replier Db)
    (replies : Replies entry.handler replier) :
    processRequest host client argv st
      = (replier (commandAuthorizer (st.perm client)) argv st.db).map
          fun reply => reply.returned client entry.cmd none st := by
  have looked := commandCheckedLookup_accepts client (st.perm client) argv
    { st with authorizer := some client } given entry accepted
  have replied := replies client argv
    { st with authorizer := some client, currentCommand := some entry.cmd } entry.cmd rfl
  rw [processRequest, authorizes.set, authorizes.set]
  dsimp only at looked ⊢
  rw [looked]
  change entry.handler client argv _ >>= _ = _
  rw [replied]
  change (replier (commandAuthorizer (st.perm client)) argv st.db).map _ >>= _ = _
  cases replier (commandAuthorizer (st.perm client)) argv st.db with
  | error fault => rfl
  | ok reply =>
      dsimp only [bind, Except.bind, Except.map]
      rw [authorizes.set]
      rfl

/-- Everything `command_process` can do with a line: answer an error of its own, or what the
handler of an accepted request replies. -/
inductive Outcome (host : Host Db) (client : Nat) (line : Bytes) (st : State Db) :
    Except Fault (CommandReturn × State Db) → Prop where
  | refused (command : Bytes) (error : GError) (authorizer : Option Nat)
      (oneLine : newline ∉ line → newline ∉ command ∧ newline ∉ error.message)
      (left : authorizer = st.authorizer ∨ authorizer = none)
      (notAccepted : ∀ argv entry, readRequest line = .request argv →
        ¬ Accepted host (st.perm client) argv entry) :
      Outcome host client line st
        (.ok ((Reply.ofError error st.db).returned client command authorizer st))
  | replied (argv : List Bytes) (entry : Command Db) (tokenized : readRequest line = .request argv)
      (accepted : Accepted host (st.perm client) argv entry) (replier : Replier Db)
      (kind : CommandKind host entry replier) :
      Outcome host client line st
        ((replier (commandAuthorizer (st.perm client)) argv st.db).map
          fun reply => reply.returned client entry.cmd none st)

theorem processed_outcome (authorizes : Authorizes host) (client : Nat) (line : Bytes)
    (st : State Db) : Outcome host client line st (processed host client st (readRequest line)) := by
  have plain := readRequest_plain line
  have given := readRequest_given line
  cases tokenized : readRequest line with
  | noCommand =>
      rw [processed, refuse_eq client ⟨ackErrorUnknown, lit "No command given"⟩ _ [] rfl]
      exact .refused [] _ st.authorizer (fun _ => by decide) (Or.inl rfl) (by simp [tokenized])
  | badWord message =>
      rw [tokenized] at plain
      rw [processed, refuse_eq client ⟨ackErrorUnknown, message⟩ _ [] rfl]
      exact .refused [] _ st.authorizer (fun oneLine => ⟨by simp, plain oneLine⟩) (Or.inl rfl)
        (by simp [tokenized])
  | tooMany name =>
      rw [tokenized] at plain
      rw [processed, refuse_eq client ⟨ackErrorArg, lit "Too many arguments"⟩ _ name rfl]
      exact .refused name _ st.authorizer (fun oneLine => ⟨plain oneLine, by decide⟩) (Or.inl rfl)
        (by simp [tokenized])
  | badParam name message =>
      rw [tokenized] at plain
      rw [processed, refuse_eq client ⟨ackErrorArg, message⟩ _ name rfl]
      exact .refused name _ st.authorizer plain (Or.inl rfl) (by simp [tokenized])
  | request argv =>
      rw [tokenized] at plain
      have nonempty := given argv tokenized
      let current : State Db := { st with currentCommand := some (argv.headD []) }
      rw [processed]
      by_cases accepted : ∃ entry, Accepted host (st.perm client) argv entry
      · rcases accepted with ⟨entry, accepted⟩
        have listed := (commandLookup_finds host _ entry accepted.found).1
        rcases commands_kind host entry listed with ⟨replier, kind⟩
        rw [processRequest_accepted authorizes client argv current nonempty entry accepted replier
          kind.replies]
        exact .replied argv entry tokenized accepted replier kind
      · have refused : ∀ entry, ¬ Accepted host (st.perm client) argv entry := not_exists.mp accepted
        obtain ⟨command, error, oneLine, answered⟩ :=
          processRequest_refused authorizes client argv current nonempty refused
        have headPlain : newline ∉ line → newline ∉ argv.headD [] := by
          intro linePlain
          rcases List.exists_cons_of_ne_nil nonempty with ⟨name, rest, rfl⟩
          exact plain linePlain name List.mem_cons_self
        rw [answered]
        refine .refused command error none (fun linePlain => oneLine (headPlain linePlain))
          (Or.inr rfl) fun argv' entry same => ?_
        rw [tokenized] at same
        cases same
        exact refused entry

theorem commandProcess_outcome (authorizes : Authorizes host) (client : Nat) (line : Bytes)
    (noNul : (0 : UInt8) ∉ line) (st : State Db) :
    Outcome host client line st (commandProcess host client line st) := by
  rw [commandProcess_eq host client line st noNul]
  exact processed_outcome authorizes client line st

end Process

end Mpdcron.Stats
