import Mpdcron.Lib.Triple
import Mpdcron.Stats.Process

/-! Clients, their permissions and the database over whole runs of the daemon. -/

namespace Mpdcron.Stats

open CString

section Permissions

variable {Db Tables : Type}

/-- A connection is accepted, a client's line is read, or the daemon itself processes a song
and writes to the database. -/
inductive Event (Db : Type) where
  | connect
  | line (client : Nat) (text : Bytes)
  | dbProcess (write : Db → Db)

/-- The clients accepted so far, the lines that `command_process` was called with, and the
state. -/
structure Daemon (Db : Type) where
  clients : Nat
  received : List (Nat × Bytes)
  st : State Db

variable (host : Host Db) (defaultPermissions : Nat)

/-- What `event_incoming` does to a client's permissions. -/
def Daemon.connect (daemon : Daemon Db) : Daemon Db :=
  { daemon with
    clients := daemon.clients + 1
    st := { daemon.st with
      perm := Function.update daemon.st.perm daemon.clients defaultPermissions } }

/-- `command_process` sees a line up to its first NUL. -/
def Daemon.line (client : Nat) (text : Bytes) (daemon : Daemon Db) : Except Fault (Daemon Db) :=
  if client < daemon.clients then do
    let (_, st) ← commandProcess host client (upToNul text) daemon.st
    return { daemon with received := daemon.received ++ [(client, upToNul text)], st := st }
  else .ok daemon

def daemonStep (daemon : Daemon Db) : Event Db → Except Fault (Daemon Db)
  | .connect => .ok (daemon.connect defaultPermissions)
  | .line client text => daemon.line host client text
  | .dbProcess write => .ok { daemon with st := { daemon.st with db := write daemon.st.db } }

def daemonStart (db : Db) : Daemon Db :=
  { clients := 0
    received := []
    st := { perm := fun _ => 0, output := fun _ => [], flushes := fun _ => 0
            currentCommand := none, authorizer := none, db := db } }

def daemonRun (db : Db) (events : List (Event Db)) : Except Fault (Daemon Db) :=
  events.foldlM (daemonStep host defaultPermissions) (daemonStart db)

/-- The bits of the password that a request sends. -/
def requestBits : List Bytes → Nat
  | [name, password] =>
      if name = lit "password" then (host.passwords.lookup password).getD 0 else 0
  | _ => 0

/-- The bits of the password that a line sends. -/
def passwordBits (line : Bytes) : Nat :=
  match readRequest line with
  | .request argv => requestBits host argv
  | _ => 0

/-- The bits of all the passwords that one client sent. -/
def ownPasswords (client : Nat) (received : List (Nat × Bytes)) : Nat :=
  received.foldl
    (fun perm sent => if sent.1 = client then perm ||| passwordBits host sent.2 else perm) 0

/-- A prepared SELECT leaves the tables as they are. -/
def SelectsOnly (sqlite : Sqlite Db) (contents : Db → Tables) : Prop :=
  ∀ allowed rest db execution, sqlite.prepare allowed (lit "select " ++ rest) db = .ok execution →
    contents execution.final = contents db

/-- The client holds `PERMISSION_UPDATE` and its line asks for a command that needs it. -/
def MayUpdate (client : Nat) (line : Bytes) (st : State Db) : Prop :=
  st.perm client &&& permissionUpdate ≠ 0 ∧ ∃ argv entry, readRequest line = .request argv ∧
    Accepted host (st.perm client) argv entry ∧ entry.permission = permissionUpdate

variable {host defaultPermissions}

theorem commands_length : (commands host).length = 50 := rfl

theorem password_found : commandLookup host (lit "password")
    = some ⟨lit "password", permissionNone, 1, 1, handlePassword host⟩ := by
  rw [commandLookup, commands_length]
  rfl

theorem password_accepted (perm : Nat) (password : Bytes) :
    Accepted host perm [lit "password", password]
      ⟨lit "password", permissionNone, 1, 1, handlePassword host⟩ where
  found := password_found
  permitted := (Nat.and_zero perm).symm
  arity := rfl

theorem requestBits_other (argv : List Bytes) (other : argv.headD [] ≠ lit "password") :
    requestBits host argv = 0 := by
  match argv with
  | [name, password] => exact if_neg other
  | [] => rfl
  | [name] => rfl
  | name :: password :: more :: rest => rfl

theorem Listing.reply_keeps (contents : Db → Tables) (selects : SelectsOnly host.sqlite contents)
    (listing : Listing) (allowed : Action → Bool) (argv : List Bytes) (db : Db) (reply : Reply Db)
    (replied : listing.reply host.sqlite allowed argv db = .ok reply) :
    contents reply.db = contents db ∧ reply.grant = 0 := by
  match argv with
  | [name, expr] =>
      rw [Listing.reply] at replied
      cases prepared : host.sqlite.prepare allowed (selectText listing.what listing.tbl expr) db with
      | error errmsg =>
          rw [prepared] at replied
          cases replied
          exact ⟨rfl, rfl⟩
      | ok execution =>
          rw [prepared] at replied
          have kept : contents execution.final = contents db := by
            apply selects allowed (listing.what ++ lit " from " ++ listing.tbl.name
              ++ lit " where " ++ expr ++ lit " ;") db
            rw [← prepared, selectText]
            simp only [List.append_assoc]
          dsimp only at replied
          cases failure : execution.failure with
          | some errmsg =>
              rw [failure] at replied
              cases replied
              exact ⟨kept, rfl⟩
          | none =>
              rw [failure] at replied
              dsimp only at replied
              cases rows : execution.rows.reverse.mapM listing.rowLines with
              | error fault =>
                  rw [rows] at replied
                  cases replied
              | ok texts =>
                  rw [rows] at replied
                  cases replied
                  exact ⟨kept, rfl⟩
  | [] => cases replied
  | [name] => cases replied
  | name :: expr :: more :: rest => cases replied

theorem passwordReply_keeps (allowed : Action → Bool) (name password : Bytes) (db : Db)
    (reply : Reply Db) (replied : passwordReply host allowed [name, password] db = .ok reply) :
    reply.db = db ∧ reply.grant = (host.passwords.lookup password).getD 0 := by
  rw [passwordReply] at replied
  by_cases known : (host.passwords.lookup password).getD 0 ≠ 0
  · rw [if_pos known] at replied
    cases replied
    exact ⟨rfl, rfl⟩
  · rw [if_neg known] at replied
    cases replied
    exact ⟨rfl, (not_not.mp known).symm⟩

/-- What an accepted request grants, and that only a command that needs the permission to
update changes the tables. -/
theorem CommandKind.keeps (contents : Db → Tables) (selects : SelectsOnly host.sqlite contents)
    (entry : Command Db) (replier : Replier Db) (kind : CommandKind host entry replier) (perm : Nat)
    (argv : List Bytes) (accepted : Accepted host perm argv entry) (db : Db) (reply : Reply Db)
    (replied : replier (commandAuthorizer perm) argv db = .ok reply) :
    reply.grant = requestBits host argv ∧
      (contents reply.db ≠ contents db → entry.permission = permissionUpdate) := by
  have named : entry.cmd = argv.headD [] := (commandLookup_finds host _ entry accepted.found).2
  have arity := accepted.arity
  cases kind with
  | listing cmd listing handler listed replies =>
      have other : cmd ≠ lit "password" := by
        rintro rfl
        exact absurd (listing_named host _ listing listed) (by decide)
      have kept := listing.reply_keeps contents selects _ argv db reply replied
      rw [requestBits_other argv (named ▸ other)]
      exact ⟨kept.2, fun changed => absurd kept.1 changed⟩
  | removal cmd tbl suffix handler listed replies =>
      have other : cmd ≠ lit "password" := by
        rintro rfl
        exact absurd (removal_named _ tbl suffix listed) (by decide)
      rw [requestBits_other argv (named ▸ other)]
      exact ⟨tagReply_noGrant _ _ argv db reply replied, fun _ => rfl⟩
  | update cmd arity handler replier other replies answers =>
      rw [requestBits_other argv (named ▸ other.2.2)]
      exact ⟨answers.noGrant _ argv db reply replied, fun _ => rfl⟩
  | password =>
      have two : argv.length = 2 := by
        simp only at arity
        omega
      rcases List.length_eq_two.mp two with ⟨name, password, rfl⟩
      have kept := passwordReply_keeps _ name password db reply replied
      have bits : requestBits host [name, password] = (host.passwords.lookup password).getD 0 :=
        if_pos named.symm
      exact ⟨kept.2.trans bits.symm, fun changed => absurd (congrArg contents kept.1) changed⟩

/-- Nothing that is refused sends a password. -/
theorem passwordBits_refused (perm : Nat) (line : Bytes)
    (refused : ∀ argv entry, readRequest line = .request argv → ¬ Accepted host perm argv entry) :
    passwordBits host line = 0 := by
  rw [passwordBits]
  cases tokenized : readRequest line with
  | noCommand => rfl
  | badWord message => rfl
  | tooMany name => rfl
  | badParam name message => rfl
  | request argv =>
      dsimp only
      match argv with
      | [name, password] =>
          rw [requestBits]
          by_cases asked : name = lit "password"
          · subst asked
            exact absurd (password_accepted perm password) (refused _ _ tokenized)
          · exact if_neg asked
      | [] => rfl
      | [name] => rfl
      | name :: password :: more :: rest => rfl

/-- What one call of `command_process` can do to the permissions, the authorizer and the
tables. -/
theorem commandProcess_keeps (authorizes : Authorizes host) (contents : Db → Tables)
    (selects : SelectsOnly host.sqlite contents) (client : Nat) (line : Bytes)
    (noNul : (0 : UInt8) ∉ line) (st after : State Db) (ret : CommandReturn)
    (processed : commandProcess host client line st = .ok (ret, after))
    (clear : st.authorizer = none) :
    after.authorizer = none ∧
      after.perm = Function.update st.perm client (st.perm client ||| passwordBits host line) ∧
      (contents after.db ≠ contents st.db → MayUpdate host client line st) := by
  have outcome := commandProcess_outcome authorizes client line noNul st
  rw [processed] at outcome
  generalize result : (Except.ok (ret, after) : Except Fault (CommandReturn × State Db)) = processing
    at outcome
  cases outcome with
  | refused command error authorizer oneLine left notAccepted =>
      cases result
      rw [passwordBits_refused (st.perm client) line notAccepted]
      refine ⟨?_, rfl, fun changed => absurd rfl changed⟩
      rcases left with unchanged | removed
      · exact unchanged.trans clear
      · exact removed
  | replied argv entry tokenized accepted replier kind =>
      cases replied : replier (commandAuthorizer (st.perm client)) argv st.db with
      | error fault =>
          rw [replied] at result
          cases result
      | ok reply =>
          rw [replied] at result
          cases result
          obtain ⟨granted, changes⟩ :=
            kind.keeps contents selects entry replier _ argv accepted st.db reply replied
          have bits : passwordBits host line = reply.grant := by
            rw [passwordBits, tokenized, granted]
          rw [bits]
          refine ⟨rfl, rfl, fun changed => ?_⟩
          have needed := changes changed
          have holds := accepted.permitted
          rw [needed] at holds
          exact ⟨holds ▸ by decide, argv, entry, tokenized, accepted, needed⟩

variable (host) in
theorem ownPasswords_snoc (client sender : Nat) (line : Bytes) (received : List (Nat × Bytes)) :
    ownPasswords host client (received ++ [(sender, line)])
      = if sender = client then ownPasswords host client received ||| passwordBits host line
        else ownPasswords host client received := by
  rw [ownPasswords, List.foldl_concat]
  rfl

variable (host) in
theorem ownPasswords_silent (client : Nat) (received : List (Nat × Bytes))
    (silent : ∀ sent ∈ received, sent.1 ≠ client) : ownPasswords host client received = 0 := by
  induction received using List.reverseRecOn with
  | nil => rfl
  | append_singleton received sent ih =>
      have earlier := ih fun other inEarlier => silent other (List.mem_append_left _ inEarlier)
      have different := silent sent (by simp)
      rw [ownPasswords_snoc host client sent.1 sent.2 received, if_neg different, earlier]

variable (host defaultPermissions) in
/-- No authorizer is installed, and every client has its default permissions and those of
its own passwords. -/
structure Daemon.Safe (daemon : Daemon Db) : Prop where
  clear : daemon.st.authorizer = none
  own : ∀ client < daemon.clients,
    daemon.st.perm client = defaultPermissions ||| ownPasswords host client daemon.received
  known : ∀ sent ∈ daemon.received, sent.1 < daemon.clients

theorem daemonStart_safe (db : Db) : (daemonStart db).Safe host defaultPermissions where
  clear := rfl
  own := by
    intro client inTable
    exact absurd inTable (Nat.not_lt_zero client)
  known := by simp [daemonStart]

theorem connect_safe (daemon : Daemon Db) (safe : daemon.Safe host defaultPermissions) :
    (daemon.connect defaultPermissions).Safe host defaultPermissions where
  clear := safe.clear
  own := by
    intro client inTable
    by_cases fresh : client = daemon.clients
    · have silent : ∀ sent ∈ daemon.received, sent.1 ≠ client := by
        intro sent inReceived
        have earlier := safe.known sent inReceived
        omega
      have none : ownPasswords host client daemon.received = 0 :=
        ownPasswords_silent host client daemon.received silent
      change Function.update daemon.st.perm daemon.clients defaultPermissions client
        = defaultPermissions ||| ownPasswords host client daemon.received
      rw [none, fresh, Function.update_self, Nat.or_zero]
    · have earlier : client < daemon.clients := by
        have bound : client < daemon.clients + 1 := inTable
        omega
      exact (Function.update_of_ne fresh _ _).trans (safe.own client earlier)
  known := fun sent inReceived => Nat.lt_succ_of_lt (safe.known sent inReceived)

theorem line_safe (authorizes : Authorizes host) (contents : Db → Tables)
    (selects : SelectsOnly host.sqlite contents) (client : Nat) (text : Bytes) (daemon : Daemon Db)
    (safe : daemon.Safe host defaultPermissions) :
    Triple.Holds (fun _ => True) (Daemon.Safe host defaultPermissions)
      (daemon.line host client text) := by
  rw [Daemon.line]
  by_cases inTable : client < daemon.clients
  · rw [if_pos inTable]
    cases processed : commandProcess host client (upToNul text) daemon.st with
    | error fault => trivial
    | ok result =>
        have kept := commandProcess_keeps authorizes contents selects client (upToNul text)
          (upToNul_noNul text) daemon.st result.2 result.1 processed safe.clear
        refine ⟨kept.1, fun other otherInTable => ?_, fun sent inReceived => ?_⟩
        · change result.2.perm other = _ ||| ownPasswords host other (_ ++ [_])
          rw [kept.2.1, ownPasswords_snoc]
          by_cases same : client = other
          · rw [if_pos same, ← same, Function.update_self, safe.own client inTable, Nat.or_assoc]
          · rw [if_neg same, Function.update_of_ne (Ne.symm same), safe.own other otherInTable]
        · rcases List.mem_append.mp inReceived with earlier | last
          · exact safe.known sent earlier
          · rw [List.mem_singleton.mp last]
            exact inTable
  · rw [if_neg inTable]
    exact safe

theorem daemonRun_safe (authorizes : Authorizes host) (contents : Db → Tables)
    (selects : SelectsOnly host.sqlite contents) (db : Db) (events : List (Event Db))
    (daemon : Daemon Db) (run : daemonRun host defaultPermissions db events = .ok daemon) :
    daemon.Safe host defaultPermissions := by
  have step : ∀ (past : List (Event Db)) (daemon : Daemon Db) (event : Event Db),
      daemon.Safe host defaultPermissions →
        Triple.Holds (fun _ => True) (Daemon.Safe host defaultPermissions)
          (daemonStep host defaultPermissions daemon event) := by
    intro past daemon event safe
    cases event with
    | connect => exact connect_safe daemon safe
    | line client text => exact line_safe authorizes contents selects client text daemon safe
    | dbProcess write => exact ⟨safe.clear, safe.own, safe.known⟩
  have held := Triple.Holds.foldlM (fun _ => Daemon.Safe host defaultPermissions) step events []
    (daemonStart db) (daemonStart_safe db)
  rw [daemonRun] at run
  rw [run] at held
  exact held

/-- In every run: no authorizer stays installed, the permissions of a client are its default
and its own passwords, and a line changes the tables only when its client may update. -/
theorem permissions_safe (contents : Db → Tables) (authorizes : Authorizes host)
    (selects : SelectsOnly host.sqlite contents) (db : Db) (events : List (Event Db))
    (daemon : Daemon Db) (run : daemonRun host defaultPermissions db events = .ok daemon) :
    daemon.st.authorizer = none ∧
      (∀ client < daemon.clients,
        daemon.st.perm client = defaultPermissions ||| ownPasswords host client daemon.received) ∧
      ∀ client text ret after,
        commandProcess host client (upToNul text) daemon.st = .ok (ret, after) →
          after.authorizer = none ∧
            (contents after.db ≠ contents daemon.st.db →
              MayUpdate host client (upToNul text) daemon.st) := by
  have safe := daemonRun_safe authorizes contents selects db events daemon run
  refine ⟨safe.clear, safe.own, fun client text ret after processed => ?_⟩
  have kept := commandProcess_keeps authorizes contents selects client (upToNul text)
    (upToNul_noNul text) daemon.st after ret processed safe.clear
  exact ⟨kept.1, kept.2.2⟩

/-- One song with a kill count: a SELECT of it gives one row, and the kill is its UPDATE. -/
def killCount : Sqlite Nat where
  prepare allowed sql kills :=
    if lit "select " <+: sql then
      .ok (.row [⟨1, 1, some (lit "1")⟩, ⟨0, 0, some (lit "a.ogg")⟩] kills (.done kills))
    else if sql = lit "update song set kill = kill + 1 where id=1 ;" then
      if allowed .update then .ok (.done (kills + 1)) else .error (lit "not authorized")
    else .error (lit "near \"x\": syntax error")
  changes _ := 1
  reset _ kills := .ok kills
  runMaint _ _ kills := .done kills
  setAuthorizer _ _ := .ok ()

def killHost : Host Nat where
  sqlite := killCount
  passwords := [(lit "secret", permissionUpdate)]
  strftime _ := none

/-- The second client sends the password, the first does not. -/
def killEvents : List (Event Nat) :=
  [.connect, .connect, .line 0 (lit "list id=1"), .line 1 (lit "password secret"),
    .line 1 (lit "kill id=1")]

theorem killCount_selects : SelectsOnly killCount id := by
  intro allowed rest kills execution prepared
  have isSelect : lit "select " <+: lit "select " ++ rest := List.prefix_append _ _
  simp only [killCount, if_pos isSelect] at prepared
  cases prepared
  rfl

theorem permissions_safe_kill :
    ∃ daemon, daemonRun killHost permissionSelect 0 killEvents = .ok daemon ∧ daemon.st.db = 1 ∧
      daemon.st.authorizer = none ∧
      (∀ client < daemon.clients, daemon.st.perm client
        = permissionSelect ||| ownPasswords killHost client daemon.received) ∧
      ∀ client text ret after,
        commandProcess killHost client (upToNul text) daemon.st = .ok (ret, after) →
          after.authorizer = none ∧
            (after.db ≠ daemon.st.db → MayUpdate killHost client (upToNul text) daemon.st) := by
  have reached : (daemonRun killHost permissionSelect 0 killEvents).map (fun daemon => daemon.st.db)
      = .ok 1 := rfl
  cases run : daemonRun killHost permissionSelect 0 killEvents with
  | error fault =>
      rw [run] at reached
      cases reached
  | ok daemon =>
      rw [run] at reached
      exact ⟨daemon, rfl, Except.ok.inj reached,
        permissions_safe id (fun _ _ => rfl) killCount_selects 0 killEvents daemon run⟩

end Permissions

end Mpdcron.Stats
