import Mpdcron.Lib.OutputStream
import Mpdcron.Stats.Permission
import Mpdcron.Stats.ServerClients

/-! The stats server with the output streams of its connections: what arrives of the answers
when lines are read while a flush is outstanding. -/

namespace Mpdcron.Stats

open CString

/-- `GREETING` -/
def greeting : Bytes := lit "OK MPDCRON 0.1\n"

/-- The table with its callbacks, the output stream of each connection, what the commands
change, and the connections whose client the callback of a refused flush has removed. -/
structure Service (Db : Type) where
  server : Server
  streams : Nat → OutputStream
  st : State Db
  dropped : List Nat

inductive ServiceEvent (Db : Type) where
  | incoming
  | flushEnds (callback : Nat) (succeeded : Bool)
  | flushRefused (callback : Nat)
  | readLine (callback : Nat) (line : Option Bytes)
  | dbProcess (write : Db → Db)

section Service

variable {Db : Type} (host : Host Db) (conf : ServerConf)

/-- `event_incoming` -/
def Service.incoming (service : Service Db) : Service Db :=
  if service.server.numClients ≥ conf.maxConnections then service
  else
    let conn := service.server.accepted.length
    { service with
      server := eventIncoming conf service.server
      streams := Function.update service.streams conn (OutputStream.opened.send greeting 1)
      st := { service.st with
        perm := Function.update service.st.perm conn conf.defaultPermissions } }

/-- The pending callback at `index`, if it is one of `event_flush`. -/
def Service.flushAt (service : Service Db) (index : Nat) : Option Callback :=
  service.server.callbacks[index]?.filter (·.kind = .eventFlush)

/-- The flush that is outstanding on the callback's stream has ended. -/
def Service.flushEnds (index : Nat) (succeeded : Bool) (service : Service Db) : Service Db :=
  match service.flushAt index with
  | none => service
  | some callback =>
      if (service.streams callback.conn).flushing then
        { service with
          server := serverStep conf service.server (.flush index succeeded)
          streams := Function.update service.streams callback.conn
            (service.streams callback.conn).flushed }
      else service

/-- A flush was refused on the callback's stream. -/
def Service.flushRefused (index : Nat) (service : Service Db) : Service Db :=
  match service.flushAt index with
  | none => service
  | some callback =>
      if 0 < (service.streams callback.conn).refused then
        { service with
          server := serverStep conf service.server (.flush index false)
          streams := Function.update service.streams callback.conn
            (service.streams callback.conn).refusalReported
          dropped := service.dropped ++
            ((service.server.clients.lookup callback.clientid).map Client.conn).toList }
      else service

/-- The client that `event_read_line` finds for the pending callback at `index`. -/
def Service.reader (service : Service Db) (index : Nat) : Option Client :=
  (service.server.callbacks[index]?.filter (·.kind = .eventReadLine)).bind
    fun callback => service.server.clients.lookup callback.clientid

/-- `event_read_line` once `command_process` has returned: all that it wrote goes to the
client's stream, and then its flushes. -/
def Service.answer (index : Nat) (client : Client) (after : State Db) (service : Service Db) :
    Service Db :=
  let text := (after.output client.conn).drop (service.st.output client.conn).length
  let flushes := after.flushes client.conn - service.st.flushes client.conn
  { service with
    server := serverStep conf service.server
      (.readLine index (some { perm := after.perm client.conn, flushes := flushes }))
    streams := Function.update service.streams client.conn
      ((service.streams client.conn).send text flushes)
    st := after }

/-- `event_read_line` -/
def Service.readLine (index : Nat) (line : Option Bytes) (service : Service Db) :
    Except Fault (Service Db) :=
  match service.reader index, line with
  | some client, some text => do
      let (_, after) ← commandProcess host client.conn (upToNul text) service.st
      return service.answer conf index client after
  | _, _ =>
      .ok { service with server := serverStep conf service.server (.readLine index none) }

def serviceStep (service : Service Db) : ServiceEvent Db → Except Fault (Service Db)
  | .incoming => .ok (service.incoming conf)
  | .flushEnds index succeeded => .ok (service.flushEnds conf index succeeded)
  | .flushRefused index => .ok (service.flushRefused conf index)
  | .readLine index line => service.readLine host conf index line
  | .dbProcess write =>
      .ok { service with st := { service.st with db := write service.st.db } }

def serviceStart (db : Db) : Service Db :=
  { server := serverStart
    streams := fun _ => OutputStream.opened
    st := (daemonStart db).st
    dropped := [] }

def serviceRun (db : Db) (events : List (ServiceEvent Db)) : Except Fault (Service Db) :=
  events.foldlM (serviceStep host conf) (serviceStart db)

/-- No flush is outstanding for a client when a line of it is processed. -/
def Service.Idle (service : Service Db) : ServiceEvent Db → Prop
  | .readLine index (some _) => ∀ client, service.reader index = some client →
      (service.streams client.conn).flushing = false
  | _ => True

/-- Each accepted connection has been written the greeting and then all that was scheduled for
it, and no client was removed because a flush was refused. -/
structure Service.AnswersKept (service : Service Db) : Prop where
  written : ∀ conn < service.server.accepted.length,
    (service.streams conn).written = greeting ++ service.st.output conn
  dropped : service.dropped = []

theorem commandProcess_sends (authorizes : Authorizes host) (client : Nat) (line : Bytes)
    (noNul : (0 : UInt8) ∉ line) (st after : State Db) (ret : CommandReturn)
    (processed : commandProcess host client line st = .ok (ret, after)) :
    ∃ text ≠ [], after.output = Function.update st.output client (st.output client ++ text) ∧
      after.flushes client = st.flushes client + 1 := by
  have outcome := commandProcess_outcome authorizes client line noNul st
  rw [processed] at outcome
  have sends (reply : Reply Db) (command : Bytes) (authorizer : Option Nat) :
      ∃ text ≠ [], (reply.returned client command authorizer st).2.output
          = Function.update st.output client (st.output client ++ text) ∧
        (reply.returned client command authorizer st).2.flushes client = st.flushes client + 1 := by
    refine ⟨sent (reply.lines ++ [reply.finalLine command]), ?_, rfl, Function.update_self ..⟩
    rw [sent_append]
    simp [sent]
  generalize result : (Except.ok (ret, after) : Except Fault (CommandReturn × State Db)) = processing
    at outcome
  cases outcome with
  | refused command error authorizer oneLine left notAccepted =>
      cases result
      exact sends _ command authorizer
  | replied argv entry tokenized accepted replier kind =>
      cases replied : replier (commandAuthorizer (st.perm client)) argv st.db with
      | error fault =>
          rw [replied] at result
          cases result
      | ok reply =>
          rw [replied] at result
          cases result
          exact sends reply entry.cmd none

theorem complete_accepted (server : Server) (index : Nat) (kind : CallbackKind)
    (callback : Nat → Server → Server)
    (kept : ∀ clientid next, (callback clientid next).accepted = next.accepted) :
    (server.complete index kind callback).accepted = server.accepted := by
  rw [Server.complete]
  split
  · rfl
  · split_ifs
    · exact kept _ _
    · rfl

theorem serverStep_flush_accepted (server : Server) (index : Nat) (flushed : Bool) :
    (serverStep conf server (.flush index flushed)).accepted = server.accepted := by
  refine complete_accepted server index _ _ fun clientid next => ?_
  rw [eventFlush]
  split
  · rfl
  · split_ifs <;> rfl

theorem serverStep_readLine_accepted (server : Server) (index : Nat) (line : Option Processed) :
    (serverStep conf server (.readLine index line)).accepted = server.accepted := by
  refine complete_accepted server index _ _ fun clientid next => ?_
  rw [eventReadLine]
  split
  · rfl
  · cases line <;> rfl

theorem Service.reader_known (service : Service Db) (formed : WellFormed service.server)
    (index : Nat) (client : Client) (found : service.reader index = some client) :
    client.conn < service.server.accepted.length := by
  rcases Option.bind_eq_some_iff.mp found with ⟨callback, -, lookup⟩
  exact (List.getElem?_eq_some_iff.mp (formed.client _ _ lookup).2).1

variable {host conf}

/-- What a step can do: open the stream of a new connection, answer a line of a client, or
change no stream's text. -/
inductive Service.Moves (service next : Service Db) (event : ServiceEvent Db) : Prop
  | opens (idle : service.Idle event)
      (accepted : next.server.accepted.length = service.server.accepted.length + 1)
      (streams : next.streams = Function.update service.streams service.server.accepted.length
        (OutputStream.opened.send greeting 1))
      (output : next.st.output = service.st.output) (dropped : next.dropped = service.dropped)
  | answers (client : Client) (text : Bytes) (nonempty : text ≠ [])
      (idle : service.Idle event ↔ (service.streams client.conn).flushing = false)
      (known : client.conn < service.server.accepted.length)
      (accepted : next.server.accepted.length = service.server.accepted.length)
      (streams : next.streams = Function.update service.streams client.conn
        ((service.streams client.conn).send text 1))
      (output : next.st.output = Function.update service.st.output client.conn
        (service.st.output client.conn ++ text))
      (dropped : next.dropped = service.dropped)
  | silent (idle : service.Idle event)
      (accepted : next.server.accepted.length = service.server.accepted.length)
      (written : ∀ conn, (next.streams conn).written = (service.streams conn).written)
      (output : next.st.output = service.st.output)
      (refused : (∀ conn, (service.streams conn).refused = 0) →
        (∀ conn, (next.streams conn).refused = 0) ∧ next.dropped = service.dropped)

theorem Service.incoming_moves (service : Service Db) :
    service.Moves (service.incoming conf) .incoming := by
  rw [Service.incoming]
  by_cases full : service.server.numClients ≥ conf.maxConnections
  · rw [if_pos full]
    exact .silent trivial rfl (fun _ => rfl) rfl fun quiet => ⟨quiet, rfl⟩
  · rw [if_neg full]
    refine .opens trivial ?_ rfl rfl rfl
    dsimp only
    rw [eventIncoming, if_neg full]
    exact List.length_append

theorem Service.flushEnds_moves (service : Service Db) (index : Nat) (succeeded : Bool) :
    service.Moves (service.flushEnds conf index succeeded) (.flushEnds index succeeded) := by
  rw [Service.flushEnds]
  split
  · exact .silent trivial rfl (fun _ => rfl) rfl fun quiet => ⟨quiet, rfl⟩
  · rename_i callback found
    split_ifs
    · refine .silent trivial (congrArg _ (serverStep_flush_accepted conf _ _ _)) (fun conn => ?_) rfl
        fun quiet => ⟨fun conn => ?_, rfl⟩
      · exact OutputStream.update_field OutputStream.written _ _ _ (OutputStream.flushed_written _) conn
      · have kept := OutputStream.update_field OutputStream.refused service.streams callback.conn _
          (OutputStream.flushed_refused _) conn
        exact kept.trans (quiet conn)
    · exact .silent trivial rfl (fun _ => rfl) rfl fun quiet => ⟨quiet, rfl⟩

theorem Service.flushRefused_moves (service : Service Db) (index : Nat) :
    service.Moves (service.flushRefused conf index) (.flushRefused index) := by
  rw [Service.flushRefused]
  split
  · exact .silent trivial rfl (fun _ => rfl) rfl fun quiet => ⟨quiet, rfl⟩
  · rename_i callback found
    split_ifs with waiting
    · refine .silent trivial (congrArg _ (serverStep_flush_accepted conf _ _ _)) (fun conn => ?_) rfl
        fun quiet => ?_
      · exact OutputStream.update_field OutputStream.written _ _ _
          (OutputStream.refusalReported_written _) conn
      · have none := quiet callback.conn
        omega
    · exact .silent trivial rfl (fun _ => rfl) rfl fun quiet => ⟨quiet, rfl⟩

/-- A line is processed, or there is no client or no line. -/
theorem Service.readLine_cases (service next : Service Db) (index : Nat) (line : Option Bytes)
    (stepped : service.readLine host conf index line = .ok next) :
    (∃ client text result, service.reader index = some client ∧ line = some text ∧
        commandProcess host client.conn (upToNul text) service.st = .ok result ∧
        next = service.answer conf index client result.2) ∨
      service.Idle (.readLine index line) ∧
        next = { service with server := serverStep conf service.server (.readLine index none) } := by
  cases found : service.reader index with
  | none =>
      simp only [Service.readLine, found, Except.ok.injEq] at stepped
      refine Or.inr ⟨?_, stepped.symm⟩
      cases line <;> simp [Service.Idle, found]
  | some client =>
      cases line with
      | none =>
          simp only [Service.readLine, found, Except.ok.injEq] at stepped
          exact Or.inr ⟨trivial, stepped.symm⟩
      | some text =>
          simp only [Service.readLine, found] at stepped
          cases processed : commandProcess host client.conn (upToNul text) service.st with
          | error fault =>
              rw [processed] at stepped
              cases stepped
          | ok result =>
              rw [processed] at stepped
              cases stepped
              exact Or.inl ⟨client, text, result, rfl, rfl, processed, rfl⟩

theorem Service.readLine_moves (authorizes : Authorizes host) (service next : Service Db)
    (formed : WellFormed service.server) (index : Nat) (line : Option Bytes)
    (stepped : service.readLine host conf index line = .ok next) :
    service.Moves next (.readLine index line) := by
  rcases service.readLine_cases next index line stepped with
    ⟨client, text, result, found, rfl, processed, rfl⟩ | ⟨idle, rfl⟩
  · obtain ⟨answer, nonempty, output, flushes⟩ := commandProcess_sends host authorizes client.conn
      (upToNul text) (upToNul_noNul text) service.st result.2 result.1 processed
    have own : (result.2.output client.conn).drop (service.st.output client.conn).length
        = answer := by
      rw [output, Function.update_self, List.drop_left]
    have once : result.2.flushes client.conn - service.st.flushes client.conn = 1 := by
      omega
    refine .answers client answer nonempty ?_ (service.reader_known formed index client found)
      (congrArg _ (serverStep_readLine_accepted conf _ _ _)) ?_ output rfl
    · constructor
      · intro idle
        exact idle client found
      · intro quiet other same
        cases found.symm.trans same
        exact quiet
    · dsimp only [Service.answer]
      rw [own, once]
  · exact .silent idle (congrArg _ (serverStep_readLine_accepted conf _ _ _)) (fun _ => rfl) rfl
      fun quiet => ⟨quiet, rfl⟩

theorem serviceStep_moves (authorizes : Authorizes host) (service next : Service Db)
    (formed : WellFormed service.server) (event : ServiceEvent Db)
    (stepped : serviceStep host conf service event = .ok next) : service.Moves next event := by
  cases event with
  | incoming =>
      cases stepped
      exact service.incoming_moves
  | flushEnds index succeeded =>
      cases stepped
      exact service.flushEnds_moves index succeeded
  | flushRefused index =>
      cases stepped
      exact service.flushRefused_moves index
  | readLine index line =>
      exact service.readLine_moves authorizes next formed index line stepped
  | dbProcess write =>
      cases stepped
      exact .silent trivial rfl (fun _ => rfl) rfl fun quiet => ⟨quiet, rfl⟩

/-- The table changes as `serverStep` says, or not at all. -/
theorem serviceStep_simulates (service next : Service Db) (event : ServiceEvent Db)
    (stepped : serviceStep host conf service event = .ok next) :
    next.server = service.server ∨
      ∃ serverEvent, next.server = serverStep conf service.server serverEvent := by
  cases event with
  | incoming =>
      cases stepped
      rw [Service.incoming]
      split_ifs
      · exact Or.inl rfl
      · exact Or.inr ⟨.incoming, rfl⟩
  | flushEnds index succeeded =>
      cases stepped
      rw [Service.flushEnds]
      split
      · exact Or.inl rfl
      · split_ifs
        · exact Or.inr ⟨.flush index succeeded, rfl⟩
        · exact Or.inl rfl
  | flushRefused index =>
      cases stepped
      rw [Service.flushRefused]
      split
      · exact Or.inl rfl
      · split_ifs
        · exact Or.inr ⟨.flush index false, rfl⟩
        · exact Or.inl rfl
  | readLine index line =>
      rcases service.readLine_cases next index line stepped with
        ⟨client, text, result, found, read, processed, rfl⟩ | ⟨idle, rfl⟩
      · exact Or.inr ⟨.readLine index (some _), rfl⟩
      · exact Or.inr ⟨.readLine index none, rfl⟩
  | dbProcess write =>
      cases stepped
      exact Or.inl rfl

theorem serviceRun_concat (db : Db) (past : List (ServiceEvent Db)) (event : ServiceEvent Db) :
    serviceRun host conf db (past ++ [event])
      = serviceRun host conf db past >>= fun service => serviceStep host conf service event := by
  simp only [serviceRun, List.foldlM_append, List.foldlM_cons, List.foldlM_nil, bind_pure]

/-- A successful run without its last step. -/
theorem serviceRun_concat_ok (db : Db) (past : List (ServiceEvent Db)) (event : ServiceEvent Db)
    (service : Service Db) (ran : serviceRun host conf db (past ++ [event]) = .ok service) :
    ∃ before, serviceRun host conf db past = .ok before ∧
      serviceStep host conf before event = .ok service := by
  rw [serviceRun_concat] at ran
  cases reached : serviceRun host conf db past with
  | error fault =>
      rw [reached] at ran
      cases ran
  | ok before =>
      rw [reached] at ran
      exact ⟨before, rfl, ran⟩

/-- Every run of the service is a run of the table. -/
theorem serviceRun_simulates (db : Db) (events : List (ServiceEvent Db)) (service : Service Db)
    (ran : serviceRun host conf db events = .ok service) :
    ∃ serverEvents, service.server = serverRun conf serverEvents := by
  induction events using List.reverseRecOn generalizing service with
  | nil =>
      cases ran
      exact ⟨[], rfl⟩
  | append_singleton past event ih =>
      obtain ⟨before, reached, stepped⟩ := serviceRun_concat_ok db past event service ran
      obtain ⟨serverEvents, table⟩ := ih before reached
      rcases serviceStep_simulates before service event stepped with same | ⟨serverEvent, moved⟩
      · exact ⟨serverEvents, same.trans table⟩
      · refine ⟨serverEvents ++ [serverEvent], ?_⟩
        rw [serverRun_concat, ← table, moved]

theorem serviceRun_wellFormed (db : Db) (events : List (ServiceEvent Db)) (service : Service Db)
    (ran : serviceRun host conf db events = .ok service) : WellFormed service.server := by
  obtain ⟨serverEvents, table⟩ := serviceRun_simulates db events service ran
  rw [table]
  exact serverRun_wellFormed conf serverEvents

/-! ### What is scheduled and what arrives -/

/-- Nothing was scheduled for a connection before it was accepted, and no stream has more than
the greeting and what was scheduled. -/
structure Service.Accounts (service : Service Db) : Prop where
  fresh : ∀ conn, service.server.accepted.length ≤ conn → service.st.output conn = []
  bounded : ∀ conn < service.server.accepted.length, (service.streams conn).written.length
    ≤ (greeting ++ service.st.output conn).length

/-- Some connection lacks a part of what was scheduled for it. -/
def Service.Lost (service : Service Db) : Prop :=
  ∃ conn < service.server.accepted.length, (service.streams conn).written.length
    < (greeting ++ service.st.output conn).length

structure Service.Settled (service : Service Db) : Prop extends service.AnswersKept where
  refused : ∀ conn, (service.streams conn).refused = 0

theorem Service.Lost.not_kept (service : Service Db) (lost : service.Lost) :
    ¬ service.AnswersKept := by
  intro kept
  rcases lost with ⟨conn, known, short⟩
  rw [kept.written conn known] at short
  exact lt_irrefl _ short

/-- The greeting is what a fresh stream has been written. -/
theorem opened_written : (OutputStream.opened.send greeting 1).written = greeting := by
  rw [OutputStream.send_idle greeting _ rfl]
  rfl

theorem Service.Moves.accounts (service next : Service Db) (event : ServiceEvent Db)
    (moves : service.Moves next event) (accounts : service.Accounts) : next.Accounts := by
  cases moves with
  | opens idle accepted streams output dropped =>
      constructor
      · intro conn fresh
        rw [output]
        exact accounts.fresh conn (by omega)
      · intro conn known
        rw [streams, output]
        by_cases newest : conn = service.server.accepted.length
        · rw [newest, Function.update_self, opened_written, List.length_append]
          omega
        · rw [Function.update_of_ne newest]
          exact accounts.bounded conn (by omega)
  | answers client text nonempty idle known accepted streams output dropped =>
      constructor
      · intro conn fresh
        rw [output, Function.update_of_ne (by omega)]
        exact accounts.fresh conn (by omega)
      · intro conn inTable
        rw [streams, output]
        by_cases own : conn = client.conn
        · have before := accounts.bounded client.conn known
          have sent := OutputStream.send_length text 1 (service.streams client.conn)
          rw [own, Function.update_self, Function.update_self]
          simp only [List.length_append] at before ⊢
          omega
        · rw [Function.update_of_ne own, Function.update_of_ne own]
          exact accounts.bounded conn (by omega)
  | silent idle accepted written output refused =>
      constructor
      · intro conn fresh
        rw [output]
        exact accounts.fresh conn (by omega)
      · intro conn known
        rw [written, output]
        exact accounts.bounded conn (by omega)

/-- What is lost stays lost. -/
theorem Service.Moves.lost (service next : Service Db) (event : ServiceEvent Db)
    (moves : service.Moves next event) (lost : service.Lost) : next.Lost := by
  rcases lost with ⟨conn, known, short⟩
  cases moves with
  | opens idle accepted streams output dropped =>
      refine ⟨conn, by omega, ?_⟩
      rw [streams, output, Function.update_of_ne (by omega)]
      exact short
  | answers client text nonempty idle inTable accepted streams output dropped =>
      refine ⟨conn, by omega, ?_⟩
      rw [streams, output]
      by_cases own : conn = client.conn
      · have sent := OutputStream.send_length text 1 (service.streams client.conn)
        rw [own] at short ⊢
        rw [Function.update_self, Function.update_self]
        simp only [List.length_append] at short ⊢
        omega
      · rw [Function.update_of_ne own, Function.update_of_ne own]
        exact short
  | silent idle accepted written output refused =>
      refine ⟨conn, by omega, ?_⟩
      rw [written, output]
      exact short

/-- A line that is processed while a flush is outstanding loses its answer. -/
theorem Service.Moves.loses (service next : Service Db) (event : ServiceEvent Db)
    (moves : service.Moves next event) (accounts : service.Accounts)
    (busy : ¬ service.Idle event) : next.Lost := by
  cases moves with
  | opens idle accepted streams output dropped => exact absurd idle busy
  | answers client text nonempty idle known accepted streams output dropped =>
      have flushing : (service.streams client.conn).flushing = true := by
        rw [← Bool.not_eq_false, ← idle]
        exact busy
      have before := accounts.bounded client.conn known
      have more : 0 < text.length := List.length_pos_iff.mpr nonempty
      refine ⟨client.conn, by omega, ?_⟩
      rw [streams, output, Function.update_self, Function.update_self,
        OutputStream.send_flushing text 1 _ flushing]
      simp only [List.length_append] at before ⊢
      omega
  | silent idle accepted written output refused => exact absurd idle busy

theorem Service.Moves.settled (service next : Service Db) (event : ServiceEvent Db)
    (moves : service.Moves next event) (accounts : service.Accounts) (settled : service.Settled)
    (idle : service.Idle event) : next.Settled := by
  cases moves with
  | opens _ accepted streams output dropped =>
      refine ⟨⟨fun conn known => ?_, dropped.trans settled.dropped⟩, fun conn => ?_⟩
      · rw [streams, output]
        by_cases newest : conn = service.server.accepted.length
        · rw [newest, Function.update_self, opened_written, accounts.fresh _ le_rfl,
            List.append_nil]
        · rw [Function.update_of_ne newest]
          exact settled.written conn (by omega)
      · rw [streams]
        by_cases newest : conn = service.server.accepted.length
        · rw [newest, Function.update_self, OutputStream.send_idle greeting _ rfl]
          rfl
        · rw [Function.update_of_ne newest]
          exact settled.refused conn
  | answers client text nonempty quiet inTable accepted streams output dropped =>
      have arrives := OutputStream.send_idle text _ (quiet.mp idle)
      refine ⟨⟨fun conn known => ?_, dropped.trans settled.dropped⟩, fun conn => ?_⟩
      · rw [streams, output]
        by_cases own : conn = client.conn
        · rw [own, Function.update_self, Function.update_self, arrives]
          dsimp only
          rw [settled.written client.conn inTable, List.append_assoc]
        · rw [Function.update_of_ne own, Function.update_of_ne own]
          exact settled.written conn (by omega)
      · rw [streams, arrives]
        refine (OutputStream.update_field OutputStream.refused _ client.conn _ ?_ conn).trans
          (settled.refused conn)
        rfl
  | silent _ accepted written output refused =>
      obtain ⟨quiet, dropped⟩ := refused settled.refused
      refine ⟨⟨fun conn known => ?_, dropped.trans settled.dropped⟩, quiet⟩
      rw [written, output]
      exact settled.written conn (by omega)

theorem serviceStart_accounts (db : Db) : (serviceStart db).Accounts where
  fresh _ _ := rfl
  bounded := fun conn known => absurd known (Nat.not_lt_zero conn)

theorem serviceStart_settled (db : Db) : (serviceStart db).Settled where
  written := fun conn known => absurd known (Nat.not_lt_zero conn)
  dropped := rfl
  refused _ := rfl

variable (host conf) in
/-- At every step of the run the line that is processed, if one is, finds the stream idle. -/
def LinesAwaitFlush (db : Db) (events : List (ServiceEvent Db)) : Prop :=
  ∀ past event service, past ++ [event] <+: events →
    serviceRun host conf db past = .ok service → service.Idle event

theorem serviceRun_invariant (authorizes : Authorizes host) (db : Db)
    (events : List (ServiceEvent Db)) (service : Service Db)
    (ran : serviceRun host conf db events = .ok service) :
    service.Accounts ∧ (LinesAwaitFlush host conf db events → service.Settled) ∧
      (¬ LinesAwaitFlush host conf db events → service.Lost) := by
  induction events using List.reverseRecOn generalizing service with
  | nil =>
      cases ran
      refine ⟨serviceStart_accounts db, fun _ => serviceStart_settled db, fun broken => ?_⟩
      refine absurd (fun past event service reached => ?_) broken
      simp at reached
  | append_singleton past event ih =>
      obtain ⟨before, reached, stepped⟩ := serviceRun_concat_ok db past event service ran
      obtain ⟨accounts, settles, loses⟩ := ih before reached
      have formed := serviceRun_wellFormed db past before reached
      have moves := serviceStep_moves authorizes before service formed event stepped
      have earlier (awaits : LinesAwaitFlush host conf db (past ++ [event])) :
          LinesAwaitFlush host conf db past := fun earlier other state inPast =>
        awaits earlier other state (inPast.trans (List.prefix_append past _))
      refine ⟨moves.accounts before service event accounts, fun awaits => ?_, fun broken => ?_⟩
      · have idle := awaits past event before (List.prefix_refl _) reached
        exact moves.settled before service event accounts (settles (earlier awaits)) idle
      · by_cases awaited : LinesAwaitFlush host conf db past
        · refine moves.loses before service event accounts fun idle => broken ?_
          intro earlier other state inRun reaches
          rcases List.prefix_concat_iff.mp inRun with last | inPast
          · obtain ⟨rfl, rfl⟩ := List.append_inj' last rfl |>.imp id List.singleton_inj.mp
            cases reached.symm.trans reaches
            exact idle
          · exact awaited earlier other state inPast reaches
        · exact moves.lost before service event (loses awaited)

/-- Over every run, all that is scheduled arrives and no refused flush removes a client, if
and only if no line is processed while a flush of its client is outstanding. -/
theorem answersKept_iff (authorizes : Authorizes host) (db : Db)
    (events : List (ServiceEvent Db)) (service : Service Db)
    (ran : serviceRun host conf db events = .ok service) :
    service.AnswersKept ↔ LinesAwaitFlush host conf db events := by
  obtain ⟨accounts, settles, loses⟩ := serviceRun_invariant authorizes db events service ran
  constructor
  · intro kept
    by_contra broken
    exact (loses broken).not_kept service kept
  · intro awaits
    exact (settles awaits).toAnswersKept

/-- A database where every statement is prepared and selects nothing. -/
def emptySqlite : Sqlite Unit where
  prepare _ _ _ := .ok (.done ())
  changes _ := 0
  reset _ _ := .ok ()
  runMaint _ _ _ := .done ()
  setAuthorizer _ _ := .ok ()

def emptyHost : Host Unit where
  sqlite := emptySqlite
  passwords := []
  strftime _ := none

def oneClient : ServerConf := { maxConnections := 1, defaultPermissions := permissionSelect }

/-- The greeting and each answer are flushed before the next line is read. -/
def patientEvents : List (ServiceEvent Unit) :=
  [.incoming, .flushEnds 0 true, .readLine 0 (some (lit "list id")), .flushEnds 0 true,
    .readLine 0 (some (lit "listing"))]

theorem answersKept_patient : ∃ service,
    serviceRun emptyHost oneClient () patientEvents = .ok service ∧
      LinesAwaitFlush emptyHost oneClient () patientEvents ∧
      (service.streams 0).written = lit
        "OK MPDCRON 0.1\nOK\nACK [4] \x7b\x7d unknown command \"listing\"\n" := by
  have ran : ∃ service, serviceRun emptyHost oneClient () patientEvents = .ok service ∧
      service.server.accepted.length = 1 ∧ service.dropped = [] ∧
      (service.streams 0).written = greeting ++ service.st.output 0 ∧
      service.st.output 0 = lit "OK\nACK [4] \x7b\x7d unknown command \"listing\"\n" :=
    ⟨_, rfl, rfl, rfl, rfl, rfl⟩
  obtain ⟨service, ran, one, dropped, written, output⟩ := ran
  refine ⟨service, ran, ?_, ?_⟩
  · refine (answersKept_iff (fun _ _ => rfl) () patientEvents service ran).mp ⟨?_, dropped⟩
    intro conn known
    obtain rfl : conn = 0 := by omega
    exact written
  · rw [written, output]
    rfl

/-- A client sends a line before the greeting has been flushed. -/
def hastyEvents : List (ServiceEvent Unit) :=
  [.incoming, .readLine 1 (some (lit "listing")), .flushRefused 1]

/-- Its answer is lost and the client is removed. -/
theorem hasty_client_dropped : ∃ service,
    serviceRun emptyHost oneClient () hastyEvents = .ok service ∧ ¬ service.AnswersKept ∧
      (service.streams 0).written = greeting ∧
      service.st.output 0 = lit "ACK [4] \x7b\x7d unknown command \"listing\"\n" ∧
      service.dropped = [0] ∧ service.server.clients.lookup 0 = none := by
  refine ⟨_, rfl, fun kept => ?_, rfl, rfl, rfl, rfl⟩
  exact absurd kept.dropped (List.cons_ne_nil 0 [])

end Service

end Mpdcron.Stats
