import Mpdcron.Eugene.Served
import Mpdcron.Lib.AtomicCalls
import Mpdcron.Stats.Permission

/-! Clients and the daemon over whole runs: connections, requests and answers on their way, with
lines of other programs and changes of the database in between. -/

namespace Mpdcron.Eugene

open CString AtomicCalls
open Mpdcron.Stats

/-- A program that uses `eugene-connection.c`: what the welcome message told it, how many lines it
has read, the call it is in, the error in its connection, whether an assertion has failed, and what
its calls have returned. -/
structure Client where
  version : Option (Nat × Nat × Nat) := none
  consumed : Nat := 0
  waiting : Option Call := none
  error : Option GError := none
  aborted : Bool := false
  returned : List (Call × Except GError Answer) := []

/-- The daemon, what is on its way to it, and the clients. -/
structure Rpc (Db : Type) where
  daemon : Daemon Db
  toServer : Nat → Bytes
  client : Nat → Client

/-- A connection that is made stays open: no client leaves, no connection is refused, and no line
is answered while a flush to its client is outstanding. `Stats.serverStep` has connections that end,
with the limit and the ids that are given again, `Stats.serviceStep` the outstanding flushes. -/
inductive RpcEvent (Db : Type) where
  | connect
  | connected (client : Nat)
  | send (client : Nat) (call : Call)
  | readLine (client : Nat)
  | receive (client : Nat)
  | foreign (client : Nat) (text : Bytes)
  | dbProcess (write : Db → Db)

section Runs

variable {Db : Type}

/-- The lines that the client has not read. -/
def Rpc.input (rpc : Rpc Db) (client : Nat) : List Bytes :=
  (streamLines (greeting ++ rpc.daemon.st.output client)).drop (rpc.client client).consumed

def Rpc.setClient (rpc : Rpc Db) (client : Nat) (state : Client) : Rpc Db :=
  { rpc with client := Function.update rpc.client client state }

variable (host : Host Db) (defaultPermissions : Nat) (strptime : Bytes → Int) (changes : Int)
variable (ours : Nat → Bool)

/-- `mpdcron_connection_new` reads the welcome message. -/
def Rpc.connected (client : Nat) (rpc : Rpc Db) : Rpc Db :=
  let state := rpc.client client
  if ours client = true ∧ client < rpc.daemon.clients ∧ state.version = none ∧ state.error = none then
    match rpc.input client with
    | [] => rpc
    | line :: _ =>
        match mpdcronParseWelcome (upToNul line) with
        | .ok version =>
            rpc.setClient client
              { state with version := some version, consumed := state.consumed + 1 }
        | .error error =>
            rpc.setClient client { state with error := some error, consumed := state.consumed + 1 }
  else rpc

/-- `mpdcron_send_command`, in a client whose last call has returned without an error. -/
def Rpc.send (client : Nat) (call : Call) (rpc : Rpc Db) : Rpc Db :=
  let state := rpc.client client
  if state.version ≠ none ∧ state.waiting = none ∧ state.error = none ∧ state.aborted = false then
    { rpc.setClient client { state with waiting := some call } with
      toServer := Function.update rpc.toServer client
        (rpc.toServer client ++ mpdcronSendCommandv call.request.command call.request.args) }
  else rpc

/-- `event_read_line` in the daemon, once there is a whole line. -/
def Rpc.readLine (client : Nat) (rpc : Rpc Db) : Except Fault (Rpc Db) :=
  if newline ∈ rpc.toServer client then do
    let daemon ← rpc.daemon.line host client ((rpc.toServer client).takeWhile (· ≠ newline))
    return { rpc with
      daemon := daemon
      toServer := Function.update rpc.toServer client
        ((rpc.toServer client).dropWhile (· ≠ newline)).tail }
  else .ok rpc

/-- The parse function of the call, which blocks as long as there is nothing to read. -/
def Rpc.receive (client : Nat) (rpc : Rpc Db) : Rpc Db :=
  let state := rpc.client client
  match state.waiting with
  | none => rpc
  | some call =>
      if rpc.input client = [] then rpc
      else
        match call.parse strptime changes { input := rpc.input client, error := none } with
        | .error _ => rpc.setClient client { state with aborted := true }
        | .ok (result, conn) =>
            rpc.setClient client
              { state with
                consumed := state.consumed + ((rpc.input client).length - conn.input.length)
                waiting := none
                error := conn.error
                returned := state.returned ++ [(call, result)] }

/-- A line of a client that is no such program. -/
def Rpc.foreign (client : Nat) (text : Bytes) (rpc : Rpc Db) : Except Fault (Rpc Db) :=
  if ours client = true then .ok rpc
  else do
    let daemon ← rpc.daemon.line host client text
    return { rpc with daemon := daemon }

def rpcStep (rpc : Rpc Db) : RpcEvent Db → Except Fault (Rpc Db)
  | .connect => .ok { rpc with daemon := rpc.daemon.connect defaultPermissions }
  | .connected client => .ok (rpc.connected ours client)
  | .send client call => .ok (rpc.send client call)
  | .readLine client => rpc.readLine host client
  | .receive client => .ok (rpc.receive strptime changes client)
  | .foreign client text => rpc.foreign host ours client text
  | .dbProcess write => .ok
      { rpc with daemon := { rpc.daemon with
          st := { rpc.daemon.st with db := write rpc.daemon.st.db } } }

def rpcStart (db : Db) : Rpc Db :=
  { daemon := daemonStart db, toServer := fun _ => [], client := fun _ => {} }

def rpcRun (db : Db) (events : List (RpcEvent Db)) : Except Fault (Rpc Db) :=
  events.foldlM (rpcStep host defaultPermissions strptime changes ours) (rpcStart db)

/-! ### The service behind it -/

/-- The permissions of the clients and the database, without lines and connections. -/
structure Service (Db : Type) where
  perm : Nat → Nat
  db : Db

/-- A call on the service itself. -/
def Performs (client : Nat) (call : Call) (service : Service Db) (answer : Except GError Answer)
    (next : Service Db) : Prop :=
  ∃ grant db, call.perform host (service.perm client) service.db = .ok (answer, grant, db) ∧
    next = ⟨Function.update service.perm client (service.perm client ||| grant), db⟩

/-- The daemon and programs of another kind change the database, but no permissions of ours. -/
def Drifts (service next : Service Db) : Prop :=
  ∀ client, ours client = true → next.perm client = service.perm client

/-- A call takes effect when its line is read. -/
def rpcEffects (rpc : Rpc Db) :
    RpcEvent Db → List (Effect Nat Call (Except GError Answer))
  | .readLine client =>
      match (rpc.client client).waiting with
      | none => []
      | some call =>
          if newline ∈ rpc.toServer client then
            match call.perform host (rpc.daemon.st.perm client) rpc.daemon.st.db with
            | .error _ => []
            | .ok (answer, _, _) => [.call client call answer]
          else []
  | .foreign client _ => if ours client = true then [] else [.other]
  | .dbProcess _ => [.other]
  | .connect => []
  | .connected _ => []
  | .send _ _ => []
  | .receive _ => []

/-- The arguments of a call fit in a line, and when it takes effect what it returns can be
printed. -/
def rpcMay (rpc : Rpc Db) : RpcEvent Db → Prop
  | .send _ call => call.Plain
  | .readLine client => ∀ call, (rpc.client client).waiting = some call →
      newline ∈ rpc.toServer client →
      call.Sound host strptime (rpc.daemon.st.perm client) rpc.daemon.st.db
  | _ => True

end Runs

end Mpdcron.Eugene
