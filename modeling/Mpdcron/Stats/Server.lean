import Mathlib.Data.List.AList

/-! `stats-server.c`: the `clients` table and the asynchronous callbacks that look a
client up by its id. -/

namespace Mpdcron.Stats

/-- `struct client`. The number of the connection stands for its three streams. -/
structure Client where
  id : Nat
  perm : Nat
  conn : Nat
  deriving DecidableEq, Repr

structure ServerConf where
  maxConnections : Nat
  defaultPermissions : Nat
  deriving DecidableEq, Repr

inductive CallbackKind where
  | eventFlush
  | eventReadLine
  deriving DecidableEq, Repr

/-- A scheduled callback: its `clientid` and the connection it was started on. -/
structure Callback where
  kind : CallbackKind
  clientid : Nat
  conn : Nat
  deriving DecidableEq, Repr

/-- Beside the table and the callbacks, three logs: how many clients were in the table as
each connection was accepted, and the connections whose client a callback removed from
the table or an insertion replaced in it. -/
structure Server where
  clients : AList fun _ : Nat => Client
  callbacks : List Callback
  accepted : List Nat
  removed : List Nat
  replaced : List Nat

def Server.numClients (server : Server) : Nat := server.clients.keys.length

/-- `g_hash_table_insert`, which destroys the value it replaces. -/
def Server.insertClient (server : Server) (client : Client) : Server :=
  { server with
    clients := server.clients.insert client.id client
    replaced := server.replaced ++ ((server.clients.lookup client.id).map Client.conn).toList }

/-- `g_hash_table_remove` -/
def Server.removeClient (server : Server) (clientid : Nat) : Server :=
  { server with
    clients := server.clients.erase clientid
    removed := server.removed ++ ((server.clients.lookup clientid).map Client.conn).toList }

def serverFlushWrite (client : Client) (server : Server) : Server :=
  { server with
    callbacks := server.callbacks ++ [⟨.eventFlush, client.id, client.conn⟩] }

def scheduleRead (client : Client) (server : Server) : Server :=
  { server with
    callbacks := server.callbacks ++ [⟨.eventReadLine, client.id, client.conn⟩] }

def eventIncoming (conf : ServerConf) (server : Server) : Server :=
  if server.numClients ≥ conf.maxConnections then server
  else
    let client : Client :=
      { id := server.numClients, perm := conf.defaultPermissions
        conn := server.accepted.length }
    let server :=
      { server.insertClient client with accepted := server.accepted ++ [server.numClients] }
    scheduleRead client (serverFlushWrite client server)

/-- `flushed` is whether the flush succeeded. -/
def eventFlush (clientid : Nat) (flushed : Bool) (server : Server) : Server :=
  match server.clients.lookup clientid with
  | none => server
  | some _ => if flushed then server else server.removeClient clientid

/-- What `command_process` does to the client: its permissions afterwards and how often it
calls `server_flush_write`. -/
structure Processed where
  perm : Nat
  flushes : Nat
  deriving DecidableEq, Repr

def afterCommand (processed : Processed) (client : Client) (server : Server) : Server :=
  { server with
    clients := server.clients.insert client.id { client with perm := processed.perm }
    callbacks := server.callbacks ++
      List.replicate processed.flushes ⟨.eventFlush, client.id, client.conn⟩ }

/-- `line` is what `command_process` made of the line that was read, if one was. -/
def eventReadLine (clientid : Nat) (line : Option Processed) (server : Server) : Server :=
  match server.clients.lookup clientid with
  | none => server
  | some client =>
      match line with
      | none => server.removeClient clientid
      | some processed => scheduleRead client (afterCommand processed client server)

/-- A new connection, or the completion of the callback at an index. -/
inductive ServerEvent where
  | incoming
  | flush (callback : Nat) (flushed : Bool)
  | readLine (callback : Nat) (line : Option Processed)
  deriving DecidableEq, Repr

/-- Runs `callback` on the pending callback at `index` if there is one of this kind. -/
def Server.complete (server : Server) (index : Nat) (kind : CallbackKind)
    (callback : Nat → Server → Server) : Server :=
  match server.callbacks[index]? with
  | none => server
  | some pending =>
      if pending.kind = kind then
        callback pending.clientid { server with callbacks := server.callbacks.eraseIdx index }
      else server

def serverStep (conf : ServerConf) (server : Server) : ServerEvent → Server
  | .incoming => eventIncoming conf server
  | .flush index flushed =>
      server.complete index .eventFlush fun clientid => eventFlush clientid flushed
  | .readLine index line =>
      server.complete index .eventReadLine fun clientid => eventReadLine clientid line

def serverStart : Server :=
  { clients := ∅, callbacks := [], accepted := [], removed := [], replaced := [] }

def serverRun (conf : ServerConf) (events : List ServerEvent) : Server :=
  events.foldl (serverStep conf) serverStart

end Mpdcron.Stats
