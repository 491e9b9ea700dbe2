import Mathlib.Data.List.Induction
import Mpdcron.Stats.Server

/-! When every callback of the stats server finds the client it was scheduled for. -/

namespace Mpdcron.Stats

/-- A client is in the table under its id, which is what the table's size was when its
connection was accepted; a callback looks for that id. -/
structure WellFormed (server : Server) : Prop where
  client : ∀ id client, server.clients.lookup id = some client →
    client.id = id ∧ server.accepted[client.conn]? = some id
  callback : ∀ callback ∈ server.callbacks,
    server.accepted[callback.conn]? = some callback.clientid

/-- The lookup of a callback gives its own client, or none after that has been removed. -/
def Finds (server : Server) (callback : Callback) : Prop :=
  (∃ client, server.clients.lookup callback.clientid = some client ∧
    client.conn = callback.conn) ∨
  (server.clients.lookup callback.clientid = none ∧ callback.conn ∈ server.removed)

structure Undisturbed (server : Server) : Prop where
  replaced : server.replaced = []
  found : ∀ callback ∈ server.callbacks, Finds server callback

/-- No client in the table, and none with a callback outstanding, was accepted when the
table held as many clients as now. -/
def Apart (conf : ServerConf) (server : Server) : Prop :=
  server.numClients < conf.maxConnections →
    (∀ id client, server.clients.lookup id = some client →
      server.accepted[client.conn]? ≠ some server.numClients) ∧
    ∀ callback ∈ server.callbacks,
      server.accepted[callback.conn]? ≠ some server.numClients

/-! ### Well-formedness -/

theorem WellFormed.withCallbacks {server : Server} (formed : WellFormed server)
    (callbacks : List Callback)
    (known : ∀ callback ∈ callbacks, server.accepted[callback.conn]? = some callback.clientid) :
    WellFormed { server with callbacks := callbacks } :=
  ⟨formed.client, known⟩

theorem WellFormed.eraseCallback {server : Server} (formed : WellFormed server) (index : Nat) :
    WellFormed { server with callbacks := server.callbacks.eraseIdx index } :=
  formed.withCallbacks _ fun callback member =>
    formed.callback callback (List.mem_of_mem_eraseIdx member)

theorem WellFormed.removeClient {server : Server} (formed : WellFormed server)
    (clientid : Nat) : WellFormed (server.removeClient clientid) := by
  refine ⟨?_, formed.callback⟩
  intro id client found
  by_cases same : id = clientid
  · rw [same, Server.removeClient, AList.lookup_erase] at found
    cases found
  · rw [Server.removeClient, AList.lookup_erase_ne same] at found
    exact formed.client id client found

theorem WellFormed.scheduleRead {server : Server} (formed : WellFormed server)
    (client : Client) (accepted : server.accepted[client.conn]? = some client.id) :
    WellFormed (Stats.scheduleRead client server) := by
  apply formed.withCallbacks
  intro callback member
  rcases List.mem_append.mp member with old | new
  · exact formed.callback callback old
  · rw [List.mem_singleton.mp new]
    exact accepted

theorem WellFormed.afterCommand {server : Server} (formed : WellFormed server)
    (processed : Processed) (client : Client)
    (present : server.clients.lookup client.id = some client) :
    WellFormed (Stats.afterCommand processed client server) := by
  have accepted := (formed.client client.id client present).2
  constructor
  · intro id other found
    by_cases same : id = client.id
    · rw [same, Stats.afterCommand, AList.lookup_insert] at found
      cases found
      exact ⟨same.symm, same ▸ accepted⟩
    · rw [Stats.afterCommand, AList.lookup_insert_ne same] at found
      exact formed.client id other found
  · intro callback member
    rcases List.mem_append.mp member with old | new
    · exact formed.callback callback old
    · rw [(List.mem_replicate.mp new).2]
      exact accepted

theorem WellFormed.eventIncoming {server : Server} (formed : WellFormed server)
    (conf : ServerConf) : WellFormed (Stats.eventIncoming conf server) := by
  have earlier (conn id : Nat) (known : server.accepted[conn]? = some id) :
      (server.accepted ++ [server.numClients])[conn]? = some id := by
    have bound : conn < server.accepted.length := (List.getElem?_eq_some_iff.mp known).1
    rw [List.getElem?_append_left bound, known]
  have newest : (server.accepted ++ [server.numClients])[server.accepted.length]? =
      some server.numClients := List.getElem?_concat_length
  rw [Stats.eventIncoming]
  split_ifs
  · exact formed
  constructor
  · intro id client found
    by_cases same : id = server.numClients
    · rw [same] at found ⊢
      have equal := (AList.lookup_insert server.clients).symm.trans found
      cases equal
      exact ⟨rfl, newest⟩
    · have old := (AList.lookup_insert_ne same).symm.trans found
      rcases formed.client id client old with ⟨key, known⟩
      exact ⟨key, earlier _ _ known⟩
  · intro callback member
    rcases List.mem_append.mp member with flush | read
    · rcases List.mem_append.mp flush with old | new
      · exact earlier _ _ (formed.callback callback old)
      · rw [List.mem_singleton.mp new]
        exact newest
    · rw [List.mem_singleton.mp read]
      exact newest

theorem complete_wellFormed {server : Server} (formed : WellFormed server) (index : Nat)
    (kind : CallbackKind) (callback : Nat → Server → Server)
    (preserved : ∀ clientid next, WellFormed next → WellFormed (callback clientid next)) :
    WellFormed (server.complete index kind callback) := by
  rw [Server.complete]
  split
  · exact formed
  · split_ifs
    · exact preserved _ _ (formed.eraseCallback index)
    · exact formed

theorem eventFlush_wellFormed (flushed : Bool) (clientid : Nat) (server : Server)
    (formed : WellFormed server) : WellFormed (eventFlush clientid flushed server) := by
  rw [eventFlush]
  split
  · exact formed
  · split_ifs
    · exact formed
    · exact formed.removeClient clientid

theorem eventReadLine_wellFormed (line : Option Processed) (clientid : Nat) (server : Server)
    (formed : WellFormed server) : WellFormed (eventReadLine clientid line server) := by
  rw [eventReadLine]
  split
  · exact formed
  · rename_i client found
    rcases formed.client clientid client found with ⟨rfl, accepted⟩
    cases line with
    | none => exact formed.removeClient client.id
    | some processed =>
        exact (formed.afterCommand processed client found).scheduleRead client accepted

theorem serverStep_wellFormed (conf : ServerConf) (server : Server) (event : ServerEvent)
    (formed : WellFormed server) : WellFormed (serverStep conf server event) := by
  cases event with
  | incoming => exact formed.eventIncoming conf
  | flush index flushed =>
      exact complete_wellFormed formed index _ _ (eventFlush_wellFormed flushed)
  | readLine index line =>
      exact complete_wellFormed formed index _ _ (eventReadLine_wellFormed line)

theorem serverRun_concat (conf : ServerConf) (events : List ServerEvent) (event : ServerEvent) :
    serverRun conf (events ++ [event]) = serverStep conf (serverRun conf events) event := by
  rw [serverRun, List.foldl_append]
  rfl

theorem serverRun_wellFormed (conf : ServerConf) (events : List ServerEvent) :
    WellFormed (serverRun conf events) := by
  induction events using List.reverseRecOn with
  | nil =>
      constructor
      · intro id client found
        cases found
      · intro callback member
        exact (List.not_mem_nil member).elim
  | append_singleton events event ih =>
      rw [serverRun_concat]
      exact serverStep_wellFormed conf _ event ih

/-! ### Undisturbed callbacks -/

theorem Finds.removeClient {server : Server} {callback : Callback}
    (finds : Finds server callback) (clientid : Nat) :
    Finds (server.removeClient clientid) callback := by
  rw [Finds, Server.removeClient]
  by_cases same : callback.clientid = clientid
  · right
    rw [← same]
    refine ⟨AList.lookup_erase _ _, ?_⟩
    rcases finds with ⟨client, found, mine⟩ | ⟨-, gone⟩
    · rw [found, ← mine]
      exact List.mem_append_right _ (List.mem_singleton_self _)
    · exact List.mem_append_left _ gone
  · rw [AList.lookup_erase_ne same]
    rcases finds with own | ⟨absent, gone⟩
    · exact .inl own
    · exact .inr ⟨absent, List.mem_append_left _ gone⟩

theorem Undisturbed.removeClient {server : Server} (undisturbed : Undisturbed server)
    (clientid : Nat) : Undisturbed (server.removeClient clientid) :=
  ⟨undisturbed.replaced, fun callback member =>
    (undisturbed.found callback member).removeClient clientid⟩

theorem Undisturbed.eraseCallback {server : Server} (undisturbed : Undisturbed server)
    (index : Nat) :
    Undisturbed { server with callbacks := server.callbacks.eraseIdx index } :=
  ⟨undisturbed.replaced, fun callback member =>
    undisturbed.found callback (List.mem_of_mem_eraseIdx member)⟩

theorem Undisturbed.readAgain {server : Server} (undisturbed : Undisturbed server)
    (processed : Processed) (client : Client)
    (present : server.clients.lookup client.id = some client) :
    Undisturbed (scheduleRead client (afterCommand processed client server)) := by
  have mine : (server.clients.insert client.id { client with perm := processed.perm }).lookup
      client.id = some { client with perm := processed.perm } := AList.lookup_insert _
  refine ⟨undisturbed.replaced, ?_⟩
  intro callback member
  rcases List.mem_append.mp member with flush | read
  · rcases List.mem_append.mp flush with old | new
    · rcases undisturbed.found callback old with ⟨other, found, own⟩ | ⟨absent, gone⟩
      · left
        by_cases same : callback.clientid = client.id
        · rw [same] at found
          have equal : other = client := Option.some.inj (found.symm.trans present)
          refine ⟨{ client with perm := processed.perm }, ?_, equal ▸ own⟩
          rw [same]
          exact mine
        · exact ⟨other, (AList.lookup_insert_ne same).trans found, own⟩
      · right
        have different : callback.clientid ≠ client.id := by
          intro same
          rw [same, present] at absent
          cases absent
        exact ⟨(AList.lookup_insert_ne different).trans absent, gone⟩
    · rw [(List.mem_replicate.mp new).2]
      exact .inl ⟨{ client with perm := processed.perm }, mine, rfl⟩
  · rw [List.mem_singleton.mp read]
    exact .inl ⟨{ client with perm := processed.perm }, mine, rfl⟩

/-- A callback disturbs nothing that was undisturbed. -/
theorem complete_undisturbed {server : Server} (formed : WellFormed server)
    (undisturbed : Undisturbed server) (index : Nat) (kind : CallbackKind)
    (callback : Nat → Server → Server)
    (preserved : ∀ clientid next, WellFormed next → Undisturbed next →
      Undisturbed (callback clientid next)) :
    Undisturbed (server.complete index kind callback) := by
  rw [Server.complete]
  split
  · exact undisturbed
  · split_ifs
    · exact preserved _ _ (formed.eraseCallback index) (undisturbed.eraseCallback index)
    · exact undisturbed

theorem eventFlush_undisturbed (flushed : Bool) (clientid : Nat) (server : Server)
    (undisturbed : Undisturbed server) : Undisturbed (eventFlush clientid flushed server) := by
  rw [eventFlush]
  split
  · exact undisturbed
  · split_ifs
    · exact undisturbed
    · exact undisturbed.removeClient clientid

theorem eventReadLine_undisturbed (line : Option Processed) (clientid : Nat) (server : Server)
    (formed : WellFormed server) (undisturbed : Undisturbed server) :
    Undisturbed (eventReadLine clientid line server) := by
  rw [eventReadLine]
  split
  · exact undisturbed
  · rename_i client found
    rcases formed.client clientid client found with ⟨rfl, -⟩
    cases line with
    | none => exact undisturbed.removeClient client.id
    | some processed => exact undisturbed.readAgain processed client found

theorem eventIncoming_refused (conf : ServerConf) (server : Server)
    (full : conf.maxConnections ≤ server.numClients) : eventIncoming conf server = server :=
  if_pos full

theorem lookup_newcomer (clients : AList fun _ : Nat => Client) (client : Client) :
    (clients.insert client.id client).lookup client.id = some client :=
  AList.lookup_insert _

/-- A client that is not apart is replaced, a callback that is not apart finds the new
client. -/
theorem apart_of_eventIncoming {server : Server} (conf : ServerConf) (formed : WellFormed server)
    (after : Undisturbed (eventIncoming conf server)) : Apart conf server := by
  intro room
  rw [eventIncoming, if_neg (Nat.not_le.mpr room)] at after
  have newcomer := lookup_newcomer server.clients
    ⟨server.numClients, conf.defaultPermissions, server.accepted.length⟩
  constructor
  · intro id client found known
    rcases formed.client id client found with ⟨-, accepted⟩
    have same : id = server.numClients := Option.some.inj (accepted.symm.trans known)
    rw [same] at found
    have none := after.replaced
    simp [serverFlushWrite, scheduleRead, Server.insertClient, found] at none
  · intro callback member known
    have clientid : callback.clientid = server.numClients :=
      Option.some.inj ((formed.callback callback member).symm.trans known)
    have bound : callback.conn < server.accepted.length :=
      (List.getElem?_eq_some_iff.mp known).1
    have still : callback ∈ (scheduleRead ⟨server.numClients, conf.defaultPermissions,
        server.accepted.length⟩ (serverFlushWrite ⟨server.numClients,
          conf.defaultPermissions, server.accepted.length⟩ server)).callbacks :=
      List.mem_append_left _ (List.mem_append_left _ member)
    rcases after.found callback still with ⟨client, found, own⟩ | ⟨absent, -⟩
    · have equal := newcomer.symm.trans (clientid ▸ found)
      rw [← Option.some.inj equal] at own
      exact Nat.ne_of_gt bound own
    · cases newcomer.symm.trans (clientid ▸ absent)

theorem eventIncoming_undisturbed {server : Server} (conf : ServerConf)
    (formed : WellFormed server) (undisturbed : Undisturbed server) (apart : Apart conf server)
    (room : server.numClients < conf.maxConnections) :
    Undisturbed (eventIncoming conf server) := by
  rcases apart room with ⟨clients, callbacks⟩
  have free : server.clients.lookup server.numClients = none := by
    cases found : server.clients.lookup server.numClients with
    | none => rfl
    | some client => exact absurd (formed.client _ client found).2 (clients _ client found)
  have newcomer := lookup_newcomer server.clients
    ⟨server.numClients, conf.defaultPermissions, server.accepted.length⟩
  rw [eventIncoming, if_neg (Nat.not_le.mpr room)]
  constructor
  · simp [serverFlushWrite, scheduleRead, Server.insertClient, free, undisturbed.replaced]
  · intro callback member
    rcases List.mem_append.mp member with flush | read
    · rcases List.mem_append.mp flush with old | new
      · have different : callback.clientid ≠ server.numClients := by
          intro same
          exact callbacks callback old (same ▸ formed.callback callback old)
        rcases undisturbed.found callback old with ⟨client, found, own⟩ | ⟨absent, gone⟩
        · exact .inl ⟨client, (AList.lookup_insert_ne different).trans found, own⟩
        · exact .inr ⟨(AList.lookup_insert_ne different).trans absent, gone⟩
      · rw [List.mem_singleton.mp new]
        exact .inl ⟨_, newcomer, rfl⟩
    · rw [List.mem_singleton.mp read]
      exact .inl ⟨_, newcomer, rfl⟩

theorem eventIncoming_undisturbed_iff {server : Server} (conf : ServerConf)
    (formed : WellFormed server) (undisturbed : Undisturbed server) :
    Undisturbed (eventIncoming conf server) ↔ Apart conf server := by
  constructor
  · exact apart_of_eventIncoming conf formed
  · intro apart
    by_cases full : conf.maxConnections ≤ server.numClients
    · rw [eventIncoming_refused conf server full]
      exact undisturbed
    · exact eventIncoming_undisturbed conf formed undisturbed apart (Nat.not_le.mp full)

/-- In every state of a run no client has been replaced and every callback finds its own,
if and only if every connection of the run was accepted apart. -/
theorem serverRun_undisturbed_iff (conf : ServerConf) (events : List ServerEvent) :
    (∀ past, past <+: events → Undisturbed (serverRun conf past)) ↔
      ∀ past, past ++ [.incoming] <+: events → Apart conf (serverRun conf past) := by
  constructor
  · intro always past reached
    have before := always past ((List.prefix_append past _).trans reached)
    have after := always _ reached
    rw [serverRun_concat] at after
    exact (eventIncoming_undisturbed_iff conf (serverRun_wellFormed conf past) before).mp after
  · intro apart past
    induction past using List.reverseRecOn with
    | nil =>
        intro _
        exact ⟨rfl, fun _ member => (List.not_mem_nil member).elim⟩
    | append_singleton past event ih =>
        intro reached
        have before := ih ((List.prefix_append past _).trans reached)
        have formed := serverRun_wellFormed conf past
        rw [serverRun_concat]
        cases event with
        | incoming =>
            exact (eventIncoming_undisturbed_iff conf formed before).mpr (apart past reached)
        | flush index flushed =>
            exact complete_undisturbed formed before index _ _
              fun clientid next _ => eventFlush_undisturbed flushed clientid next
        | readLine index line =>
            exact complete_undisturbed formed before index _ _ (eventReadLine_undisturbed line)

/-- The first of two clients disconnects; the third gets the id of the second. -/
theorem third_client_replaces_second :
    ¬∀ past, past <+: [.incoming, .incoming, .readLine 1 none, .incoming] →
      Undisturbed (serverRun ⟨16, 3⟩ past) := by
  intro always
  have last := (always _ (List.prefix_refl _)).replaced
  revert last
  decide

end Mpdcron.Stats
