import Mpdcron.Eugene.Protocol

/-! In every run of clients and daemon, the calls of the clients take effect one after the other on
the service, and each returns what it returns there. -/

namespace Mpdcron.Eugene

open CString AtomicCalls
open Mpdcron.Stats

/-! ### What a client has read -/

theorem streamLines_ended (lines : List Bytes) (more : Bytes) :
    streamLines (sent lines ++ more) = streamLines (sent lines) ++ streamLines more := by
  let pieces := lines.flatMap (·.splitOn newline)
  have plain : ∀ piece ∈ pieces, newline ∉ piece := by
    intro piece member
    obtain ⟨line, -, inLine⟩ := List.mem_flatMap.mp member
    exact notMem_splitOn newline line piece inLine
  have same : sent pieces = sent lines := (sent_eq_iff pieces lines plain).mpr rfl
  have alone : streamLines (sent pieces) = pieces := by
    have read := streamLines_sent pieces [] plain
    rwa [List.append_nil, show streamLines [] = [] from rfl, List.append_nil] at read
  rw [← same, streamLines_sent pieces more plain, alone]

/-- The client has read everything but `unread`. -/
def Client.Caught (state : Client) (output unread : Bytes) : Prop :=
  ∃ past, greeting ++ output = sent past ++ unread ∧
    state.consumed = (streamLines (sent past)).length

theorem Client.Caught.input {state : Client} {output unread : Bytes}
    (caught : state.Caught output unread) :
    (streamLines (greeting ++ output)).drop state.consumed = streamLines unread := by
  obtain ⟨past, split, count⟩ := caught
  rw [split, streamLines_ended, count, List.drop_left]

theorem Client.Caught.more {state : Client} {output : Bytes} (caught : state.Caught output [])
    (lines : List Bytes) : state.Caught (output ++ sent lines) (sent lines) := by
  obtain ⟨past, split, count⟩ := caught
  refine ⟨past, ?_, count⟩
  rw [← List.append_assoc, split, List.append_nil]

theorem Client.Caught.read {state next : Client} {output : Bytes} {lines : List Bytes}
    (caught : state.Caught output (sent lines))
    (consumed : next.consumed = state.consumed + (streamLines (sent lines)).length) :
    next.Caught output [] := by
  obtain ⟨past, split, count⟩ := caught
  refine ⟨past ++ lines, ?_, ?_⟩
  · rw [split, sent_append, List.append_nil]
  · rw [consumed, count, sent_append, streamLines_ended, List.length_append]

/-- A client, the line on its way and what the daemon has written to it, by the phase of its
call. -/
inductive Link (strptime : Bytes → Int) (accepted : Prop) (state : Client) (line output : Bytes) :
    Phase Call (Except GError Answer) → Prop where
  | fresh (new : state = {}) (noLine : line = []) (noOutput : output = []) :
      Link strptime accepted state line output .idle
  | idle (connected : accepted) (version : state.version = some (0, 1, 0))
      (waiting : state.waiting = none) (noLine : line = []) (caught : state.Caught output [])
      (intact : state.aborted = false) : Link strptime accepted state line output .idle
  | called (call : Call) (connected : accepted) (version : state.version = some (0, 1, 0))
      (waiting : state.waiting = some call) (plain : call.Plain)
      (request : line = call.request.line ++ [newline]) (caught : state.Caught output [])
      (intact : state.aborted = false) : Link strptime accepted state line output (.called call)
  | answered (call : Call) (answer : Except GError Answer) (lines : List Bytes)
      (connected : accepted) (version : state.version = some (0, 1, 0))
      (waiting : state.waiting = some call) (noLine : line = [])
      (caught : state.Caught output (sent lines)) (reads : call.Reads strptime (sent lines) answer)
      (intact : state.aborted = false) :
      Link strptime accepted state line output (.answered call answer)

theorem Link.mono {strptime : Bytes → Int} {accepted later : Prop} {state : Client}
    {line output : Bytes} {phase : Phase Call (Except GError Answer)}
    (link : Link strptime accepted state line output phase) (implies : accepted → later) :
    Link strptime later state line output phase := by
  cases link with
  | fresh new noLine noOutput => exact .fresh new noLine noOutput
  | idle connected version waiting noLine caught intact =>
      exact .idle (implies connected) version waiting noLine caught intact
  | called call connected version waiting plain request caught intact =>
      exact .called call (implies connected) version waiting plain request caught intact
  | answered call answer lines connected version waiting noLine caught reads intact =>
      exact .answered call answer lines (implies connected) version waiting noLine caught reads intact

theorem Link.intact {strptime : Bytes → Int} {accepted : Prop} {state : Client}
    {line output : Bytes} {phase : Phase Call (Except GError Answer)}
    (link : Link strptime accepted state line output phase) : state.aborted = false := by
  cases link with
  | fresh new noLine noOutput => rw [new]
  | idle connected version waiting noLine caught intact => exact intact
  | called call connected version waiting plain request caught intact => exact intact
  | answered call answer lines connected version waiting noLine caught reads intact => exact intact

/-- A client that is in no call has been told everything. -/
theorem Link.pending {strptime : Bytes → Int} {accepted : Prop} {state : Client}
    {line output : Bytes} {phase : Phase Call (Except GError Answer)}
    (link : Link strptime accepted state line output phase) (waiting : state.waiting = none) :
    phase.pending = [] := by
  cases link with
  | fresh new noLine noOutput => rfl
  | idle connected version free noLine caught intact => rfl
  | called call connected version busy plain request caught intact => rfl
  | answered call answer lines connected version busy noLine caught reads intact =>
      rw [waiting] at busy
      cases busy

section Simulation

variable {Db : Type} {host : Host Db} {defaultPermissions : Nat} {strptime : Bytes → Int}
variable {changes : Int} {ours : Nat → Bool}

variable (defaultPermissions strptime ours) in
/-- The service that a state of daemon and clients stands for. -/
structure Represents (rpc : Rpc Db)
    (shared : Shared Nat Call (Except GError Answer) (Service Db)) : Prop where
  db : shared.object.db = rpc.daemon.st.db
  perm : ∀ client, ours client = true → shared.object.perm client
    = if client < rpc.daemon.clients then rpc.daemon.st.perm client else defaultPermissions
  link : ∀ client, ours client = true →
    Link strptime (client < rpc.daemon.clients) (rpc.client client) (rpc.toServer client)
      (rpc.daemon.st.output client) (shared.phase client)
  returned : ∀ client, ours client = true →
    shared.returned client = (rpc.client client).returned
  foreign : ∀ client, ours client = false →
    rpc.client client = {} ∧ rpc.toServer client = []

def serviceStart (defaultPermissions : Nat) (db : Db) :
    Shared Nat Call (Except GError Answer) (Service Db) :=
  { object := ⟨fun _ => defaultPermissions, db⟩, phase := fun _ => .idle, returned := fun _ => [] }

theorem represents_start (db : Db) : Represents defaultPermissions strptime ours (rpcStart db)
    (serviceStart defaultPermissions db) where
  db := rfl
  perm := fun client _ => (if_neg (Nat.not_lt_zero client)).symm
  link := fun _ _ => .fresh rfl rfl rfl
  returned := fun _ _ => rfl
  foreign := fun _ _ => ⟨rfl, rfl⟩

/-- A step of one client that leaves the daemon alone. -/
theorem Represents.of_client {rpc next : Rpc Db}
    {shared after : Shared Nat Call (Except GError Answer) (Service Db)}
    (rep : Represents defaultPermissions strptime ours rpc shared) (client : Nat)
    (mine : ours client = true) (object : after.object = shared.object)
    (daemon : next.daemon = rpc.daemon)
    (others : ∀ other, other ≠ client → next.client other = rpc.client other ∧
      next.toServer other = rpc.toServer other ∧ after.phase other = shared.phase other ∧
      after.returned other = shared.returned other)
    (link : Link strptime (client < rpc.daemon.clients) (next.client client) (next.toServer client)
      (rpc.daemon.st.output client) (after.phase client))
    (returned : after.returned client = (next.client client).returned) :
    Represents defaultPermissions strptime ours next after where
  db := by rw [object, daemon, rep.db]
  perm := by
    rw [object, daemon]
    exact rep.perm
  link := by
    intro other owned
    rw [daemon]
    by_cases same : other = client
    · subst same
      exact link
    · obtain ⟨state, line, phase, -⟩ := others other same
      rw [state, line, phase]
      exact rep.link other owned
  returned := by
    intro other owned
    by_cases same : other = client
    · subst same
      exact returned
    · obtain ⟨state, -, -, told⟩ := others other same
      rw [state, told]
      exact rep.returned other owned
  foreign := by
    intro other alien
    have different : other ≠ client := by
      intro same
      rw [same, mine] at alien
      cases alien
    obtain ⟨state, line, -, -⟩ := others other different
    rw [state, line]
    exact rep.foreign other alien

theorem connect_represents {rpc : Rpc Db}
    {shared : Shared Nat Call (Except GError Answer) (Service Db)}
    (rep : Represents defaultPermissions strptime ours rpc shared) :
    Represents defaultPermissions strptime ours
      { rpc with daemon := rpc.daemon.connect defaultPermissions } shared where
  db := rep.db
  perm := by
    intro client owned
    rw [rep.perm client owned]
    by_cases fresh : client = rpc.daemon.clients
    · have before : ¬ client < rpc.daemon.clients := by omega
      have now : client < (rpc.daemon.connect defaultPermissions).clients := by
        rw [Daemon.connect]
        dsimp only
        omega
      rw [if_neg before, if_pos now, fresh]
      exact (Function.update_self _ _ rpc.daemon.st.perm).symm
    · have kept : (rpc.daemon.connect defaultPermissions).st.perm client
          = rpc.daemon.st.perm client := Function.update_of_ne fresh _ rpc.daemon.st.perm
      have same : client < (rpc.daemon.connect defaultPermissions).clients
          ↔ client < rpc.daemon.clients := by
        rw [Daemon.connect]
        dsimp only
        omega
      dsimp only
      rw [kept]
      simp only [same]
  link := fun client owned => (rep.link client owned).mono Nat.lt_succ_of_lt
  returned := rep.returned
  foreign := rep.foreign

theorem welcome_read : mpdcronParseWelcome (upToNul (lit "OK MPDCRON 0.1")) = .ok (0, 1, 0) := by
  decide +kernel

/-- The welcome message is all there is to read, and it is understood. -/
theorem connected_represents {rpc : Rpc Db}
    {shared : Shared Nat Call (Except GError Answer) (Service Db)}
    (rep : Represents defaultPermissions strptime ours rpc shared) (client : Nat) :
    Represents defaultPermissions strptime ours (rpc.connected ours client) shared := by
  rw [Rpc.connected]
  split
  · rename_i opens
    obtain ⟨mine, accepted, unversioned, -⟩ := opens
    have link := rep.link client mine
    generalize phase : shared.phase client = current at link
    cases link with
    | fresh new noLine noOutput =>
        have input : rpc.input client = [lit "OK MPDCRON 0.1"] := by
          rw [Rpc.input, noOutput, new]
          rfl
        rw [input]
        dsimp only
        rw [welcome_read]
        dsimp only
        refine rep.of_client client mine rfl rfl (fun other different => ?_) ?_ ?_
        · exact ⟨Function.update_of_ne different _ _, rfl, rfl, rfl⟩
        · simp only [Rpc.setClient, Function.update_self]
          rw [phase, new]
          refine .idle accepted rfl rfl noLine ⟨[lit "OK MPDCRON 0.1"], ?_, rfl⟩ rfl
          rw [noOutput]
          rfl
        · simp only [Rpc.setClient, Function.update_self]
          exact rep.returned client mine
    | idle connected version waiting noLine caught intact =>
        rw [unversioned] at version
        cases version
    | called call connected version waiting plain request caught intact =>
        rw [unversioned] at version
        cases version
    | answered call answer lines connected version waiting noLine caught reads intact =>
        rw [unversioned] at version
        cases version
  · exact rep

/-- Sending makes a call, if the client is in none. -/
theorem send_represents {rpc : Rpc Db}
    {shared : Shared Nat Call (Except GError Answer) (Service Db)}
    (rep : Represents defaultPermissions strptime ours rpc shared) (client : Nat) (call : Call)
    (plain : call.Plain) :
    ∃ after, Step (Performs host) (Drifts ours) shared [] after ∧
      Represents defaultPermissions strptime ours (rpc.send client call) after := by
  rw [Rpc.send]
  dsimp only
  split
  · rename_i opens
    obtain ⟨versioned, free, -, intact⟩ := opens
    cases mine : ours client with
    | false =>
        have new := (rep.foreign client mine).1
        rw [new] at versioned
        exact absurd rfl versioned
    | true =>
        have link := rep.link client mine
        generalize phase : shared.phase client = current at link
        cases link with
        | fresh new noLine noOutput =>
            rw [new] at versioned
            exact absurd rfl versioned
        | idle connected version waiting noLine caught intact =>
            refine ⟨_, .make shared client call phase, rep.of_client client mine rfl rfl
              (fun other different => ?_) ?_ ?_⟩
            · exact ⟨Function.update_of_ne different _ _, Function.update_of_ne different _ _,
                Function.update_of_ne different _ _, rfl⟩
            · simp only [Rpc.setClient, Function.update_self]
              exact .called call connected version rfl plain (by rw [noLine]; rfl) caught intact
            · simp only [Rpc.setClient, Function.update_self]
              exact rep.returned client mine
        | called other connected version waiting plain request caught intact =>
            rw [free] at waiting
            cases waiting
        | answered other answer lines connected version waiting noLine caught reads intact =>
            rw [free] at waiting
            cases waiting
  · exact ⟨shared, .still shared, rep⟩

/-- Reading the answer ends the call. -/
theorem receive_represents {rpc : Rpc Db}
    {shared : Shared Nat Call (Except GError Answer) (Service Db)}
    (rep : Represents defaultPermissions strptime ours rpc shared) (client : Nat) :
    ∃ after, Step (Performs host) (Drifts ours) shared [] after ∧
      Represents defaultPermissions strptime ours (rpc.receive strptime changes client) after := by
  rw [Rpc.receive]
  cases waits : (rpc.client client).waiting with
  | none => exact ⟨shared, .still shared, rep⟩
  | some call =>
      dsimp only
      split
      · exact ⟨shared, .still shared, rep⟩
      · rename_i something
        cases mine : ours client with
        | false =>
            have new := (rep.foreign client mine).1
            rw [new] at waits
            cases waits
        | true =>
            have link := rep.link client mine
            generalize phase : shared.phase client = current at link
            cases link with
            | fresh new noLine noOutput =>
                rw [new] at waits
                cases waits
            | idle connected version free noLine caught intact =>
                rw [waits] at free
                cases free
            | called other connected version waiting plain request caught intact =>
                exact absurd caught.input something
            | answered other answer lines connected version waiting noLine caught reads intact =>
                obtain rfl : call = other := Option.some.inj (waits.symm.trans waiting)
                have input : rpc.input client = streamLines (sent lines) := caught.input
                have read := reads changes []
                rw [List.append_nil, ← input] at read
                rw [read]
                dsimp only
                refine ⟨_, .finish shared client call answer phase, rep.of_client client mine rfl rfl
                  (fun later different => ?_) ?_ ?_⟩
                · exact ⟨Function.update_of_ne different _ _, rfl,
                    Function.update_of_ne different _ _, Function.update_of_ne different _ _⟩
                · simp only [Rpc.setClient, Function.update_self]
                  refine .idle connected version rfl noLine (caught.read ?_) intact
                  rw [input]
                  rfl
                · simp only [Rpc.setClient, Function.update_self]
                  rw [rep.returned client mine]

/-- Whatever a line is, it changes the permissions and the output of its own client only. -/
theorem commandProcess_own (authorizes : Authorizes host) (client : Nat) (line : Bytes)
    (noNul : (0 : UInt8) ∉ line) (st after : State Db) (ret : CommandReturn)
    (processed : commandProcess host client line st = .ok (ret, after)) (other : Nat)
    (different : other ≠ client) :
    after.perm other = st.perm other ∧ after.output other = st.output other := by
  have outcome := commandProcess_outcome authorizes client line noNul st
  rw [processed] at outcome
  generalize result : (Except.ok (ret, after) : Except Fault (CommandReturn × State Db)) = processing
    at outcome
  cases outcome with
  | refused command error authorizer oneLine left notAccepted =>
      cases result
      exact ⟨Function.update_of_ne different _ _, Function.update_of_ne different _ _⟩
  | replied argv entry tokenized accepted replier kind =>
      cases replied : replier (commandAuthorizer (st.perm client)) argv st.db with
      | error fault =>
          rw [replied] at result
          cases result
      | ok reply =>
          rw [replied] at result
          cases result
          exact ⟨Function.update_of_ne different _ _, Function.update_of_ne different _ _⟩

/-- A line of another program is a change of the database. -/
theorem foreign_represents (authorizes : Authorizes host) {rpc next : Rpc Db}
    {shared : Shared Nat Call (Except GError Answer) (Service Db)}
    (rep : Represents defaultPermissions strptime ours rpc shared) (client : Nat) (text : Bytes)
    (stepped : rpc.foreign host ours client text = .ok next) :
    ∃ after, Step (Performs host) (Drifts ours) shared
        (if ours client = true then [] else [.other]) after ∧
      Represents defaultPermissions strptime ours next after := by
  rw [Rpc.foreign] at stepped
  cases alien : ours client with
  | true =>
      rw [alien, if_pos rfl] at stepped
      cases stepped
      exact ⟨shared, .still shared, rep⟩
  | false =>
      rw [alien, if_neg Bool.false_ne_true] at stepped
      obtain ⟨daemon, processed, result⟩ := Triple.bind_ok stepped
      cases result
      rw [Daemon.line] at processed
      rw [if_neg Bool.false_ne_true]
      by_cases known : client < rpc.daemon.clients
      · rw [if_pos known] at processed
        obtain ⟨⟨ret, st⟩, ran, result⟩ := Triple.bind_ok processed
        cases result
        have own := commandProcess_own authorizes client (upToNul text) (upToNul_noNul text)
          rpc.daemon.st st ret ran
        have foreigner (other : Nat) (owned : ours other = true) : other ≠ client := by
          intro same
          rw [same, alien] at owned
          cases owned
        refine ⟨_, .drift shared ⟨shared.object.perm, st.db⟩ fun _ _ => rfl, ?_⟩
        refine ⟨rfl, fun other owned => ?_, fun other owned => ?_, rep.returned, rep.foreign⟩
        · rw [(own other (foreigner other owned)).1]
          exact rep.perm other owned
        · rw [(own other (foreigner other owned)).2]
          exact rep.link other owned
      · rw [if_neg known] at processed
        cases processed
        exact ⟨_, .drift shared shared.object fun _ _ => rfl, rep⟩

theorem rpcEffects_called {rpc : Rpc Db} {client grant : Nat} {call : Call}
    {answer : Except GError Answer} {db : Db} (waiting : (rpc.client client).waiting = some call)
    (whole : newline ∈ rpc.toServer client)
    (performed : call.perform host (rpc.daemon.st.perm client) rpc.daemon.st.db
      = .ok (answer, grant, db)) :
    rpcEffects host ours rpc (.readLine client) = [.call client call answer] := by
  rw [rpcEffects, waiting]
  dsimp only
  rw [if_pos whole, performed]

/-- Reading the line of a call performs it. -/
theorem readLine_represents (authorizes : Authorizes host)
    (inverse : TimeInverse host.strftime strptime)
    {rpc next : Rpc Db} {shared : Shared Nat Call (Except GError Answer) (Service Db)}
    (rep : Represents defaultPermissions strptime ours rpc shared) (client : Nat)
    (may : rpcMay host strptime rpc (.readLine client))
    (stepped : rpc.readLine host client = .ok next) :
    ∃ after, Step (Performs host) (Drifts ours) shared
        (rpcEffects host ours rpc (.readLine client)) after ∧
      Represents defaultPermissions strptime ours next after := by
  rw [Rpc.readLine] at stepped
  by_cases whole : newline ∈ rpc.toServer client
  · rw [if_pos whole] at stepped
    cases mine : ours client with
    | false =>
        rw [(rep.foreign client mine).2] at whole
        cases whole
    | true =>
        have link := rep.link client mine
        generalize phase : shared.phase client = current at link
        cases link with
        | fresh new noLine noOutput =>
            rw [noLine] at whole
            cases whole
        | idle connected version free noLine caught intact =>
            rw [noLine] at whole
            cases whole
        | answered other answer lines connected version waiting noLine caught reads intact =>
            rw [noLine] at whole
            cases whole
        | called call connected version waiting plain request caught intact =>
            have text := call.line_text host plain
            rw [request, Delimited.takeWhile_front newline _ [] text.1,
              Delimited.dropWhile_front newline _ [] text.1] at stepped
            obtain ⟨daemon, processed, result⟩ := Triple.bind_ok stepped
            cases result
            rw [Daemon.line, if_pos connected, upToNul_eq _ text.2] at processed
            obtain ⟨⟨ret, st⟩, ran, result⟩ := Triple.bind_ok processed
            cases result
            obtain ⟨answer, grant, lines, served⟩ := call.served authorizes inverse plain
              client rpc.daemon.st (may call waiting whole) st ret ran
            have perm : shared.object.perm client = rpc.daemon.st.perm client := by
              rw [rep.perm client mine, if_pos connected]
            have performed : Performs host client call shared.object answer
                ⟨Function.update shared.object.perm client (shared.object.perm client ||| grant),
                  st.db⟩ := by
              refine ⟨grant, st.db, ?_, rfl⟩
              rw [perm, rep.db]
              exact served.performed
            rw [rpcEffects_called waiting whole served.performed]
            refine ⟨_, .perform shared client call answer _ phase performed, ?_⟩
            refine ⟨rfl, fun other owned => ?_, fun other owned => ?_, rep.returned,
              fun other alien => ?_⟩
            · dsimp only
              rw [served.perm]
              by_cases same : other = client
              · subst same
                rw [Function.update_self, Function.update_self, perm, if_pos connected]
              · rw [Function.update_of_ne same, Function.update_of_ne same]
                exact rep.perm other owned
            · dsimp only
              rw [served.output]
              by_cases same : other = client
              · subst same
                simp only [Function.update_self]
                exact .answered call answer lines connected version waiting rfl (caught.more lines)
                  served.reads intact
              · simp only [Function.update_of_ne same]
                exact rep.link other owned
            · have different : other ≠ client := by
                intro same
                rw [same, mine] at alien
                cases alien
              dsimp only
              rw [Function.update_of_ne different]
              exact rep.foreign other alien
  · rw [if_neg whole] at stepped
    cases stepped
    have nothing : rpcEffects host ours rpc (.readLine client) = [] := by
      rw [rpcEffects]
      cases (rpc.client client).waiting with
      | none => rfl
      | some call => exact if_neg whole
    rw [nothing]
    exact ⟨shared, .still shared, rep⟩

/-- Each step of daemon and clients is a step of the service. -/
theorem rpc_simulates (authorizes : Authorizes host)
    (inverse : TimeInverse host.strftime strptime) :
    Simulates (rpcStep host defaultPermissions strptime changes ours) (rpcEffects host ours)
      (Performs host) (Drifts ours) (Represents defaultPermissions strptime ours)
      (rpcMay host strptime) := by
  intro rpc shared event next rep may stepped
  cases event with
  | connect =>
      cases stepped
      exact ⟨shared, .still shared, connect_represents rep⟩
  | connected client =>
      cases stepped
      exact ⟨shared, .still shared, connected_represents rep client⟩
  | send client call =>
      cases stepped
      exact send_represents rep client call may
  | readLine client =>
      exact readLine_represents authorizes inverse rep client may stepped
  | receive client =>
      cases stepped
      exact receive_represents rep client
  | foreign client text => exact foreign_represents authorizes rep client text stepped
  | dbProcess write =>
      cases stepped
      refine ⟨_, .drift shared ⟨shared.object.perm, write rpc.daemon.st.db⟩ fun _ _ => rfl, ?_⟩
      exact ⟨rfl, rep.perm, rep.link, rep.returned, rep.foreign⟩

/-- In every run, with lines of other programs and changes of the database in between, the calls
take effect on the service one after the other, in the order in which the daemon reads their lines.
A client is told what its calls return there, all of it once it is in no call, and no assertion of
its parse functions fails. -/
theorem calls_linearized (authorizes : Authorizes host)
    (inverse : TimeInverse host.strftime strptime) (db : Db)
    (events : List (RpcEvent Db)) (final : Rpc Db)
    (along : Along (rpcStep host defaultPermissions strptime changes ours) (rpcMay host strptime)
      (rpcStart db) events)
    (ran : rpcRun host defaultPermissions strptime changes ours db events = .ok final) :
    ∃ service,
      Sequential (Performs host) (Drifts ours) ⟨fun _ => defaultPermissions, db⟩
        (history (rpcStep host defaultPermissions strptime changes ours) (rpcEffects host ours)
          (rpcStart db) events) service ∧
      service.db = final.daemon.st.db ∧
      ∀ client, ours client = true →
        (client < final.daemon.clients →
          service.perm client = final.daemon.st.perm client) ∧
        (final.client client).aborted = false ∧
        ∃ pending, own client
            (history (rpcStep host defaultPermissions strptime changes ours) (rpcEffects host ours)
              (rpcStart db) events)
            = (final.client client).returned ++ pending ∧
          ((final.client client).waiting = none → pending = []) := by
  obtain ⟨after, rep, sequential, told⟩ :=
    (rpc_simulates authorizes inverse).run events (rpcStart db) final
      (serviceStart defaultPermissions db) (represents_start db) along ran
  refine ⟨after.object, sequential, rep.db, fun client mine => ⟨fun known => ?_, ?_, ?_⟩⟩
  · rw [rep.perm client mine, if_pos known]
  · exact (rep.link client mine).intact
  · refine ⟨(after.phase client).pending, ?_, (rep.link client mine).pending⟩
    have all := told client
    rw [Shared.told, rep.returned client mine] at all
    exact all.symm

end Simulation

/-- The host of `killCount`, with times that are printed as numbers. -/
def callHost : Host Nat := { killHost with strftime := fun time => some (decimal time) }

def callStrptime (text : Bytes) : Int := (strtol text).1

theorem call_inverse : TimeInverse callHost.strftime callStrptime := by
  intro time low high
  exact ⟨decimal time, ⟨rfl, decimal_oneLine time, decimal_noNul time⟩,
    congrArg Prod.fst (strtol_whole_decimal time)⟩

/-- Two clients and another program: the first gives the password and kills the song that the
second lists; the other program may not. -/
def callEvents : List (RpcEvent Nat) :=
  [.connect, .connect, .connect, .connected 0, .connected 1,
    .send 0 (.password (lit "secret")), .send 1 (.songs .list (lit "id=1")),
    .foreign 2 (lit "kill id=1"), .readLine 1, .dbProcess (· + 5), .readLine 0, .receive 0,
    .send 0 (.kill .song true (lit "id=1")), .readLine 0, .receive 1, .receive 0]

/-- The calls of `callEvents`, which are sound whatever the kill count is. -/
def soundCalls : List Call :=
  [.password (lit "secret"), .songs .list (lit "id=1"), .kill .song true (lit "id=1")]

theorem killCount_row : SoundRow { texts := [1] }
    [⟨1, 1, some (lit "1")⟩, ⟨0, 0, some (lit "a.ogg")⟩] where
  ints := by
    simp only [List.forall_mem_cons]
    exact ⟨⟨by decide, by decide⟩, ⟨by decide, by decide⟩, List.forall_mem_nil _⟩
  texts := List.forall_mem_singleton.mpr ⟨lit "a.ogg", rfl, by decide⟩
  lastPlayed := by
    rintro index ⟨⟩
  tags := by
    rintro index ⟨⟩

theorem killCount_kill (allowed : Action → Bool) (kills : Nat) :
    dbKillExpr killCount allowed .song (lit "id=1") true kills
      = if allowed .update then (.ok 1, kills + 1)
        else (.error (prepareError (lit "not authorized")), kills) := by
  have prepared : killCount.prepare allowed (lit "update song set kill = kill + 1 where id=1 ;") kills
      = if allowed .update then .ok (.done (kills + 1)) else .error (lit "not authorized") := by
    have update : ¬lit "select " <+: lit "update song set kill = kill + 1 where id=1 ;" := by decide
    simp only [killCount]
    rw [if_neg update, if_true]
  have text : lit "update " ++ Table.song.name ++ lit " set " ++ (lit "kill = " ++ lit "kill + 1")
      ++ lit " where " ++ lit "id=1" ++ lit " ;"
    = lit "update song set kill = kill + 1 where id=1 ;" := rfl
  rw [dbKillExpr, if_pos rfl, dbUpdateExpr, sqlUpdateEntry, text, prepared]
  by_cases update : allowed .update = true
  · rw [if_pos update, if_pos update]
    rfl
  · rw [if_neg update, if_neg update]

theorem killCount_select (allowed : Action → Bool) (rest : Bytes) (kills : Nat) :
    killCount.prepare allowed (lit "select " ++ rest) kills
      = .ok (.row [⟨1, 1, some (lit "1")⟩, ⟨0, 0, some (lit "a.ogg")⟩] kills (.done kills)) := by
  simp only [killCount]
  exact if_pos (List.prefix_append _ _)

theorem soundCalls_sound : ∀ call ∈ soundCalls, ∀ perm kills,
    call.Sound callHost callStrptime perm kills := by
  simp only [soundCalls, List.forall_mem_cons]
  refine ⟨password_sound callHost callStrptime (lit "secret"), fun perm kills => ?list,
    fun perm kills => ?kill, List.forall_mem_nil _⟩
  case list =>
    have selected : killCount.prepare (commandAuthorizer perm)
        (selectText (lit "id, uri") .song (lit "id=1")) kills
        = .ok (.row [⟨1, 1, some (lit "1")⟩, ⟨0, 0, some (lit "a.ogg")⟩] kills (.done kills)) :=
      killCount_select _ (lit "id, uri from song where id=1 ;") kills
    refine ⟨fun execution prepared finished => ?_, fun error grant next =>
      Call.perform_texts _ _ perm kills next (fun _ error grant next done => ?_) error grant⟩
    · obtain rfl := Except.ok.inj (selected.symm.trans prepared)
      exact List.forall_mem_singleton.mpr killCount_row
    · rw [Call.run, dbListSongExpr, dbListExpr_eq] at done
      rw [show callHost.sqlite.prepare (commandAuthorizer perm) _ kills = _ from selected] at done
      cases done
  case kill =>
    refine ⟨fun changes grant next done => ?_, fun error grant next =>
      Call.perform_texts _ _ perm kills next (fun _ error grant next done => ?_) error grant⟩
    · rw [Call.run, show callHost.sqlite = killCount from rfl, killCount_kill] at done
      split at done
      · cases done
        exact ⟨by decide, by decide⟩
      · cases done
    · rw [Call.run, show callHost.sqlite = killCount from rfl, killCount_kill] at done
      split at done
      · cases done
      · cases done
        decide

/-- A condition that can be computed along `callEvents`. -/
def callMay (rpc : Rpc Nat) : RpcEvent Nat → Prop
  | .send _ call => call.Plain
  | .readLine client => ∀ call ∈ (rpc.client client).waiting, call ∈ soundCalls
  | _ => True

instance (rpc : Rpc Nat) : ∀ event, Decidable (callMay rpc event)
  | .send _ call => inferInstanceAs (Decidable call.Plain)
  | .readLine client =>
      inferInstanceAs (Decidable (∀ call ∈ (rpc.client client).waiting, call ∈ soundCalls))
  | .connect | .connected _ | .receive _ | .foreign _ _ | .dbProcess _ => instDecidableTrue

theorem callMay_may (rpc : Rpc Nat) (event : RpcEvent Nat) (may : callMay rpc event) :
    rpcMay callHost callStrptime rpc event := by
  cases event with
  | send client call => exact may
  | readLine client =>
      intro call waiting whole
      exact soundCalls_sound call (may call waiting) _ _
  | connect => trivial
  | connected client => trivial
  | receive client => trivial
  | foreign client text => trivial
  | dbProcess write => trivial

def callOurs (client : Nat) : Bool := client ≠ 2

theorem callEvents_may : Along (rpcStep callHost permissionSelect callStrptime 0 callOurs) callMay
    (rpcStart 0) callEvents := by
  decide +kernel

/-- What the first client has been told, the call it is in, and the kill count. -/
def callsTold (rpc : Rpc Nat) : List (Call × Except GError Answer) × Option Call × Nat :=
  ((rpc.client 0).returned, (rpc.client 0).waiting, rpc.daemon.st.db)

theorem callEvents_run : (rpcRun callHost permissionSelect callStrptime 0 callOurs 0 callEvents).map
    callsTold = .ok ([(.password (lit "secret"), .ok .authenticated),
      (.kill .song true (lit "id=1"), .ok (.changes 1))], none, 6) := by
  decide +kernel

theorem calls_linearized_kill : ∃ final service,
    rpcRun callHost permissionSelect callStrptime 0 callOurs 0 callEvents = .ok final ∧
      Sequential (Performs callHost) (Drifts callOurs) ⟨fun _ => permissionSelect, 0⟩
        (history (rpcStep callHost permissionSelect callStrptime 0 callOurs)
          (rpcEffects callHost callOurs) (rpcStart 0) callEvents) service ∧
      service.db = 6 ∧
      own 0 (history (rpcStep callHost permissionSelect callStrptime 0 callOurs)
          (rpcEffects callHost callOurs) (rpcStart 0) callEvents)
        = [(.password (lit "secret"), .ok .authenticated),
            (.kill .song true (lit "id=1"), .ok (.changes 1))] := by
  have told := callEvents_run
  cases ran : rpcRun callHost permissionSelect callStrptime 0 callOurs 0 callEvents with
  | error fault =>
      rw [ran] at told
      cases told
  | ok final =>
      rw [ran] at told
      have state : callsTold final = _ := Except.ok.inj told
      simp only [callsTold, Prod.mk.injEq] at state
      obtain ⟨returned, waiting, kills⟩ := state
      have authorizes : Authorizes callHost := fun _ _ => rfl
      obtain ⟨service, sequential, db, clients⟩ := calls_linearized authorizes call_inverse
        0 callEvents final (callEvents_may.mono callMay_may callEvents _) ran
      obtain ⟨-, -, pending, all, done⟩ := clients 0 rfl
      refine ⟨final, service, rfl, sequential, db.trans kills, ?_⟩
      rw [all, done waiting, List.append_nil, returned]

end Mpdcron.Eugene
