import Mpdcron.Gmodule
import Mpdcron.Lib.Triple

/-! `cron-loop.c`, the connection of the daemon to Mpd, and the `event_run` of
`cron-event.c` that it calls. -/

namespace Mpdcron.Cron

open Mpdcron.Gmodule

/-! ### Events -/

/-- The events of `enum mpd_idle` that `event_run` knows, and the others. -/
inductive MpdIdle where
  | database
  | storedPlaylist
  | queue
  | player
  | mixer
  | output
  | options
  | update
  | other
  deriving DecidableEq, Repr

/-- `event_run` for handlers that return `handler`. `answered` is whether Mpd answered what the
event asks of it first, where it asks for anything. -/
def eventRun (event : MpdIdle) (answered : Bool) (handler : Nat → Int) (modules : Modules) :
    Int :=
  match event with
  | .database => if answered then (moduleDatabaseRun handler modules).ret else -1
  | .storedPlaylist => (moduleStoredPlaylistRun handler modules).ret
  | .queue => (moduleQueueRun handler modules).ret
  | .player => if answered then (modulePlayerRun handler modules).ret else -1
  | .mixer => if answered then (moduleMixerRun handler modules).ret else -1
  | .output => (moduleOutputRun handler modules).ret
  | .options => if answered then (moduleOptionsRun handler modules).ret else -1
  | .update => if answered then (moduleUpdateRun handler modules).ret else -1
  | .other => 0

/-! ### The main loop -/

inductive LoopCallback where
  | loopReconnect
  | loopIdle
  deriving DecidableEq, Repr

structure Source where
  id : Nat
  callback : LoopCallback
  deriving DecidableEq, Repr

/-- The static variables of `cron-loop.c`; `conn` is whether the pointer is not NULL. Beside
them, the sources it has in the main loop and the next id that one gets. -/
structure Loop where
  idleSid : Nat
  reconnectSid : Nat
  conn : Bool
  sources : List Source
  nextId : Nat
  deriving DecidableEq, Repr

inductive Stop where
  | assertion
  | exit
  deriving DecidableEq, Repr

abbrev Outcome := Except Stop Loop

def assert (condition : Prop) [Decidable condition] (loop : Loop) : Outcome :=
  if condition then .ok loop else .error .assertion

/-- What `mpd_send_idle` or `mpd_send_idle_mask` returns, and whether the connection is in
error afterwards. -/
structure Sent where
  ret : Bool
  error : Bool
  deriving DecidableEq, Repr

/-- What libmpdclient answers to `loop_reconnect`. -/
structure Connecting where
  created : Bool
  error : Bool
  authenticated : Bool
  sent : Sent
  deriving DecidableEq, Repr

inductive ConnectionError where
  | success
  | unknownCommand
  | other
  deriving DecidableEq, Repr

/-- What libmpdclient answers to `loop_idle`; `events` is what `event_run` returns for each
event that came, in turn. -/
structure Idling where
  finished : Bool
  error : ConnectionError
  events : List Int
  sent : Sent
  deriving DecidableEq, Repr

def Loop.addSource (callback : LoopCallback) (loop : Loop) : Loop :=
  { loop with sources := loop.sources ++ [⟨loop.nextId, callback⟩], nextId := loop.nextId + 1 }

def gSourceRemove (id : Nat) (loop : Loop) : Loop :=
  { loop with sources := loop.sources.filter (·.id ≠ id) }

def loopFailure (loop : Loop) : Outcome := do
  let loop ← assert loop.conn loop
  return { loop with conn := false }

def loopScheduleReconnect (loop : Loop) : Outcome := do
  let loop ← assert (loop.reconnectSid = 0) loop
  return { loop.addSource .loopReconnect with reconnectSid := loop.nextId }

def loopScheduleIdle (sent : Sent) (loop : Loop) : Outcome := do
  let loop ← assert (loop.idleSid = 0) loop
  let loop ← assert loop.conn loop
  if ¬sent.ret ∧ sent.error then
    let loop ← loopFailure loop
    loopScheduleReconnect loop
  else return { loop.addSource .loopIdle with idleSid := loop.nextId }

/-- The returned value is whether the timer stays. `password` is whether one is configured. -/
def loopReconnect (password : Bool) (connecting : Connecting) (loop : Loop) :
    Except Stop (Bool × Loop) := do
  if ¬connecting.created then .error .exit
  else
    let loop := { loop with conn := true }
    if connecting.error then
      let loop ← loopFailure loop
      return (true, loop)
    else if password ∧ ¬connecting.authenticated then .error .exit
    else
      let loop ← loopScheduleIdle connecting.sent loop
      return (false, { loop with reconnectSid := 0 })

/-- It always returns FALSE. -/
def loopIdle (idling : Idling) (loop : Loop) : Outcome := do
  let loop ← assert (loop.idleSid ≠ 0) loop
  let loop ← assert loop.conn loop
  let loop := { loop with idleSid := 0 }
  if ¬idling.finished then
    if idling.error = .unknownCommand then .error .exit
    else if idling.error ≠ .success then
      let loop ← loopFailure loop
      loopScheduleReconnect loop
    else loopScheduleIdle idling.sent loop
  else if idling.events.any (· < 0) then
    -- the events after the first negative one are not run
    let loop ← loopFailure loop
    loopScheduleReconnect loop
  else loopScheduleIdle idling.sent loop

def loopConnect (password : Bool) (connecting : Connecting) (loop : Loop) : Outcome := do
  let (again, loop) ← loopReconnect password connecting loop
  if again then loopScheduleReconnect loop else return loop

def loopDisconnect (loop : Loop) : Loop :=
  let loop := if loop.idleSid ≠ 0 then gSourceRemove loop.idleSid loop else loop
  let loop := if loop.reconnectSid ≠ 0 then gSourceRemove loop.reconnectSid loop else loop
  { loop with conn := false }

/-! ### Runs -/

/-- The reconnect timer of an id fires, the idle watch of an id has input, or other code takes
ids of the main loop. -/
inductive LoopEvent where
  | timer (id : Nat) (connecting : Connecting)
  | watch (id : Nat) (idling : Idling)
  | otherSources (count : Nat)
  deriving DecidableEq, Repr

/-- An event that names no source of the loop changes nothing. -/
def loopStep (password : Bool) (loop : Loop) : LoopEvent → Outcome
  | .timer id connecting =>
      if ⟨id, .loopReconnect⟩ ∈ loop.sources then do
        let (again, loop) ← loopReconnect password connecting loop
        return if again then loop else gSourceRemove id loop
      else .ok loop
  | .watch id idling =>
      if ⟨id, .loopIdle⟩ ∈ loop.sources then do
        let loop ← loopIdle idling loop
        return gSourceRemove id loop
      else .ok loop
  | .otherSources count => .ok { loop with nextId := loop.nextId + count }

/-- The statics at the start, in a main loop that has handed out `sourceIds` ids. -/
def loopStart (sourceIds : Nat) : Loop :=
  { idleSid := 0, reconnectSid := 0, conn := false, sources := [], nextId := sourceIds + 1 }

/-- `loop_connect`, then the main loop. -/
def loopRun (password : Bool) (sourceIds : Nat) (connecting : Connecting)
    (events : List LoopEvent) : Outcome := do
  let loop ← loopConnect password connecting (loopStart sourceIds)
  events.foldlM (loopStep password) loop

end Mpdcron.Cron
