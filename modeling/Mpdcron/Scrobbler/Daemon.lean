import Mpdcron.Scrobbler.Journal

/-! The scrobblers of one process with their journal files. -/

namespace Mpdcron.AudioScrobbler

open CString

abbrev Files := Bytes → Option Bytes

/-- A scrobbler and, for the record, the queue it had at each earlier `as_save_cache`. -/
structure Instance where
  world : World
  saved : List (List Record)

structure Daemon where
  scrobblers : List Instance
  journalFileEmpty : Bool
  files : Files

section

variable (iso8601 : Bytes → Option Int)

/-- `scrobbler_new_callback` -/
def Daemon.scrobblerNewCallback (daemon : Daemon) (config : ScrobblerConfig) :
    Except Assertion Daemon := do
  let (queue, journalFileEmpty) := match config.journal with
    | none => ([], daemon.journalFileEmpty)
    | some path => journalRead iso8601 (daemon.files path) []
  let world ← AudioScrobbler.scrobblerNewCallback config queue daemon.scrobblers.length
  return { daemon with
    scrobblers := ⟨world, []⟩ :: daemon.scrobblers
    journalFileEmpty := journalFileEmpty }

/-- `as_init` in a process where `journal_file_empty` still is zero. -/
def asInit (configs : List ScrobblerConfig) (files : Files) : Except Assertion Daemon :=
  configs.foldlM (Daemon.scrobblerNewCallback iso8601)
    { scrobblers := [], journalFileEmpty := false, files := files }

end

def scrobblerSaveCallback (journalFileEmpty : Bool) (files : Files) (scrobbler : Scrobbler) :
    Except Assertion Files :=
  match scrobbler.config.journal with
  | none => .ok files
  | some path => do
      let file ← journalWrite true journalFileEmpty scrobbler.queue (files path)
      return fun other => if other = path then file else files other

/-- `as_save_cache` where every `fopen` succeeds. -/
def asSaveCache (daemon : Daemon) : Except Assertion Daemon := do
  let files ← daemon.scrobblers.foldlM
    (fun files each =>
      scrobblerSaveCallback daemon.journalFileEmpty files each.world.scrobbler)
    daemon.files
  return { daemon with
    scrobblers := daemon.scrobblers.map fun each =>
      { each with saved := each.saved ++ [each.world.scrobbler.queue] }
    files := files }

/-- The player modules speak to all scrobblers, the main loop and the HTTP client to the
one with an index. -/
inductive DaemonEvent where
  | songchange (file : Bytes) (artist track album number mbid : Option Bytes) (length : Int)
      (time2 : Option Bytes) (timestamp : Bytes)
  | nowPlaying (artist track album number mbid : Option Bytes) (length : Int)
      (source : Option Bytes)
  | timer (scrobbler : Nat) (id : Nat) (timestr : Bytes) (results : List HttpResult)
  | http (scrobbler : Nat) (request : Nat) (result : HttpResult) (results : List HttpResult)
  | otherSources (count : Nat)
  | save

/-- What the event is to the scrobbler at `index`. -/
def DaemonEvent.received (index : Nat) : DaemonEvent → Option Event
  | .songchange file artist track album number mbid length time2 timestamp =>
      some (.songchange file artist track album number mbid length time2 timestamp)
  | .nowPlaying artist track album number mbid length source =>
      some (.nowPlaying artist track album number mbid length source)
  | .timer scrobbler id timestr results =>
      if scrobbler = index then some (.timer id timestr results) else none
  | .http scrobbler request result results =>
      if scrobbler = index then some (.http request result results) else none
  | .otherSources count => some (.otherSources count)
  | .save => none

def Instance.receive (checksum : Bytes → Bytes) (each : Instance) : Option Event → Outcome
  | none => .ok each.world
  | some event => step checksum each.world event

/-- The scrobblers from `index` on, after each has received the event. -/
def stepEach (checksum : Bytes → Bytes) (event : DaemonEvent) :
    Nat → List Instance → Except Assertion (List Instance)
  | _, [] => .ok []
  | index, each :: rest => do
      let world ← each.receive checksum (event.received index)
      let rest ← stepEach checksum event (index + 1) rest
      return { each with world := world } :: rest

def daemonStep (checksum : Bytes → Bytes) (daemon : Daemon) :
    DaemonEvent → Except Assertion Daemon
  | .save => asSaveCache daemon
  | event => do
      let scrobblers ← stepEach checksum event 0 daemon.scrobblers
      return { daemon with scrobblers := scrobblers }

def daemonRun (checksum : Bytes → Bytes) (iso8601 : Bytes → Option Int)
    (configs : List ScrobblerConfig) (files : Files) (events : List DaemonEvent) :
    Except Assertion Daemon := do
  let daemon ← asInit iso8601 configs files
  events.foldlM (daemonStep checksum) daemon

end Mpdcron.AudioScrobbler
