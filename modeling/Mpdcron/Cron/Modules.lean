import Mpdcron.Cron.Reconnect
import Mpdcron.Lib.Traces

/-! `module_load` and `module_close` of `cron-gmodule.c` around the dispatchers: what is done with
each module from its start to its end, whatever its handlers return and whenever a signal comes. -/

namespace Mpdcron.Cron

open Mpdcron.Gmodule Traces

/-! ### The code -/

/-- What is done with a `struct module_data` and the library it is about. An `init` or `destroy`
that is NULL does nothing, the former with success. -/
inductive Op where
  | gNew
  | gModuleOpen
  | init (ret : Int)
  | event (event : MpdIdle) (ret : Int)
  | destroy
  | gModuleClose
  | gFree
  deriving DecidableEq, Repr

/-- A step of the daemon: with one module, or with the static list `modules`. -/
inductive Act where
  | on (address : Nat) (op : Op)
  | prepend (mod : ModuleData)
  | removeLink (mod : ModuleData)
  | null
  deriving DecidableEq, Repr

/-- `MPDCRON_INIT_FAILURE` -/
def initFailure : Int := 1

/-- What `module_init_one` finds behind a name: whether there is a file of this name and it opens as
a library, the structure it exports, and what its `init` returns. -/
structure Loading where
  found : Bool
  opens : Bool
  data : Option MpdcronModule
  initRet : Int
  deriving DecidableEq, Repr

def moduleInitOne (address : Nat) (loading : Loading) : List Act :=
  if loading.found = false ∨ loading.opens = false then [.on address .gNew, .on address .gFree]
  else
    match loading.data with
    | none =>
        [.on address .gNew, .on address .gModuleOpen, .on address .gModuleClose, .on address .gFree]
    | some data =>
        if loading.initRet = initFailure then
          [.on address .gNew, .on address .gModuleOpen, .on address (.init loading.initRet),
            .on address .gModuleClose, .on address .gFree]
        else
          [.on address .gNew, .on address .gModuleOpen, .on address (.init loading.initRet),
            .prepend ⟨address, data⟩]

/-- The names are loaded in turn, each at an address of its own. -/
def keyfileLoadModules : Nat → List Loading → List Act
  | _, [] => []
  | address, loading :: rest =>
      moduleInitOne address loading ++ keyfileLoadModules (address + 1) rest

def moduleDestroyOne (gclose : Bool) (mod : ModuleData) : List Act :=
  .on mod.address .destroy ::
    ((if gclose then [.on mod.address .gModuleClose] else []) ++ [.on mod.address .gFree])

def moduleClose (gclose : Bool) (modules : List ModuleData) : List Act :=
  modules.flatMap (moduleDestroyOne gclose) ++ [.null]

/-- A handler call, and what `module_process_ret` does when it asks to be unloaded. -/
def callActs (event : MpdIdle) (call : ModuleData × Int) : List Act :=
  .on call.1.address (.event event call.2) ::
    if call.2 = eventUnload then .removeLink call.1 :: moduleDestroyOne false call.1 else []

/-- The events for which `event_run` asks Mpd something before it runs the modules. -/
def MpdIdle.asks : MpdIdle → Bool
  | .database | .player | .mixer | .options | .update => true
  | .storedPlaylist | .queue | .output | .other => false

/-- An event, whether Mpd answered, and what the handlers return. -/
structure Dispatch where
  event : MpdIdle
  answered : Bool
  handler : Nat → Int

def Dispatch.run (dispatch : Dispatch) (modules : List ModuleData) : Run :=
  if dispatch.event.asks && !dispatch.answered then ⟨-1, [], modules⟩
  else moduleRunLoop dispatch.event.pointer dispatch.handler modules 0 0 []

def eventActs : List ModuleData → List Dispatch → List Act
  | _, [] => []
  | modules, dispatch :: rest =>
      (dispatch.run modules).calls.flatMap (callActs dispatch.event)
        ++ eventActs (dispatch.run modules).modules rest

def Act.apply (modules : List ModuleData) : Act → List ModuleData
  | .on _ _ => modules
  | .prepend mod => mod :: modules
  | .removeLink mod => modules.erase mod
  | .null => []

/-- The static list `modules` after the steps. -/
def modulesOf (acts : List Act) : List ModuleData := acts.foldl Act.apply []

/-- A run of the daemon: the names in `main.modules` and the events that come. -/
structure Daemon where
  loadings : List Loading
  dispatches : List Dispatch

/-- The run as long as no signal comes: up to an event that is waited for, or to an
`exit(EXIT_FAILURE)` of `loop_reconnect` or `loop_idle`. The main loop has no other end, so that the
`cleanup` behind it is not reached. -/
def Daemon.front (daemon : Daemon) : List Act :=
  keyfileLoadModules 0 daemon.loadings
    ++ eventActs (modulesOf (keyfileLoadModules 0 daemon.loadings)) daemon.dispatches

/-- `sig_cleanup`, with which the process ends unless another signal comes. -/
def sigCleanup (done : List Act) : List Act := moduleClose false (modulesOf done)

/-- The run when signals come after so many steps of what is then running. -/
def Daemon.life (daemon : Daemon) (signals : List Nat) : List Act :=
  interrupted sigCleanup [] daemon.front signals

/-- A dispatcher's value is that of `event_run`. -/
theorem Dispatch.run_ret (dispatch : Dispatch) (modules : Modules) :
    (dispatch.run modules.list).ret
      = eventRun dispatch.event dispatch.answered dispatch.handler modules := by
  rcases dispatch with ⟨event, answered, handler⟩
  have unknown : ∀ (list : List ModuleData) walk,
      (moduleRunLoop (fun _ => false) handler list walk 0 []).ret = 0 := by
    intro list walk
    generalize same : list.length - walk = left
    induction left generalizing walk with
    | zero => rw [moduleRunLoop_end _ _ _ _ _ _ (by omega)]
    | succ left ih =>
        have bound : walk < list.length := by omega
        rw [moduleRunLoop]
        split
        · rfl
        · exact ih (walk + 1) (by omega)
  cases event with
  | other => exact unknown modules.list 0
  | _ => cases answered <;> rfl

/-! ### What a module is promised -/

inductive Stage where
  | absent
  | allocated
  | opened
  | refused
  | rejected
  | dropped
  | ready
  | destroyed
  | closed
  | freed
  deriving DecidableEq, Repr

/-- The handlers of a module are called after its `init` has succeeded and before its `destroy`, and
only those that it has; nothing is done with it after it has been freed, and nothing twice. -/
def Daemon.allows (daemon : Daemon) (address : Nat) : Stage → Op → Option Stage
  | .absent, .gNew => some .allocated
  | .allocated, .gModuleOpen => some .opened
  | .allocated, .gFree => some .dropped
  | .opened, .init ret => some (if ret = initFailure then .refused else .ready)
  | .opened, .gModuleClose => some .rejected
  | .refused, .gModuleClose => some .rejected
  | .rejected, .gFree => some .dropped
  | .ready, .event event _ =>
      if (daemon.loadings[address]?.bind Loading.data).any event.pointer then some .ready else none
  | .ready, .destroy => some .destroyed
  | .destroyed, .gModuleClose => some .closed
  | .destroyed, .gFree => some .freed
  | .closed, .gFree => some .freed
  | _, _ => none

def touches (acts : List Act) : List (Nat × Op) :=
  acts.filterMap fun act =>
    match act with
    | .on address op => some (address, op)
    | _ => none

/-- The steps keep the promise to every module. -/
def Daemon.Keeps (daemon : Daemon) (acts : List Act) : Prop :=
  (follow daemon.allows (fun _ => .absent) (touches acts)).isSome

/-- No further signal comes between the first `destroy` of a `sig_cleanup` and its end. -/
def undisturbed (done : List Act) : List Nat → Prop
  | [] => True
  | cut :: cuts =>
      ¬(0 < cut ∧ cut < (sigCleanup done).length) ∧
        undisturbed (done ++ (sigCleanup done).take cut) cuts

def Daemon.Undisturbed (daemon : Daemon) : List Nat → Prop
  | [] => True
  | cut :: cuts => undisturbed (daemon.front.take cut) cuts

/-- The module that is just being unloaded. -/
def inHand (acts : List Act) : Option ModuleData :=
  acts.getLast?.bind fun act =>
    match act with
    | .removeLink mod => some mod
    | _ => none

/-- The module that the first signal finds in hand. -/
def Daemon.abandoned (daemon : Daemon) (signals : List Nat) : Option ModuleData :=
  signals.head?.bind fun cut => inHand (daemon.front.take cut)

end Mpdcron.Cron
