import Mathlib.Data.List.Basic

/-! The event dispatchers of `cron-gmodule.c`: the loop over the loaded modules
and the treatment of the value a handler returns. -/

namespace Mpdcron.Gmodule

/-- `enum mpdcron_event_retval`. A handler returns a plain `int`, so it may also
return a value that is none of these. -/
def eventSuccess : Int := 0
def eventReconnect : Int := 1
def eventReconnectNow : Int := 2
def eventUnload : Int := 3

@[simp] theorem eventUnload_ne_eventReconnectNow : eventUnload ≠ eventReconnectNow := by
  decide

/-- The event pointers of `struct mpdcron_module`; a field is true where the
pointer is not NULL. -/
structure MpdcronModule where
  eventDatabase : Bool
  eventStoredPlaylist : Bool
  eventQueue : Bool
  eventPlayer : Bool
  eventMixer : Bool
  eventOutput : Bool
  eventOptions : Bool
  eventUpdate : Bool
  deriving DecidableEq, Repr

/-- One `struct module_data`. `address` tells two allocations apart. -/
structure ModuleData where
  address : Nat
  data : MpdcronModule
  deriving DecidableEq, Repr

/-- The static list `modules`. Every node was allocated by its own `g_new0`. -/
structure Modules where
  list : List ModuleData
  distinct : list.Nodup

/-- The returned value and what `*slink_r` and `*slist_r` hold afterwards. A node
is its index in the list, and an index past the end stands for NULL. -/
structure Processed where
  ret : Int
  slink : Nat
  slist : List ModuleData
  deriving DecidableEq, Repr

def moduleProcessRet (ret : Int) (slink : Nat) (slist : List ModuleData) : Processed :=
  if ret = eventSuccess then ⟨0, slink, slist⟩
  else if ret = eventReconnect then ⟨-1, slink, slist⟩
  else if ret = eventReconnectNow then ⟨-1, slink, slist⟩
  else if ret = eventUnload then
    -- `*slink_r = *slist_r`: the caller's iterator is sent back to the first node
    ⟨0, 0, slist.eraseIdx slink⟩
  else ⟨0, slink, slist⟩

/-- What one run of a dispatcher leaves: its return value, the handler calls in
order with what each returned, and the list `modules`. -/
structure Run where
  ret : Int
  calls : List (ModuleData × Int)
  modules : List ModuleData
  deriving DecidableEq, Repr

theorem moduleProcessRet_unload (slink : Nat) (slist : List ModuleData) :
    moduleProcessRet eventUnload slink slist = ⟨0, 0, slist.eraseIdx slink⟩ := by
  simp [moduleProcessRet, eventUnload, eventSuccess, eventReconnect, eventReconnectNow]

theorem moduleProcessRet_keeps (ret : Int) (slink : Nat) (slist : List ModuleData)
    (kept : ret ≠ eventUnload) :
    (moduleProcessRet ret slink slist).slink = slink ∧
      (moduleProcessRet ret slink slist).slist = slist := by
  unfold moduleProcessRet
  split_ifs <;> simp_all

theorem moduleProcessRet_ret (ret : Int) (slink : Nat) (slist : List ModuleData) :
    (moduleProcessRet ret slink slist).ret =
      if ret = eventReconnect ∨ ret = eventReconnectNow then -1 else 0 := by
  unfold moduleProcessRet eventSuccess eventReconnect eventReconnectNow eventUnload
  split_ifs <;> simp_all

/-- The body shared by the eight `module_*_run` loops. `pointer` selects the
event's handler and `handler n` is what the `n`-th handler call of this run
returns, so that a handler called twice may answer differently. -/
def moduleRunLoop (pointer : MpdcronModule → Bool) (handler : Nat → Int)
    (modules : List ModuleData) (walk : Nat) (ret : Int)
    (calls : List (ModuleData × Int)) : Run :=
  match present : modules[walk]? with
  | none => ⟨ret, calls, modules⟩
  | some mod =>
      if pointer mod.data then
        let mret := handler calls.length
        let next := moduleProcessRet mret walk modules
        if next.ret < 0 ∧ mret = eventReconnectNow then
          ⟨next.ret, calls ++ [(mod, mret)], next.slist⟩
        else
          moduleRunLoop pointer handler next.slist (next.slink + 1) next.ret
            (calls ++ [(mod, mret)])
      else moduleRunLoop pointer handler modules (walk + 1) ret calls
termination_by (modules.length, modules.length - walk)
decreasing_by
  · have bound : walk < modules.length := (List.getElem?_eq_some_iff.mp present).1
    by_cases unload : handler calls.length = eventUnload
    · left
      simp only [unload, moduleProcessRet_unload, List.length_eraseIdx, if_pos bound]
      omega
    · rw [(moduleProcessRet_keeps _ walk modules unload).1,
        (moduleProcessRet_keeps _ walk modules unload).2]
      right
      omega
  · have bound : walk < modules.length := (List.getElem?_eq_some_iff.mp present).1
    right
    omega

def moduleRun (pointer : MpdcronModule → Bool) (handler : Nat → Int)
    (modules : Modules) : Run :=
  moduleRunLoop pointer handler modules.list 0 0 []

def moduleDatabaseRun := moduleRun MpdcronModule.eventDatabase
def moduleStoredPlaylistRun := moduleRun MpdcronModule.eventStoredPlaylist
def moduleQueueRun := moduleRun MpdcronModule.eventQueue
def modulePlayerRun := moduleRun MpdcronModule.eventPlayer
def moduleMixerRun := moduleRun MpdcronModule.eventMixer
def moduleOutputRun := moduleRun MpdcronModule.eventOutput
def moduleOptionsRun := moduleRun MpdcronModule.eventOptions
def moduleUpdateRun := moduleRun MpdcronModule.eventUpdate

variable (pointer : MpdcronModule → Bool) (handler : Nat → Int)

theorem moduleRunLoop_end (modules : List ModuleData) (walk : Nat) (ret : Int)
    (calls : List (ModuleData × Int)) (past : modules.length ≤ walk) :
    moduleRunLoop pointer handler modules walk ret calls = ⟨ret, calls, modules⟩ := by
  rw [moduleRunLoop]
  split
  · rfl
  · rename_i mod present
    have bound := (List.getElem?_eq_some_iff.mp present).1
    omega

theorem moduleRunLoop_skip (before after : List ModuleData) (mod : ModuleData) (ret : Int)
    (calls : List (ModuleData × Int)) (missing : pointer mod.data = false) :
    moduleRunLoop pointer handler (before ++ mod :: after) before.length ret calls =
      moduleRunLoop pointer handler (before ++ mod :: after) (before.length + 1) ret calls := by
  conv_lhs => rw [moduleRunLoop]
  have present : (before ++ mod :: after)[before.length]? = some mod := by simp
  split
  · simp_all
  · simp_all

theorem moduleRunLoop_stop (before after : List ModuleData) (mod : ModuleData) (ret : Int)
    (calls : List (ModuleData × Int)) (found : pointer mod.data = true)
    (now : handler calls.length = eventReconnectNow) :
    moduleRunLoop pointer handler (before ++ mod :: after) before.length ret calls =
      ⟨-1, calls ++ [(mod, eventReconnectNow)], before ++ mod :: after⟩ := by
  rw [moduleRunLoop]
  have present : (before ++ mod :: after)[before.length]? = some mod := by simp
  have processed : moduleProcessRet eventReconnectNow before.length (before ++ mod :: after) =
      ⟨-1, before.length, before ++ mod :: after⟩ := by
    simp [moduleProcessRet, eventSuccess, eventReconnect, eventReconnectNow]
  split
  · simp_all
  · simp_all

theorem moduleRunLoop_unload (before after : List ModuleData) (mod : ModuleData) (ret : Int)
    (calls : List (ModuleData × Int)) (found : pointer mod.data = true)
    (unload : handler calls.length = eventUnload) :
    moduleRunLoop pointer handler (before ++ mod :: after) before.length ret calls =
      moduleRunLoop pointer handler (before ++ after) 1 0 (calls ++ [(mod, eventUnload)]) := by
  conv_lhs => rw [moduleRunLoop]
  have present : (before ++ mod :: after)[before.length]? = some mod := by simp
  have erased : (before ++ mod :: after).eraseIdx before.length = before ++ after := by
    rw [List.eraseIdx_append_of_length_le (Nat.le_refl _)]
    simp
  split
  · simp_all
  · simp_all [moduleProcessRet_unload]

theorem moduleRunLoop_advance (before after : List ModuleData) (mod : ModuleData) (ret : Int)
    (calls : List (ModuleData × Int)) (found : pointer mod.data = true)
    (goes_on : handler calls.length ≠ eventReconnectNow)
    (stays : handler calls.length ≠ eventUnload) :
    moduleRunLoop pointer handler (before ++ mod :: after) before.length ret calls =
      moduleRunLoop pointer handler (before ++ mod :: after) (before.length + 1)
        (if handler calls.length = eventReconnect then -1 else 0)
        (calls ++ [(mod, handler calls.length)]) := by
  conv_lhs => rw [moduleRunLoop]
  have present : (before ++ mod :: after)[before.length]? = some mod := by simp
  have keeps := moduleProcessRet_keeps _ before.length (before ++ mod :: after) stays
  have value := moduleProcessRet_ret (handler calls.length) before.length (before ++ mod :: after)
  split
  · simp_all
  · simp_all

end Mpdcron.Gmodule
