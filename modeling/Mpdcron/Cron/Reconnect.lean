import Mpdcron.Cron.LoopSettled
import Mpdcron.GmoduleOnce

/-! When a reconnect that a module asks for reaches the main loop. -/

namespace Mpdcron.Cron

open Mpdcron.Gmodule

/-- A handler's value that asks for a reconnect. -/
abbrev Asks (ret : Int) : Prop := ret = eventReconnect ∨ ret = eventReconnectNow

def Asked (run : Run) : Prop := ∃ call ∈ run.calls, Asks call.2

def MpdIdle.pointer : MpdIdle → MpdcronModule → Bool
  | .database => MpdcronModule.eventDatabase
  | .storedPlaylist => MpdcronModule.eventStoredPlaylist
  | .queue => MpdcronModule.eventQueue
  | .player => MpdcronModule.eventPlayer
  | .mixer => MpdcronModule.eventMixer
  | .output => MpdcronModule.eventOutput
  | .options => MpdcronModule.eventOptions
  | .update => MpdcronModule.eventUpdate
  | .other => fun _ => false

/-- A dispatcher's value tells whether a handler asked; if one did, `event_run` is negative and
the `loop_idle` that this event came in ends with the reconnect timer armed. -/
structure NeverLost (event : MpdIdle) (handler : Nat → Int) (modules : Modules) : Prop where
  negative_iff : (moduleRun event.pointer handler modules).ret < 0 ↔
    Asked (moduleRun event.pointer handler modules)
  scheduled : Asked (moduleRun event.pointer handler modules) →
    eventRun event true handler modules < 0 ∧
      ∀ password loop idling, Invariant loop → Connected loop → idling.finished = true →
        eventRun event true handler modules ∈ idling.events →
          ∃ next, loopStep password loop (.watch loop.idleSid idling) = .ok next ∧ Waiting next

/-- The way of a dispatcher through the list: with so many calls made, the modules it has kept
behind it and those ahead of it. An unload puts it behind the head of what is left. -/
inductive Visits (pointer : MpdcronModule → Bool) (handler : Nat → Int)
    (loaded : List ModuleData) : List ModuleData → Nat → List ModuleData → Prop where
  | start : Visits pointer handler loaded [] 0 loaded
  | skip (kept : List ModuleData) (calls : Nat) (mod : ModuleData) (rest : List ModuleData)
      (here : Visits pointer handler loaded kept calls (mod :: rest))
      (missing : pointer mod.data = false) :
      Visits pointer handler loaded (kept ++ [mod]) calls rest
  | keep (kept : List ModuleData) (calls : Nat) (mod : ModuleData) (rest : List ModuleData)
      (here : Visits pointer handler loaded kept calls (mod :: rest))
      (found : pointer mod.data = true) (goesOn : handler calls ≠ eventReconnectNow)
      (stays : handler calls ≠ eventUnload) :
      Visits pointer handler loaded (kept ++ [mod]) (calls + 1) rest
  | unload (kept : List ModuleData) (calls : Nat) (mod : ModuleData) (rest : List ModuleData)
      (here : Visits pointer handler loaded kept calls (mod :: rest))
      (found : pointer mod.data = true) (unloads : handler calls = eventUnload) :
      Visits pointer handler loaded ((kept ++ rest).take 1) (calls + 1) ((kept ++ rest).drop 1)

/-- The handler call of this number is reached, and it is this module's. -/
def Reaches (pointer : MpdcronModule → Bool) (handler : Nat → Int) (loaded : List ModuleData)
    (call : Nat) (mod : ModuleData) (rest : List ModuleData) : Prop :=
  (∃ kept, Visits pointer handler loaded kept call (mod :: rest)) ∧ pointer mod.data = true

/-- If a handler that returns `MPDCRON_EVENT_RECONNECT` has a module with a handler behind it in
the list, a later call asks for a reconnect again. -/
def ReconnectsHeard (pointer : MpdcronModule → Bool) (handler : Nat → Int)
    (loaded : List ModuleData) : Prop :=
  ∀ call mod rest, Reaches pointer handler loaded call mod rest →
    handler call = eventReconnect → (∃ other ∈ rest, pointer other.data = true) →
      ∃ later mod' rest', call < later ∧ Reaches pointer handler loaded later mod' rest' ∧
        Asks (handler later)

section Dispatcher

variable {pointer : MpdcronModule → Bool} {handler : Nat → Int} {loaded : List ModuleData}

/-- The run of a dispatcher passes every point of its way. -/
theorem Visits.passes {kept rest : List ModuleData} {n : Nat}
    (visits : Visits pointer handler loaded kept n rest) :
    ∃ ret calls, calls.length = n ∧ moduleRunLoop pointer handler loaded 0 0 []
      = moduleRunLoop pointer handler (kept ++ rest) kept.length ret calls := by
  induction visits with
  | start => exact ⟨0, [], rfl, rfl⟩
  | skip kept n mod rest _ missing ih =>
      rcases ih with ⟨ret, calls, made, through⟩
      refine ⟨ret, calls, made, ?_⟩
      rw [through, moduleRunLoop_skip pointer handler kept rest mod ret calls missing]
      simp
  | keep kept n mod rest _ found goesOn stays ih =>
      rcases ih with ⟨ret, calls, rfl, through⟩
      refine ⟨if handler calls.length = eventReconnect then -1 else 0,
        calls ++ [(mod, handler calls.length)], by simp, ?_⟩
      rw [through, moduleRunLoop_advance pointer handler kept rest mod ret calls found goesOn stays]
      simp
  | unload kept n mod rest _ found unloads ih =>
      rcases ih with ⟨ret, calls, rfl, through⟩
      refine ⟨0, calls ++ [(mod, eventUnload)], by simp, ?_⟩
      rw [through, moduleRunLoop_unload pointer handler kept rest mod ret calls found unloads,
        List.take_append_drop]
      cases kept ++ rest with
      | nil =>
          rw [moduleRunLoop_end _ _ _ _ _ _ (by simp), moduleRunLoop_end _ _ _ _ _ _ (by simp)]
      | cons first others => rfl

theorem drop_eq_cons (modules : List ModuleData) (walk : Nat) (mod : ModuleData)
    (present : modules[walk]? = some mod) : modules.drop walk = mod :: modules.drop (walk + 1) := by
  rcases List.getElem?_eq_some_iff.mp present with ⟨bound, rfl⟩
  exact List.drop_eq_getElem_cons bound

theorem take_eq_concat (modules : List ModuleData) (walk : Nat) (mod : ModuleData)
    (present : modules[walk]? = some mod) : modules.take (walk + 1) = modules.take walk ++ [mod] := by
  rw [List.take_add_one, present]
  rfl

/-- The way goes on where `module_process_ret` leaves the iterator. -/
theorem Visits.process (modules : List ModuleData) (walk n : Nat) (mod : ModuleData)
    (present : modules[walk]? = some mod)
    (here : Visits pointer handler loaded (modules.take walk) n (mod :: modules.drop (walk + 1)))
    (found : pointer mod.data = true) (goesOn : handler n ≠ eventReconnectNow) :
    Visits pointer handler loaded
      ((moduleProcessRet (handler n) walk modules).slist.take
        ((moduleProcessRet (handler n) walk modules).slink + 1)) (n + 1)
      ((moduleProcessRet (handler n) walk modules).slist.drop
        ((moduleProcessRet (handler n) walk modules).slink + 1)) := by
  by_cases unloads : handler n = eventUnload
  · rw [unloads, moduleProcessRet_unload, List.eraseIdx_eq_take_drop_succ]
    exact .unload _ _ mod _ here found unloads
  · have kept := moduleProcessRet_keeps (handler n) walk modules unloads
    rw [kept.1, kept.2, take_eq_concat modules walk mod present]
    exact .keep _ _ mod _ here found goesOn unloads

/-- The calls that the run adds are those that its way reaches. -/
theorem moduleRunLoop_visits (modules : List ModuleData) (walk : Nat) (ret : Int)
    (calls : List (ModuleData × Int))
    (here : Visits pointer handler loaded (modules.take walk) calls.length (modules.drop walk))
    (index : Nat) (ahead : calls.length ≤ index) (call : ModuleData × Int)
    (made : (moduleRunLoop pointer handler modules walk ret calls).calls[index]? = some call) :
    call.2 = handler index ∧ ∃ rest, Reaches pointer handler loaded index call.1 rest := by
  fun_induction moduleRunLoop pointer handler modules walk ret calls with
  | case1 modules walk ret calls absent =>
      rw [List.getElem?_eq_none ahead] at made
      cases made
  | case2 modules walk _ calls mod present found mret next stops =>
      rw [drop_eq_cons modules walk mod present] at here
      rcases Nat.lt_or_ge calls.length index with later | now
      · have past : (calls ++ [(mod, mret)])[index]? = none := by
          rw [List.getElem?_eq_none_iff, List.length_append, List.length_singleton]
          exact later
        rw [past] at made
        cases made
      · obtain rfl : index = calls.length := Nat.le_antisymm now ahead
        rw [List.getElem?_concat_length] at made
        cases made
        exact ⟨rfl, _, ⟨_, here⟩, found⟩
  | case3 modules walk _ calls mod present found mret next continues ih =>
      rw [drop_eq_cons modules walk mod present] at here
      rcases Nat.eq_or_lt_of_le ahead with rfl | later
      · obtain ⟨added, grown, -⟩ := moduleRunLoop_grows pointer handler next.slist (next.slink + 1)
          next.ret (calls ++ [(mod, mret)])
        rw [grown, List.append_assoc, List.getElem?_append_right (Nat.le_refl _)] at made
        simp only [Nat.sub_self, List.singleton_append, List.getElem?_cons_zero,
          Option.some.injEq] at made
        subst made
        exact ⟨rfl, _, ⟨_, here⟩, found⟩
      · have added : (calls ++ [(mod, mret)]).length = calls.length + 1 := by simp
        have goesOn : mret ≠ eventReconnectNow := by
          intro now
          refine continues ⟨?_, now⟩
          simp [next, moduleProcessRet_ret, now]
        refine ih ?_ (added.symm ▸ later) made
        rw [added]
        exact here.process modules walk calls.length mod present found goesOn
  | case4 modules walk _ calls mod present missing ih =>
      rw [drop_eq_cons modules walk mod present] at here
      refine ih ?_ ahead made
      rw [take_eq_concat modules walk mod present]
      exact .skip _ _ mod _ here (by simpa using missing)

/-- What the returned value is after these calls. -/
def lastRet (calls : List (ModuleData × Int)) : Int :=
  match calls.getLast? with
  | none => 0
  | some call => if Asks call.2 then -1 else 0

/-- The returned value is that of the last call alone. -/
theorem moduleRunLoop_ret (modules : List ModuleData) (walk : Nat) (ret : Int)
    (calls : List (ModuleData × Int)) (before : ret = lastRet calls) :
    (moduleRunLoop pointer handler modules walk ret calls).ret
      = lastRet (moduleRunLoop pointer handler modules walk ret calls).calls := by
  fun_induction moduleRunLoop pointer handler modules walk ret calls with
  | case1 => exact before
  | case2 modules walk _ calls mod present found mret next stops =>
      simp [lastRet, next, mret, moduleProcessRet_ret]
  | case3 modules walk _ calls mod present found mret next continues ih =>
      apply ih
      simp [lastRet, next, mret, moduleProcessRet_ret]
  | case4 modules walk _ calls mod present missing ih => exact ih before

theorem lastRet_negative (calls : List (ModuleData × Int)) :
    lastRet calls < 0 ↔ ∃ call, calls.getLast? = some call ∧ Asks call.2 := by
  rw [lastRet]
  cases calls.getLast? with
  | none => simp
  | some call =>
      by_cases asks : Asks call.2
      · simp [asks]
      · simp [asks]

theorem Reaches.call {n : Nat} {mod : ModuleData} {rest : List ModuleData}
    (reaches : Reaches pointer handler loaded n mod rest) :
    (moduleRunLoop pointer handler loaded 0 0 []).calls[n]? = some (mod, handler n) := by
  rcases reaches with ⟨⟨kept, visits⟩, found⟩
  rcases visits.passes with ⟨ret, calls, rfl, through⟩
  rcases moduleRunLoop_calls pointer handler kept rest mod ret calls found with ⟨added, made⟩
  rw [through, made, List.getElem?_append_right (Nat.le_refl _)]
  simp

/-- After a request for a reconnect no other call is made where the request is for one at once
or no module with a handler is left. -/
theorem Reaches.last {n : Nat} {mod : ModuleData} {rest : List ModuleData}
    (reaches : Reaches pointer handler loaded n mod rest) (asks : Asks (handler n))
    (quiet : handler n = eventReconnect → ∀ other ∈ rest, pointer other.data = false) :
    (moduleRunLoop pointer handler loaded 0 0 []).calls.length = n + 1 := by
  rcases reaches with ⟨⟨kept, visits⟩, found⟩
  rcases visits.passes with ⟨ret, calls, rfl, through⟩
  rw [through]
  rcases asks with reconnect | now
  · rw [moduleRunLoop_advance pointer handler kept rest mod ret calls found (by simp [reconnect,
      eventReconnect, eventReconnectNow]) (by simp [reconnect, eventReconnect, eventUnload])]
    have skips := moduleRunLoop_skips pointer handler (kept ++ [mod]) rest []
      (if handler calls.length = eventReconnect then -1 else 0)
      (calls ++ [(mod, handler calls.length)]) (quiet reconnect)
    simp only [List.append_nil, List.append_assoc, List.singleton_append, List.length_append,
      List.length_singleton] at skips
    rw [skips, moduleRunLoop_end _ _ _ _ _ _ (by simp; omega)]
    simp
  · rw [moduleRunLoop_stop pointer handler kept rest mod ret calls found now]
    simp

/-- A plain request does not keep the modules behind it from being called. -/
theorem Reaches.goesOn {n : Nat} {mod : ModuleData} {rest : List ModuleData}
    (reaches : Reaches pointer handler loaded n mod rest) (reconnect : handler n = eventReconnect)
    (more : ∃ other ∈ rest, pointer other.data = true) :
    n + 1 < (moduleRunLoop pointer handler loaded 0 0 []).calls.length := by
  rcases reaches with ⟨⟨kept, visits⟩, found⟩
  rcases visits.passes with ⟨ret, calls, rfl, through⟩
  rcases exists_first_implementing pointer rest (by simpa using more) with
    ⟨skipped, next, after, rfl, quiet, implements⟩
  rw [through, moduleRunLoop_advance pointer handler kept _ mod ret calls found (by simp [reconnect,
    eventReconnect, eventReconnectNow]) (by simp [reconnect, eventReconnect, eventUnload])]
  have skips := moduleRunLoop_skips pointer handler (kept ++ [mod]) skipped (next :: after)
    (if handler calls.length = eventReconnect then -1 else 0)
    (calls ++ [(mod, handler calls.length)]) quiet
  rcases moduleRunLoop_calls pointer handler (kept ++ mod :: skipped) after next
    (if handler calls.length = eventReconnect then -1 else 0)
    (calls ++ [(mod, handler calls.length)]) implements with ⟨added, made⟩
  have place : kept.length + 1 + skipped.length = (kept ++ mod :: skipped).length := by
    simp only [List.length_append, List.length_cons]
    omega
  have whole : kept ++ mod :: (skipped ++ next :: after)
      = (kept ++ mod :: skipped) ++ next :: after := by simp
  simp only [List.append_assoc, List.singleton_append, List.length_append, List.length_singleton]
    at skips
  rw [skips, place, whole, made]
  simp

/-- A request is answered by the last call of the run. The induction is on the calls that may
still follow. -/
theorem ReconnectsHeard.last (heard : ReconnectsHeard pointer handler loaded) {n : Nat}
    {mod : ModuleData} {rest : List ModuleData}
    (reaches : Reaches pointer handler loaded n mod rest) (asks : Asks (handler n)) :
    ∃ call, (moduleRunLoop pointer handler loaded 0 0 []).calls.getLast? = some call ∧
      Asks call.2 := by
  have bound := (List.getElem?_eq_some_iff.mp reaches.call).1
  induction distance : (moduleRunLoop pointer handler loaded 0 0 []).calls.length - n
    using Nat.strong_induction_on generalizing n mod rest with
  | _ distance ih =>
      by_cases more : handler n = eventReconnect ∧ ∃ other ∈ rest, pointer other.data = true
      · rcases heard n mod rest reaches more.1 more.2 with
          ⟨later, mod', rest', behind, reaches', asks'⟩
        have bound' := (List.getElem?_eq_some_iff.mp reaches'.call).1
        exact ih _ (by omega) reaches' asks' bound' rfl
      · have ends := reaches.last asks fun reconnect other member => by
          by_contra implements
          exact more ⟨reconnect, other, member, by simpa using implements⟩
        refine ⟨(mod, handler n), ?_, asks⟩
        rw [List.getLast?_eq_getElem?, ends]
        exact reaches.call

/-- The value a dispatcher returns is negative after a request exactly where no call that follows
a request goes without another one. -/
theorem moduleRun_negative_iff (modules : Modules) :
    ((moduleRun pointer handler modules).ret < 0 ↔ Asked (moduleRun pointer handler modules)) ↔
      ReconnectsHeard pointer handler modules.list := by
  have ret : (moduleRunLoop pointer handler modules.list 0 0 []).ret
      = lastRet (moduleRunLoop pointer handler modules.list 0 0 []).calls :=
    moduleRunLoop_ret modules.list 0 0 [] rfl
  have visited := moduleRunLoop_visits modules.list 0 0 []
    (.start : Visits pointer handler modules.list [] 0 modules.list)
  rw [moduleRun, Asked, ret, lastRet_negative]
  constructor
  · intro agree call mod rest reaches reconnect more
    have asked := agree.mpr ⟨_, List.mem_of_getElem? reaches.call, .inl reconnect⟩
    rcases asked with ⟨last, isLast, asks⟩
    have behind := reaches.goesOn reconnect more
    rw [List.getLast?_eq_getElem?] at isLast
    rcases visited _ (Nat.zero_le _) last isLast with ⟨value, rest', reaches'⟩
    exact ⟨_, _, rest', Nat.lt_sub_of_add_lt behind, reaches', value ▸ asks⟩
  · intro heard
    constructor
    · rintro ⟨last, isLast, asks⟩
      exact ⟨last, List.mem_of_getLast? isLast, asks⟩
    · rintro ⟨call, member, asks⟩
      rcases List.getElem?_of_mem member with ⟨index, made⟩
      rcases visited index (Nat.zero_le _) call made with ⟨value, rest, reaches⟩
      exact heard.last reaches (value ▸ asks)

theorem eventRun_answered (event : MpdIdle) (modules : Modules) (other : event ≠ .other) :
    eventRun event true handler modules = (moduleRun event.pointer handler modules).ret := by
  cases event with
  | other => exact absurd rfl other
  | _ => rfl

/-- No reconnect is lost if and only if every request is heard. -/
theorem neverLost_iff (event : MpdIdle) (modules : Modules) :
    NeverLost event handler modules ↔ ReconnectsHeard event.pointer handler modules.list := by
  constructor
  · intro never
    exact (moduleRun_negative_iff modules).mp never.negative_iff
  · intro heard
    have negative := (moduleRun_negative_iff modules).mpr heard
    refine ⟨negative, fun asked => ?_⟩
    have known : event ≠ .other := by
      rintro rfl
      rcases asked with ⟨call, member, -⟩
      rcases List.getElem?_of_mem member with ⟨index, made⟩
      rcases moduleRunLoop_visits modules.list 0 0 [] .start index (Nat.zero_le _) call made with
        ⟨-, rest, -, found⟩
      cases found
    rw [eventRun_answered event modules known]
    refine ⟨negative.mpr asked, ?_⟩
    intro password loop idling invariant connected finished came
    have dropped := loopIdle_negative idling connected finished
      (List.any_eq_true.mpr ⟨_, came, by simpa using negative.mpr asked⟩)
    have older := invariant.fresh _ (by rw [connected.sources]; exact List.mem_singleton_self _)
    refine ⟨gSourceRemove loop.idleSid loop.waiting, ?_,
      (removed_waiting invariant.positive connected.sources older).1⟩
    rw [loopStep, if_pos (by simp [connected.sources]), dropped]
    rfl

end Dispatcher

/-- The first of two modules asks for a reconnect and the second has nothing to say. -/
theorem reconnect_overwritten :
    ¬NeverLost .player (fun call => if call = 0 then eventReconnect else eventSuccess)
      scrobblerAndStats := by
  intro never
  have heard := (moduleRun_negative_iff scrobblerAndStats).mp never.negative_iff
  rcases heard 0 _ _ ⟨⟨[], .start⟩, rfl⟩ rfl ⟨_, List.mem_singleton_self _, rfl⟩ with
    ⟨later, mod, rest, behind, -, asks⟩
  simp only [if_neg (Nat.ne_of_gt behind)] at asks
  revert asks
  decide

end Mpdcron.Cron
