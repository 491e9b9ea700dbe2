import Mathlib.Data.List.Basic
import Mathlib.Tactic.Common
import Mpdcron.Gmodule

/-! When one run of a dispatcher calls every loaded module exactly once. -/

namespace Mpdcron.Gmodule

/-- How often the run called the handler of `mod`. -/
def Run.callCount (run : Run) (mod : ModuleData) : Nat :=
  (run.calls.map Prod.fst).count mod

/-- Every module loaded at the start is called exactly once (up to the one that
asked for an immediate reconnect, if any), and exactly those that answered with
`MPDCRON_EVENT_UNLOAD` have left the list. -/
structure EachEventOnce (pointer : MpdcronModule → Bool) (loaded : List ModuleData)
    (run : Run) : Prop where
  once : (∀ call ∈ run.calls, call.2 ≠ eventReconnectNow) →
    ∀ mod ∈ loaded, pointer mod.data = true → run.callCount mod = 1
  once_before : ∀ before mod after, loaded = before ++ mod :: after →
    (mod, eventReconnectNow) ∈ run.calls →
      (∀ other ∈ before, pointer other.data = true → run.callCount other = 1) ∧
        ∀ other ∈ after, run.callCount other = 0
  unloaded : run.modules = loaded.filter (fun mod => (mod, eventUnload) ∉ run.calls)

/-- An unload sends the iterator behind the first node of the list. With no module
kept before it the next one is skipped, with two or more kept all but the first are
visited again: harmless only where these do not implement the event. -/
def ResumesInPlace (pointer : MpdcronModule → Bool) :
    List ModuleData → List ModuleData → Prop
  | [], rest => ∀ next ∈ rest.head?, pointer next.data = false
  | _ :: passed, _ => ∀ other ∈ passed, pointer other.data = false

/-- Every unload of the pass resumes in place. `kept` are the modules already passed
and still loaded, `calls` is the number of calls made so far. -/
def UnloadsInPlace (pointer : MpdcronModule → Bool) (handler : Nat → Int) :
    List ModuleData → Nat → List ModuleData → Prop
  | _, _, [] => True
  | kept, calls, mod :: rest =>
      if pointer mod.data then
        if handler calls = eventReconnectNow then True
        else if handler calls = eventUnload then
          ResumesInPlace pointer kept rest ∧
            UnloadsInPlace pointer handler kept (calls + 1) rest
        else UnloadsInPlace pointer handler (kept ++ [mod]) (calls + 1) rest
      else UnloadsInPlace pointer handler (kept ++ [mod]) calls rest

/-- The calls of a pass that visits every module once, from call number `calls` on. -/
def passCalls (pointer : MpdcronModule → Bool) (handler : Nat → Int) :
    Nat → List ModuleData → List (ModuleData × Int)
  | _, [] => []
  | calls, mod :: rest =>
      if pointer mod.data then
        if handler calls = eventReconnectNow then [(mod, eventReconnectNow)]
        else (mod, handler calls) :: passCalls pointer handler (calls + 1) rest
      else passCalls pointer handler calls rest

/-- The modules such a pass leaves loaded. -/
def passKept (pointer : MpdcronModule → Bool) (handler : Nat → Int) :
    Nat → List ModuleData → List ModuleData
  | _, [] => []
  | calls, mod :: rest =>
      if pointer mod.data then
        if handler calls = eventReconnectNow then mod :: rest
        else if handler calls = eventUnload then passKept pointer handler (calls + 1) rest
        else mod :: passKept pointer handler (calls + 1) rest
      else mod :: passKept pointer handler calls rest

variable (pointer : MpdcronModule → Bool) (handler : Nat → Int)

/-- Modules without the event's handler are walked over without a call. -/
theorem moduleRunLoop_skips (before passed after : List ModuleData) (ret : Int)
    (calls : List (ModuleData × Int))
    (missing : ∀ other ∈ passed, pointer other.data = false) :
    moduleRunLoop pointer handler (before ++ (passed ++ after)) before.length ret calls =
      moduleRunLoop pointer handler (before ++ (passed ++ after))
        (before.length + passed.length) ret calls := by
  induction passed generalizing before with
  | nil => simp
  | cons other passed ih =>
      have head := missing other (by simp)
      have tail := ih (before ++ [other]) (fun x member => missing x (by simp [member]))
      simp only [List.append_assoc, List.singleton_append, List.length_append,
        List.length_singleton] at tail
      rw [List.cons_append, moduleRunLoop_skip pointer handler before _ other ret calls head, tail]
      congr 1
      simp only [List.length_cons]
      omega

/-- After an unload in place the loop goes on exactly behind the kept modules. -/
theorem moduleRunLoop_in_place (kept rest : List ModuleData) (ret : Int)
    (calls : List (ModuleData × Int))
    (place : ResumesInPlace pointer kept rest) :
    moduleRunLoop pointer handler (kept ++ rest) 1 ret calls =
      moduleRunLoop pointer handler (kept ++ rest) kept.length ret calls := by
  cases kept with
  | nil =>
      cases rest with
      | nil =>
          rw [moduleRunLoop_end _ _ _ _ _ _ (by simp), moduleRunLoop_end _ _ _ _ _ _ (by simp)]
      | cons next rest =>
          have missing : pointer next.data = false := place next (by simp)
          exact (moduleRunLoop_skip pointer handler [] rest next ret calls missing).symm
  | cons first passed =>
      have skips := moduleRunLoop_skips pointer handler [first] passed rest ret calls place
      simpa [Nat.add_comm] using skips

/-- With all unloads in place the loop is the pass over the list. -/
theorem moduleRunLoop_pass (kept rest : List ModuleData) (ret : Int)
    (calls : List (ModuleData × Int))
    (inPlace : UnloadsInPlace pointer handler kept calls.length rest) :
    (moduleRunLoop pointer handler (kept ++ rest) kept.length ret calls).calls =
        calls ++ passCalls pointer handler calls.length rest ∧
      (moduleRunLoop pointer handler (kept ++ rest) kept.length ret calls).modules =
        kept ++ passKept pointer handler calls.length rest := by
  induction rest generalizing kept ret calls with
  | nil =>
      rw [moduleRunLoop_end _ _ _ _ _ _ (by simp)]
      simp [passCalls, passKept]
  | cons mod rest ih =>
      by_cases found : pointer mod.data = true
      · by_cases now : handler calls.length = eventReconnectNow
        · rw [moduleRunLoop_stop pointer handler kept rest mod ret calls found now]
          simp [passCalls, passKept, found, now]
        · by_cases unload : handler calls.length = eventUnload
          · rw [moduleRunLoop_unload pointer handler kept rest mod ret calls found unload]
            have place : ResumesInPlace pointer kept rest ∧
                UnloadsInPlace pointer handler kept (calls.length + 1) rest := by
              simpa [UnloadsInPlace, found, now, unload] using inPlace
            rw [moduleRunLoop_in_place pointer handler kept rest 0 _ place.1]
            have tail := ih kept 0 (calls ++ [(mod, eventUnload)]) (by simpa using place.2)
            simpa [passCalls, passKept, found, now, unload] using tail
          · rw [moduleRunLoop_advance pointer handler kept rest mod ret calls found now unload]
            have tail := ih (kept ++ [mod]) (if handler calls.length = eventReconnect then -1 else 0)
              (calls ++ [(mod, handler calls.length)])
              (by simpa [UnloadsInPlace, found, now, unload] using inPlace)
            simpa [passCalls, passKept, found, now, unload] using tail
      · have missing : pointer mod.data = false := by simpa using found
        rw [moduleRunLoop_skip pointer handler kept rest mod ret calls missing]
        have tail := ih (kept ++ [mod]) ret calls
          (by simpa [UnloadsInPlace, missing] using inPlace)
        simpa [passCalls, passKept, missing] using tail

theorem passCalls_mem (calls : Nat) (rest : List ModuleData) (call : ModuleData × Int)
    (member : call ∈ passCalls pointer handler calls rest) :
    call.1 ∈ rest ∧ pointer call.1.data = true := by
  induction rest generalizing calls with
  | nil => simp [passCalls] at member
  | cons mod rest ih =>
      unfold passCalls at member
      split_ifs at member with found now
      · simp only [List.mem_singleton] at member
        subst member
        exact ⟨by simp, found⟩
      · rcases List.mem_cons.mp member with rfl | later
        · exact ⟨by simp, found⟩
        · exact ⟨List.mem_cons_of_mem _ (ih (calls + 1) later).1, (ih (calls + 1) later).2⟩
      · exact ⟨List.mem_cons_of_mem _ (ih calls member).1, (ih calls member).2⟩

theorem passCalls_fresh (calls : Nat) (rest : List ModuleData) (mod : ModuleData)
    (absent : mod ∉ rest) : ((passCalls pointer handler calls rest).map Prod.fst).count mod = 0 := by
  apply List.count_eq_zero.mpr
  intro member
  rcases List.mem_map.mp member with ⟨call, called, rfl⟩
  exact absent (passCalls_mem pointer handler calls rest call called).1

/-- A pass that no handler cut short calls every implementing module once. -/
theorem passCalls_once (calls : Nat) (rest : List ModuleData) (distinct : rest.Nodup)
    (through : ∀ call ∈ passCalls pointer handler calls rest, call.2 ≠ eventReconnectNow) :
    ∀ mod ∈ rest, pointer mod.data = true →
      ((passCalls pointer handler calls rest).map Prod.fst).count mod = 1 := by
  induction rest generalizing calls with
  | nil => simp
  | cons first rest ih =>
      rcases List.nodup_cons.mp distinct with ⟨absent, distinct⟩
      intro mod member implements
      unfold passCalls at through ⊢
      split_ifs at through ⊢ with found now
      · exact absurd rfl (through (first, eventReconnectNow) (by simp))
      · have through' := fun call h => through call (List.mem_cons_of_mem _ h)
        rcases List.mem_cons.mp member with rfl | later
        · simp [passCalls_fresh pointer handler (calls + 1) rest mod absent]
        · have other : first ≠ mod := by
            rintro rfl
            exact absent later
          simp [other, ih (calls + 1) distinct through' mod later implements]
      · rcases List.mem_cons.mp member with rfl | later
        · exact absurd implements found
        · exact ih calls distinct through mod later implements

theorem passCalls_cut (calls : Nat) (mod : ModuleData) (after : List ModuleData)
    (absent : mod ∉ after)
    (now : (mod, eventReconnectNow) ∈ passCalls pointer handler calls (mod :: after)) :
    passCalls pointer handler calls (mod :: after) = [(mod, eventReconnectNow)] := by
  have earlier : ∀ n, (mod, eventReconnectNow) ∉ passCalls pointer handler n after :=
    fun n called => absent (passCalls_mem pointer handler n after _ called).1
  unfold passCalls at now ⊢
  split_ifs at now ⊢ with found cut
  · rfl
  · rcases List.mem_cons.mp now with same | later
    · exact absurd (congrArg Prod.snd same).symm cut
    · exact absurd later (earlier _)
  · exact absurd now (earlier _)

/-- A pass cut short at `mod` has called what stands before it once and nothing after it. -/
theorem passCalls_once_before (calls : Nat) (before after : List ModuleData) (mod : ModuleData)
    (distinct : (before ++ mod :: after).Nodup)
    (now : (mod, eventReconnectNow) ∈ passCalls pointer handler calls (before ++ mod :: after)) :
    (∀ other ∈ before, pointer other.data = true →
      ((passCalls pointer handler calls (before ++ mod :: after)).map Prod.fst).count other = 1) ∧
    ∀ other ∈ after,
      ((passCalls pointer handler calls (before ++ mod :: after)).map Prod.fst).count other = 0 := by
  induction before generalizing calls with
  | nil =>
      rcases List.nodup_cons.mp distinct with ⟨absent, -⟩
      refine ⟨by simp, ?_⟩
      simp only [List.nil_append] at now ⊢
      rw [passCalls_cut pointer handler calls mod after absent now]
      intro other member
      have differs : mod ≠ other := by
        rintro rfl
        exact absent member
      simp [differs]
  | cons first before ih =>
      simp only [List.cons_append] at distinct now ⊢
      rcases List.nodup_cons.mp distinct with ⟨absent, distinct⟩
      have differs : mod ≠ first := by
        rintro rfl
        exact absent (by simp)
      unfold passCalls at now ⊢
      split_ifs at now ⊢ with found cut
      · simp only [List.mem_singleton, Prod.mk.injEq] at now
        exact absurd now.1 differs
      · have later : (mod, eventReconnectNow) ∈
            passCalls pointer handler (calls + 1) (before ++ mod :: after) := by
          rcases List.mem_cons.mp now with same | later
          · exact absurd (congrArg Prod.fst same) differs
          · exact later
        rcases ih (calls + 1) distinct later with ⟨once, none⟩
        have apart : ∀ other ∈ before ++ mod :: after, first ≠ other := by
          rintro other member rfl
          exact absent member
        constructor
        · intro other member implements
          rcases List.mem_cons.mp member with rfl | member
          · simp [passCalls_fresh pointer handler (calls + 1) _ other absent]
          · simp [apart other (by simp [member]), once other member implements]
        · intro other member
          simp [apart other (by simp [member]), none other member]
      · rcases ih calls distinct now with ⟨once, none⟩
        refine ⟨?_, none⟩
        intro other member implements
        rcases List.mem_cons.mp member with rfl | member
        · exact absurd implements found
        · exact once other member implements

theorem passKept_eq_filter (calls : Nat) (rest : List ModuleData) (distinct : rest.Nodup) :
    passKept pointer handler calls rest =
      rest.filter (fun mod => (mod, eventUnload) ∉ passCalls pointer handler calls rest) := by
  induction rest generalizing calls with
  | nil => rfl
  | cons first rest ih =>
      rcases List.nodup_cons.mp distinct with ⟨absent, distinct⟩
      have apart : ∀ other ∈ rest, other ≠ first := by
        rintro other member rfl
        exact absent member
      have fresh : ∀ n, (first, eventUnload) ∉ passCalls pointer handler n rest :=
        fun n h => absent (passCalls_mem pointer handler n rest _ h).1
      unfold passKept passCalls
      split_ifs with found now unload
      · have rest_kept : rest.filter (fun mod => (mod, eventUnload) ∉ [(first, eventReconnectNow)]) =
            rest := by
          apply List.filter_eq_self.mpr
          intro other member
          simp [apart other member]
        rw [List.filter_cons, rest_kept]
        simp
      · rw [List.filter_cons, ih (calls + 1) distinct]
        simp only [unload, List.mem_cons, true_or, not_true, decide_false]
        apply List.filter_congr
        intro other member
        simp [apart other member]
      · rw [List.filter_cons, ih (calls + 1) distinct]
        have stays : (first, eventUnload) ≠ (first, handler calls) := by
          intro same
          exact unload (congrArg Prod.snd same).symm
        simp only [List.mem_cons, stays, fresh, or_self, not_false_eq_true, decide_true, if_true]
        congr 1
        apply List.filter_congr
        intro other member
        simp [apart other member]
      · rw [List.filter_cons, ih calls distinct]
        simp [fresh]

/-- Unloading a node other than the first leaves the first node in place. -/
theorem moduleProcessRet_tail (ret : Int) (walk : Nat) (modules : List ModuleData)
    (behind : 1 ≤ walk) (mod : ModuleData)
    (member : mod ∈ (moduleProcessRet ret walk modules).slist.tail) : mod ∈ modules.tail := by
  by_cases unload : ret = eventUnload
  · rcases Nat.exists_eq_add_of_le' behind with ⟨index, rfl⟩
    rw [unload, moduleProcessRet_unload] at member
    cases modules with
    | nil => simp at member
    | cons first rest => exact List.mem_of_mem_eraseIdx member
  · rwa [(moduleProcessRet_keeps ret walk modules unload).2] at member

/-- A run only adds calls, and from the second node on only calls of modules behind
the first: the iterator never comes back to the head of the list. -/
theorem moduleRunLoop_grows (modules : List ModuleData) (walk : Nat) (ret : Int)
    (calls : List (ModuleData × Int)) :
    ∃ added, (moduleRunLoop pointer handler modules walk ret calls).calls = calls ++ added ∧
      (1 ≤ walk → ∀ call ∈ added, call.1 ∈ modules.tail) := by
  fun_induction moduleRunLoop pointer handler modules walk ret calls with
  | case1 => exact ⟨[], by simp, by simp⟩
  | case2 modules walk _ calls mod present =>
      refine ⟨[(mod, handler calls.length)], rfl, ?_⟩
      intro behind call member
      rcases Nat.exists_eq_add_of_le' behind with ⟨index, rfl⟩
      simp only [List.mem_singleton] at member
      subst member
      rw [← List.getElem?_tail] at present
      exact List.mem_of_getElem? present
  | case3 modules walk _ calls mod present _ mret next _ ih =>
      rcases ih with ⟨added, grown, later⟩
      refine ⟨(mod, mret) :: added, by rw [grown]; simp, ?_⟩
      intro behind call member
      rcases List.mem_cons.mp member with rfl | member
      · rcases Nat.exists_eq_add_of_le' behind with ⟨index, rfl⟩
        rw [← List.getElem?_tail] at present
        exact List.mem_of_getElem? present
      · exact moduleProcessRet_tail mret walk modules behind _ (later (by omega) call member)
  | case4 modules walk _ calls mod _ _ ih =>
      rcases ih with ⟨added, grown, later⟩
      exact ⟨added, grown, fun _ => later (by omega)⟩

theorem exists_first_implementing (passed : List ModuleData)
    (some_implements : ¬∀ other ∈ passed, pointer other.data = false) :
    ∃ skipped again more, passed = skipped ++ again :: more ∧
      (∀ other ∈ skipped, pointer other.data = false) ∧ pointer again.data = true := by
  induction passed with
  | nil => simp at some_implements
  | cons first passed ih =>
      by_cases implements : pointer first.data = true
      · exact ⟨[], first, passed, rfl, by simp, implements⟩
      · have missing : pointer first.data = false := by simpa using implements
        rcases ih (by simpa [missing] using some_implements) with
          ⟨skipped, again, more, rfl, quiet, found⟩
        refine ⟨first :: skipped, again, more, rfl, ?_, found⟩
        intro other member
        rcases List.mem_cons.mp member with rfl | member
        · exact missing
        · exact quiet other member

/-- The module under the iterator is called next. -/
theorem moduleRunLoop_calls (before after : List ModuleData) (mod : ModuleData) (ret : Int)
    (calls : List (ModuleData × Int)) (found : pointer mod.data = true) :
    ∃ added, (moduleRunLoop pointer handler (before ++ mod :: after) before.length ret calls).calls =
      calls ++ (mod, handler calls.length) :: added := by
  by_cases now : handler calls.length = eventReconnectNow
  · rw [moduleRunLoop_stop pointer handler before after mod ret calls found now, now]
    exact ⟨[], rfl⟩
  · by_cases unload : handler calls.length = eventUnload
    · rw [moduleRunLoop_unload pointer handler before after mod ret calls found unload, unload]
      obtain ⟨added, grown, -⟩ := moduleRunLoop_grows pointer handler (before ++ after) 1 0
        (calls ++ [(mod, eventUnload)])
      exact ⟨added, by rw [grown]; simp⟩
    · rw [moduleRunLoop_advance pointer handler before after mod ret calls found now unload]
      obtain ⟨added, grown, -⟩ := moduleRunLoop_grows pointer handler (before ++ mod :: after)
        (before.length + 1) (if handler calls.length = eventReconnect then -1 else 0)
        (calls ++ [(mod, handler calls.length)])
      exact ⟨added, by rw [grown]; simp⟩

/-- The loop stands behind the modules `before`, of which it has kept some: those were called if
they handle the event, nothing else was, and nothing has stopped the run. -/
structure Passed (loaded before kept rest : List ModuleData) (calls : List (ModuleData × Int)) :
    Prop where
  split : loaded = before ++ rest
  keptBefore : ∀ other ∈ kept, other ∈ before
  called : ∀ call ∈ calls, call.1 ∈ before ∧ call.2 ≠ eventReconnectNow
  keptCalled : ∀ other ∈ kept, pointer other.data = true → other ∈ calls.map Prod.fst

theorem passed_start (loaded : List ModuleData) : Passed pointer loaded [] [] loaded [] :=
  ⟨rfl, by simp, by simp, by simp⟩

section Passed

variable {pointer} {loaded before kept rest : List ModuleData} {mod : ModuleData}
  {calls : List (ModuleData × Int)}

/-- The module has been called and unloaded. -/
theorem Passed.unload (passed : Passed pointer loaded before kept (mod :: rest) calls)
    (value : Int) (goesOn : value ≠ eventReconnectNow) :
    Passed pointer loaded (before ++ [mod]) kept rest (calls ++ [(mod, value)]) where
  split := by simp [passed.split]
  keptBefore other member := List.mem_append_left _ (passed.keptBefore other member)
  called call member := by
    rcases List.mem_append.mp member with member | member
    · exact ⟨List.mem_append_left _ (passed.called call member).1, (passed.called call member).2⟩
    · rw [List.mem_singleton.mp member]
      exact ⟨by simp, goesOn⟩
  keptCalled other member implements := by
    simp [passed.keptCalled other member implements]

/-- The module has been called and stays. -/
theorem Passed.keep (passed : Passed pointer loaded before kept (mod :: rest) calls)
    (value : Int) (goesOn : value ≠ eventReconnectNow) :
    Passed pointer loaded (before ++ [mod]) (kept ++ [mod]) rest (calls ++ [(mod, value)]) where
  split := (passed.unload value goesOn).split
  keptBefore other member := by
    rcases List.mem_append.mp member with member | member
    · exact (passed.unload value goesOn).keptBefore other member
    · simp [List.mem_singleton.mp member]
  called := (passed.unload value goesOn).called
  keptCalled other member implements := by
    rcases List.mem_append.mp member with member | member
    · exact (passed.unload value goesOn).keptCalled other member implements
    · simp [List.mem_singleton.mp member]

/-- The module does not handle the event. -/
theorem Passed.skip (passed : Passed pointer loaded before kept (mod :: rest) calls)
    (missing : pointer mod.data = false) :
    Passed pointer loaded (before ++ [mod]) (kept ++ [mod]) rest calls where
  split := by simp [passed.split]
  keptBefore other member := by
    rcases List.mem_append.mp member with member | member
    · exact List.mem_append_left _ (passed.keptBefore other member)
    · simp [List.mem_singleton.mp member]
  called call member :=
    ⟨List.mem_append_left _ (passed.called call member).1, (passed.called call member).2⟩
  keptCalled other member implements := by
    rcases List.mem_append.mp member with member | member
    · exact passed.keptCalled other member implements
    · rw [List.mem_singleton.mp member, missing] at implements
      cases implements

end Passed

section Misplaced

variable {pointer handler} {loaded before kept rest : List ModuleData} {mod : ModuleData}
  {calls : List (ModuleData × Int)}

/-- Whom the loop calls once it has gone back to the first module it kept. -/
theorem called_again (first : ModuleData) (left : List ModuleData)
    (passed : Passed pointer loaded before kept (mod :: rest) calls) (call : ModuleData × Int)
    (member : call ∈ (moduleRunLoop pointer handler (first :: left) 1 0
      (calls ++ [(mod, eventUnload)])).calls) :
    call.1 ∈ before ∧ call.2 ≠ eventReconnectNow ∨ call = (mod, eventUnload) ∨ call.1 ∈ left := by
  rcases moduleRunLoop_grows pointer handler (first :: left) 1 0 (calls ++ [(mod, eventUnload)])
    with ⟨added, grown, later⟩
  rw [grown, List.append_assoc, List.mem_append, List.mem_append, List.mem_singleton] at member
  rcases member with old | unload | new
  · exact .inl (passed.called call old)
  · exact .inr (.inl unload)
  · exact .inr (.inr (later (Nat.le_refl 1) call new))

/-- Unloading the first module of the list skips the one after it for good. -/
theorem not_once_of_skipped (next : ModuleData) (distinct : loaded.Nodup)
    (passed : Passed pointer loaded before kept (mod :: next :: rest) calls)
    (implements : pointer next.data = true) :
    ¬EachEventOnce pointer loaded
      (moduleRunLoop pointer handler (next :: rest) 1 0 (calls ++ [(mod, eventUnload)])) := by
  intro each
  have split := passed.split
  have never : Run.callCount (moduleRunLoop pointer handler (next :: rest) 1 0
      (calls ++ [(mod, eventUnload)])) next = 0 := by
    apply List.count_eq_zero.mpr
    intro member
    rcases List.mem_map.mp member with ⟨call, member, same⟩
    rcases called_again next rest passed call member with ⟨old, _⟩ | unload | new
    · grind
    · grind
    · grind
  by_cases through : ∀ call ∈ (moduleRunLoop pointer handler (next :: rest) 1 0
      (calls ++ [(mod, eventUnload)])).calls, call.2 ≠ eventReconnectNow
  · have := each.once through next (by simp [split]) implements
    omega
  · -- whoever stopped the run stands behind `next`, which it promised was called
    push Not at through
    obtain ⟨⟨stopper, value⟩, member, rfl : value = eventReconnectNow⟩ := through
    have behind : stopper ∈ rest := by
      rcases called_again next rest passed _ member with ⟨_, goesOn⟩ | unload | new
      · exact absurd rfl goesOn
      · simp [eventUnload, eventReconnectNow] at unload
      · exact new
    rcases List.append_of_mem behind with ⟨between, after, rfl⟩
    have := (each.once_before (before ++ mod :: next :: between) stopper after
      (by simp [split]) member).1 next (by simp) implements
    omega

variable (handler) in
/-- After the third or a later module was unloaded, the second and later kept ones are called
again. -/
theorem called_twice (first again : ModuleData) (skipped more : List ModuleData)
    (passed : Passed pointer loaded before (first :: (skipped ++ again :: more)) (mod :: rest) calls)
    (quiet : ∀ other ∈ skipped, pointer other.data = false) (found : pointer again.data = true) :
    ∃ added, (moduleRunLoop pointer handler (first :: (skipped ++ again :: more) ++ rest) 1 0
        (calls ++ [(mod, eventUnload)])).calls = calls ++ [(mod, eventUnload)] ++
          (again, handler (calls ++ [(mod, eventUnload)]).length) :: added ∧
      2 ≤ Run.callCount (moduleRunLoop pointer handler
        (first :: (skipped ++ again :: more) ++ rest) 1 0 (calls ++ [(mod, eventUnload)])) again := by
  obtain ⟨added, reached⟩ := moduleRunLoop_calls pointer handler (first :: skipped)
    (more ++ rest) again 0 (calls ++ [(mod, eventUnload)]) found
  have skips := moduleRunLoop_skips pointer handler [first] skipped (again :: (more ++ rest)) 0
    (calls ++ [(mod, eventUnload)]) quiet
  have grown : (moduleRunLoop pointer handler (first :: (skipped ++ again :: more) ++ rest) 1 0
      (calls ++ [(mod, eventUnload)])).calls = calls ++ [(mod, eventUnload)] ++
        (again, handler (calls ++ [(mod, eventUnload)]).length) :: added := by
    rw [← reached]
    simpa [Nat.add_comm] using congrArg Run.calls skips
  have once : 0 < (calls.map Prod.fst).count again :=
    List.count_pos_iff.mpr (passed.keptCalled again (by simp) found)
  refine ⟨added, grown, ?_⟩
  simp only [Run.callCount, grown, List.map_append, List.map_cons, List.count_append,
    List.count_cons_self]
  omega

/-- Unloading the third or a later module calls the second and later kept ones again. -/
theorem not_once_of_repeated (first : ModuleData) (second : List ModuleData)
    (passed : Passed pointer loaded before (first :: second) (mod :: rest) calls)
    (implements : ¬∀ other ∈ second, pointer other.data = false) :
    ¬EachEventOnce pointer loaded
      (moduleRunLoop pointer handler (first :: second ++ rest) 1 0
        (calls ++ [(mod, eventUnload)])) := by
  intro each
  rcases exists_first_implementing pointer second implements with
    ⟨skipped, again, more, rfl, quiet, found⟩
  obtain ⟨added, grown, twice⟩ := called_twice handler first again skipped more passed
    quiet found
  have again_before : again ∈ before := passed.keptBefore again (by simp)
  have split := passed.split
  by_cases through : ∀ call ∈ (moduleRunLoop pointer handler
      (first :: (skipped ++ again :: more) ++ rest) 1 0 (calls ++ [(mod, eventUnload)])).calls,
      call.2 ≠ eventReconnectNow
  · have := each.once through again (by simp [split, again_before]) found
    omega
  · push Not at through
    obtain ⟨⟨stopper, value⟩, member, rfl : value = eventReconnectNow⟩ := through
    have present : stopper ∈ loaded := by
      rcases called_again first (skipped ++ again :: more ++ rest) passed _ member
        with ⟨old, _⟩ | unload | behind
      · simp [split, old]
      · simp [eventUnload, eventReconnectNow] at unload
      · rcases List.mem_append.mp behind with kept | rest
        · simp [split, passed.keptBefore stopper (List.mem_cons_of_mem _ kept)]
        · simp [split, rest]
    have again_loaded : again ∈ loaded := by simp [split, again_before]
    rcases List.append_of_mem present with ⟨earlier, after, loaded_at⟩
    rw [loaded_at] at again_loaded
    rcases List.mem_append.mp again_loaded with ahead | behind
    · have := (each.once_before earlier stopper after loaded_at member).1 again ahead found
      omega
    · rcases List.mem_cons.mp behind with rfl | behind
      · -- it stopped the run at its second call, after `mod` had been called
        rcases List.append_of_mem again_before with ⟨front, back, rfl⟩
        have none := (each.once_before front again (back ++ mod :: rest) (by simp [split]) member).2
          mod (by simp)
        rw [Run.callCount, grown] at none
        simp at none
      · have := (each.once_before earlier stopper after loaded_at member).2 again behind
        omega

/-- So an unload is in place. -/
theorem resumes_of_each_once (distinct : loaded.Nodup)
    (passed : Passed pointer loaded before kept (mod :: rest) calls)
    (each : EachEventOnce pointer loaded
      (moduleRunLoop pointer handler (kept ++ rest) 1 0 (calls ++ [(mod, eventUnload)]))) :
    ResumesInPlace pointer kept rest := by
  by_contra misplaced
  cases kept with
  | nil =>
      cases rest with
      | nil => simp [ResumesInPlace] at misplaced
      | cons next rest =>
          have implements : pointer next.data = true := by
            simpa [ResumesInPlace] using misplaced
          exact not_once_of_skipped next distinct passed implements each
  | cons first second => exact not_once_of_repeated first second passed misplaced each

end Misplaced

theorem inPlace_of_each_once (loaded before kept rest : List ModuleData) (ret : Int)
    (calls : List (ModuleData × Int)) (distinct : loaded.Nodup)
    (passed : Passed pointer loaded before kept rest calls)
    (each : EachEventOnce pointer loaded
      (moduleRunLoop pointer handler (kept ++ rest) kept.length ret calls)) :
    UnloadsInPlace pointer handler kept calls.length rest := by
  induction rest generalizing before kept ret calls with
  | nil => trivial
  | cons mod rest ih =>
      unfold UnloadsInPlace
      split_ifs with found now unload
      · rw [moduleRunLoop_unload pointer handler kept rest mod ret calls found unload] at each
        have place := resumes_of_each_once distinct passed each
        rw [moduleRunLoop_in_place pointer handler kept rest 0 _ place] at each
        have tail := ih (before ++ [mod]) kept 0 (calls ++ [(mod, eventUnload)])
          (passed.unload eventUnload (by decide)) each
        exact ⟨place, by simpa using tail⟩
      · rw [moduleRunLoop_advance pointer handler kept rest mod ret calls found now unload] at each
        have tail := ih (before ++ [mod]) (kept ++ [mod])
          (if handler calls.length = eventReconnect then -1 else 0)
          (calls ++ [(mod, handler calls.length)]) (passed.keep _ now) (by simpa using each)
        simpa using tail
      · have missing : pointer mod.data = false := by simpa using found
        rw [moduleRunLoop_skip pointer handler kept rest mod ret calls missing] at each
        exact ih (before ++ [mod]) (kept ++ [mod]) ret calls (passed.skip missing)
          (by simpa using each)

theorem each_once_of_inPlace (modules : Modules)
    (inPlace : UnloadsInPlace pointer handler [] 0 modules.list) :
    EachEventOnce pointer modules.list (moduleRun pointer handler modules) := by
  rcases moduleRunLoop_pass pointer handler [] modules.list 0 [] inPlace with ⟨calls, kept⟩
  simp only [List.nil_append, List.length_nil] at calls kept
  constructor
  · intro through mod member implements
    rw [Run.callCount, moduleRun, calls]
    apply passCalls_once pointer handler 0 modules.list modules.distinct _ mod member implements
    rwa [moduleRun, calls] at through
  · intro before mod after split now
    rw [moduleRun, calls, split] at now
    have distinct := modules.distinct
    rw [split] at distinct
    simp only [Run.callCount, moduleRun, calls]
    rw [split]
    exact passCalls_once_before pointer handler 0 before after mod distinct now
  · simp only [moduleRun, calls, kept]
    exact passKept_eq_filter pointer handler 0 modules.list modules.distinct

/-- A dispatcher treats every module exactly once if and only if each unload of the
pass happens where sending the iterator behind the list's head does no harm. -/
theorem moduleRun_each_once_iff (modules : Modules) :
    EachEventOnce pointer modules.list (moduleRun pointer handler modules) ↔
      UnloadsInPlace pointer handler [] 0 modules.list := by
  constructor
  · intro each
    exact inPlace_of_each_once pointer handler modules.list [] [] modules.list 0 []
      modules.distinct (passed_start pointer modules.list) each
  · exact each_once_of_inPlace pointer handler modules

/-- The event table of the scrobbler and of the stats module. -/
def playerModule : MpdcronModule :=
  { eventDatabase := false, eventStoredPlaylist := false, eventQueue := false
    eventPlayer := true, eventMixer := false, eventOutput := false
    eventOptions := false, eventUpdate := false }

def scrobblerAndStats : Modules :=
  ⟨[⟨0, playerModule⟩, ⟨1, playerModule⟩], by decide⟩

/-- The first module unloads itself at its player event (as both do when
`mpd_song_dup` fails): the second never sees the event. -/
theorem modulePlayerRun_skips_second :
    ¬EachEventOnce MpdcronModule.eventPlayer scrobblerAndStats.list
      (modulePlayerRun (fun call => if call = 0 then eventUnload else eventSuccess)
        scrobblerAndStats) := by
  intro each
  have place := inPlace_of_each_once MpdcronModule.eventPlayer _ scrobblerAndStats.list [] []
    scrobblerAndStats.list 0 [] scrobblerAndStats.distinct (passed_start _ _) each
  simp [scrobblerAndStats, playerModule, UnloadsInPlace, ResumesInPlace] at place

end Mpdcron.Gmodule
