import Mathlib.Data.List.Nodup
import Mpdcron.Cron.Modules

/-! The promise to the modules is kept at every step of loading them and of running their
handlers. -/

namespace Mpdcron.Cron

open Mpdcron.Gmodule Traces

/-! ### Single steps -/

/-- How often a module in this stage has been allocated, destroyed and freed. -/
def Stage.tally : Op → Stage → Nat
  | .gNew, stage => if stage = .absent then 0 else 1
  | .destroy, stage => if stage = .destroyed ∨ stage = .closed ∨ stage = .freed then 1 else 0
  | .gFree, stage => if stage = .dropped ∨ stage = .freed then 1 else 0
  | _, _ => 0

/-- The stages between which and the list a module is, when no call into one is under way. -/
def Stage.Rests (stage : Stage) : Prop := stage = .absent ∨ stage = .dropped ∨ stage = .freed

theorem modulesOf_append (first second : List Act) :
    modulesOf (first ++ second) = second.foldl Act.apply (modulesOf first) := by
  rw [modulesOf, List.foldl_append]
  rfl

theorem touches_append (first second : List Act) :
    touches (first ++ second) = touches first ++ touches second :=
  List.filterMap_append

theorem inHand_concat (acts : List Act) (act : Act) :
    inHand (acts ++ [act]) = inHand [act] := by
  simp [inHand]

variable (daemon : Daemon)

theorem allows_tally (op : Op) (tallied : op ∈ [Op.gNew, .destroy, .gFree]) :
    Weighs daemon.allows (Stage.tally op) (· == op) := by
  intro address stage done after allowed
  simp only [List.mem_cons, List.not_mem_nil, or_false] at tallied
  cases stage with
  | opened =>
      cases done with
      | init ret =>
          cases allowed
          by_cases failed : ret = initFailure <;>
            rcases tallied with rfl | rfl | rfl <;> simp [failed, Stage.tally]
      | _ => rcases tallied with rfl | rfl | rfl <;> cases allowed <;> rfl
  | ready =>
      cases done with
      | event event ret =>
          simp only [Daemon.allows, Option.ite_none_right_eq_some] at allowed
          cases allowed.2
          rcases tallied with rfl | rfl | rfl <;> rfl
      | _ => rcases tallied with rfl | rfl | rfl <;> cases allowed <;> rfl
  | _ => rcases tallied with rfl | rfl | rfl <;> cases done <;> cases allowed <;> rfl

theorem count_touches (acts : List Act) (address : Nat) (op : Op) :
    acts.count (.on address op)
      = (touches acts).countP fun touch => touch.1 = address ∧ touch.2 == op := by
  induction acts with
  | nil => rfl
  | cons act acts ih =>
      rw [List.count_cons, ih]
      cases act with
      | on other done =>
          have front : touches (.on other done :: acts) = (other, done) :: touches acts := rfl
          rw [front, List.countP_cons]
          by_cases same : other = address <;> simp [same]
      | _ => rfl

/-- What holds after the steps. `hand` is the module that has left the list and is still to be
destroyed. -/
structure Kept (hand : Option ModuleData) (acts : List Act) (stages : Nat → Stage) : Prop where
  followed : follow daemon.allows (fun _ => .absent) (touches acts) = some stages
  distinct : ((modulesOf acts).map ModuleData.address).Nodup
  live : ∀ mod ∈ modulesOf acts, stages mod.address = .ready ∧
    (daemon.loadings[mod.address]?.bind Loading.data) = some mod.data
  linked : ∀ mod, .prepend mod ∈ acts →
    mod ∈ modulesOf acts ∨ hand = some mod ∨ (stages mod.address).tally .destroy = 1
  held : ∀ mod ∈ hand, stages mod.address = .ready ∧
    mod.address ∉ (modulesOf acts).map ModuleData.address

variable {daemon} {acts : List Act} {stages : Nat → Stage}

theorem kept_start : Kept daemon none [] fun _ => .absent where
  followed := rfl
  distinct := List.nodup_nil
  live mod member := by cases member
  linked mod member := by cases member
  held mod member := by cases member

/-- A step with one module. One that is in the list stays ready for the next event, one that was
held is destroyed by it. -/
theorem Kept.touch {hand : Option ModuleData} (kept : Kept daemon hand acts stages)
    (address : Nat) (op : Op) (after : Stage)
    (allowed : daemon.allows address (stages address) op = some after)
    (listed : address ∈ (modulesOf acts).map ModuleData.address → after = .ready)
    (held : ∀ mod ∈ hand, mod.address = address ∧ after.tally .destroy = 1) :
    Kept daemon none (acts ++ [.on address op]) (Function.update stages address after) where
  followed := by
    rw [touches_append, follow_append, kept.followed]
    show follow _ _ [(address, op)] = _
    rw [follow_single, advance, allowed]
    rfl
  distinct := by
    rw [modulesOf_append]
    exact kept.distinct
  live mod member := by
    rw [modulesOf_append] at member
    have now := kept.live mod member
    by_cases same : mod.address = address
    · have stays := listed (same ▸ List.mem_map_of_mem member)
      rw [same, Function.update_self, ← same]
      exact ⟨stays, now.2⟩
    · rwa [Function.update_of_ne same]
  linked mod member := by
    have earlier : .prepend mod ∈ acts := by simpa using member
    rw [modulesOf_append]
    rcases kept.linked mod earlier with inList | inHand | destroyed
    · exact .inl inList
    · have now := held mod inHand
      rw [now.1, Function.update_self]
      exact .inr (.inr now.2)
    · refine .inr (.inr ?_)
      by_cases same : mod.address = address
      · have weighs := allows_tally daemon .destroy (by simp) _ _ _ _ allowed
        have atMost : after.tally .destroy ≤ 1 := by cases after <;> decide
        rw [← same, destroyed] at weighs
        rw [same, Function.update_self]
        omega
      · rwa [Function.update_of_ne same]
  held mod member := by cases member

/-- A step with a module that is not in the list. -/
theorem Kept.on (kept : Kept daemon none acts stages) (address : Nat) (op : Op) (after : Stage)
    (absent : address ∉ (modulesOf acts).map ModuleData.address)
    (allowed : daemon.allows address (stages address) op = some after) :
    Kept daemon none (acts ++ [.on address op]) (Function.update stages address after) :=
  kept.touch address op after allowed (fun listed => absurd listed absent)
    fun _ held => nomatch held

theorem Kept.event (kept : Kept daemon none acts stages) (mod : ModuleData) (event : MpdIdle)
    (ret : Int) (inList : mod ∈ modulesOf acts) (found : event.pointer mod.data = true) :
    Kept daemon none (acts ++ [.on mod.address (.event event ret)]) stages := by
  have now := kept.live mod inList
  have allowed : daemon.allows mod.address (stages mod.address) (.event event ret)
      = some .ready := by
    rw [now.1, Daemon.allows, now.2]
    exact if_pos found
  have touched := kept.touch mod.address _ _ allowed (fun _ => rfl) fun _ held => nomatch held
  rwa [← now.1, Function.update_eq_self] at touched

theorem Kept.destroy {mod : ModuleData} (kept : Kept daemon (some mod) acts stages) :
    Kept daemon none (acts ++ [.on mod.address .destroy])
      (Function.update stages mod.address .destroyed) := by
  have now := kept.held mod rfl
  have allowed : daemon.allows mod.address (stages mod.address) .destroy = some .destroyed := by
    rw [now.1]
    rfl
  apply kept.touch mod.address _ _ allowed fun listed => absurd listed now.2
  intro other held
  cases held
  exact ⟨rfl, rfl⟩

theorem Kept.prepend (kept : Kept daemon none acts stages) (mod : ModuleData)
    (absent : mod.address ∉ (modulesOf acts).map ModuleData.address)
    (ready : stages mod.address = .ready)
    (data : (daemon.loadings[mod.address]?.bind Loading.data) = some mod.data) :
    Kept daemon none (acts ++ [.prepend mod]) stages where
  followed := by
    rw [touches_append]
    show follow _ _ (touches acts ++ []) = _
    rw [List.append_nil]
    exact kept.followed
  distinct := by
    rw [modulesOf_append]
    exact List.nodup_cons.mpr ⟨absent, kept.distinct⟩
  live other member := by
    rw [modulesOf_append] at member
    rcases List.mem_cons.mp member with rfl | member
    · exact ⟨ready, data⟩
    · exact kept.live other member
  linked other member := by
    rw [modulesOf_append]
    rcases List.mem_append.mp member with earlier | now
    · exact (kept.linked other earlier).imp_left (List.mem_cons_of_mem mod)
    · cases List.mem_singleton.mp now
      exact .inl List.mem_cons_self
  held mod member := by cases member

theorem Kept.removeLink (kept : Kept daemon none acts stages) (mod : ModuleData)
    (inList : mod ∈ modulesOf acts) :
    Kept daemon (some mod) (acts ++ [.removeLink mod]) stages where
  followed := by
    rw [touches_append]
    show follow _ _ (touches acts ++ []) = _
    rw [List.append_nil]
    exact kept.followed
  distinct := by
    rw [modulesOf_append]
    exact kept.distinct.sublist (List.erase_sublist.map _)
  live other member := by
    rw [modulesOf_append] at member
    exact kept.live other (List.mem_of_mem_erase member)
  linked other member := by
    have earlier : .prepend other ∈ acts := by simpa using member
    rw [modulesOf_append]
    rcases kept.linked other earlier with listed | inHand | destroyed
    · by_cases same : other = mod
      · exact .inr (.inl (congrArg some same.symm))
      · exact .inl ((List.mem_erase_of_ne same).mpr listed)
    · cases inHand
    · exact .inr (.inr destroyed)
  held other member := by
    cases member
    refine ⟨(kept.live mod inList).1, ?_⟩
    rw [modulesOf_append]
    show mod.address ∉ ((modulesOf acts).erase mod).map ModuleData.address
    intro again
    obtain ⟨other, listed, same⟩ := List.mem_map.mp again
    have nodup : (modulesOf acts).Nodup := List.Nodup.of_map _ kept.distinct
    have injective := List.inj_on_of_nodup_map kept.distinct
    have equal : other = mod := injective (List.mem_of_mem_erase listed) inList same
    subst equal
    exact nodup.not_mem_erase listed

/-! ### Up to `module_close` -/

/-- The promise is kept so far, with at most one module on its way out. -/
def Sound (daemon : Daemon) (acts : List Act) : Prop :=
  ∃ stages, Kept daemon (inHand acts) acts stages

theorem Kept.sound (kept : Kept daemon none acts stages) (free : inHand acts = none) :
    Sound daemon acts :=
  ⟨stages, free ▸ kept⟩

/-- Steps with a module that is not in the list, as far as the promise allows them. -/
theorem Kept.ops (address : Nat) (ops : List Op) :
    ∀ {acts stages}, Kept daemon none acts stages → inHand acts = none →
      address ∉ (modulesOf acts).map ModuleData.address → ∀ after,
      ops.foldlM (daemon.allows address) (stages address) = some after →
        Throughout (Sound daemon) acts (ops.map (.on address)) ∧
          inHand (acts ++ ops.map (.on address)) = none ∧
          modulesOf (acts ++ ops.map (.on address)) = modulesOf acts ∧
          Kept daemon none (acts ++ ops.map (.on address))
            (Function.update stages address after) := by
  induction ops with
  | nil =>
      intro acts stages kept free absent after run
      cases run
      rw [List.map_nil, List.append_nil, Function.update_eq_self]
      exact ⟨.nil (kept.sound free), free, rfl, kept⟩
  | cons op ops ih =>
      intro acts stages kept free absent after run
      rw [List.foldlM_cons] at run
      obtain ⟨middle, allowed, rest⟩ := Option.bind_eq_some_iff.mp run
      have next := kept.on address op middle absent allowed
      have same : modulesOf (acts ++ [.on address op]) = modulesOf acts := by
        rw [modulesOf_append]
        rfl
      have later := ih next (inHand_concat _ _) (by rwa [same]) after
        (by rwa [Function.update_self])
      rw [List.append_assoc, Function.update_idem, same] at later
      exact ⟨.cons (kept.sound free) later.1, later.2⟩

/-- Between two calls into modules, with these names still to be loaded. -/
structure Between (daemon : Daemon) (names : Nat) (acts : List Act) (stages : Nat → Stage) :
    Prop where
  kept : Kept daemon none acts stages
  free : inHand acts = none
  fresh : ∀ address, names ≤ address → stages address = .absent
  rests : ∀ address,
    address ∈ (modulesOf acts).map ModuleData.address ∨ (stages address).Rests

theorem Between.unlisted {names : Nat} (between : Between daemon names acts stages)
    (address : Nat) (later : names ≤ address) :
    address ∉ (modulesOf acts).map ModuleData.address := by
  intro listed
  obtain ⟨mod, member, rfl⟩ := List.mem_map.mp listed
  have ready := (between.kept.live mod member).1
  rw [between.fresh _ later] at ready
  cases ready

theorem moduleInitOne_between (address : Nat) (loading : Loading)
    (named : daemon.loadings[address]? = some loading)
    (between : Between daemon address acts stages) :
    Throughout (Sound daemon) acts (moduleInitOne address loading) ∧
      ∃ after, Between daemon (address + 1) (acts ++ moduleInitOne address loading) after := by
  have absent := between.unlisted address (Nat.le_refl _)
  have start := between.fresh address (Nat.le_refl _)
  have fresh (after : Stage) : ∀ other, address + 1 ≤ other →
      Function.update stages address after other = .absent := by
    intro other later
    rw [Function.update_of_ne (by omega)]
    exact between.fresh other (by omega)
  have rests (after : Stage) : ∀ other, other ≠ address →
      other ∈ (modulesOf acts).map ModuleData.address ∨
        (Function.update stages address after other).Rests := by
    intro other differs
    rw [Function.update_of_ne differs]
    exact between.rests other
  -- where the module is not added to the list
  have given (ops : List Op)
      (run : ops.foldlM (daemon.allows address) .absent = some .dropped) :
      Throughout (Sound daemon) acts (ops.map (.on address)) ∧
        ∃ after, Between daemon (address + 1) (acts ++ ops.map (.on address)) after := by
    obtain ⟨throughout, free, same, kept⟩ :=
      Kept.ops address ops between.kept between.free absent .dropped (by rwa [start])
    refine ⟨throughout, _, kept, free, fresh _, fun other => ?_⟩
    by_cases mine : other = address
    · rw [mine, Function.update_self]
      exact .inr (.inr (.inl rfl))
    · rw [same]
      exact rests _ other mine
  rw [moduleInitOne]
  split
  · exact given [.gNew, .gFree] rfl
  · cases exported : loading.data with
    | none => exact given [.gNew, .gModuleOpen, .gModuleClose, .gFree] rfl
    | some data =>
        by_cases failed : loading.initRet = initFailure
        · have run : [Op.gNew, .gModuleOpen, .init loading.initRet, .gModuleClose,
              .gFree].foldlM (daemon.allows address) .absent = some .dropped := by
            rw [failed]
            rfl
          simp only [if_pos failed]
          exact given _ run
        · have run : [Op.gNew, .gModuleOpen, .init loading.initRet].foldlM
              (daemon.allows address) (stages address) = some .ready := by
            simp [start, Daemon.allows, failed]
          obtain ⟨throughout, free, same, kept⟩ :=
            Kept.ops address _ between.kept between.free absent .ready run
          have added := kept.prepend ⟨address, data⟩ (by rwa [same])
            (Function.update_self _ _ _) (by rw [named, Option.bind_some, exported])
          have last := inHand_concat (acts ++ [Op.gNew, .gModuleOpen, .init loading.initRet].map
            (.on address)) (.prepend ⟨address, data⟩)
          have whole := throughout.append (.cons throughout.done (.nil (added.sound last)))
          have listed : modulesOf (acts ++ ([Op.gNew, .gModuleOpen, .init loading.initRet].map
              (.on address) ++ [.prepend ⟨address, data⟩]))
                = ⟨address, data⟩ :: modulesOf acts := by
            rw [← List.append_assoc, modulesOf_append, same]
            rfl
          simp only [if_neg failed]
          rw [List.append_assoc] at added last
          refine ⟨whole, _, added, last, fresh _, fun other => ?_⟩
          show other ∈ (modulesOf (acts ++ ([Op.gNew, .gModuleOpen, .init loading.initRet].map
            (.on address) ++ [.prepend ⟨address, data⟩]))).map ModuleData.address ∨ _
          rw [listed, List.map_cons, List.mem_cons]
          by_cases mine : other = address
          · exact .inl (.inl mine)
          · exact (rests _ other mine).imp_left .inr

theorem keyfileLoadModules_between (loadings : List Loading) :
    ∀ {acts stages} (address : Nat), Between daemon address acts stages →
      daemon.loadings.drop address = loadings →
        Throughout (Sound daemon) acts (keyfileLoadModules address loadings) ∧
          ∃ names after,
            Between daemon names (acts ++ keyfileLoadModules address loadings) after := by
  induction loadings with
  | nil =>
      intro acts stages address between _
      rw [keyfileLoadModules, List.append_nil]
      exact ⟨.nil (between.kept.sound between.free), address, stages, between⟩
  | cons loading loadings ih =>
      intro acts stages address between left
      have named : daemon.loadings[address]? = some loading := by
        rw [← List.head?_drop, left]
        rfl
      have rest : daemon.loadings.drop (address + 1) = loadings := by
        rw [← List.tail_drop, left]
        rfl
      obtain ⟨first, after, next⟩ := moduleInitOne_between address loading named between
      obtain ⟨later, names, final, ended⟩ := ih (address + 1) next rest
      rw [List.append_assoc] at ended
      exact ⟨first.append later, names, final, ended⟩

theorem moduleDestroyOne_between {names : Nat} {mod : ModuleData}
    (kept : Kept daemon (some mod) acts stages) (hand : inHand acts = some mod)
    (fresh : ∀ address, names ≤ address → stages address = .absent)
    (rests : ∀ address, address ≠ mod.address →
      address ∈ (modulesOf acts).map ModuleData.address ∨ (stages address).Rests) :
    Throughout (Sound daemon) acts (moduleDestroyOne false mod) ∧
      (∃ after, Between daemon names (acts ++ moduleDestroyOne false mod) after) ∧
      modulesOf (acts ++ moduleDestroyOne false mod) = modulesOf acts := by
  have held := kept.held mod rfl
  have destroyed := kept.destroy
  have same : modulesOf (acts ++ [.on mod.address .destroy]) = modulesOf acts := by
    rw [modulesOf_append]
    rfl
  have run : [Op.gFree].foldlM (daemon.allows mod.address)
      (Function.update stages mod.address .destroyed mod.address) = some .freed := by
    rw [Function.update_self]
    rfl
  obtain ⟨throughout, free, listed, freed⟩ :=
    Kept.ops mod.address [.gFree] destroyed (inHand_concat _ _) (by rw [same]; exact held.2) _ run
  rw [List.append_assoc] at free listed freed
  refine ⟨.cons ⟨stages, hand ▸ kept⟩ throughout, ⟨_, freed, free, ?_, ?_⟩, listed.trans same⟩
  · intro address later
    have other : address ≠ mod.address := by
      rintro rfl
      rw [fresh _ later] at held
      cases held.1
    rw [Function.update_of_ne other, Function.update_of_ne other]
    exact fresh address later
  · intro address
    by_cases other : address = mod.address
    · rw [other, Function.update_self]
      exact .inr (.inr (.inr rfl))
    · rw [Function.update_of_ne other, Function.update_of_ne other]
      have rest := rests address other
      rwa [← same, ← listed] at rest

theorem callActs_between {names : Nat} (event : MpdIdle) (mod : ModuleData) (ret : Int)
    (between : Between daemon names acts stages) (inList : mod ∈ modulesOf acts)
    (found : event.pointer mod.data = true) :
    Throughout (Sound daemon) acts (callActs event (mod, ret)) ∧
      (∃ after, Between daemon names (acts ++ callActs event (mod, ret)) after) ∧
      modulesOf (acts ++ callActs event (mod, ret))
        = if ret = eventUnload then (modulesOf acts).erase mod else modulesOf acts := by
  have called := between.kept.event mod event ret inList found
  have free := inHand_concat acts (.on mod.address (.event event ret))
  have same : modulesOf (acts ++ [.on mod.address (.event event ret)]) = modulesOf acts := by
    rw [modulesOf_append]
    rfl
  have now := between.kept.sound between.free
  by_cases unloads : ret = eventUnload
  · have removed := called.removeLink mod (by rwa [same])
    have rests : ∀ address, address ≠ mod.address →
        address ∈ (modulesOf (acts ++ [.on mod.address (.event event ret)]
          ++ [.removeLink mod])).map ModuleData.address ∨ (stages address).Rests := by
      intro address other
      rw [modulesOf_append, same]
      apply (between.rests address).imp_left
      intro listed
      obtain ⟨kept, member, rfl⟩ := List.mem_map.mp listed
      have differs : kept ≠ mod := by
        rintro rfl
        exact other rfl
      exact List.mem_map_of_mem ((List.mem_erase_of_ne differs).mpr member)
    obtain ⟨throughout, ended, listed⟩ :=
      moduleDestroyOne_between removed (inHand_concat _ _) between.fresh rests
    rw [modulesOf_append _ [.removeLink mod], same] at listed
    simp only [callActs, if_pos unloads]
    simp only [List.append_assoc, List.cons_append, List.nil_append] at throughout ended listed
    refine ⟨.cons now (.cons (called.sound free) ?_), ended, listed⟩
    simpa using throughout
  · simp only [callActs, if_neg unloads]
    refine ⟨.cons now (.nil (called.sound free)), ⟨stages, called, free, between.fresh, ?_⟩, same⟩
    rw [same]
    exact between.rests

/-- What `module_process_ret` leaves in the list. -/
theorem moduleProcessRet_slist (ret : Int) (walk : Nat) (modules : List ModuleData)
    (mod : ModuleData) (present : modules[walk]? = some mod) (distinct : modules.Nodup) :
    (moduleProcessRet ret walk modules).slist
      = if ret = eventUnload then modules.erase mod else modules := by
  by_cases unloads : ret = eventUnload
  · obtain ⟨bound, rfl⟩ := List.getElem?_eq_some_iff.mp present
    rw [unloads, if_pos rfl, moduleProcessRet_unload, distinct.erase_getElem]
  · rw [if_neg unloads]
    exact (moduleProcessRet_keeps ret walk modules unloads).2

variable (daemon) in
/-- The steps of a dispatcher's loop end with the list that it leaves. -/
theorem moduleRunLoop_between (event : MpdIdle) (handler : Nat → Int) (modules : List ModuleData)
    (walk : Nat) (ret : Int) (calls : List (ModuleData × Int)) :
    ∃ added, (moduleRunLoop event.pointer handler modules walk ret calls).calls = calls ++ added ∧
      ∀ {acts stages names}, Between daemon names acts stages → modulesOf acts = modules →
        Throughout (Sound daemon) acts (added.flatMap (callActs event)) ∧
          (∃ after, Between daemon names (acts ++ added.flatMap (callActs event)) after) ∧
          modulesOf (acts ++ added.flatMap (callActs event))
            = (moduleRunLoop event.pointer handler modules walk ret calls).modules := by
  have called {modules acts stages names walk mod} (ret : Int)
      (present : modules[walk]? = some mod) (found : event.pointer mod.data = true)
      (between : Between daemon names acts stages) (same : modulesOf acts = modules) :
      Throughout (Sound daemon) acts (callActs event (mod, ret)) ∧
        (∃ after, Between daemon names (acts ++ callActs event (mod, ret)) after) ∧
        modulesOf (acts ++ callActs event (mod, ret))
          = (moduleProcessRet ret walk modules).slist := by
    subst same
    have distinct := List.Nodup.of_map _ between.kept.distinct
    rw [moduleProcessRet_slist ret walk _ mod present distinct]
    exact callActs_between event mod ret between (List.mem_of_getElem? present) found
  fun_induction moduleRunLoop event.pointer handler modules walk ret calls with
  | case1 modules walk ret calls =>
      refine ⟨[], by simp, ?_⟩
      intro acts stages names between same
      rw [List.flatMap_nil, List.append_nil]
      exact ⟨.nil (between.kept.sound between.free), ⟨stages, between⟩, same⟩
  | case2 modules walk ret calls mod present found mret next now =>
      refine ⟨[(mod, mret)], rfl, ?_⟩
      intro acts stages names between same
      rw [List.flatMap_singleton]
      exact called mret present found between same
  | case3 modules walk ret calls mod present found mret next goesOn ih =>
      obtain ⟨added, grown, rest⟩ := ih
      refine ⟨(mod, mret) :: added, by rw [grown]; simp, ?_⟩
      intro acts stages names between same
      obtain ⟨throughout, ⟨after, ended⟩, listed⟩ := called mret present found between same
      obtain ⟨later, final, left⟩ := rest ended listed
      rw [List.append_assoc] at final left
      exact ⟨throughout.append later, final, left⟩
  | case4 modules walk ret calls mod present missing ih => exact ih

theorem Dispatch.run_between {names : Nat} (dispatch : Dispatch)
    (between : Between daemon names acts stages) :
    Throughout (Sound daemon) acts
        ((dispatch.run (modulesOf acts)).calls.flatMap (callActs dispatch.event)) ∧
      (∃ after, Between daemon names
        (acts ++ (dispatch.run (modulesOf acts)).calls.flatMap (callActs dispatch.event)) after) ∧
      modulesOf (acts ++ (dispatch.run (modulesOf acts)).calls.flatMap (callActs dispatch.event))
        = (dispatch.run (modulesOf acts)).modules := by
  rw [Dispatch.run]
  split
  · rw [List.flatMap_nil, List.append_nil]
    exact ⟨.nil (between.kept.sound between.free), ⟨stages, between⟩, rfl⟩
  · obtain ⟨added, grown, rest⟩ := moduleRunLoop_between daemon dispatch.event
      dispatch.handler (modulesOf acts) 0 0 []
    rw [grown, List.nil_append]
    exact rest between rfl

theorem eventActs_between (dispatches : List Dispatch) :
    ∀ {acts stages names}, Between daemon names acts stages →
      Throughout (Sound daemon) acts (eventActs (modulesOf acts) dispatches) ∧
        ∃ after, Between daemon names (acts ++ eventActs (modulesOf acts) dispatches) after := by
  induction dispatches with
  | nil =>
      intro acts stages names between
      rw [eventActs, List.append_nil]
      exact ⟨.nil (between.kept.sound between.free), stages, between⟩
  | cons dispatch dispatches ih =>
      intro acts stages names between
      obtain ⟨throughout, ⟨after, ended⟩, listed⟩ := dispatch.run_between between
      obtain ⟨later, final, left⟩ := ih ended
      rw [listed] at later left
      rw [List.append_assoc] at left
      exact ⟨throughout.append later, final, left⟩

theorem Daemon.front_between (daemon : Daemon) :
    Throughout (Sound daemon) [] daemon.front ∧
      ∃ names stages, Between daemon names daemon.front stages := by
  have start : Between daemon 0 [] fun _ => .absent :=
    ⟨kept_start, rfl, fun _ _ => rfl, fun _ => .inr (.inl rfl)⟩
  obtain ⟨loads, names, loaded, between⟩ := keyfileLoadModules_between daemon.loadings 0 start rfl
  obtain ⟨events, ended⟩ := eventActs_between daemon.dispatches between
  exact ⟨loads.append events, names, ended⟩

end Mpdcron.Cron
