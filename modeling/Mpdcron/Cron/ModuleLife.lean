import Mpdcron.Cron.ModuleSteps

/-! The life of the modules up to the end of the daemon, whenever signals come. -/

namespace Mpdcron.Cron

open Mpdcron.Gmodule Traces

variable {daemon : Daemon} {acts : List Act} {stages : Nat → Stage}

/-! ### `module_close` -/

theorem moduleDestroyOne_follow (gclose : Bool) (mod : ModuleData)
    (ready : stages mod.address = .ready) :
    follow daemon.allows stages (touches (moduleDestroyOne gclose mod))
      = some (Function.update stages mod.address .freed) := by
  cases gclose <;>
    simp [follow, advance, touches, moduleDestroyOne, ready, Daemon.allows]

variable (daemon) in
theorem moduleDestroyAll_follow (gclose : Bool) (modules : List ModuleData) :
    ∀ stages : Nat → Stage, (modules.map ModuleData.address).Nodup →
      (∀ mod ∈ modules, stages mod.address = .ready) →
        ∃ after, follow daemon.allows stages
            (touches (modules.flatMap (moduleDestroyOne gclose))) = some after ∧
          (∀ mod ∈ modules, after mod.address = .freed) ∧
          ∀ address ∉ modules.map ModuleData.address, after address = stages address := by
  induction modules with
  | nil => exact fun stages _ _ => ⟨stages, rfl, by simp, fun _ _ => rfl⟩
  | cons mod modules ih =>
      intro stages distinct ready
      obtain ⟨absent, distinct⟩ := List.nodup_cons.mp distinct
      have others : ∀ other ∈ modules,
          Function.update stages mod.address .freed other.address = .ready := by
        intro other member
        have differs : other.address ≠ mod.address := by
          intro same
          exact absent (same ▸ List.mem_map_of_mem member)
        rw [Function.update_of_ne differs]
        exact ready other (List.mem_cons_of_mem mod member)
      obtain ⟨after, followed, freed, kept⟩ :=
        ih (Function.update stages mod.address .freed) distinct others
      refine ⟨after, ?_, ?_, ?_⟩
      · rw [List.flatMap_cons, touches_append, follow_append,
          moduleDestroyOne_follow gclose mod (ready mod List.mem_cons_self)]
        exact followed
      · intro other member
        rcases List.mem_cons.mp member with rfl | member
        · rw [kept _ absent, Function.update_self]
        · exact freed other member
      · intro address unlisted
        rw [List.map_cons, List.mem_cons, not_or] at unlisted
        rw [kept address unlisted.2, Function.update_of_ne unlisted.1]

/-- Until the list is cleared, `module_close` works on the modules only. -/
theorem moduleDestroyAll_on (gclose : Bool) (modules : List ModuleData) (act : Act)
    (member : act ∈ modules.flatMap (moduleDestroyOne gclose)) :
    ∃ address op, act = .on address op := by
  obtain ⟨mod, -, within⟩ := List.mem_flatMap.mp member
  have ops : ∃ ops : List Op, moduleDestroyOne gclose mod = ops.map (.on mod.address) := by
    cases gclose with
    | true => exact ⟨[.destroy, .gModuleClose, .gFree], rfl⟩
    | false => exact ⟨[.destroy, .gFree], rfl⟩
  obtain ⟨ops, same⟩ := ops
  rw [same] at within
  obtain ⟨op, -, rfl⟩ := List.mem_map.mp within
  exact ⟨mod.address, op, rfl⟩

theorem foldl_apply_on (acts : List Act) (on : ∀ act ∈ acts, ∃ address op, act = .on address op)
    (modules : List ModuleData) : acts.foldl Act.apply modules = modules := by
  induction acts with
  | nil => rfl
  | cons act acts ih =>
      obtain ⟨address, op, rfl⟩ := on act List.mem_cons_self
      exact ih fun other member => on other (List.mem_cons_of_mem _ member)

theorem modulesOf_closed (acts : List Act) (gclose : Bool) (modules : List ModuleData) :
    modulesOf (acts ++ moduleClose gclose modules) = [] := by
  rw [moduleClose, ← List.append_assoc, modulesOf_append]
  rfl

/-- A whole `module_close` destroys what is in the list. -/
theorem Kept.close {hand : Option ModuleData} (kept : Kept daemon hand acts stages)
    (gclose : Bool) :
    ∃ after, Kept daemon hand (acts ++ moduleClose gclose (modulesOf acts)) after ∧
      (∀ address ∈ (modulesOf acts).map ModuleData.address, after address = .freed) ∧
      ∀ address ∉ (modulesOf acts).map ModuleData.address, after address = stages address := by
  obtain ⟨after, followed, freed, others⟩ := moduleDestroyAll_follow daemon gclose
    (modulesOf acts) stages kept.distinct fun mod member => (kept.live mod member).1
  refine ⟨after, ⟨?_, ?_, ?_, ?_, ?_⟩, ?_, others⟩
  · rw [touches_append, moduleClose, touches_append, follow_append, kept.followed]
    show follow _ _ (_ ++ []) = _
    rw [List.append_nil]
    exact followed
  · rw [modulesOf_closed]
    exact List.nodup_nil
  · rw [modulesOf_closed]
    exact fun mod member => nomatch member
  · intro mod member
    have earlier : .prepend mod ∈ acts := by
      rcases List.mem_append.mp member with earlier | within
      · exact earlier
      · rcases List.mem_append.mp within with within | last
        · obtain ⟨address, op, other⟩ := moduleDestroyAll_on gclose _ _ within
          cases other
        · cases List.mem_singleton.mp last
    by_cases listed : mod.address ∈ (modulesOf acts).map ModuleData.address
    · obtain ⟨other, inList, same⟩ := List.mem_map.mp listed
      exact .inr (.inr (by rw [← same, freed other inList]; rfl))
    · rw [others _ listed]
      rcases kept.linked mod earlier with inList | rest
      · exact absurd (List.mem_map_of_mem inList) listed
      · exact .inr rest
  · intro mod held
    have before := kept.held mod held
    rw [modulesOf_closed, others _ before.2]
    exact ⟨before.1, List.not_mem_nil⟩
  · intro address listed
    obtain ⟨mod, inList, rfl⟩ := List.mem_map.mp listed
    exact freed mod inList

/-- Further signals that find `module_close` not begun or ended. -/
theorem Kept.interrupted {hand : Option ModuleData} (cuts : List Nat) :
    ∀ {acts stages}, Kept daemon hand acts stages → undisturbed acts cuts →
      modulesOf (Traces.interrupted sigCleanup acts (sigCleanup acts) cuts) = [] ∧
        ∃ after, Kept daemon hand (Traces.interrupted sigCleanup acts (sigCleanup acts) cuts)
          after := by
  induction cuts with
  | nil =>
      intro acts stages kept _
      obtain ⟨after, closed, -⟩ := kept.close false
      exact ⟨modulesOf_closed acts false _, after, closed⟩
  | cons cut cuts ih =>
      intro acts stages kept quiet
      obtain ⟨outside, later⟩ := quiet
      rw [Traces.interrupted]
      rcases Nat.eq_zero_or_pos cut with rfl | begun
      · rw [List.take_zero, List.append_nil] at later ⊢
        exact ih kept later
      · have whole : (sigCleanup acts).take cut = sigCleanup acts :=
          List.take_of_length_le (by omega)
        rw [whole] at later ⊢
        obtain ⟨after, closed, -⟩ := kept.close false
        exact ih closed later

/-- A life that a signal ends. -/
theorem Daemon.life_kept (daemon : Daemon) (cut : Nat) (cuts : List Nat)
    (quiet : daemon.Undisturbed (cut :: cuts)) :
    modulesOf (daemon.life (cut :: cuts)) = [] ∧
      ∃ stages, Kept daemon (daemon.abandoned (cut :: cuts)) (daemon.life (cut :: cuts)) stages := by
  obtain ⟨throughout, -⟩ := daemon.front_between
  obtain ⟨before, kept⟩ := throughout cut
  exact kept.interrupted cuts quiet

/-! ### Disturbed -/

theorem destroys_once {hand : Option ModuleData} (kept : Kept daemon hand acts stages)
    (address : Nat) (op : Op) (tallied : op ∈ [Op.gNew, .destroy, .gFree]) :
    acts.count (.on address op) = (stages address).tally op := by
  rw [count_touches, (allows_tally daemon op tallied).follow address _ _ _ kept.followed]
  simp only [List.mem_cons, List.not_mem_nil, or_false] at tallied
  rcases tallied with rfl | rfl | rfl <;> exact (Nat.zero_add _).symm

/-- The last handler destroys what is in the list. -/
theorem interrupted_destroys (mod : ModuleData) (cuts : List Nat) :
    ∀ acts, mod ∈ modulesOf acts →
      acts.count (.on mod.address .destroy) + 1
        ≤ (interrupted sigCleanup acts (sigCleanup acts) cuts).count
            (.on mod.address .destroy) := by
  have within (acts : List Act) (listed : mod ∈ modulesOf acts) :
      1 ≤ (sigCleanup acts).count (.on mod.address .destroy) := by
    apply List.one_le_count_iff.mpr
    apply List.mem_append_left
    exact List.mem_flatMap.mpr ⟨mod, listed, List.mem_cons_self⟩
  induction cuts with
  | nil =>
      intro acts listed
      have last := within acts listed
      rw [interrupted, List.count_append]
      omega
  | cons cut cuts ih =>
      intro acts listed
      rw [interrupted]
      by_cases early : cut ≤ ((modulesOf acts).flatMap (moduleDestroyOne false)).length
      · have front : (sigCleanup acts).take cut
            = ((modulesOf acts).flatMap (moduleDestroyOne false)).take cut :=
          List.take_append_of_le_length early
        have same : modulesOf (acts ++ (sigCleanup acts).take cut) = modulesOf acts := by
          rw [modulesOf_append, front]
          apply foldl_apply_on
          exact fun act member => moduleDestroyAll_on false _ act (List.mem_of_mem_take member)
        have later := ih (acts ++ (sigCleanup acts).take cut) (by rwa [same])
        rw [List.count_append] at later
        omega
      · have whole : (sigCleanup acts).take cut = sigCleanup acts := by
          apply List.take_of_length_le
          rw [sigCleanup, moduleClose, List.length_append, List.length_singleton]
          omega
        obtain ⟨later, same⟩ := interrupted_append sigCleanup cuts
          (acts ++ (sigCleanup acts).take cut) (sigCleanup (acts ++ (sigCleanup acts).take cut))
        have once := within acts listed
        rw [same, whole, List.count_append, List.count_append]
        omega

theorem moduleDestroyAll_begins (gclose : Bool) (mod : ModuleData) (others : List ModuleData)
    (cut : Nat) (begun : 0 < cut) :
    .on mod.address .destroy ∈ ((mod :: others).flatMap (moduleDestroyOne gclose)).take cut := by
  cases cut with
  | zero => cases begun
  | succ cut =>
      rw [List.flatMap_cons, moduleDestroyOne, List.cons_append, List.take_succ_cons]
      exact List.mem_cons_self

/-- A signal in the middle of `sig_cleanup` makes the next one destroy the first module again. -/
theorem disturbed_destroys (cuts : List Nat) :
    ∀ done : List Act, ¬undisturbed done cuts →
      ∃ address, 2 ≤ (interrupted sigCleanup done (sigCleanup done) cuts).count
        (.on address .destroy) := by
  induction cuts with
  | nil => exact fun done disturbed => absurd trivial disturbed
  | cons cut cuts ih =>
      intro done disturbed
      rw [undisturbed, not_and_or, not_not] at disturbed
      rw [interrupted]
      rcases disturbed with inside | later
      · rw [sigCleanup] at inside
        generalize reached : modulesOf done = modules at inside
        have taken : (sigCleanup done).take cut
            = (modules.flatMap (moduleDestroyOne false)).take cut := by
          rw [moduleClose, List.length_append, List.length_singleton] at inside
          rw [sigCleanup, reached, moduleClose, List.take_append_of_le_length (by omega)]
        rw [taken]
        cases modules with
        | nil =>
            rw [moduleClose, List.flatMap_nil, List.length_append, List.length_nil,
              List.length_singleton] at inside
            omega
        | cons mod others =>
            let walk := ((mod :: others).flatMap (moduleDestroyOne false)).take cut
            have same : modulesOf (done ++ walk) = mod :: others := by
              rw [modulesOf_append, reached]
              apply foldl_apply_on
              exact fun act member =>
                moduleDestroyAll_on false _ act (List.mem_of_mem_take member)
            have first : 1 ≤ walk.count (.on mod.address .destroy) :=
              List.one_le_count_iff.mpr (moduleDestroyAll_begins false mod others _ inside.1)
            have again := interrupted_destroys mod cuts (done ++ walk) (same ▸ List.mem_cons_self)
            rw [List.count_append] at again
            refine ⟨mod.address, ?_⟩
            show 2 ≤ (interrupted sigCleanup (done ++ walk) (sigCleanup (done ++ walk)) cuts).count _
            omega
      · exact ih _ later

/-! ### The whole life -/

/-- Every module that is loaded is called only between its `init` and its `destroy`, which is called
at most once, and is not touched after it is freed, exactly when no signal comes in the middle of a
`sig_cleanup`. A signal has every module destroyed that is still in the list; only one that the first
signal finds taken from it is not. A life without signals destroys and frees the modules that unload
themselves and those that fail, and leaves the rest. -/
theorem modules_lifecycle (daemon : Daemon) (signals : List Nat) :
    (daemon.Keeps (daemon.life signals) ↔ daemon.Undisturbed signals) ∧
    (daemon.Undisturbed signals → signals ≠ [] → ∀ mod, .prepend mod ∈ daemon.life signals →
      (daemon.life signals).count (.on mod.address .destroy)
        = if daemon.abandoned signals = some mod then 0 else 1) ∧
    (∀ mod, .prepend mod ∈ daemon.life [] →
      (daemon.life []).count (.on mod.address .destroy)
        = if mod ∈ modulesOf (daemon.life []) then 0 else 1) ∧
    ∀ address, (daemon.life []).count (.on address .gNew)
      = (daemon.life []).count (.on address .gFree)
        + if address ∈ (modulesOf (daemon.life [])).map ModuleData.address then 1 else 0 := by
  obtain ⟨-, names, ended, between⟩ := daemon.front_between
  have life : daemon.life [] = daemon.front := rfl
  refine ⟨⟨?_, ?_⟩, ?_, ?_, ?_⟩
  · intro keeps
    by_contra disturbed
    cases signals with
    | nil => exact disturbed trivial
    | cons cut cuts =>
        obtain ⟨address, twice⟩ := disturbed_destroys cuts (daemon.front.take cut) disturbed
        obtain ⟨stages, followed⟩ := Option.isSome_iff_exists.mp keeps
        have counted := (allows_tally daemon .destroy (by simp)).follow address _ _ _ followed
        rw [← count_touches] at counted
        have atMost : (stages address).tally .destroy ≤ 1 := by
          cases stages address <;> decide
        have none : Stage.absent.tally .destroy = 0 := rfl
        have same : daemon.life (cut :: cuts) = interrupted sigCleanup (daemon.front.take cut)
          (sigCleanup (daemon.front.take cut)) cuts := rfl
        rw [← same] at twice
        omega
  · intro quiet
    cases signals with
    | nil => exact Option.isSome_iff_exists.mpr ⟨ended, between.kept.followed⟩
    | cons cut cuts =>
        obtain ⟨-, stages, kept⟩ := daemon.life_kept cut cuts quiet
        exact Option.isSome_iff_exists.mpr ⟨stages, kept.followed⟩
  · intro quiet signaled mod loaded
    cases signals with
    | nil => exact absurd rfl signaled
    | cons cut cuts =>
        obtain ⟨empty, stages, kept⟩ := daemon.life_kept cut cuts quiet
        rw [destroys_once kept mod.address .destroy (by simp)]
        by_cases held : daemon.abandoned (cut :: cuts) = some mod
        · rw [if_pos held, (kept.held mod held).1]
          rfl
        · rw [if_neg held]
          rcases kept.linked mod loaded with listed | hand | destroyed
          · rw [empty] at listed
            cases listed
          · exact absurd hand held
          · exact destroyed
  · intro mod loaded
    rw [life] at loaded ⊢
    rw [destroys_once between.kept mod.address .destroy (by simp)]
    by_cases listed : mod ∈ modulesOf daemon.front
    · rw [if_pos listed, (between.kept.live mod listed).1]
      rfl
    · rw [if_neg listed]
      rcases between.kept.linked mod loaded with inList | hand | destroyed
      · exact absurd inList listed
      · cases hand
      · exact destroyed
  · intro address
    rw [life, destroys_once between.kept address .gNew (by simp),
      destroys_once between.kept address .gFree (by simp)]
    by_cases listed : address ∈ (modulesOf daemon.front).map ModuleData.address
    · obtain ⟨mod, member, rfl⟩ := List.mem_map.mp listed
      rw [if_pos listed, (between.kept.live mod member).1]
      rfl
    · rw [if_neg listed]
      rcases (between.rests address).resolve_left listed with stage | stage | stage <;>
        rw [stage] <;> rfl

/-- A module is loaded and the daemon gets a signal, and another one while the handler of the first
is at work: the module is destroyed twice. -/
example :
    let exported : MpdcronModule := ⟨true, true, true, true, true, true, true, true⟩
    let daemon : Daemon := ⟨[⟨true, true, some exported, 0⟩], []⟩
    (daemon.life [4, 1]).count (.on 0 .destroy) = 2 := by
  decide

end Mpdcron.Cron
