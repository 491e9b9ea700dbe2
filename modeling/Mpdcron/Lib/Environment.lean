import Mathlib.Logic.Function.Basic
import Mathlib.Data.List.Basic

/-! A process environment, and series of assignments to it. -/

abbrev Environment (ν β : Type) := ν → Option β

namespace Environment

variable {ν β : Type} [DecidableEq ν]

def empty : Environment ν β := fun _ => none

def setenv (name : ν) (value : β) (env : Environment ν β) : Environment ν β :=
  Function.update env name (some value)

def unsetenv (name : ν) (env : Environment ν β) : Environment ν β := Function.update env name none

def setAll (assignments : List (ν × β)) (env : Environment ν β) : Environment ν β :=
  assignments.foldl (fun env assignment => env.setenv assignment.1 assignment.2) env

def unsetAll (names : List ν) (env : Environment ν β) : Environment ν β :=
  names.foldl (fun env name => env.unsetenv name) env

@[simp] theorem setAll_cons (first : ν × β) (rest : List (ν × β)) (env : Environment ν β) :
    env.setAll (first :: rest) = (env.setenv first.1 first.2).setAll rest := rfl

theorem setAll_append (first second : List (ν × β)) (env : Environment ν β) :
    env.setAll (first ++ second) = (env.setAll first).setAll second := List.foldl_append

theorem setenv_of_ne (name other : ν) (value : β) (env : Environment ν β)
    (different : other ≠ name) : env.setenv name value other = env other :=
  Function.update_of_ne different _ _

theorem setAll_of_notMem (assignments : List (ν × β)) (env : Environment ν β) (name : ν)
    (absent : name ∉ assignments.map Prod.fst) : env.setAll assignments name = env name := by
  induction assignments generalizing env with
  | nil => rfl
  | cons first rest ih =>
      rw [List.map_cons, List.mem_cons, not_or] at absent
      rw [setAll_cons, ih _ absent.2]
      exact setenv_of_ne _ _ _ _ absent.1

/-- What an assigned variable holds does not depend on what was there before. -/
theorem setAll_of_mem (assignments : List (ν × β)) (env other : Environment ν β) (name : ν)
    (present : name ∈ assignments.map Prod.fst) :
    env.setAll assignments name = other.setAll assignments name ∧
      env.setAll assignments name ≠ none := by
  induction assignments generalizing env other with
  | nil => cases present
  | cons first rest ih =>
      rw [setAll_cons, setAll_cons]
      by_cases later : name ∈ rest.map Prod.fst
      · exact ih _ _ later
      · rw [List.map_cons, List.mem_cons] at present
        have same := present.resolve_right later
        rw [setAll_of_notMem rest _ name later, setAll_of_notMem rest _ name later, same]
        simp [setenv]

theorem unsetAll_apply (names : List ν) (env : Environment ν β) (name : ν) :
    env.unsetAll names name = if name ∈ names then none else env name := by
  induction names generalizing env with
  | nil => rfl
  | cons first rest ih =>
      rw [unsetAll, List.foldl_cons, ← unsetAll, ih, unsetenv]
      by_cases same : name = first
      · simp [same]
      · simp [same]

/-- After a series of assignments a variable holds what the series alone would give it unless
the series leaves alone one that was set. -/
theorem setAll_eq_iff (assignments : List (ν × β)) (env : Environment ν β) (name : ν) :
    env.setAll assignments name = (empty : Environment ν β).setAll assignments name ↔
      (env name ≠ none → name ∈ assignments.map Prod.fst) := by
  by_cases present : name ∈ assignments.map Prod.fst
  · exact iff_of_true (setAll_of_mem assignments env empty name present).1 fun _ => present
  · rw [setAll_of_notMem assignments env name present,
      setAll_of_notMem assignments empty name present]
    constructor
    · intro unset set
      exact absurd unset set
    · intro leaves
      by_contra set
      exact present (leaves set)

theorem setAll_ne_none_iff (assignments : List (ν × β)) (env : Environment ν β) (name : ν) :
    env.setAll assignments name ≠ none ↔ name ∈ assignments.map Prod.fst ∨ env name ≠ none := by
  by_cases present : name ∈ assignments.map Prod.fst
  · exact iff_of_true (setAll_of_mem assignments env empty name present).2 (Or.inl present)
  · rw [setAll_of_notMem assignments env name present]
    simp [present]

end Environment
