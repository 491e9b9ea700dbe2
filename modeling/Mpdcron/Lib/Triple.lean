import Mathlib.Data.List.Basic
import Mathlib.Data.List.Infix

/-! Pre- and postconditions of computations that may fail, and the induction over a
run of such steps. -/

namespace Triple

variable {ε σ τ α : Type}

/-- The computation ends in a state with `post` or fails for an `allowed` reason. -/
def Holds (allowed : ε → Prop) (post : σ → Prop) : Except ε σ → Prop
  | .ok state => post state
  | .error reason => allowed reason

variable {allowed : ε → Prop} {post : σ → Prop}

@[simp] theorem holds_ok (state : σ) :
    Holds allowed post (.ok state : Except ε σ) ↔ post state := Iff.rfl

@[simp] theorem holds_error (reason : ε) :
    Holds allowed post (.error reason : Except ε σ) ↔ allowed reason := Iff.rfl

theorem Holds.mono {next : σ → Prop} {result : Except ε σ} (first : Holds allowed post result)
    (weaker : ∀ state, post state → next state) : Holds allowed next result := by
  cases result with
  | ok state => exact weaker state first
  | error reason => exact first

theorem Holds.allow {other : ε → Prop} {result : Except ε σ} (first : Holds allowed post result)
    (more : ∀ reason, allowed reason → other reason) : Holds other post result := by
  cases result with
  | ok state => exact first
  | error reason => exact more reason first

theorem Holds.and {other : ε → Prop} {also : σ → Prop} {result : Except ε σ}
    (first : Holds allowed post result) (second : Holds other also result) :
    Holds (fun reason => allowed reason ∧ other reason) (fun state => post state ∧ also state)
      result := by
  cases result with
  | ok state => exact ⟨first, second⟩
  | error reason => exact ⟨first, second⟩

theorem Holds.map {next : τ → Prop} {result : Except ε σ} (f : σ → τ)
    (first : Holds allowed (fun state => next (f state)) result) :
    Holds allowed next (result.map f) := by
  cases result with
  | ok state => exact first
  | error reason => exact first

theorem Holds.bind {next : τ → Prop} {result : Except ε σ} {continuation : σ → Except ε τ}
    (first : Holds allowed post result)
    (rest : ∀ state, post state → Holds allowed next (continuation state)) :
    Holds allowed next (result >>= continuation) := by
  cases result with
  | ok state => exact rest state first
  | error reason => exact first

theorem Holds.bind_congr {result : Except ε σ} {continuation other : σ → Except ε τ}
    (first : Holds allowed post result)
    (same : ∀ state, post state → continuation state = other state) :
    (result >>= continuation) = (result >>= other) := by
  cases result with
  | ok state => exact same state first
  | error reason => rfl

/-- A sequence that succeeds has two parts that do. -/
theorem bind_ok {result : Except ε σ} {continuation : σ → Except ε τ} {final : τ}
    (succeeds : result >>= continuation = .ok final) :
    ∃ state, result = .ok state ∧ continuation state = .ok final := by
  cases result with
  | ok state => exact ⟨state, rfl, succeeds⟩
  | error reason => cases succeeds

/-- What every step preserves holds after every run. The invariant may speak about
the inputs consumed so far. -/
theorem Holds.foldlM {step : σ → α → Except ε σ} (invariant : List α → σ → Prop)
    (preserved : ∀ past state input, invariant past state →
      Holds allowed (invariant (past ++ [input])) (step state input))
    (inputs past : List α) (state : σ) (initial : invariant past state) :
    Holds allowed (invariant (past ++ inputs)) (inputs.foldlM step state) := by
  induction inputs generalizing past state with
  | nil => simpa [pure, Except.pure] using initial
  | cons input inputs ih =>
      rw [List.foldlM_cons]
      apply Holds.bind (preserved past state input initial)
      intro next reached
      simpa using ih (past ++ [input]) next reached

theorem Holds.foldlM_of_mem {step : σ → α → Except ε σ} (invariant : σ → Prop) (inputs : List α)
    (preserved : ∀ state, ∀ input ∈ inputs, invariant state →
      Holds allowed invariant (step state input))
    (state : σ) (initial : invariant state) :
    Holds allowed invariant (inputs.foldlM step state) := by
  induction inputs generalizing state with
  | nil => exact initial
  | cons input inputs ih =>
      rw [List.foldlM_cons]
      apply Holds.bind (preserved state input List.mem_cons_self initial)
      intro next reached
      exact ih (fun state other member => preserved state other (List.mem_cons_of_mem _ member))
        next reached

/-- An input that no state survives fails the run. -/
theorem foldlM_error {step : σ → α → Except ε σ} (inputs : List α) (bad : α) (member : bad ∈ inputs)
    (fails : ∀ state, ∃ reason, step state bad = .error reason) (state : σ) :
    ∃ reason, inputs.foldlM step state = .error reason := by
  induction inputs generalizing state with
  | nil => cases member
  | cons input inputs ih =>
      rw [List.foldlM_cons]
      cases stepped : step state input with
      | error reason => exact ⟨reason, rfl⟩
      | ok next =>
          rcases List.mem_cons.mp member with rfl | later
          · rcases fails state with ⟨reason, failed⟩
            cases stepped.symm.trans failed
          · exact ih later next

/-! ### Runs and the condition that keeps them good

`cond` tells of a state with the invariant whether an input keeps it. -/

section Run

variable {step : σ → α → Except ε σ} {start : Except ε σ} {invariant good : σ → Prop}
  {cond : σ → α → Prop}

theorem run_concat (past : List α) (input : α) :
    (start >>= fun state => (past ++ [input]).foldlM step state)
      = (start >>= fun state => past.foldlM step state) >>= fun state => step state input := by
  simp only [List.foldlM_append, List.foldlM_cons, List.foldlM_nil, bind_assoc, bind_pure]

theorem Holds.run (initial : Holds allowed invariant start)
    (kept : ∀ state input, invariant state → cond state input →
      Holds allowed invariant (step state input)) (inputs : List α)
    (met : ∀ past input state, past ++ [input] <+: inputs →
      (start >>= fun state => past.foldlM step state) = .ok state → invariant state →
        cond state input) (past : List α) :
    past <+: inputs → Holds allowed invariant (start >>= fun state => past.foldlM step state) := by
  induction past using List.reverseRecOn with
  | nil =>
      intro _
      simpa using initial
  | append_singleton past input ih =>
      intro reached
      have before := ih ((List.prefix_append past _).trans reached)
      rw [run_concat]
      cases reaches : start >>= fun state => past.foldlM step state with
      | error reason =>
          rw [reaches] at before
          exact before
      | ok state =>
          rw [reaches] at before
          exact kept state input before (met past input state reached reaches before)

/-- Every state of a run is good if and only if every input met the condition when it came. -/
theorem Holds.run_iff (weaker : ∀ state, invariant state → good state)
    (initial : Holds allowed invariant start)
    (kept : ∀ state input, invariant state → cond state input →
      Holds allowed invariant (step state input))
    (breaks : ∀ state input, invariant state → ¬cond state input →
      ¬Holds allowed good (step state input)) (inputs : List α) :
    (∀ past, past <+: inputs →
        Holds allowed good (start >>= fun state => past.foldlM step state)) ↔
      ∀ past input state, past ++ [input] <+: inputs →
        (start >>= fun state => past.foldlM step state) = .ok state → cond state input := by
  constructor
  · intro always past input state reached reaches
    have met : ∀ past input state, past ++ [input] <+: inputs →
        (start >>= fun state => past.foldlM step state) = .ok state → invariant state →
          cond state input := by
      intro past input state reached reaches before
      by_contra fails
      have after := always _ reached
      rw [run_concat, reaches] at after
      exact breaks state input before fails after
    have before := Holds.run initial kept inputs met past
      ((List.prefix_append past _).trans reached)
    rw [reaches] at before
    exact met past input state reached reaches before
  · intro met past reached
    exact (Holds.run initial kept inputs
      (fun past input state reached reaches _ => met past input state reached reaches)
      past reached).mono weaker

end Run

theorem mapM_ok_iff (f : σ → Except ε τ) (inputs : List σ) :
    (∃ results, inputs.mapM f = .ok results) ↔ ∀ input ∈ inputs, ∃ result, f input = .ok result := by
  induction inputs with
  | nil => simp [pure, Except.pure]
  | cons input inputs ih =>
      rw [List.mapM_cons, List.forall_mem_cons, ← ih]
      cases f input with
      | error reason => simp [bind, Except.bind]
      | ok result =>
          cases inputs.mapM f with
          | error reason => simp [bind, Except.bind]
          | ok results => simp [bind, Except.bind, pure, Except.pure]

end Triple
