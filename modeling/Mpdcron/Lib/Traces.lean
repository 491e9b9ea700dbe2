import Mathlib.Data.List.Basic
import Mathlib.Data.List.Count
import Mathlib.Logic.Function.Basic

/-! Traces of a program that works on objects: the stages that the actions take each object
through, and what a trace becomes when signal handlers interrupt it. -/

namespace Mpdcron.Traces

section Stages

variable {ι σ α : Type} [DecidableEq ι] (next : ι → σ → α → Option σ)

/-- The action on one object, where the stage that this one is in allows it. -/
def advance (stages : ι → σ) (touch : ι × α) : Option (ι → σ) :=
  (next touch.1 (stages touch.1) touch.2).map (Function.update stages touch.1)

/-- The stages after the actions; none if one of them was not allowed. -/
def follow (stages : ι → σ) (touches : List (ι × α)) : Option (ι → σ) :=
  touches.foldlM (advance next) stages

theorem follow_append (stages : ι → σ) (first second : List (ι × α)) :
    follow next stages (first ++ second)
      = (follow next stages first).bind fun middle => follow next middle second := by
  rw [follow, List.foldlM_append]
  rfl

theorem follow_single (stages : ι → σ) (touch : ι × α) :
    follow next stages [touch] = advance next stages touch := by
  rw [follow, List.foldlM_cons]
  cases advance next stages touch <;> rfl

/-- An action of the kind raises the weight of the stage by one, another leaves it. -/
def Weighs (weight : σ → Nat) (kind : α → Bool) : Prop :=
  ∀ object stage action after, next object stage action = some after →
    weight after = weight stage + if kind action then 1 else 0

variable {next} {weight : σ → Nat} {kind : α → Bool}

/-- The weight of an object's stage counts the actions of the kind on it. -/
theorem Weighs.follow (weighs : Weighs next weight kind) (object : ι) :
    ∀ (touches : List (ι × α)) (stages after : ι → σ),
      Traces.follow next stages touches = some after →
        weight (after object)
          = weight (stages object)
            + touches.countP fun touch => touch.1 = object ∧ kind touch.2 := by
  intro touches
  induction touches with
  | nil =>
      intro stages after followed
      cases followed
      rfl
  | cons touch touches ih =>
      intro stages after followed
      rw [← List.singleton_append, follow_append, follow_single] at followed
      obtain ⟨middle, advanced, rest⟩ := Option.bind_eq_some_iff.mp followed
      obtain ⟨stage, allowed, rfl⟩ := Option.map_eq_some_iff.mp advanced
      have step := weighs _ _ _ _ allowed
      rw [ih _ _ rest, List.countP_cons]
      by_cases mine : touch.1 = object
      · subst mine
        rw [Function.update_self, step]
        simp only [true_and, Bool.decide_eq_true]
        omega
      · rw [Function.update_of_ne (Ne.symm mine)]
        simp [mine]

end Stages

section Interrupts

variable {α : Type}

/-- The trace of a program with `rest` ahead of it, and behind it what it has done, that signals
interrupt: each number tells how much of what is ahead gets done before the next signal, whose
handler then runs in its place. -/
def interrupted (handler : List α → List α) (done rest : List α) : List Nat → List α
  | [] => done ++ rest
  | cut :: cuts =>
      interrupted handler (done ++ rest.take cut) (handler (done ++ rest.take cut)) cuts

variable (handler : List α → List α)

theorem interrupted_append (cuts : List Nat) : ∀ done rest : List α,
    ∃ later, interrupted handler done rest cuts = done ++ later := by
  induction cuts with
  | nil => exact fun done rest => ⟨rest, rfl⟩
  | cons cut cuts ih =>
      intro done rest
      obtain ⟨later, same⟩ := ih (done ++ rest.take cut) (handler (done ++ rest.take cut))
      exact ⟨rest.take cut ++ later, by rw [interrupted, same, List.append_assoc]⟩

/-- What holds of the trace wherever a signal may come. -/
def Throughout (holds : List α → Prop) (done rest : List α) : Prop :=
  ∀ cut, holds (done ++ rest.take cut)

variable {holds : List α → Prop}

theorem Throughout.nil {done : List α} (now : holds done) : Throughout holds done [] := by
  intro cut
  rwa [List.take_nil, List.append_nil]

theorem Throughout.cons {done rest : List α} {action : α} (now : holds done)
    (later : Throughout holds (done ++ [action]) rest) :
    Throughout holds done (action :: rest) := by
  intro cut
  cases cut with
  | zero => rwa [List.take_zero, List.append_nil]
  | succ cut => simpa using later cut

theorem Throughout.append {done first second : List α} (before : Throughout holds done first)
    (after : Throughout holds (done ++ first) second) :
    Throughout holds done (first ++ second) := by
  intro cut
  rw [List.take_append]
  by_cases within : cut ≤ first.length
  · rw [Nat.sub_eq_zero_of_le within, List.take_zero, List.append_nil]
    exact before cut
  · rw [List.take_of_length_le (by omega), ← List.append_assoc]
    exact after _

theorem Throughout.now {done rest : List α} (throughout : Throughout holds done rest) :
    holds done := by
  have start := throughout 0
  rwa [List.take_zero, List.append_nil] at start

theorem Throughout.done {done rest : List α} (throughout : Throughout holds done rest) :
    holds (done ++ rest) := by
  have whole := throughout rest.length
  rwa [List.take_length] at whole

end Interrupts

end Mpdcron.Traces
