import Mathlib.Order.Filter.AtTopBot.Basic
import Mathlib.Order.Filter.AtTopBot.Tendsto
import Mpdcron.Lib.Triple

/-! Runs that never end: what happens in them again and again, and the run of blocks of inputs
as the run of their inputs. -/

namespace Triple

open Filter

variable {ε σ α : Type} {step : σ → α → Except ε σ}

structure EndlessRun (step : σ → α → Except ε σ) where
  state : Nat → σ
  input : Nat → α
  steps : ∀ n, step (state n) (input n) = .ok (state (n + 1))

/-! ### What happens again and again -/

/-- Who waits until something happens still waits when it first happens. -/
theorem exists_waiting {waiting acts : Nat → Prop} {first last : Nat} (later : first ≤ last)
    (starts : waiting first) (acted : acts last)
    (keeps : ∀ n, first ≤ n → waiting n → ¬acts n → waiting (n + 1)) :
    ∃ n, first ≤ n ∧ waiting n ∧ acts n := by
  induction gap : last - first generalizing first with
  | zero =>
      have same : first = last := by omega
      exact ⟨first, Nat.le_refl _, starts, same ▸ acted⟩
  | succ gap ih =>
      by_cases now : acts first
      · exact ⟨first, Nat.le_refl _, starts, now⟩
      · have waits := keeps first (Nat.le_refl _) starts now
        rcases ih (by omega) waits (fun n behind => keeps n (by omega)) (by omega) with
          ⟨n, behind, found⟩
        exact ⟨n, by omega, found⟩

/-- An action that comes to everyone who waits for it is taken again and again if there is
waiting again and again. -/
theorem frequently_acts {waiting acts : Nat → Prop} (again : ∃ᶠ n in atTop, waiting n)
    (keeps : ∀ᶠ n in atTop, waiting n → ¬acts n → waiting (n + 1))
    (fair : ∀ᶠ n in atTop, waiting n → ∃ m, n ≤ m ∧ acts m) :
    ∃ᶠ n in atTop, waiting n ∧ acts n := by
  rcases eventually_atTop.mp (keeps.and fair) with ⟨bound, settled⟩
  apply frequently_atTop.mpr
  intro start
  rcases frequently_atTop.mp again (max start bound) with ⟨first, behind, starts⟩
  have late : bound ≤ first := le_trans (le_max_right _ _) behind
  rcases (settled first late).2 starts with ⟨last, later, acted⟩
  rcases exists_waiting later starts acted
    (fun n after => (settled n (le_trans late after)).1) with ⟨n, after, found⟩
  exact ⟨n, le_trans (le_trans (le_max_left _ _) behind) after, found⟩

theorem frequently_succ {p q : Nat → Prop} (again : ∃ᶠ n in atTop, p n)
    (effect : ∀ᶠ n in atTop, p n → q (n + 1)) : ∃ᶠ n in atTop, q n :=
  (tendsto_add_atTop_nat 1).frequently (again.mp effect)

/-- A count that never goes back and goes on again and again has no bound. -/
theorem exists_lt_of_frequently (count : Nat → Nat) (forward : ∀ n, count n ≤ count (n + 1))
    (again : ∃ᶠ n in atTop, count n < count (n + 1)) (bound : Nat) : ∃ n, bound < count n := by
  have mono : Monotone count := monotone_nat_of_le_succ forward
  induction bound with
  | zero =>
      rcases again.exists with ⟨n, grows⟩
      exact ⟨n + 1, by omega⟩
  | succ bound ih =>
      rcases ih with ⟨start, reached⟩
      rcases frequently_atTop.mp again start with ⟨n, behind, grows⟩
      have kept := mono behind
      exact ⟨n + 1, by omega⟩

namespace EndlessRun

/-- The run that rests at the end of its inputs. -/
def settling (inputs : List α) (idle : α) (start last : σ)
    (reaches : inputs.foldlM step start = .ok last) (rests : step last idle = .ok last) :
    EndlessRun step where
  state n := ((inputs.take n).foldlM step start).toOption.getD last
  input n := inputs[n]?.getD idle
  steps n := by
    cases found : inputs[n]? with
    | none =>
        have behind : inputs.length ≤ n := List.getElem?_eq_none_iff.mp found
        rw [List.take_of_length_le behind, List.take_of_length_le (by omega), reaches]
        exact rests
    | some input =>
        have within := (List.getElem?_eq_some_iff.mp found).1
        have split : inputs.take (n + 1) = inputs.take n ++ [input] := by
          rw [List.take_add_one, found]
          rfl
        have whole := reaches
        rw [← List.take_append_drop (n + 1) inputs, split, List.foldlM_append,
          List.foldlM_append] at whole
        rcases bind_ok whole with ⟨after, reached, -⟩
        rw [split, List.foldlM_append, reached]
        rcases bind_ok reached with ⟨before, started, stepped⟩
        rw [List.foldlM_cons] at stepped
        rcases bind_ok stepped with ⟨state, stepped, same⟩
        cases same
        rw [started]
        exact stepped

theorem settling_rest {inputs : List α} {idle : α} {start last : σ}
    (reaches : inputs.foldlM step start = .ok last) (rests : step last idle = .ok last) {n : Nat}
    (behind : inputs.length ≤ n) :
    (settling inputs idle start last reaches rests).state n = last ∧
      (settling inputs idle start last reaches rests).input n = idle := by
  constructor
  · change ((inputs.take n).foldlM step start).toOption.getD last = last
    rw [List.take_of_length_le behind, reaches]
    rfl
  · change inputs[n]?.getD idle = idle
    rw [List.getElem?_eq_none behind]
    rfl

/-! ### Blocks of inputs -/

/-- The run of the blocks goes on while that of a block's inputs does. -/
abbrev OfBlocks (step : σ → α → Except ε σ) :=
  EndlessRun fun (state : σ) (block : List α) => block.foldlM step state

variable (run : OfBlocks step)

/-- The block of the next input and the input's place there. -/
def position : Nat → Nat × Nat
  | 0 => (0, 0)
  | count + 1 =>
      let (block, place) := position count
      if place + 1 < (run.input block).length then (block, place + 1) else (block + 1, 0)

theorem position_forward (count : Nat) :
    (run.position count).1 ≤ (run.position (count + 1)).1 := by
  rw [position]
  dsimp only
  split_ifs <;> omega

theorem position_monotone : Monotone fun count => (run.position count).1 :=
  monotone_nat_of_le_succ run.position_forward

theorem position_within {block place : Nat} (within : place < (run.input block).length)
    (first : ∃ count, run.position count = (block, 0)) :
    ∃ count, run.position count = (block, place) := by
  induction place with
  | zero => exact first
  | succ place ih =>
      rcases ih (by omega) with ⟨count, before⟩
      refine ⟨count + 1, ?_⟩
      rw [position, before]
      exact if_pos within

variable (filled : ∀ n, run.input n ≠ [])

include filled in
theorem position_first (block : Nat) : ∃ count, run.position count = (block, 0) := by
  induction block with
  | zero => exact ⟨0, rfl⟩
  | succ block ih =>
      have positive : 0 < (run.input block).length := List.length_pos_iff.mpr (filled block)
      have within : (run.input block).length - 1 < (run.input block).length := by omega
      rcases run.position_within within ih with ⟨count, last⟩
      refine ⟨count + 1, ?_⟩
      rw [position, last]
      exact if_neg (by omega)

include filled in
theorem position_reaches {block place : Nat} (within : place < (run.input block).length) :
    ∃ count, run.position count = (block, place) :=
  run.position_within within (run.position_first filled block)

include filled in
theorem position_tendsto : Tendsto (fun count => (run.position count).1) atTop atTop := by
  apply tendsto_atTop_atTop_of_monotone run.position_monotone
  intro block
  rcases run.position_first filled block with ⟨count, reached⟩
  exact ⟨count, by rw [reached]⟩

include filled in
theorem position_bound (count : Nat) :
    (run.position count).2 < (run.input (run.position count).1).length := by
  induction count with
  | zero => exact List.length_pos_iff.mpr (filled 0)
  | succ count ih =>
      rw [position]
      dsimp only
      split_ifs with more
      · exact more
      · exact List.length_pos_iff.mpr (filled _)

theorem steps_take (block place : Nat) : ∃ state,
    ((run.input block).take place).foldlM step (run.state block) = .ok state := by
  have whole := run.steps block
  rw [← List.take_append_drop place (run.input block), List.foldlM_append] at whole
  rcases bind_ok whole with ⟨state, reached, -⟩
  exact ⟨state, reached⟩

/-- The state before the input at a place of a block. -/
noncomputable def stateAt (block place : Nat) : σ := (run.steps_take block place).choose

theorem stateAt_spec (block place : Nat) :
    ((run.input block).take place).foldlM step (run.state block)
      = .ok (run.stateAt block place) :=
  (run.steps_take block place).choose_spec

@[simp] theorem stateAt_zero (block : Nat) : run.stateAt block 0 = run.state block := by
  have reached := run.stateAt_spec block 0
  simpa [pure, Except.pure] using reached.symm

theorem stateAt_length (block : Nat) :
    run.stateAt block (run.input block).length = run.state (block + 1) := by
  have reached := run.stateAt_spec block (run.input block).length
  rw [List.take_length] at reached
  exact Except.ok.inj (reached.symm.trans (run.steps block))

theorem step_stateAt (block place : Nat) (within : place < (run.input block).length) :
    step (run.stateAt block place) (run.input block)[place]
      = .ok (run.stateAt block (place + 1)) := by
  have reached := run.stateAt_spec block (place + 1)
  rw [List.take_succ_eq_append_getElem within, List.foldlM_append, run.stateAt_spec] at reached
  rcases bind_ok reached with ⟨state, started, ended⟩
  cases started
  rw [List.foldlM_cons] at ended
  rcases bind_ok ended with ⟨state, stepped, same⟩
  cases same
  exact stepped

/-- The run of the inputs of the blocks. -/
noncomputable def inputs : EndlessRun step where
  state count := run.stateAt (run.position count).1 (run.position count).2
  input count := (run.input (run.position count).1).get ⟨_, run.position_bound filled count⟩
  steps count := by
    have stepped := run.step_stateAt _ _ (run.position_bound filled count)
    rw [List.get_eq_getElem, stepped, position]
    dsimp only
    split_ifs with more
    · rfl
    · have bound := run.position_bound filled count
      have last : (run.position count).2 + 1 = (run.input (run.position count).1).length := by
        omega
      rw [last, stateAt_length, stateAt_zero]

theorem inputs_at {count block place : Nat} (reached : run.position count = (block, place)) :
    (run.inputs filled).state count = run.stateAt block place ∧
      (run.input block)[place]? = some ((run.inputs filled).input count) := by
  have bound := run.position_bound filled count
  have same : (run.inputs filled).input count = (run.input (run.position count).1).get ⟨_, bound⟩ :=
    rfl
  constructor
  · change run.stateAt (run.position count).1 (run.position count).2 = _
    rw [reached]
  · rw [same]
    simp only [reached, List.get_eq_getElem] at bound ⊢
    exact List.getElem?_eq_getElem bound

/-- Of two inputs the one in the later block comes later. -/
theorem lt_of_block {first last : Nat}
    (later : (run.position first).1 < (run.position last).1) : first < last := by
  by_contra behind
  exact absurd (run.position_monotone (not_lt.mp behind)) (not_le.mpr later)

include filled in
/-- What blocks again and again have an input for happens again and again. -/
theorem frequently_of_blocks {happens p : Nat → Prop} (often : ∃ᶠ block in atTop, happens block)
    (input : ∀ block, happens block → ∃ place, place < (run.input block).length ∧
      ∀ count, run.position count = (block, place) → p count) :
    ∃ᶠ count in atTop, p count := by
  apply frequently_atTop.mpr
  intro start
  rcases frequently_atTop.mp often ((run.position start).1 + 1) with ⟨block, behind, happened⟩
  rcases input block happened with ⟨place, within, reached⟩
  rcases run.position_reaches filled within with ⟨count, found⟩
  refine ⟨count, ?_, reached count found⟩
  apply le_of_lt
  apply run.lt_of_block
  rw [found]
  exact behind

end EndlessRun

end Triple
