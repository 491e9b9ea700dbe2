import Mathlib.Data.List.Induction

/-! What has come up in a sequence and has held since. -/

/-- An element of the list `sets` something, and every later one `keeps` it. -/
def Since {α : Type} (sets keeps : α → Prop) (inputs : List α) : Prop :=
  ∃ before input after, inputs = before ++ input :: after ∧ sets input ∧
    ∀ later ∈ after, keeps later

namespace Since

variable {α : Type} {sets keeps : α → Prop}

@[simp] theorem nil : ¬ Since sets keeps [] := by
  intro since
  obtain ⟨before, input, after, split, -⟩ := since
  simp at split

theorem concat (past : List α) (input : α) :
    Since sets keeps (past ++ [input]) ↔ sets input ∨ Since sets keeps past ∧ keeps input := by
  constructor
  · intro since
    obtain ⟨before, setter, after, split, sets, kept⟩ := since
    rcases List.eq_nil_or_concat after with last | ⟨init, final, last⟩
    · rw [last] at split
      obtain ⟨-, same⟩ := List.append_inj' split rfl
      exact Or.inl (List.singleton_inj.mp same ▸ sets)
    · rw [List.concat_eq_append] at last
      have regroup : past ++ [input] = (before ++ setter :: init) ++ [final] := by
        rw [split, last, List.append_assoc, List.cons_append]
      obtain ⟨earlier, same⟩ := List.append_inj' regroup rfl
      refine Or.inr ⟨⟨before, setter, init, earlier, sets, fun later inInit => kept later ?_⟩, ?_⟩
      · rw [last]
        exact List.mem_append_left _ inInit
      · rw [List.singleton_inj.mp same]
        exact kept final (by simp [last])
  · intro either
    rcases either with sets | ⟨⟨before, setter, after, split, sets, kept⟩, keeps⟩
    · exact ⟨past, input, [], rfl, sets, by simp⟩
    · refine ⟨before, setter, after ++ [input], by simp [split], sets, fun later inList => ?_⟩
      rcases List.mem_append.mp inList with earlier | last
      · exact kept later earlier
      · rw [List.mem_singleton.mp last]
        exact keeps

end Since
