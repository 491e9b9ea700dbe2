import Mathlib.Data.List.Infix

/-! Sequences of blocks that can be cut apart again: each block ends at its only last item. -/

namespace Blocks

variable {α : Type}

/-- No block starts another one. -/
def PrefixFree (block : List α → Prop) : Prop :=
  ∀ first second, block first → block second → first <+: second → first = second

/-- Any number of `inner` items and then a `last` one. -/
def Block (inner last : α → Prop) (items : List α) : Prop :=
  ∃ front final, items = front ++ [final] ∧ (∀ item ∈ front, inner item) ∧ last final

variable {inner last : α → Prop}

theorem Block.ne_nil (items : List α) (block : Block inner last items) : items ≠ [] := by
  rcases block with ⟨front, final, rfl, -, -⟩
  simp

theorem Block.singleton (final : α) (ends : last final) : Block inner last [final] :=
  ⟨[], final, rfl, by simp, ends⟩

theorem Block.cons (item : α) (items : List α) (goesOn : inner item)
    (block : Block inner last items) : Block inner last (item :: items) := by
  rcases block with ⟨front, final, rfl, all, ends⟩
  exact ⟨item :: front, final, rfl, List.forall_mem_cons.mpr ⟨goesOn, all⟩, ends⟩

theorem block_cons_iff (item : α) (items : List α) :
    Block inner last (item :: items)
      ↔ (last item ∧ items = []) ∨ (inner item ∧ Block inner last items) := by
  constructor
  · rintro ⟨front, final, split, all, ends⟩
    cases front with
    | nil =>
        cases split
        exact Or.inl ⟨ends, rfl⟩
    | cons head front =>
        cases split
        rw [List.forall_mem_cons] at all
        exact Or.inr ⟨all.1, front, final, rfl, all.2, ends⟩
  · rintro (⟨ends, rfl⟩ | ⟨goesOn, block⟩)
    · exact Block.singleton item ends
    · exact block.cons item items goesOn

theorem block_prefixFree (apart : ∀ item, inner item → ¬ last item) :
    PrefixFree (Block inner last) := by
  intro first
  induction first with
  | nil =>
      intro second starts
      exact absurd rfl (starts.ne_nil [])
  | cons item first ih =>
      intro second starts later within
      cases second with
      | nil => exact absurd rfl (later.ne_nil [])
      | cons item' second =>
          rcases List.cons_prefix_cons.mp within with ⟨rfl, shorter⟩
          rw [block_cons_iff] at starts later
          rcases starts with ⟨ends, rfl⟩ | ⟨goesOn, starts⟩
          · rcases later with ⟨-, rfl⟩ | ⟨goesOn, -⟩
            · rfl
            · exact absurd ends (apart item goesOn)
          · rcases later with ⟨ends, -⟩ | ⟨-, later⟩
            · exact absurd ends (apart item goesOn)
            · rw [ih second starts later shorter]

/-- A sequence of blocks splits in one way only. -/
theorem PrefixFree.flatten_injective (block : List α → Prop) (free : PrefixFree block)
    (nonempty : ∀ items, block items → items ≠ []) (first : List (List α)) :
    ∀ second : List (List α), (∀ items ∈ first, block items) → (∀ items ∈ second, block items) →
      first.flatten = second.flatten → first = second := by
  induction first with
  | nil =>
      intro second _ blocks same
      cases second with
      | nil => rfl
      | cons items second =>
          have none : items = [] := (List.append_eq_nil_iff.mp same.symm).1
          exact absurd none (nonempty items (blocks items List.mem_cons_self))
  | cons items first ih =>
      intro second firstBlocks secondBlocks same
      rw [List.forall_mem_cons] at firstBlocks
      cases second with
      | nil => exact absurd (List.append_eq_nil_iff.mp same).1 (nonempty items firstBlocks.1)
      | cons items' second =>
          rw [List.forall_mem_cons] at secondBlocks
          have heads : items = items' := by
            have left : items <+: (items' :: second).flatten :=
              same ▸ List.prefix_append items first.flatten
            have right : items' <+: (items' :: second).flatten :=
              List.prefix_append items' second.flatten
            rcases List.prefix_or_prefix_of_prefix left right with shorter | longer
            · exact free items items' firstBlocks.1 secondBlocks.1 shorter
            · exact (free items' items secondBlocks.1 firstBlocks.1 longer).symm
          subst heads
          rw [ih second firstBlocks.2 secondBlocks.2 (List.append_cancel_left same)]

end Blocks
