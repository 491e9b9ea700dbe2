import Mathlib.Data.List.Basic

/-! Lists of words in one text: a separator in front and one behind each word. -/

namespace Delimited

variable {α : Type} [DecidableEq α]

/-- What can stand between two separators and be found again. -/
def IsWord (separator : α) (word : List α) : Prop := word ≠ [] ∧ separator ∉ word

def render (separator : α) (words : List (List α)) : List α :=
  separator :: words.flatMap fun word => word ++ [separator]

/-- The pieces of a text that are not empty. -/
def words (separator : α) (text : List α) : List (List α) :=
  (text.splitOn separator).filter fun piece => decide (piece ≠ [])

variable (separator : α)

/-- What stands in front of the first separator. -/
theorem takeWhile_front (front rest : List α) (absent : separator ∉ front) :
    (front ++ separator :: rest).takeWhile (· ≠ separator) = front := by
  have taken : ∀ item ∈ front, decide (item ≠ separator) = true := fun item member =>
    decide_eq_true fun same => absent (same ▸ member)
  rw [List.takeWhile_append_of_pos taken, List.takeWhile_cons_of_neg (by simp), List.append_nil]

theorem dropWhile_front (front rest : List α) (absent : separator ∉ front) :
    (front ++ separator :: rest).dropWhile (· ≠ separator) = separator :: rest := by
  have skipped : ∀ item ∈ front, decide (item ≠ separator) = true := fun item member =>
    decide_eq_true fun same => absent (same ▸ member)
  rw [List.dropWhile_append_of_pos skipped, List.dropWhile_cons_of_neg (by simp)]

/-- A separator is in no word, and no word goes beyond it. -/
theorem words_append (first second : List α) :
    words separator (first ++ separator :: second)
      = words separator first ++ words separator second := by
  rw [words, List.splitOn_append_cons_self, List.filter_append]
  rfl

@[simp] theorem words_nil : words separator [] = [] := by
  simp [words, List.splitOn_nil]

theorem words_word (word : List α) (isWord : IsWord separator word) :
    words separator word = [word] := by
  rw [words, List.splitOn_eq_singleton isWord.2, List.filter_cons_of_pos (by simp [isWord.1]),
    List.filter_nil]

theorem words_blocks (list : List (List α)) (valid : ∀ word ∈ list, IsWord separator word) :
    words separator (list.flatMap fun word => word ++ [separator]) = list := by
  induction list with
  | nil => exact words_nil separator
  | cons word list ih =>
      have later := ih fun next member => valid next (List.mem_cons_of_mem _ member)
      calc
        _ = words separator (word ++ separator :: list.flatMap fun word => word ++ [separator]) := by
          rw [List.flatMap_cons, List.append_assoc, List.singleton_append]
        _ = [word] ++ list := by
          rw [words_append, words_word separator word (valid word List.mem_cons_self), later]

theorem words_render (list : List (List α)) (valid : ∀ word ∈ list, IsWord separator word) :
    words separator (render separator list) = list := by
  have front := words_append separator [] (list.flatMap fun word => word ++ [separator])
  rw [words_nil, List.nil_append, List.nil_append, words_blocks separator list valid] at front
  exact front

omit [DecidableEq α] in
theorem render_concat (list : List (List α)) (word : List α) :
    render separator (list ++ [word]) = render separator list ++ (word ++ [separator]) := by
  rw [render, render, List.flatMap_append, List.flatMap_singleton, List.cons_append]

end Delimited
